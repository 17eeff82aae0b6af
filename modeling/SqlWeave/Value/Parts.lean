import SqlWeave.Value.Description

/-!
# Parts of values

What a value consists of, by name and one after the other. Objects and outcomes have
named parts, and every value has operations and a type (`Value.attribute?`); lists, tuples,
texts, byte strings, mappings and outcomes give items (`Value.items?`), an outcome its fields
with their names.
-/

namespace SqlWeave

/-- Named parts as pairs. -/
def Value.pairs (fields : List (String × Value)) : List Value :=
  fields.map fun (name, v) => .tuple [.text name, v]

/-- The fields that all statistics have, with their names. -/
def Statistics.ownFields (s : Statistics Value) : List (String × Value) :=
  [("duration", .primitive (.float s.duration)), ("changes", .int s.changes),
    ("last_row_id", .primitive (.ofOption s.lastRowId)),
    ("changed_db", .primitive (.bool s.changedDb)),
    ("rows_read", .primitive (.ofOption s.rowsRead)),
    ("rows_written", .primitive (.ofOption s.rowsWritten))]

/-- The fields that all outcomes without rows have, with their names. -/
def RunOutcome.ownFields (o : RunOutcome Value) : List (String × Value) :=
  [("success", .primitive (.bool o.success)), ("meta", .statistics o.statistics)]

/-- The fields that all outcomes with rows have, with their names. -/
def QueryOutcome.ownFields (o : QueryOutcome Value) : List (String × Value) :=
  [("success", .primitive (.bool o.success)), ("meta", .statistics o.statistics),
    ("results", .ofList o.rows)]

/-- An executor as a value. -/
def Origin.toValue (o : Origin) : Value :=
  .handle (some o.number) o.typeName <| o.parts.zipIdx.map fun ((name, typeName), place) =>
    (name, .handle (some (o.number + 1 + place)) typeName [])

namespace Value

/-- The executor of something, if it has one. -/
def executor (origin : Option Origin) : Value := origin.elim null Origin.toValue

/-- The part of a name. -/
def named? (name : String) (fields : List (String × Value)) : Option Value :=
  (fields.find? (·.1 = name)).map (·.2)

/-- The attributes of an integer. -/
def integerAttributes (n : Int) : List (String × Value) :=
  [("real", int n), ("imag", int 0), ("numerator", int n), ("denominator", int 1)]

/-- The attributes of a binary64 number. -/
def floatAttributes (x : Binary64) : List (String × Value) :=
  [("real", primitive (.float x)), ("imag", primitive (.float .zero))]

/-- The parts of a value that have names of their own. Objects and outcomes have their
fields, fragments their segments and values, join lists their values, statements their query
and parameters, and numbers what they have as complex numbers and as fractions. Fragments
and statements know their executors. The parameters are a list of the statement's own,
under its number. -/
def parts : Value → List (String × Value)
  | primitive (.float x) => floatAttributes x
  | primitive p => p.integer?.elim [] integerAttributes
  | record fields => fields
  | handle _ _ parts => parts
  | fragment f =>
    [("segments", tuple (f.segments.map text)), ("values", tuple f.values),
      ("executor", executor f.origin)]
  | join members => [("values", tuple members)]
  | statement n s =>
    [("query", text s.query), ("values", list (some n) s.values)] ++
      s.mapper.toList.map (fun name => ("mapper", Operations.toValue "function" name)) ++
      [("executor", executor s.executor)]
  | statistics s => s.ownFields
  | run o => o.ownFields
  | query _ o => o.ownFields
  | _ => []

/-- The fields that an outcome has beside those of its kind. -/
def furtherFields : Value → List (String × Value)
  | statistics s => s.extra
  | run o => o.extra
  | query _ o => o.extra
  | _ => []

/-- Named values as a mapping. -/
def named (fields : List (String × Value)) : Value :=
  dict (fields.map fun (name, v) => (text name, v))

/-- Whether a value is an outcome or the statistics of one. -/
def isOutcome : Value → Bool
  | statistics _ => true
  | run _ => true
  | query .. => true
  | _ => false

/-- The fields of an outcome with their names. -/
def outcomeFields? (v : Value) : Option (List (String × Value)) :=
  if v.isOutcome then some (v.parts ++ v.furtherFields) else none

/-- What an outcome tells about its fields. -/
def fieldViews (v : Value) : List (String × Value) :=
  if v.isOutcome then
    [("model_computed_fields", named []), ("model_config", named [("extra", text "allow")]),
      ("model_extra", named v.furtherFields),
      ("model_fields", named (v.parts.map fun (name, _) => (name, handle none "FieldInfo" []))),
      ("model_fields_set", handle none "set" [])]
  else []

/-- Whether a value keeps its parts as a mapping. -/
def keepsParts : Value → Bool
  | primitive _ => false
  | list .. => false
  | tuple _ => false
  | dict _ => false
  | handle _ _ parts => parts.isEmpty
  | _ => true

/-- What a value tells about itself: its type, and its parts as a mapping. -/
def reflection? (name : String) (v : Value) : Option Value :=
  if name = "__class__" then some v.type
  else if name = "__dict__" && v.keepsParts then some (named v.parts)
  else none

/-- The attribute of a value: what it tells about itself, one of its parts, one of its
operations, what it has from its type, or a further field of an outcome. -/
def attribute? (name : String) (v : Value) : Option Value :=
  v.reflection? name <|> named? name v.parts <|> named? name v.fieldViews <|>
    v.operation? name <|> v.typeAttribute? name <|> named? name v.furtherFields

/-- A part is an attribute, unless its name is one of those under which values tell about
themselves. -/
theorem attribute?_of_parts {name : String} {v w : Value} (hc : name ≠ "__class__")
    (hd : name ≠ "__dict__") (h : named? name v.parts = some w) : v.attribute? name = some w := by
  simp [attribute?, reflection?, hc, hd, h]

/-- The items of a value, if it has any. -/
def items? : Value → Option (List Value)
  | list _ items => some items
  | tuple items => some items
  | primitive (.text s) => some (s.toList.map fun c => text (String.ofList [c]))
  | primitive (.bytes bs) => some (bs.map fun b => int b.toNat)
  | dict entries => some (entries.map (·.1))
  | v => v.outcomeFields?.map pairs

/-- The number that a value stands for, if it stands for one. -/
def number? : Value → Option Extended
  | primitive p => p.number?
  | _ => none

/-- Whether a value is zero, empty, false or missing. -/
def isVoid : Value → Bool
  | primitive .null => true
  | primitive (.text s) => s.isEmpty
  | primitive (.bytes bs) => bs.isEmpty
  | primitive p => p.equal (.int 0)
  | list _ items => items.isEmpty
  | tuple items => items.isEmpty
  | join members => members.isEmpty
  | dict entries => entries.isEmpty
  | _ => false

end Value

end SqlWeave
