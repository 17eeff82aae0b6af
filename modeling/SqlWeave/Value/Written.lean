import SqlWeave.Number.Shortest
import SqlWeave.Text.Quoted
import SqlWeave.Value.Basic

/-!
# Written values

How a value is written out where a message or a place has to name it: numbers in
their shortest notation, texts and byte strings between quotes, everything else as its
parts between brackets, with their names where they have names.
-/

namespace SqlWeave

/-- A primitive, written out. -/
def Primitive.written : Primitive → String
  | null => "None"
  | bool b => if b then "True" else "False"
  | int n => toString n
  | float x => String.ofList x.shortest
  | text s => Text.Quoted.encode s
  | bytes bs => Text.Quoted.encodeBytes bs

namespace Value

/-- Items between parentheses; a single one has a comma after it. -/
def parenthesized : List String → String
  | [item] => "(" ++ item ++ ",)"
  | items => "(" ++ ", ".intercalate items ++ ")"

/-- Texts with a comma between each two. -/
def commaSeparated (texts : List String) : String := ", ".intercalate texts

/-- Parts between parentheses, after the name of the whole. -/
def constructed (name : String) (parts : List String) : String :=
  name ++ "(" ++ commaSeparated parts ++ ")"

/-- Named parts, each with its name before it. -/
def assignments (parts : List (String × String)) : List String :=
  parts.map fun (name, text) => name ++ "=" ++ text

mutual

/-- A value, written out. A handle has no parts, so its type is named instead, and an
attribute without a name is left out. -/
def written : Value → String
  | primitive p => p.written
  | list _ items => "[" ++ commaSeparated (writtenItems items) ++ "]"
  | tuple items => parenthesized (writtenItems items)
  | dict entries => "\x7b" ++ commaSeparated (writtenEntries entries) ++ "\x7d"
  | record fields =>
    constructed "namespace" (assignments ((writtenFields fields).filter (·.1 ≠ "")))
  | handle _ typeName _ => typeName
  | fragment ⟨opening, parts, _⟩ =>
    constructed "Fragment" <| assignments
      [("segments", parenthesized ((opening :: parts.map (·.2)).map Text.Quoted.encode)),
        ("values", parenthesized (writtenParts parts))]
  | join members =>
    constructed "JoinList" (assignments [("values", parenthesized (writtenItems members))])
  | statistics s => constructed "QueryMeta" (writtenStatistics s)
  | run o => constructed "RunResult" (writtenRun o)
  | query _ o => constructed "QueryResult" (writtenQuery o)
  | statement _ ⟨text, values, mapper, _⟩ =>
    constructed (if mapper.isSome then "MappedStatement" else "PreparedStatement") <| assignments <|
      [("query", Text.Quoted.encode text),
        ("values", "[" ++ commaSeparated (writtenItems values) ++ "]")] ++
      mapper.toList.map (("mapper", ·))
termination_by structural v => v

/-- Values, each written out. -/
def writtenItems : List Value → List String
  | [] => []
  | v :: vs => written v :: writtenItems vs
termination_by structural vs => vs

/-- The values of a fragment's parts, each written out. -/
def writtenParts : List (Value × String) → List String
  | [] => []
  | (v, _) :: ps => written v :: writtenParts ps
termination_by structural ps => ps

/-- The entries of a mapping, each written out. -/
def writtenEntries : List (Value × Value) → List String
  | [] => []
  | (k, v) :: es => (written k ++ ": " ++ written v) :: writtenEntries es
termination_by structural es => es

/-- Named parts, each written out. -/
def writtenFields : List (String × Value) → List (String × String)
  | [] => []
  | (name, v) :: fs => (name, written v) :: writtenFields fs
termination_by structural fs => fs

/-- The fields of statistics, written out. -/
def writtenStatistics : Statistics Value → List String
  | ⟨duration, changes, lastRowId, changedDb, rowsRead, rowsWritten, extra⟩ =>
    assignments <|
      [("duration", (Primitive.float duration).written), ("changes", toString changes),
        ("last_row_id", (Primitive.ofOption lastRowId).written),
        ("changed_db", (Primitive.bool changedDb).written),
        ("rows_read", (Primitive.ofOption rowsRead).written),
        ("rows_written", (Primitive.ofOption rowsWritten).written)] ++ writtenFields extra
termination_by structural s => s

/-- The fields of an outcome without rows, written out. -/
def writtenRun : RunOutcome Value → List String
  | ⟨success, s, extra⟩ =>
    assignments <|
      [("success", (Primitive.bool success).written),
        ("meta", constructed "QueryMeta" (writtenStatistics s))] ++ writtenFields extra
termination_by structural o => o

/-- The fields of an outcome with rows, written out. -/
def writtenQuery : QueryOutcome Value → List String
  | ⟨success, s, rows, extra⟩ =>
    assignments <|
      [("success", (Primitive.bool success).written),
        ("meta", constructed "QueryMeta" (writtenStatistics s)),
        ("results", "[" ++ commaSeparated (writtenItems rows) ++ "]")] ++ writtenFields extra
termination_by structural o => o

end

/-- A value on its own in a line of text: a text is not quoted, and outcomes are only
their fields. -/
def shown : Value → String
  | primitive (.text s) => s
  | statistics s => " ".intercalate (writtenStatistics s)
  | run o => " ".intercalate (writtenRun o)
  | query _ o => " ".intercalate (writtenQuery o)
  | v => v.written

end Value

end SqlWeave
