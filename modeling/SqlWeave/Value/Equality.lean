import SqlWeave.Value.Basic

/-!
# Equality of values

Two values are equal if they have the same shape and equal parts. Mappings and
objects do not depend on the order of their entries, fragments, join lists and
statements not on the executor they were made for, and an outcome without rows is
never equal to one with rows. A handle is equal to itself alone: it has no contents to
compare. A not-a-number is equal to nothing, but where it is a part of two values that
are compared, it matches itself (`identical`).
-/

namespace SqlWeave.Value

/-- Whether two values are one and the same not-a-number. All other values are equal to
themselves anyway. -/
def identical : Value → Value → Bool
  | primitive (.float x), primitive (.float y) => x.sameNaN y
  | _, _ => false

mutual

/-- Equality by value. -/
def equal : Value → Value → Bool
  | primitive p, primitive q => p.equal q
  | list _ xs, list _ ys => equalItems xs ys
  | tuple xs, tuple ys => equalItems xs ys
  | dict xs, dict ys => xs.length == ys.length && subsetEntries xs ys
  | record xs, record ys => xs.length == ys.length && subsetFields xs ys
  | handle k _ _, handle l _ _ => k.isSome && k == l
  | fragment ⟨s, xs, _⟩, fragment ⟨t, ys, _⟩ => s == t && equalParts xs ys
  | join xs, join ys => equalItems xs ys
  | statistics s, statistics t => equalStatistics s t
  | run ⟨b, s, xs⟩, run ⟨c, t, ys⟩ =>
    b == c && equalStatistics s t && (xs.length == ys.length && subsetFields xs ys)
  | query _ ⟨b, s, rs, xs⟩, query _ ⟨c, t, qs, ys⟩ =>
    b == c && equalStatistics s t && equalItems rs qs &&
      (xs.length == ys.length && subsetFields xs ys)
  | statement _ ⟨q, vs, f, _⟩, statement _ ⟨r, ws, g, _⟩ => q == r && equalItems vs ws && f == g
  | _, _ => false
termination_by structural v => v

/-- Equality item by item. -/
def equalItems : List Value → List Value → Bool
  | [], [] => true
  | x :: xs, y :: ys => (identical x y || equal x y) && equalItems xs ys
  | _, _ => false
termination_by structural v => v

/-- Every entry has an equal one among the others. -/
def subsetEntries : List (Value × Value) → List (Value × Value) → Bool
  | [], _ => true
  | (k, v) :: xs, ys =>
    (ys.any fun e =>
      (identical k e.1 || equal k e.1) && (identical v e.2 || equal v e.2)) && subsetEntries xs ys
termination_by structural v => v

/-- Every field has an equal one of its name among the others. -/
def subsetFields : List (String × Value) → List (String × Value) → Bool
  | [], _ => true
  | (k, v) :: xs, ys =>
    (ys.any fun e => k == e.1 && (identical v e.2 || equal v e.2)) && subsetFields xs ys
termination_by structural v => v

/-- Equality value by value and text by text. -/
def equalParts : List (Value × String) → List (Value × String) → Bool
  | [], [] => true
  | (x, s) :: xs, (y, t) :: ys =>
    (identical x y || equal x y) && s == t && equalParts xs ys
  | _, _ => false
termination_by structural v => v

/-- Equality field by field. -/
def equalStatistics : Statistics Value → Statistics Value → Bool
  | ⟨d, c, l, g, r, w, xs⟩, ⟨e, b, m, h, q, v, ys⟩ =>
    (d.sameNaN e || d.exact.equal e.exact) && c == b && l == m && g == h && r == q && w == v &&
      (xs.length == ys.length && subsetFields xs ys)
termination_by structural v => v

end

/-- The kind of a value, for what may share a parameter. -/
def kind : Value → Primitive.Kind
  | primitive p => p.kind
  | _ => .other

/-- Whether two values may share one parameter. -/
def sameValue (v w : Value) : Bool := v.kind == w.kind && (v.kind == .null || v.equal w)

/-- Primitives share a parameter as values if they do as primitives. -/
theorem sameValue_primitive (p q : Primitive) :
    sameValue (primitive p) (primitive q) = p.sameValue q := by
  simp [sameValue, Primitive.sameValue, kind, equal]

/-- The entries with `key` set to `value`: a key equal to an earlier one keeps
its place and gets the new value. -/
def insertEntry (key value : Value) : List (Value × Value) → List (Value × Value)
  | [] => [(key, value)]
  | (k, v) :: rest =>
    if k.identical key || k.equal key then (k, value) :: rest
    else (k, v) :: insertEntry key value rest

/-- The mapping of these entries, later ones overriding earlier ones. -/
def dictOf (entries : List (Value × Value)) : Value :=
  dict (entries.foldl (fun acc e => insertEntry e.1 e.2 acc) [])

/-- The fields with `name` set to `value`: a name that is there keeps its place. -/
def insertField (name : String) (value : Value) : List (String × Value) → List (String × Value)
  | [] => [(name, value)]
  | (n, v) :: rest =>
    if n = name then (n, value) :: rest else (n, v) :: insertField name value rest

/-- The object with these attributes, later ones overriding earlier ones. -/
def recordOf (fields : List (String × Value)) : Value :=
  record (fields.foldl (fun acc f => insertField f.1 f.2 acc) [])

/-- The value that a mapping's entries have under a key. -/
def lookupEntry? (key : Value) (entries : List (Value × Value)) : Option Value :=
  (entries.find? fun e => e.1.equal key).map (·.2)

/-- The value that a mapping's entries have under a text. -/
def lookupText? (name : String) (entries : List (Value × Value)) : Option Value :=
  lookupEntry? (text name) entries

end SqlWeave.Value
