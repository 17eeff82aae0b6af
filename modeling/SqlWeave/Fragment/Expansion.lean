import SqlWeave.Fragment.Basic
import SqlWeave.Placeholder.Style

/-!
# Expansion

A fragment becomes a flat query text and a list of parameters: its tree is
walked depth first and left to right, nested fragments and join lists are
inlined, and each primitive leaf becomes a placeholder. A leaf that is the same
value as an earlier one shares its parameter, at whatever depth the two stand.

An empty join list is written `NULL`, so that `IN (…)` stays a query.
-/

namespace SqlWeave

/-- The query text and the parameters that a walk has made so far. -/
structure Expansion where
  /-- The text. -/
  query : String := ""
  /-- The parameters; the first one has number one. -/
  values : List Primitive := []
  deriving DecidableEq, Inhabited

namespace Expansion

section

variable {α : Type} (same : α → α → Bool)

/-- The number of a value's parameter, and the parameters with it among them: the
first parameter of the same value, else a new one at the end. -/
def addBy (values : List α) (v : α) : Nat × List α :=
  match values.findIdx? (same · v) with
  | some i => (i + 1, values)
  | none => (values.length + 1, values ++ [v])

/-- The numbers of the parameters of values, one after the other, and the parameters
with all of them among them. -/
def addAllBy (values : List α) : List α → List Nat × List α
  | [] => ([], values)
  | v :: vs =>
    let (index, values) := addBy same values v
    let (indices, values) := addAllBy values vs
    (index :: indices, values)

end

/-- The number of a primitive's parameter, and the parameters with it among them. -/
def addValue (values : List Primitive) (v : Primitive) : Nat × List Primitive :=
  addBy Primitive.sameValue values v

/-- Puts text at the end of the query. -/
def write (x : Expansion) (text : String) : Expansion := { x with query := x.query ++ text }

/-- Puts a leaf's placeholder at the end of the query. -/
def leaf (style : Style) (v : Primitive) (x : Expansion) : Expansion :=
  let (index, values) := addValue x.values v
  ⟨x.query ++ style.placeholder index, values⟩

/-- What stands for an empty join list. -/
def emptyJoin : String := "NULL"

end Expansion

open Expansion

mutual

/-- Expands a value at the end of what was made so far. -/
def Value.expand (style : Style) : Value → Expansion → Except Failure Expansion
  | .primitive p, x => .ok (x.leaf style p)
  | .fragment ⟨opening, parts, _⟩, x =>
    expandParts style parts (x.write (style.escapeLiteral opening))
  | .join [], x => .ok (x.write emptyJoin)
  | .join (v :: vs), x => expandMembers style (v :: vs) (x.write (style.escapeLiteral ""))
  | v, _ => .error (.unsupported v)
termination_by structural v => v

/-- Expands values and the literal texts after them. -/
def expandParts (style : Style) : List (Value × String) → Expansion → Except Failure Expansion
  | [], x => .ok x
  | (v, text) :: rest, x =>
    match v.expand style x with
    | .ok y => expandParts style rest (y.write (style.escapeLiteral text))
    | .error e => .error e
termination_by structural ps => ps

/-- Expands the members of a join list with separators between them. -/
def expandMembers (style : Style) : List Value → Expansion → Except Failure Expansion
  | [], x => .ok x
  | v :: rest, x =>
    match v.expand style x with
    | .ok y =>
      expandMembers style rest
        (y.write (style.escapeLiteral (if rest.isEmpty then "" else Fragment.separator)))
    | .error e => .error e
termination_by structural vs => vs

end

/-- Expands a fragment and all that is nested in it. -/
def Fragment.expand (style : Style) (f : Fragment Value) : Except Failure Expansion :=
  Value.expand style (.fragment f) {}

/-- A join list expands like the fragment that it stands for. -/
theorem expandMembers_eq_expandParts (style : Style) (vs : List Value) (x : Expansion) :
    expandMembers style vs x = expandParts style (Fragment.joinParts vs) x := by
  induction vs using Fragment.joinParts.induct generalizing x with
  | case1 => rfl
  | case2 v => simp [expandMembers, expandParts, Fragment.joinParts]
  | case3 v w vs ih => simp [expandMembers, expandParts, Fragment.joinParts, ← ih]

end SqlWeave
