import SqlWeave.Failure
import SqlWeave.Value.Equality
import SqlWeave.Value.Parts

/-!
# Access to parts

Asking a value for a part that it may not have. The part is an attribute
(`Value.part`), an item under a number (`Value.itemAt`) or all items (`Value.items`), and
the failure says what the value lacks. A value that has something else under the name of
a wanted operation fails as well, since that cannot be called (`Value.lacking`).
-/

namespace SqlWeave.Value

/-- The item of a value under a number: the item of a sequence at that place,
counted from zero, the one of a mapping under that key, or a type with the number as its
argument. -/
def item? (n : Nat) : Value → Option Value
  | list _ items => items[n]?
  | tuple items => items[n]?
  | primitive (.text s) => s.toList[n]?.map fun c => text (String.ofList [c])
  | primitive (.bytes bs) => bs[n]?.map fun b => int b.toNat
  | dict entries => lookupEntry? (int n) entries
  | v => v.withArgument? (int n)

/-- How a value fails that has no item under a number. -/
def withoutItem (n : Nat) : Value → Failure
  | list .. => .indexOutOfRange "list"
  | tuple _ => .indexOutOfRange "tuple"
  | primitive (.text _) => .indexOutOfRange "string"
  | primitive (.bytes _) => .indexOutOfRange ""
  | dict _ => .missingItem n
  | v => .notSubscriptable v.fullTypeName

/-- The item of a value under a number, which it has to have. -/
def itemAt (n : Nat) (v : Value) : Except Failure Value :=
  match v.item? n with
  | some w => .ok w
  | none => .error (v.withoutItem n)

/-- The items of a value, which it has to have. -/
def items (v : Value) : Except Failure (List Value) :=
  match v.items? with
  | some vs => .ok vs
  | none => .error (.notIterable v.fullTypeName)

/-- An attribute that a value has to have. -/
def part (name : String) (v : Value) : Except Failure Value :=
  match v.attribute? name with
  | some w => .ok w
  | none => .error (.noOperation v.fullTypeName name)

/-- How a value fails that lacks an operation: an attribute of that name is no function. -/
def lacking (operation : String) (v : Value) : Failure :=
  match v.part operation with
  | .ok w => .notCallable w.fullTypeName
  | .error e => e

theorem itemAt_eq_ok_iff {n : Nat} {v w : Value} : v.itemAt n = .ok w ↔ v.item? n = some w := by
  unfold itemAt
  split <;> simp_all

theorem items_eq_ok_iff {v : Value} {vs : List Value} : v.items = .ok vs ↔ v.items? = some vs := by
  unfold items
  split <;> simp_all

theorem part_eq_ok_iff {name : String} {v w : Value} :
    v.part name = .ok w ↔ v.attribute? name = some w := by
  unfold part
  split <;> simp_all

end SqlWeave.Value
