import Mathlib.Algebra.Field.Rat
import Mathlib.Algebra.Order.Ring.Rat
import Mathlib.Data.Int.CharZero
import SqlWeave.Proofs.Value.SameValue

/-!
# Exact values of numbers

The value of a binary64 number is a rational number, given by its sign, its exponent and its
fraction (`Binary64.value`). Counting in units of `2 ^ -1074` loses nothing of it
(`Binary64.units_eq`), so an integer and a binary64 number are compared by their values
(`Binary64.exact_eq_ofInt_iff`).

**`Primitive.sameValue_equivalence`**: sharing a parameter is symmetric and transitive, it is
reflexive on everything but the not-a-numbers, it keeps the kinds of primitives apart, and an integer
shares its parameter with exactly the finite numbers whose value it is. The integer is not rounded,
whatever its size.
-/

namespace SqlWeave

namespace Binary64

/-- The absolute value of a finite number. Numbers of the least exponent are a fraction of it; all
others have a one before the fraction. -/
def absoluteValue (x : Binary64) : ℚ :=
  if x.exponentField = 0 then x.fraction / 2 ^ 52 * 2 ^ (-1022 : ℤ)
  else (1 + x.fraction / 2 ^ 52) * 2 ^ ((x.exponentField : ℤ) - 1023)

/-- The value of a finite number. -/
def value (x : Binary64) : ℚ := if x.isNegative then -x.absoluteValue else x.absoluteValue

theorem cast_unitsPerOne : (Extended.unitsPerOne : ℚ) = 2 ^ ((1074 : ℕ) : ℤ) := by
  have h : ∀ n : ℕ, ((Nat.pow 2 n : ℕ) : ℚ) = 2 ^ (n : ℤ) := fun n =>
    (Nat.cast_pow 2 n).trans (zpow_natCast 2 n).symm
  unfold Extended.unitsPerOne
  apply h

theorem cast_fractions : (fractions : ℚ) = 2 ^ 52 := by
  unfold fractions
  exact Nat.cast_pow 2 52

/-- The magnitude is the absolute value in units. -/
theorem cast_magnitude (x : Binary64) :
    (x.magnitude : ℚ) = x.absoluteValue * Extended.unitsPerOne := by
  have htwo : (2 : ℚ) ≠ 0 := two_ne_zero
  rw [magnitude, absoluteValue]
  by_cases he : x.exponentField = 0
  · have hunits : (2 : ℚ) ^ (-1022 : ℤ) * Extended.unitsPerOne = 2 ^ 52 := by
      rw [cast_unitsPerOne, ← zpow_add₀ htwo, ← zpow_natCast]
      rfl
    rw [if_pos he, if_pos he, mul_assoc, hunits, div_mul_cancel₀ _ (pow_ne_zero _ htwo)]
  · have hunits : (2 : ℚ) ^ ((x.exponentField : ℤ) - 1023) * Extended.unitsPerOne =
        2 ^ 52 * 2 ^ (x.exponentField - 1) := by
      rw [cast_unitsPerOne, ← zpow_add₀ htwo, ← zpow_natCast, ← zpow_natCast, ← zpow_add₀ htwo]
      congr 1
      omega
    have hsignificand : ((fractions + x.fraction : ℕ) : ℚ) = (1 + x.fraction / 2 ^ 52) * 2 ^ 52 := by
      rw [Nat.cast_add, cast_fractions, add_mul, one_mul, div_mul_cancel₀ _ (pow_ne_zero _ htwo)]
    rw [if_neg he, if_neg he, mul_assoc, hunits, ← mul_assoc, ← hsignificand, Nat.cast_mul]
    exact congrArg _ (Nat.cast_pow 2 _)

/-- **Units lose nothing**: the number of units is the value in units. -/
theorem units_eq (x : Binary64) : (x.units : ℚ) = x.value * Extended.unitsPerOne := by
  rw [units, value]
  cases x.isNegative with
  | false =>
    rw [if_neg Bool.false_ne_true, if_neg Bool.false_ne_true, Int.cast_natCast]
    exact cast_magnitude x
  | true => rw [if_pos rfl, if_pos rfl, Int.cast_neg, Int.cast_natCast, cast_magnitude, neg_mul]

/-- A number is an integer exactly if it is finite and has that value. -/
theorem exact_eq_ofInt_iff {x : Binary64} {n : Int} :
    x.exact = .ofInt n ↔ x.isFinite = true ∧ x.value = n := by
  have hpos : (Extended.unitsPerOne : ℚ) ≠ 0 := by
    rw [cast_unitsPerOne]
    exact zpow_ne_zero _ two_ne_zero
  have hunits : x.units = n * Extended.unitsPerOne ↔ x.value = n := by
    rw [← Int.cast_inj (α := ℚ), units_eq, Int.cast_mul, Int.cast_natCast, mul_left_inj' hpos]
  rw [exact, Extended.ofInt]
  by_cases hfinite : x.isFinite = true
  · rw [if_pos hfinite, Extended.finite.injEq, hunits]
    exact (and_iff_right hfinite).symm
  · rw [if_neg hfinite]
    constructor
    · intro h
      split at h <;> cases h
    · intro h
      exact absurd h.1 hfinite

end Binary64

namespace Primitive

/-- An integer shares its parameter with the finite numbers that have its value. -/
theorem sameValue_int_float_iff {n : Int} {x : Binary64} :
    (int n).sameValue (float x) = true ↔ x.isFinite = true ∧ x.value = n := by
  rw [← Binary64.exact_eq_ofInt_iff, sameValue_iff, identity?, identity?, identityOf?_ofInt]
  constructor
  · rintro ⟨h, -⟩
    cases hx : x.exact with
    | finite units =>
      rw [hx] at h
      cases h
      rfl
    | infinite negative =>
      rw [hx] at h
      cases h
    | nan =>
      rw [hx] at h
      cases h
  · intro h
    rw [h]
    exact ⟨rfl, Option.some_ne_none _⟩

/-- **Sharing a parameter** is symmetric and transitive, and all primitives but the not-a-numbers
share with themselves. Primitives of different kinds never share. An integer shares with a binary64
number exactly if that is finite and its value is the integer, which is not rounded. -/
theorem sameValue_equivalence :
    (∀ a b : Primitive, a.sameValue b = b.sameValue a) ∧
    (∀ a b c : Primitive, a.sameValue b = true → b.sameValue c = true → a.sameValue c = true) ∧
    (∀ a : Primitive, a.sameValue a = true ↔ a.isNaN = false) ∧
    (∀ a b : Primitive, a.kind ≠ b.kind → a.sameValue b = false) ∧
    ∀ (n : Int) (x : Binary64),
      (int n).sameValue (float x) = true ↔ x.isFinite = true ∧ x.value = n := by
  refine ⟨sameValue_comm, fun a b c => sameValue_trans, fun a => sameValue_self_iff, ?_,
    fun n x => sameValue_int_float_iff⟩
  intro a b hkind
  simp [sameValue, hkind]

/-- The least integer that the nearest binary64 number is not equal to does not share with it. -/
example : (int (2 ^ 53 + 1)).sameValue (float (.ofInt (2 ^ 53 + 1))) = false := by decide +kernel

end Primitive

end SqlWeave
