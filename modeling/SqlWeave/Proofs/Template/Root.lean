import SqlWeave.Template.Path

/-!
# Roots of field names

A root of decimal digits, of any script, is read as the number of these digits (`readIndex?_digits`),
unless that is too large, and the digits of a number are read as that number
(`numberOf_toString`). What does not begin with a decimal digit is no number
(`readIndex?_of_head`). A field name without steps is nothing but its root (`root_eq_self`).
-/

namespace SqlWeave.Path

/-! ### Decimal numbers -/

/-- A number with one more decimal digit, of any script, at its end. -/
def pushDigit (n : Nat) (c : Char) : Nat := 10 * n + (Text.decimalValue? c).getD 0

/-- The number of decimal digits. -/
def numberOf (digits : List Char) : Nat := digits.foldl pushDigit 0

theorem le_foldl_pushDigit (digits : List Char) (n : Nat) : n ≤ digits.foldl pushDigit n := by
  induction digits generalizing n with
  | nil => exact Nat.le_refl n
  | cons c digits ih =>
    have hpush : n ≤ pushDigit n c := by
      rw [pushDigit]
      omega
    exact Nat.le_trans hpush (ih (pushDigit n c))

/-- Digits after a number are read as they are put at its end, if the whole is not too large. -/
theorem readDigits_eq {digits : List Char} (h : ∀ c ∈ digits, (Text.decimalValue? c).isSome)
    {n : Nat} (hmax : digits.foldl pushDigit n ≤ maxIndex) :
    readDigits n digits = .ok (some (digits.foldl pushDigit n)) := by
  induction digits generalizing n with
  | nil => rfl
  | cons c digits ih =>
    obtain ⟨d, hd⟩ := Option.isSome_iff_exists.mp (h c List.mem_cons_self)
    have hpush : pushDigit n c = 10 * n + d := by rw [pushDigit, hd, Option.getD_some]
    rw [List.foldl_cons, hpush] at hmax ⊢
    have hle : 10 * n + d ≤ maxIndex := Nat.le_trans (le_foldl_pushDigit digits _) hmax
    rw [readDigits, hd]
    simp only [Nat.not_lt.mpr hle, if_false]
    exact ih (fun c hc => h c (List.mem_cons_of_mem _ hc)) hmax

/-- Decimal digits are read as their number. -/
theorem readIndex?_digits {digits : List Char} (hne : digits ≠ [])
    (h : ∀ c ∈ digits, (Text.decimalValue? c).isSome) (hmax : numberOf digits ≤ maxIndex) :
    readIndex? digits = .ok (some (numberOf digits)) := by
  rw [readIndex?, if_neg (by simpa using hne)]
  exact readDigits_eq h hmax

/-- What does not begin with a decimal digit is no number. -/
theorem readIndex?_of_head {c : Char} {cs : List Char} (h : Text.decimalValue? c = none) :
    readIndex? (c :: cs) = .ok none := by
  simp [readIndex?, readDigits, h]

theorem decimalValue?_of_isDigit {c : Char} (h : c.isDigit = true) :
    Text.decimalValue? c = some (c.toNat - 48) := by
  have hrange : 48 ≤ c.toNat ∧ c.toNat ≤ 57 := by
    simpa [Char.isDigit, UInt32.le_iff_toNat_le] using h
  have hzero : Text.decimalZeros.find? (fun z => z ≤ c.toNat && c.toNat < z + 10) = some 0x30 := by
    rw [Text.decimalZeros, List.find?_cons_of_pos]
    simp only [Bool.and_eq_true, decide_eq_true_eq]
    omega
  rw [Text.decimalValue?, hzero]
  rfl

/-- A number is written in decimal digits. -/
theorem isSome_of_mem_toString {n : Nat} {c : Char} (h : c ∈ (toString n).toList) :
    (Text.decimalValue? c).isSome := by
  have hc : c ∈ Nat.toDigits 10 n := by simpa using h
  rw [decimalValue?_of_isDigit (Nat.isDigit_of_mem_toDigits (by decide) (by decide) hc)]
  rfl

/-- Western digits are read as everywhere. -/
theorem foldl_pushDigit_of_isDigit {digits : List Char} (h : ∀ c ∈ digits, c.isDigit = true) (n : Nat) :
    digits.foldl pushDigit n = Nat.ofDigitChars 10 digits n := by
  induction digits generalizing n with
  | nil => simp
  | cons c digits ih =>
    obtain ⟨hc, hdigits⟩ := List.forall_mem_cons.mp h
    rw [List.foldl_cons, Nat.ofDigitChars_cons, pushDigit, decimalValue?_of_isDigit hc]
    exact ih hdigits _

/-- The digits of a number are those of that number. -/
theorem numberOf_toString (n : Nat) : numberOf (toString n).toList = n := by
  have hdigits : (toString n).toList = Nat.toDigits 10 n := by simp
  have hall : ∀ c ∈ Nat.toDigits 10 n, c.isDigit = true := fun c hc =>
    Nat.isDigit_of_mem_toDigits (by decide) (by decide) hc
  rw [hdigits, numberOf, foldl_pushDigit_of_isDigit hall, Nat.ofDigitChars_ten_toDigits]

/-! ### Paths without steps -/

/-- A name without a point or an opening bracket is its own root and has no steps. -/
theorem root_eq_self {name : List Char} (h : ∀ c ∈ name, isBreak c = false) :
    root name = name ∧ steps name = [] := by
  induction name with
  | nil => exact ⟨rfl, rfl⟩
  | cons c name ih =>
    have hc : isBreak c = false := h c List.mem_cons_self
    obtain ⟨hroot, hsteps⟩ := ih fun c hc => h c (List.mem_cons_of_mem _ hc)
    rw [root] at hroot
    rw [steps] at hsteps
    simp [root, steps, hc, hroot, hsteps]

theorem walk_nil (v : Value) : walk v [] = .ok v := by rw [walk]

end SqlWeave.Path
