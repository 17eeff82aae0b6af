import Mathlib.Data.List.Nodup
import SqlWeave.Number.Decimal
import SqlWeave.Placeholder.Style

/-!
# What a driver finds for a placeholder

A driver gets the query and the parameters apart from each other, and looks each placeholder up
(`Binding.find?`): a question mark and a decimal number is a place in a list, a colon and a word
is a name. Both styles that are known from the start hand the parameters over in such a way that
the placeholder of a number leads to the parameter of that number (`Style.find?_bind`). For names
this rests on decimal numbers being different texts (`Style.parameterName_inj`).
-/

namespace SqlWeave

/-- Digits are read as the number that they denote. -/
theorem Decimal.readNat?_of_isDigit {cs : List Char} (hd : ∀ c ∈ cs, c.isDigit = true) :
    readNat? cs = some (Nat.ofDigitChars 10 cs 0) := by
  have h : ∀ (cs : List Char) (m : Nat), (∀ c ∈ cs, c.isDigit = true) →
      cs.foldl (fun n? c => n?.bind fun n => (Text.asciiDigit? c).map (10 * n + ·)) (some m) =
        some (Nat.ofDigitChars 10 cs m) := by
    intro cs
    induction cs with
    | nil => intro m _; simp
    | cons c cs ih =>
      intro m hd
      obtain ⟨hc, hcs⟩ := List.forall_mem_cons.mp hd
      rw [List.foldl_cons, Nat.ofDigitChars_cons]
      simpa [Text.asciiDigit?, hc] using ih _ hcs
  rw [readNat?, readNatBy?, h cs 0 hd]

theorem Decimal.isDigit_of_mem_toDigits {n : Nat} {c : Char} (hc : c ∈ Nat.toDigits 10 n) :
    c.isDigit = true :=
  Nat.isDigit_of_mem_toDigits (by decide) (by decide) hc

/-- The decimal digits of a number are read as the number. -/
theorem Decimal.readNat?_toDigits (n : Nat) : readNat? (Nat.toDigits 10 n) = some n := by
  rw [readNat?_of_isDigit fun _ => isDigit_of_mem_toDigits, Nat.ofDigitChars_ten_toDigits]

/-- What a driver finds for a placeholder, given by its characters. -/
def Binding.find? {α : Type} : Binding α → List Char → Option α
  | .positional values, '?' :: digits =>
    (Decimal.readNat? digits).bind fun n => if n = 0 then none else values[n - 1]?
  | .named values, ':' :: name => values.lookup (String.ofList name)
  | _, _ => none

namespace Style

/-- No two parameters have one name. -/
theorem parameterName_inj {m n : Nat} : parameterName m = parameterName n ↔ m = n := by
  constructor
  · intro h
    have hdigits : Nat.toDigits 10 m = Nat.toDigits 10 n := by
      simpa [parameterName] using congrArg String.toList h
    have hread := congrArg Decimal.readNat? hdigits
    rw [Decimal.readNat?_toDigits, Decimal.readNat?_toDigits] at hread
    exact Option.some.inj hread
  · rintro rfl
    rfl

variable {α : Type}

/-- All names are different. -/
theorem nameParameters_nodup (values : List α) : ((nameParameters values).map (·.1)).Nodup := by
  have h : (nameParameters values).map (·.1) =
      (values.zipIdx.map (·.2)).map fun i => parameterName (i + 1) := by
    rw [nameParameters, List.map_map, List.map_map]
    rfl
  rw [h, List.zipIdx_map_snd]
  refine List.Nodup.map (fun i j hij => ?_) List.nodup_range'
  exact Nat.succ.inj (parameterName_inj.mp hij)

theorem nameParameters_length (values : List α) :
    (nameParameters values).length = values.length := by
  simp [nameParameters]

/-- The parameter of a number is found under its name. -/
theorem lookup_nameParameters (values : List α) (i : Nat) :
    (nameParameters values).lookup (parameterName (i + 1)) = values[i]? := by
  have h : ∀ (values : List α) (start : Nat),
      ((values.zipIdx start).map fun p => (parameterName (p.2 + 1), p.1)).lookup
        (parameterName (start + i + 1)) = values[i]? := by
    intro values
    induction values generalizing i with
    | nil => intro start; rfl
    | cons v values ih =>
      intro start
      rw [List.zipIdx_cons, List.map_cons, List.lookup_cons]
      cases i with
      | zero => simp
      | succ i =>
        have hne : (parameterName (start + (i + 1) + 1) == parameterName (start + 1)) = false := by
          rw [beq_eq_false_iff_ne, ne_eq, parameterName_inj]
          omega
        rw [hne, List.getElem?_cons_succ, ← ih i (start + 1)]
        simp [Nat.add_assoc, Nat.add_comm 1 i]
  have h0 := h values 0
  rw [Nat.zero_add] at h0
  exact h0

/-- **The placeholder of a number leads to the parameter of that number.** -/
theorem find?_bind {style : Style} (hs : style = numbered ∨ style = named) (values : List α)
    (i : Nat) : (style.bind values).find? (style.placeholder (i + 1)).toList = values[i]? := by
  rcases hs with rfl | rfl
  · have h : (numbered.placeholder (i + 1)).toList = '?' :: Nat.toDigits 10 (i + 1) := by
      simp [placeholder]
    rw [h]
    simp [bind, Binding.find?, Decimal.readNat?_toDigits]
  · have h : (named.placeholder (i + 1)).toList = ':' :: (parameterName (i + 1)).toList := by
      simp [placeholder]
    rw [h]
    simp [bind, Binding.find?, lookup_nameParameters]

end Style

end SqlWeave
