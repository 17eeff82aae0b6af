import Mathlib.Data.List.Forall2
import SqlWeave.Failure

/-!
# The first failure in a list

Going through a list with a function that can fail, up to the first element at which it does
(`firstFailure`, `untilFailure`). Applying the function to all elements fails with the first failure,
and gives the values of all of them if there is none (`mapM_eq_error_iff`, `mapM_eq_ok_iff`).
-/

namespace SqlWeave

variable {α β γ : Type}

/-- The failure at the first element at which there is one. -/
def firstFailure (g : α → Except Failure β) : List α → Option Failure
  | [] => none
  | a :: as =>
    match g a with
    | .ok _ => firstFailure g as
    | .error e => some e

/-- The elements up to the first one with a failure, which is the last of them. -/
def untilFailure (g : α → Except Failure β) : List α → List α
  | [] => []
  | a :: as =>
    match g a with
    | .ok _ => a :: untilFailure g as
    | .error _ => [a]

section

variable {ε : Type} {g : α → Except ε β} {as : List α}

/-- Applied to all elements, a function gives the value of each of them. -/
theorem mapM_eq_ok_iff {bs : List β} :
    as.mapM g = .ok bs ↔ List.Forall₂ (fun a b => g a = .ok b) as bs := by
  induction as generalizing bs with
  | nil =>
    constructor
    · intro h
      obtain rfl := Except.ok.inj h
      exact .nil
    · intro h
      cases h
      rfl
  | cons a as ih =>
    rw [List.mapM_cons]
    constructor
    · intro h
      rcases ha : g a with e | b
      · rw [ha] at h
        cases h
      rcases has : as.mapM g with e | bs'
      · rw [ha, has] at h
        cases h
      rw [ha, has] at h
      obtain rfl := Except.ok.inj h
      exact .cons ha (ih.mp has)
    · intro h
      cases h with
      | cons ha has =>
        rw [ha, ih.mpr has]
        rfl

/-- Each of the values comes from an element. -/
theorem exists_of_mem_mapM {bs : List β} (h : as.mapM g = .ok bs) {b : β} (hb : b ∈ bs) :
    ∃ a ∈ as, g a = .ok b := by
  have hall := mapM_eq_ok_iff.mp h
  clear h
  induction hall with
  | nil => cases hb
  | cons ha _ ih =>
    rcases List.mem_cons.mp hb with rfl | hb
    · exact ⟨_, List.mem_cons_self, ha⟩
    · obtain ⟨a, hmem, ha⟩ := ih hb
      exact ⟨a, List.mem_cons_of_mem _ hmem, ha⟩

/-- A function that has a value for each element can be applied to all of them. -/
theorem exists_mapM_eq_ok (h : ∀ a ∈ as, ∃ b, g a = .ok b) : ∃ bs, as.mapM g = .ok bs := by
  induction as with
  | nil => exact ⟨[], rfl⟩
  | cons a as ih =>
    obtain ⟨⟨b, hb⟩, has⟩ := List.forall_mem_cons.mp h
    obtain ⟨bs, hbs⟩ := ih has
    exact ⟨b :: bs, by rw [List.mapM_cons, hb, hbs]; rfl⟩

end

section

variable {g : α → Except Failure β} {a : α} {as bs : List α} {e : Failure}

@[simp] theorem firstFailure_nil : firstFailure g [] = none := rfl

theorem firstFailure_cons_of_ok {b : β} (h : g a = .ok b) :
    firstFailure g (a :: as) = firstFailure g as := by
  rw [firstFailure, h]

theorem firstFailure_cons_of_error (h : g a = .error e) : firstFailure g (a :: as) = some e := by
  rw [firstFailure, h]

theorem untilFailure_cons_of_ok {b : β} (h : g a = .ok b) :
    untilFailure g (a :: as) = a :: untilFailure g as := by
  rw [untilFailure, h]

theorem untilFailure_cons_of_error (h : g a = .error e) : untilFailure g (a :: as) = [a] := by
  rw [untilFailure, h]

theorem firstFailure_map {g : β → Except Failure γ} (h : α → β) (as : List α) :
    firstFailure g (as.map h) = firstFailure (fun a => g (h a)) as := by
  induction as with
  | nil => rfl
  | cons a as ih => rw [List.map_cons, firstFailure, firstFailure, ih]

theorem untilFailure_of_none (h : firstFailure g as = none) : untilFailure g as = as := by
  induction as with
  | nil => rfl
  | cons a as ih =>
    rcases ha : g a with e | b
    · rw [firstFailure_cons_of_error ha] at h
      cases h
    · rw [firstFailure_cons_of_ok ha] at h
      rw [untilFailure_cons_of_ok ha, ih h]

theorem firstFailure_append_of_some (h : firstFailure g as = some e) :
    firstFailure g (as ++ bs) = some e ∧ untilFailure g (as ++ bs) = untilFailure g as := by
  induction as with
  | nil => cases h
  | cons a as ih =>
    rw [List.cons_append]
    rcases ha : g a with e' | b
    · rw [firstFailure_cons_of_error ha] at h ⊢
      rw [untilFailure_cons_of_error ha, untilFailure_cons_of_error ha]
      exact ⟨h, rfl⟩
    · rw [firstFailure_cons_of_ok ha] at h ⊢
      rw [untilFailure_cons_of_ok ha, untilFailure_cons_of_ok ha, (ih h).2]
      exact ⟨(ih h).1, rfl⟩

theorem firstFailure_append_of_none (h : firstFailure g as = none) :
    firstFailure g (as ++ bs) = firstFailure g bs ∧
      untilFailure g (as ++ bs) = as ++ untilFailure g bs := by
  induction as with
  | nil => exact ⟨rfl, rfl⟩
  | cons a as ih =>
    rw [List.cons_append]
    rcases ha : g a with e | b
    · rw [firstFailure_cons_of_error ha] at h
      cases h
    · rw [firstFailure_cons_of_ok ha] at h ⊢
      rw [untilFailure_cons_of_ok ha, (ih h).2]
      exact ⟨(ih h).1, rfl⟩

/-- Applied to all elements, a function fails at the first one at which it does. -/
theorem mapM_eq_error_iff : as.mapM g = .error e ↔ firstFailure g as = some e := by
  induction as with
  | nil => simp [Pure.pure, Except.pure]
  | cons a as ih =>
    rw [List.mapM_cons]
    rcases ha : g a with e' | b
    · rw [firstFailure_cons_of_error ha]
      exact ⟨fun h => congrArg some (Except.error.inj h), fun h => congrArg _ (Option.some.inj h)⟩
    · rw [firstFailure_cons_of_ok ha, ← ih]
      rcases as.mapM g with e' | bs
      · exact Iff.rfl
      · simp [Bind.bind, Except.bind, Pure.pure, Except.pure]

end

end SqlWeave
