import SqlWeave.Effect

/-!
# Computations that only read

A computation that leaves the state as it is (`Effect.Reads`) can be taken for its result: what
follows begins in the same state (`Reads.bind_eq_ok_iff`), and where it stands at the end it does not
matter for the state (`Reads.snd_bind`).
-/

namespace SqlWeave.Effect

variable {σ α β : Type}

/-- A computation that leaves the state as it is. -/
def Reads (p : Effect σ α) : Prop := ∀ s, (p s).2 = s

namespace Reads

theorem pure (a : α) : Reads (Pure.pure a : Effect σ α) := fun _ => rfl

theorem fail (e : Failure) : Reads (Effect.fail e : Effect σ α) := fun _ => rfl

theorem ofExcept (r : Except Failure α) : Reads (Effect.ofExcept r : Effect σ α) := by
  intro s
  cases r with
  | ok a => rfl
  | error e => rfl

theorem state : Reads (Effect.state : Effect σ σ) := fun _ => rfl

theorem bind {p : Effect σ α} {k : α → Effect σ β} (hp : Reads p) (hk : ∀ a, Reads (k a)) :
    Reads (p >>= k) := by
  intro s
  have hs := hp s
  rw [bind_apply]
  rcases h : p s with ⟨e | a, t⟩
  · rw [h] at hs
    exact hs
  · rw [h] at hs
    exact (hk a t).trans hs

/-- What follows begins in the same state. -/
theorem bind_eq_ok_iff {p : Effect σ α} {k : α → Effect σ β} (hp : Reads p) {s : σ} {b : β} :
    ((p >>= k) s).1 = .ok b ↔ ∃ a, (p s).1 = .ok a ∧ (k a s).1 = .ok b := by
  have hs := hp s
  rw [bind_apply]
  rcases h : p s with ⟨e | a, t⟩
  · simp
  · rw [h] at hs
    simp [show t = s from hs]

/-- What only reads at the end leaves the state that was reached before. -/
theorem snd_bind (p : Effect σ α) {k : α → Effect σ β} (hk : ∀ a, Reads (k a)) (s : σ) :
    ((p >>= k) s).2 = (p s).2 := by
  rw [bind_apply]
  rcases p s with ⟨e | a, t⟩
  · rfl
  · exact hk a t

end Reads

theorem ofExcept_apply (r : Except Failure α) (s : σ) : Effect.ofExcept r s = (r, s) := by
  cases r with
  | ok a => rfl
  | error e => rfl

end SqlWeave.Effect
