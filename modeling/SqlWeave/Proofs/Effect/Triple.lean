import SqlWeave.Execution.Environment

/-!
# Triples for effects

What a computation on a state leads to, as a precondition on the state it starts
in and two postconditions: one for the value and the state of a success, one for
the failure and the state that a failed computation has reached.
`Effect.Triple P p Q R` has one rule for each way of making a computation:

* `Triple.pure`, `Triple.fail`, `Triple.ofExcept` for the ones that touch nothing;
* `Triple.bind`, where `R` is the same for both parts, as nothing follows a failure;
* `Triple.attempt`, after which a failure is an ordinary value;
* `Triple.ask` for a question to the environment.
-/

namespace SqlWeave.Effect

variable {σ α β : Type} {P P' : σ → Prop} {Q Q' : α → σ → Prop} {R R' : Failure → σ → Prop}

theorem ok_bind {a : α} {k : α → Effect σ β} : ofExcept (.ok a) >>= k = k a := rfl

theorem error_bind {e : Failure} {k : α → Effect σ β} : ofExcept (.error e) >>= k = fail e := rfl

/-- The result and the state in which a computation ends satisfy one of two conditions. -/
def Ends (Q : α → σ → Prop) (R : Failure → σ → Prop) : Except Failure α × σ → Prop
  | (.ok a, t) => Q a t
  | (.error e, t) => R e t

/-- Started in a state with `P`, the computation succeeds with `Q` or fails with `R`. -/
def Triple (P : σ → Prop) (p : Effect σ α) (Q : α → σ → Prop) (R : Failure → σ → Prop) : Prop :=
  ∀ s, P s → Ends Q R (p s)

namespace Triple

theorem consequence {p : Effect σ α} (h : Triple P p Q R) (hP : ∀ s, P' s → P s)
    (hQ : ∀ a s, Q a s → Q' a s) (hR : ∀ e s, R e s → R' e s) : Triple P' p Q' R' := by
  intro s hs
  have hend := h s (hP s hs)
  rcases hp : p s with ⟨e | a, t⟩
  · rw [hp] at hend
    exact hR e t hend
  · rw [hp] at hend
    exact hQ a t hend

theorem pre {p : Effect σ α} (h : Triple P p Q R) (hP : ∀ s, P' s → P s) : Triple P' p Q R :=
  fun s hs => h s (hP s hs)

/-- What a precondition says without the state is known throughout. -/
theorem and_pre {φ : Prop} {p : Effect σ α} (h : φ → Triple P p Q R) :
    Triple (fun s => φ ∧ P s) p Q R := by
  rintro s ⟨hφ, hs⟩
  exact h hφ s hs

theorem pure {a : α} (h : ∀ s, P s → Q a s) : Triple P (Pure.pure a : Effect σ α) Q R := h

theorem fail {e : Failure} (h : ∀ s, P s → R e s) : Triple P (Effect.fail e : Effect σ α) Q R := h

theorem ofExcept {r : Except Failure α} (h : ∀ s, P s → Ends Q R (r, s)) :
    Triple P (Effect.ofExcept r) Q R := by
  intro s hs
  have hend := h s hs
  cases r with
  | ok a => exact hend
  | error e => exact hend

theorem bind {p : Effect σ α} {k : α → Effect σ β} {S : β → σ → Prop} (hp : Triple P p Q R)
    (hk : ∀ a, Triple (Q a) (k a) S R) : Triple P (p >>= k) S R := by
  intro s hs
  have hend := hp s hs
  rw [bind_apply]
  rcases h : p s with ⟨e | a, t⟩
  · rw [h] at hend
    exact hend
  · rw [h] at hend
    exact hk a t hend

theorem attempt {p : Effect σ α} (hp : Triple P p Q R) :
    Triple P (attempt p) (fun r s => Ends Q R (r, s)) R' := fun s hs => hp s hs

theorem ask {E : Environment} {q : Request} {P : World E → Prop} {Q : q.Answer → World E → Prop}
    {R : Failure → World E → Prop}
    (h : ∀ w, P w → Q (E.answer q w.outside).1 { w with outside := (E.answer q w.outside).2 }) :
    Triple P (Act.ask q) Q R := h

end Triple

end SqlWeave.Effect
