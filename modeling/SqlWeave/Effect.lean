import SqlWeave.Failure

/-!
# Effects

A computation on a state that can fail. The state of a failed computation is the
one that it reached: nothing that happened is undone. Main definitions:

* `Effect σ α` with its sequencing, in which nothing follows a failure;
* `Effect.attempt`, which gives a failure back as a value.
-/

namespace SqlWeave

/-- A computation on a state `σ` that can fail. -/
def Effect (σ α : Type) : Type := σ → Except Failure α × σ

namespace Effect

variable {σ τ α β : Type}

/-- The computation that does nothing and gives `a`. -/
def give (a : α) : Effect σ α := fun s => (.ok a, s)

/-- The computation that fails. -/
def fail (e : Failure) : Effect σ α := fun s => (.error e, s)

/-- One computation after another; nothing follows a failure. -/
def andThen (p : Effect σ α) (k : α → Effect σ β) : Effect σ β := fun s =>
  match p s with
  | (.ok a, t) => k a t
  | (.error e, t) => (.error e, t)

instance : Monad (Effect σ) where
  pure := give
  bind := andThen

/-- A value or a failure as a computation. -/
def ofExcept : Except Failure α → Effect σ α
  | .ok a => give a
  | .error e => fail e

/-- The state. -/
def state : Effect σ σ := fun s => (.ok s, s)

/-- Changes the state. -/
def update (f : σ → σ) : Effect σ Unit := fun s => (.ok (), f s)

/-- Runs a computation and gives its value or its failure. -/
def attempt (p : Effect σ α) : Effect σ (Except Failure α) := fun s =>
  let (r, t) := p s
  (.ok r, t)

/-- Runs a computation on a part of the state. -/
def within (get : σ → τ) (set : τ → σ → σ) (p : Effect τ α) : Effect σ α := fun s =>
  let (r, t) := p (get s)
  (r, set t s)

theorem pure_apply (a : α) (s : σ) : (pure a : Effect σ α) s = (.ok a, s) := rfl

theorem fail_apply (e : Failure) (s : σ) : (fail e : Effect σ α) s = (.error e, s) := rfl

theorem bind_apply (p : Effect σ α) (k : α → Effect σ β) (s : σ) :
    (p >>= k) s = match p s with
      | (.ok a, t) => k a t
      | (.error e, t) => (.error e, t) := rfl

theorem bind_of_ok {p : Effect σ α} {k : α → Effect σ β} {s t : σ} {a : α}
    (h : p s = (.ok a, t)) : (p >>= k) s = k a t := by
  rw [bind_apply, h]

theorem bind_of_error {p : Effect σ α} {k : α → Effect σ β} {s t : σ} {e : Failure}
    (h : p s = (.error e, t)) : (p >>= k) s = (.error e, t) := by
  rw [bind_apply, h]

theorem attempt_of_eq {p : Effect σ α} {s t : σ} {r : Except Failure α} (h : p s = (r, t)) :
    attempt p s = (.ok r, t) := by
  rw [attempt, h]

theorem bind_pure (p : Effect σ α) : (p >>= fun a => pure a) = p := by
  funext s
  rw [bind_apply]
  rcases p s with ⟨r, t⟩
  cases r <;> rfl

theorem bind_assoc {γ : Type} (p : Effect σ α) (f : α → Effect σ β) (g : β → Effect σ γ) :
    (p >>= f) >>= g = p >>= fun a => f a >>= g := by
  funext s
  simp only [bind_apply]
  rcases p s with ⟨r, t⟩
  cases r <;> rfl

instance : LawfulMonad (Effect σ) :=
  LawfulMonad.mk' (Effect σ) bind_pure (fun _ _ => rfl) bind_assoc

end Effect

end SqlWeave
