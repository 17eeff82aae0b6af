import SqlWeave.Proofs.Execution.Parallel

/-!
# Related computations

Two computations, each on a state of its own, that go together: started in states with a relation
they end in such states, and agree on how they end (`Effect.Relates`). There is one rule for each way
of making a computation, and two for what only one of them does first (`Relates.left`,
`Relates.right`): that has to keep the relation by itself (`Effect.Preserves`) and must not fail
(`Effect.Returns`).
-/

namespace SqlWeave.Effect

variable {σ τ α α' β β' : Type}

/-! ### One computation -/

/-- Whatever it comes to, the computation keeps a property of states. -/
def Preserves (I : σ → Prop) (p : Effect σ α) : Prop := ∀ s, I s → I (p s).2

/-- Started in a state with the property, the computation does not fail. -/
def Returns (I : σ → Prop) (p : Effect σ α) : Prop := ∀ s, I s → ∃ a, (p s).1 = .ok a

namespace Preserves

variable {I : σ → Prop}

theorem pure (a : α) : Preserves I (Pure.pure a : Effect σ α) := fun _ hs => hs

theorem fail (e : Failure) : Preserves I (Effect.fail e : Effect σ α) := fun _ hs => hs

theorem ofExcept (r : Except Failure α) : Preserves I (Effect.ofExcept r : Effect σ α) := by
  cases r with
  | ok a => exact pure a
  | error e => exact fail e

/-- What follows has to keep the property for those values only that the first part can give. -/
theorem bind {p : Effect σ α} {k : α → Effect σ β} (hp : Preserves I p)
    (hk : ∀ s a, (p s).1 = .ok a → Preserves I (k a)) : Preserves I (p >>= k) := by
  intro s hs
  have ht := hp s hs
  rw [bind_apply]
  rcases h : p s with ⟨e | a, t⟩
  · rw [h] at ht
    exact ht
  · rw [h] at ht
    exact hk s a (congrArg Prod.fst h) t ht

theorem attempt {p : Effect σ α} (hp : Preserves I p) : Preserves I (attempt p) := hp

end Preserves

namespace Returns

variable {I : σ → Prop}

theorem pure (a : α) : Returns I (Pure.pure a : Effect σ α) := fun _ _ => ⟨a, rfl⟩

/-- What follows has to return for those values only that the first part can give. -/
theorem bind {p : Effect σ α} {k : α → Effect σ β} (hp : Returns I p) (hkeeps : Preserves I p)
    (hk : ∀ s a, I s → (p s).1 = .ok a → Returns I (k a)) : Returns I (p >>= k) := by
  intro s hs
  obtain ⟨a, ha⟩ := hp s hs
  rw [bind_of_ok (Prod.ext ha rfl)]
  exact hk s a hs ha _ (hkeeps s hs)

end Returns

/-! ### Two computations -/

/-- Started in states with the relation, the computations end in such states, and agree. -/
def Relates (W : σ → τ → Prop) (Q : α → α' → Prop) (p : Effect σ α) (q : Effect τ α') : Prop :=
  ∀ s t, W s t → W (p s).2 (q t).2 ∧ Agree Q (p s).1 (q t).1

/-- What agrees failed with the same failure, or succeeded. -/
theorem Agree.both {Q : α → β → Prop} {r : Except Failure α} {r' : Except Failure β}
    (h : Agree Q r r') :
    (∃ e, r = .error e ∧ r' = .error e) ∨ ∃ a b, r = .ok a ∧ r' = .ok b ∧ Q a b := by
  cases h with
  | error => exact .inl ⟨_, rfl, rfl⟩
  | ok hQ => exact .inr ⟨_, _, rfl, rfl, hQ⟩

namespace Relates

variable {W : σ → τ → Prop} {Q : α → α' → Prop} {S : β → β' → Prop}

theorem pure {a : α} {a' : α'} (h : Q a a') :
    Relates W Q (Pure.pure a : Effect σ α) (Pure.pure a' : Effect τ α') :=
  fun _ _ hW => ⟨hW, .ok h⟩

theorem fail (e : Failure) :
    Relates W Q (Effect.fail e : Effect σ α) (Effect.fail e : Effect τ α') :=
  fun _ _ hW => ⟨hW, .error⟩

theorem ofExcept {r : Except Failure α} {r' : Except Failure α'} (h : Agree Q r r') :
    Relates W Q (Effect.ofExcept r : Effect σ α) (Effect.ofExcept r' : Effect τ α') := by
  cases h with
  | ok h => exact pure h
  | error => exact fail _

theorem bind {p : Effect σ α} {q : Effect τ α'} {k : α → Effect σ β} {l : α' → Effect τ β'}
    (hp : Relates W Q p q) (hk : ∀ a a', Q a a' → Relates W S (k a) (l a')) :
    Relates W S (p >>= k) (q >>= l) := by
  intro s t hW
  obtain ⟨hend, hagree⟩ := hp s t hW
  rw [bind_apply, bind_apply]
  rcases h : p s with ⟨r, s'⟩
  rcases h' : q t with ⟨r', t'⟩
  rw [h, h'] at hend hagree
  cases hagree with
  | error => exact ⟨hend, .error⟩
  | ok hQ => exact hk _ _ hQ s' t' hend

/-- After computations that agree on the value, the value is one. -/
theorem bind_eq {p : Effect σ α} {q : Effect τ α} {k : α → Effect σ β} {l : α → Effect τ β'}
    (hp : Relates W Eq p q) (hk : ∀ a, Relates W S (k a) (l a)) :
    Relates W S (p >>= k) (q >>= l) := by
  refine hp.bind fun a a' h => ?_
  subst h
  exact hk a

theorem attempt {p : Effect σ α} {q : Effect τ α} (hp : Relates W Eq p q) :
    Relates W Eq (Effect.attempt p) (Effect.attempt q) := by
  intro s t hW
  obtain ⟨hend, hagree⟩ := hp s t hW
  exact ⟨hend, .ok hagree.eq⟩

/-- Only the first computation does something before. -/
theorem left {p : Effect σ α} {k : α → Effect σ β} {q : Effect τ β'}
    (hp : ∀ t, Preserves (W · t) p) (hreturns : ∀ t, Returns (W · t) p)
    (hk : ∀ a, Relates W S (k a) q) : Relates W S (p >>= k) q := by
  intro s t hW
  obtain ⟨a, ha⟩ := hreturns t s hW
  rw [bind_of_ok (Prod.ext ha rfl)]
  exact hk a _ t (hp t s hW)

/-- Only the second computation does something before. -/
theorem right {p : Effect σ β} {q : Effect τ α'} {l : α' → Effect τ β'}
    (hq : ∀ s, Preserves (W s) q) (hreturns : ∀ s, Returns (W s) q)
    (hl : ∀ a, Relates W S p (l a)) : Relates W S p (q >>= l) := by
  intro s t hW
  obtain ⟨a, ha⟩ := hreturns s t hW
  rw [bind_of_ok (Prod.ext ha rfl)]
  exact hl a s _ (hq s t hW)

end Relates

end SqlWeave.Effect
