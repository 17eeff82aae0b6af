import SqlWeave.Proofs.Execution.Repeated

/-!
# Hooks that fail after a dispatch

If the hook after a dispatch fails (`Executor.Objects`), that failure is how the dispatch ends, and no
row is mapped (`Executor.finish_of_objects`). Nothing else fails once the answer of the backend has
been coerced (`Executor.report_fst`).
-/

namespace SqlWeave.Executor

variable {E : Environment}

/-- The call of a hook after a dispatch: the clock is read before it. -/
def inform (hook : AfterHook) (id : Nat) (started : Binary64) (queries : List String)
    (results : List Value) : Act E Alteration := do
  let now ← Act.ask .clock
  Act.log (finished id (now.millisecondsSince started))
  hook.call id queries results (now.millisecondsSince started)

/-- What comes of a hook that always ends the same way. -/
theorem inform_fst {hook : AfterHook} {id : Nat} {queries : List String} {results : List Value}
    {r : Except Failure Alteration}
    (h : ∀ (duration : Binary64) (u : World E), (hook.call id queries results duration u).1 = r)
    (started : Binary64) (w : World E) : (inform hook id started queries results w).1 = r := by
  have hclock : Act.ask .clock w = (.ok _, (Act.ask .clock w).2) := rfl
  rw [inform, Effect.bind_of_ok hclock, Effect.bind_of_ok (Prod.ext (Act.log_fst _ _) rfl)]
  exact h _ _

/-- The second half of a dispatch comes to the hook, with the coerced answer of the backend, and the
hook fails. -/
inductive Objects (x : Executor) (t : Ticket) (w : World E) (e : Failure) : Prop where
  /-- The hook fails. -/
  | objects {v : Value} {results : List Value} {hook : AfterHook} {id : Nat} {started : Binary64} :
    (x.backend.collect t.job.call w).1 = .ok v → x.coerce v t.job.call = .ok results →
      t.stamp = some (id, started) → x.after = some hook →
      (inform hook id started t.job.call.queries results (x.backend.collect t.job.call w).2).1 =
        .error e →
      Objects x t w e

/-- Passing on what came of a hook does not change it, but for what is made of an alteration. -/
theorem attempt_passOn_fst {α : Type} (id count : Nat) (p : Act E.recorded Alteration)
    (f : Alteration → α) (w : World E.recorded) :
    ((Effect.attempt p >>= fun r => passOn id count r >>= fun a => pure (f a) :
      Act E.recorded α) w).1 = (p w).1.map f := by
  rcases hp : p w with ⟨r, u⟩
  rw [Effect.bind_of_ok (Effect.attempt_of_eq hp), Effect.bind_apply]
  have hpassed := passOn_fst id count r u
  rcases hpass : passOn id count r u with ⟨e | a, v⟩
  · rw [hpass] at hpassed
    rw [← hpassed]
    rfl
  · rw [hpass] at hpassed
    rw [← hpassed]
    rfl

/-- What comes of the answer is decided by the hook, if there is one and it is called. -/
theorem report_fst {x : Executor} {t : Ticket} {hook : AfterHook} {id : Nat} {started : Binary64}
    (hstamp : t.stamp = some (id, started)) (hafter : x.after = some hook) (results : List Value)
    (w : World E.recorded) :
    (x.report t results w).1 =
      (inform hook id started t.job.call.queries results w).1.map (·.results results) := by
  have hclock : Act.ask .clock w = (.ok _, (Act.ask .clock w).2) := rfl
  rw [report_of_stamp hstamp, inform, Effect.bind_of_ok hclock, Effect.bind_of_ok hclock,
    Effect.bind_of_ok (Prod.ext (Act.log_fst _ _) rfl),
    Effect.bind_of_ok (Prod.ext (Act.log_fst _ _) rfl), runAfter_of_hook hafter, bind_assoc]
  exact attempt_passOn_fst id _ _ _ _

/-- Without a hook that is called, all results go on as they are. -/
theorem report_of_silent {x : Executor} {t : Ticket} (h : t.stamp = none ∨ x.after = none)
    (results : List Value) (w : World E) : (x.report t results w).1 = .ok results := by
  rcases hstamp : t.stamp with _ | ⟨id, started⟩
  · rw [report_of_no_stamp hstamp]
    rfl
  · obtain h | hafter := h
    · rw [hstamp] at h
      cases h
    · have hclock : Act.ask .clock w = (.ok _, (Act.ask .clock w).2) := rfl
      rw [report_of_stamp hstamp, Effect.bind_of_ok hclock,
        Effect.bind_of_ok (Prod.ext (Act.log_fst _ _) rfl), runAfter, hafter]
      rfl

/-- What fails after the answer has been coerced is the hook. -/
theorem objects_of_report {x : Executor} {t : Ticket} {w : World E.recorded} {v : Value}
    {results : List Value} {e : Failure} (hv : (x.backend.collect t.job.call w).1 = .ok v)
    (hresults : x.coerce v t.job.call = .ok results)
    (h : (x.report t results (x.backend.collect t.job.call w).2).1 = .error e) : x.Objects t w e := by
  rcases hstamp : t.stamp with _ | ⟨id, started⟩
  · rw [report_of_silent (.inl hstamp)] at h
    cases h
  · rcases hafter : x.after with _ | hook
    · rw [report_of_silent (.inr hafter)] at h
      cases h
    · rw [report_fst hstamp hafter] at h
      refine .objects hv hresults hstamp hafter ?_
      rcases hcalled : (inform hook id started t.job.call.queries results
        (x.backend.collect t.job.call w).2).1 with e' | a
      · rw [hcalled] at h
        exact congrArg _ (Except.error.inj h)
      · rw [hcalled] at h
        cases h

/-- **A dispatch ends with the failure of the hook after it**, and no row is mapped. -/
theorem finish_of_objects {x : Executor} {t : Ticket} {w : World E.recorded} {e : Failure}
    (h : x.Objects t w e) :
    (x.finish t w).1 = .error e ∧
      ∃ es, w.Extends (x.finish t w).2 es ∧ ∀ y ∈ es, Unmapped y.request := by
  obtain ⟨hv, hresults, hstamp, hafter, hfailed⟩ := h
  have hconclude : (x.conclude t w).1 = .error e := by
    rw [conclude_eq, Effect.bind_of_ok (Prod.ext hv rfl), hresults]
    show (x.report t _ _).1 = _
    rw [report_fst hstamp hafter, hfailed]
    rfl
  obtain ⟨es, hext, hes, -⟩ := asks_conclude x t w
  rw [finish, Effect.bind_of_error (Prod.ext hconclude rfl)]
  exact ⟨rfl, es, hext, hes⟩

/-- The first half of a dispatch maps no row. -/
theorem start_unmapped (x : Executor) (job : Job) (w : World E.recorded) :
    ∃ es, (x.start job w).2.past = w.past ++ es ∧ ∀ y ∈ es, Unmapped y.request := by
  cases h : x.direct with
  | true =>
    rw [start_of_direct h]
    obtain ⟨es, hext, hes, -⟩ := Act.Asks.bind (asks_submit x.backend job.call)
      (fun d => .pure (⟨job, none, d⟩ : Ticket)) w
    exact ⟨es, hext.past, hes⟩
  | false =>
    rw [start_of_not_direct h]
    obtain ⟨es, hext, hes, -⟩ := asks_startAs x job (w.drawn x.number + 1) (Act.drawId x.number w).2
    exact ⟨es, hext.past, hes⟩

end SqlWeave.Executor
