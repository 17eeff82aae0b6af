import SqlWeave.Proofs.Execution.Recorded

/-!
# The steps of a dispatch

A dispatch as a sequence of named steps: the first half under the id that it draws
(`Executor.startAs`), which ends with the call to the backend (`Executor.handOver`), and the second
half as the answer of the backend, its coercion and the report to the hook after
(`Executor.report`). Without its row mappers a dispatch is `Executor.perform`.
-/

namespace SqlWeave.Executor

variable {E : Environment}

/-- What is logged before a call is handed to a backend. -/
def dispatching (id count : Nat) : LogRecord :=
  ⟨10, logger, s!"query {id}: dispatching {count} statement(s)"⟩

/-- What is logged after a backend has answered. -/
def finished (id : Nat) (duration : Binary64) : LogRecord :=
  ⟨10, logger, s!"query {id}: finished in {String.ofList (duration.fixed 2)} ms"⟩

/-- Calls the hook before a dispatch, if there is one. -/
def callBefore (x : Executor) (id : Nat) (queries : List String) : Act E Alteration :=
  match x.before with
  | none => pure none
  | some hook => hook.call id queries

/-- What comes after the hook in the first half of a dispatch. -/
def handOver (x : Executor) (job : Job) (id : Nat) : Act E Ticket := do
  Act.log (dispatching id job.call.queries.length)
  let now ← Act.ask .clock
  let delay ← x.backend.submit job.call
  pure ⟨job, some (id, now), delay⟩

/-- The first half of a dispatch under an id. -/
def startAs (x : Executor) (job : Job) (id : Nat) : Act E Ticket := do
  let a ← x.callBefore id job.call.queries
  x.handOver (job.altered a) id

theorem start_of_direct {x : Executor} (h : x.direct = true) (job : Job) :
    (x.start job : Act E Ticket) = (do
      let delay ← x.backend.submit job.call
      pure ⟨job, none, delay⟩) := by
  rw [start, if_pos h]

theorem start_of_not_direct {x : Executor} (h : x.direct = false) (job : Job) :
    (x.start job : Act E Ticket) = Act.drawId x.number >>= x.startAs job := by
  have hstartAs : x.startAs job = fun id => (x.startAs job id : Act E Ticket) := rfl
  rw [start, h, hstartAs]
  simp only [startAs, callBefore, handOver, Job.altered, Call.queries_altered]
  cases x.before with
  | none => rfl
  | some hook => rfl

/-- Reads the clock and calls the hook after a dispatch, unless the executor is direct. The results
are what the hook leaves. -/
def report (x : Executor) (t : Ticket) (results : List Value) : Act E (List Value) :=
  match t.stamp with
  | none => pure results
  | some (id, started) => do
    let now ← Act.ask .clock
    Act.log (finished id (now.millisecondsSince started))
    let a ← x.runAfter id t.job.call.queries results (now.millisecondsSince started)
    pure (a.results results)

theorem report_of_stamp {x : Executor} {t : Ticket} {id : Nat} {started : Binary64}
    (h : t.stamp = some (id, started)) (results : List Value) :
    (x.report t results : Act E (List Value)) = (do
      let now ← Act.ask .clock
      Act.log (finished id (now.millisecondsSince started))
      let a ← x.runAfter id t.job.call.queries results (now.millisecondsSince started)
      pure (a.results results)) := by
  rw [report, h]

theorem report_of_no_stamp {x : Executor} {t : Ticket} (h : t.stamp = none) (results : List Value) :
    (x.report t results : Act E (List Value)) = pure results := by
  rw [report, h]

theorem conclude_eq (x : Executor) (t : Ticket) :
    (x.conclude t : Act E (List Value)) = (do
      let answer ← x.backend.collect t.job.call
      let results ← Effect.ofExcept (x.coerce answer t.job.call)
      x.report t results) := by
  rw [conclude]
  refine congrArg _ (funext fun answer => congrArg _ (funext fun results => ?_))
  rw [report]
  rcases t.stamp with _ | ⟨id, started⟩
  · rfl
  · rfl

/-- Logs a warning about a hook after a dispatch that failed, if the failure is ordinary. -/
def warn (id count : Nat) (e : Failure) : Act E Unit :=
  if e.ordinary then Act.log (hookFailed id count) else pure ()

/-- Passes on what came of a hook after a dispatch; a failure is warned of first. -/
def passOn (id count : Nat) : Except Failure Alteration → Act E Alteration
  | .ok a => pure a
  | .error e => warn id count e >>= fun _ => Effect.fail e

theorem runAfter_of_hook {x : Executor} {hook : AfterHook} (h : x.after = some hook) (id : Nat)
    (queries : List String) (results : List Value) (duration : Binary64) :
    (x.runAfter id queries results duration : Act E Alteration) =
      Effect.attempt (hook.call id queries results duration) >>= passOn id queries.length := by
  rw [runAfter, h]
  show Effect.attempt _ >>= _ = Effect.attempt _ >>= _
  refine congrArg _ (funext fun r => ?_)
  rcases r with e | a
  · cases he : e.ordinary with
    | false => simp only [he, warn, passOn]; rfl
    | true => simp only [he, warn, passOn]; rfl
  · rfl

/-- The two halves of a dispatch, without the mappers. -/
def perform (x : Executor) (job : Job) : Act E (List Value) := do
  let t ← x.start job
  x.conclude t

theorem dispatch_eq (x : Executor) (job : Job) :
    (x.dispatch job : Act E (List Value)) = x.perform job >>= mapResults job.mappers := by
  rw [dispatch, perform]
  cases h : x.direct with
  | true =>
    rw [start_of_direct h]
    simp only [bind_assoc, pure_bind, finish]
  | false =>
    have hstartAs : x.startAs job = fun id => (x.startAs job id : Act E Ticket) := rfl
    rw [start_of_not_direct h, hstartAs]
    simp only [startAs, handOver, bind_assoc, pure_bind, finish, Job.mappers_altered]

end SqlWeave.Executor

namespace SqlWeave.AfterHook

variable {E : Environment}

theorem call_queryLog (id : Nat) (queries : List String) (results : List Value)
    (duration : Binary64) (logger : String) (level : Value) (w : World E) :
    (queryLog logger level).call id queries results duration w =
      (Act.publish (QueryLog.report w.threshold level logger (queries.map .text) results
        (.primitive (.float duration))) >>= fun _ => pure none) w := rfl

/-- The query log ends as its report does, whatever is written. -/
theorem call_queryLog_fst (id : Nat) (queries : List String) (results : List Value)
    (duration : Binary64) (logger : String) (level : Value) (w : World E) :
    ((queryLog logger level).call id queries results duration w).1 =
      (QueryLog.report w.threshold level logger (queries.map .text) results
        (.primitive (.float duration)) []).1.map fun _ => none := by
  rw [call_queryLog, Act.publish_bind_fst]

end SqlWeave.AfterHook
