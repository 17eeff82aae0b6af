import SqlWeave.Execution.Adapter

/-!
# Executors

An executor sends compiled statements to one backend. A dispatch has two halves,
and the backend may do other work between them:

1. `Executor.start` draws the next id, calls the hook before, reads the clock and
   hands the call to the backend;
2. `Executor.finish` takes the backend's answer, coerces it to outcomes, reads
   the clock again, calls the hook after with the outcomes and the duration, and
   at last runs the row mappers.

The first step that fails decides how the dispatch ends, and nothing comes after
it. A failing hook after is noted in the log, because the statements have been
executed by then.

A *direct* executor, as mock tags have it, only hands over the call, coerces what
is a mapping, and runs the mappers: it draws no id, reads no clock, calls no
hook and writes no log.

Dispatches take turns only where a backend waits. That ids are drawn under a lock,
for calls from several threads, is left out.
-/

namespace SqlWeave

/-- What an executor sends statements to. -/
inductive Backend where
  /-- A store that takes the three calls as they are. -/
  | store (number : Nat)
  /-- A recorder. -/
  | recorder (number : Nat)
  /-- A connection. -/
  | connection (number : Nat)
  /-- An engine. -/
  | engine (number : Nat)

/-- What is called before a dispatch. -/
inductive BeforeHook where
  /-- A function of the caller. -/
  | callback (number : Nat)
  /-- A value that cannot be called. -/
  | inert (typeName : String)

/-- What is called after a dispatch. -/
inductive AfterHook where
  /-- A function of the caller. -/
  | callback (number : Nat)
  /-- The query log. -/
  | queryLog (logger : String) (level : Value)
  /-- A value that cannot be called. -/
  | inert (typeName : String)

/-- An executor. -/
structure Executor where
  /-- The number that fragments and statements know it by. -/
  number : Nat
  /-- What it sends statements to. -/
  backend : Backend
  /-- The style in which its fragments are built. -/
  style : Style
  /-- The hook before a dispatch. -/
  before : Option BeforeHook := none
  /-- The hook after a dispatch. -/
  after : Option AfterHook := none
  /-- The name of the type of what it hands calls over to, if it does nothing else. -/
  handler : Option String := none

namespace Executor

/-- Whether an executor only hands over calls. -/
def direct (x : Executor) : Bool := x.handler.isSome

/-- The name of the type of an executor's backend. -/
def backendName (x : Executor) : String :=
  if x.direct then "_HandlerBackend"
  else
    match x.backend with
    | .connection _ => "SQLiteBackend"
    | .engine _ => "SQLAlchemyBackend"
    | _ => "ScriptedBackend"

/-- The name of the type of an executor. -/
def typeName (x : Executor) : String := if x.direct then "MockExecutor" else "Executor"

/-- What all executors can do. -/
def operations : List String :=
  ["all", "batch", "dispatch", "next_id", "query_result", "run", "run_result"]

/-- The parts of an executor and the names of their types. -/
def parts (x : Executor) : List (String × String) :=
  [("backend", x.backendName), ("expander", "TemplateExpander"), ("options", "TagOptions")] ++
    x.handler.toList.map (("handler", ·)) ++ operations.map (·, "method")

/-- The executor as fragments and statements know it. -/
def origin (x : Executor) : Origin := ⟨x.number, x.typeName, x.parts⟩

/-- How many numbers an executor takes: its own, and those of its parts. -/
def span : Nat := 12

theorem length_parts_lt (x : Executor) : x.parts.length < span := by
  cases h : x.handler <;> simp [parts, operations, span, h]

end Executor

/-- A call together with the row mapper of each of its statements. -/
structure Job where
  /-- The call. -/
  call : Call
  /-- The mapper of each statement whose rows are mapped. -/
  mappers : List (Option String)

/-- The first half of a dispatch. -/
structure Ticket where
  /-- What is dispatched. -/
  job : Job
  /-- The id and the time of the start; a direct executor has none. -/
  stamp : Option (Nat × Binary64)
  /-- How many rounds of other work the backend waits. -/
  delay : Nat

variable {E : Environment}

namespace Call

/-- The call after a hook before has made an alteration. The parameters of a single statement are
read after the hook, those of a batch before it. -/
def altered (a : Alteration) : Call → Call
  | all b => all ⟨b.query, a.parameters b.values⟩
  | run b => run ⟨b.query, a.parameters b.values⟩
  | batch bs => batch bs

@[simp] theorem altered_none (call : Call) : call.altered none = call := by
  cases call <;> rfl

@[simp] theorem queries_altered (a : Alteration) (call : Call) :
    (call.altered a).queries = call.queries := by
  cases call <;> rfl

end Call

namespace Job

/-- Executing a statement for its rows. -/
def all (s : Statement Value) : Job := ⟨.all s.bound, [s.mapper]⟩

/-- Executing a statement for its effect: there are no rows to map. -/
def run (s : Statement Value) : Job := ⟨.run s.bound, [none]⟩

/-- Executing statements all or none. -/
def batch (ss : List (Statement Value)) : Job := ⟨.batch (ss.map (·.bound)), ss.map (·.mapper)⟩

/-- What is executed after a hook before has made an alteration. -/
def altered (a : Alteration) (job : Job) : Job := { job with call := job.call.altered a }

@[simp] theorem altered_none (job : Job) : job.altered none = job := by
  rw [altered, Call.altered_none]

@[simp] theorem mappers_altered (a : Alteration) (job : Job) :
    (job.altered a).mappers = job.mappers := rfl

end Job

namespace Backend

/-- Hands a call to the backend: how many rounds of other work it waits. -/
def submit : Backend → Call → Act E Nat
  | store n, call => Act.ask (.submit n call)
  | _, _ => pure 0

/-- What a recorder answers to a call. -/
def recorded (rows : List Value) : Call → Value
  | .all _ => .query none { rows }
  | .run _ => .run {}
  | .batch bs => .ofList (bs.map fun _ => .query none { rows })

/-- Takes the backend's answer to a call. -/
def collect : Backend → Call → Act E Value
  | store n, call => do
    let r ← Act.ask (.collect n call)
    Effect.ofExcept r
  | recorder n, call => do
    let rows ← Act.hear n call
    pure (recorded rows call)
  | connection n, call => Connection.answer n call
  | engine n, call => Engine.answer n call

end Backend

namespace BeforeHook

/-- Calls a hook before a dispatch. -/
def call (id : Nat) (queries : List String) : BeforeHook → Act E Alteration
  | callback n => do
    let r ← Act.ask (.before n id queries)
    Effect.ofExcept r
  | inert typeName => Effect.fail (.notCallable typeName)

end BeforeHook

namespace AfterHook

/-- Calls a hook after a dispatch. The query log alters nothing. -/
def call (id : Nat) (queries : List String) (results : List Value) (duration : Binary64) :
    AfterHook → Act E Alteration
  | callback n => do
    let r ← Act.ask (.after n id queries results duration)
    Effect.ofExcept r
  | queryLog logger level => do
    let w ← Effect.state
    Act.publish <| QueryLog.report w.threshold level logger (queries.map .text) results
      (.primitive (.float duration))
    pure none
  | inert typeName => Effect.fail (.notCallable typeName)

end AfterHook

namespace Executor

/-! ### Coercing answers -/

/-- One answer as an outcome with rows. A direct executor coerces mappings only. -/
def coerceQuery (x : Executor) (v : Value) : Except Failure Value :=
  match x.direct, v with
  | false, v | true, v@(.dict _) => Outcome.asQuery v
  | true, v => .ok v

/-- One answer as an outcome without rows. A direct executor coerces mappings
only. -/
def coerceRun (x : Executor) (v : Value) : Except Failure Value :=
  match x.direct, v with
  | false, v | true, v@(.dict _) => Outcome.asRun v
  | true, v => .ok v

/-- Answers as outcomes with rows; the first one that is none is the failure. -/
def coerceEach (x : Executor) : List Value → Except Failure (List Value)
  | [] => .ok []
  | v :: vs =>
    match x.coerceQuery v with
    | .error e => .error e
    | .ok r =>
      match x.coerceEach vs with
      | .error e => .error e
      | .ok rs => .ok (r :: rs)

/-- The answer to a batch of so many statements: an outcome for each item, and as
many of them as statements. -/
def coerceBatch (x : Executor) (expected : Nat) (v : Value) : Except Failure (List Value) :=
  match v.items with
  | .error e => .error e
  | .ok items =>
    match x.coerceEach items with
    | .error e => .error e
    | .ok results =>
      if results.length = expected then .ok results
      else .error (.structural (.resultMismatch expected results.length))

/-- The answer to a call as one result for each statement. -/
def coerce (x : Executor) (v : Value) : Call → Except Failure (List Value)
  | .all _ => (x.coerceQuery v).map ([·])
  | .run _ => (x.coerceRun v).map ([·])
  | .batch bs => x.coerceBatch bs.length v

/-! ### Mapping rows -/

/-- Maps rows one after the other. -/
def mapRows (mapper : String) : List Value → Act E (List Value)
  | [] => pure []
  | row :: rows => do
    let r ← Act.ask (.mapRow mapper row)
    let row ← Effect.ofExcept r
    let rows ← mapRows mapper rows
    pure (row :: rows)

/-- Maps the rows of one result, if its statement has a mapper and it has rows. An outcome
that is held elsewhere too has the mapped rows there as well. -/
def mapResult (mapper : Option String) (result : Value) : Act E Value :=
  match mapper, result with
  | some m, .query none o => do
    let rows ← mapRows m o.rows
    pure (.query none { o with rows })
  | some m, .query (some number) o => do
    let rows ← mapRows m o.rows
    let rows ← Act.refresh number rows
    pure (.query (some number) { o with rows })
  | _, v => pure v

/-- What the mapping of one result changes in the others: they can hold the same
outcome. -/
def renewal : Value → Value → Value
  | .query (some number) o => Value.refresh number o.rows
  | _ => id

/-- Maps the rows of each result, after those of the results that are `done`. -/
def mapEach (done : List Value) : List (Option String) → List Value → Act E (List Value)
  | m :: ms, v :: vs => do
    let v ← mapResult m v
    mapEach (done.map (renewal v) ++ [v]) ms (vs.map (renewal v))
  | _, vs => pure (done ++ vs)

/-- Maps the rows of each result. -/
def mapResults (mappers : List (Option String)) (results : List Value) : Act E (List Value) :=
  mapEach [] mappers results

/-! ### Dispatch -/

/-- The logger of executors. -/
def logger : String := "fragql.execute.executor"

/-- The first half of a dispatch. -/
def start (x : Executor) (job : Job) : Act E Ticket := do
  if x.direct then
    let delay ← x.backend.submit job.call
    pure ⟨job, none, delay⟩
  else
    let queries := job.call.queries
    let id ← Act.drawId x.number
    let alteration ← match x.before with
      | none => pure none
      | some hook => hook.call id queries
    let job := job.altered alteration
    Act.log ⟨10, logger, s!"query {id}: dispatching {queries.length} statement(s)"⟩
    let now ← Act.ask .clock
    let delay ← x.backend.submit job.call
    pure ⟨job, some (id, now), delay⟩

/-- What is logged about a hook that failed after a dispatch. -/
def hookFailed (id count : Nat) : LogRecord :=
  ⟨30, logger,
    s!"after_query hook failed for query {id}; its {count} statement(s) already executed"⟩

/-- Calls the hook after a dispatch, and gives what it has altered. -/
def runAfter (x : Executor) (id : Nat) (queries : List String) (results : List Value)
    (duration : Binary64) : Act E Alteration := do
  match x.after with
  | none => pure none
  | some hook =>
    match ← Effect.attempt (hook.call id queries results duration) with
    | .ok alteration => pure alteration
    | .error e =>
      if e.ordinary then Act.log (hookFailed id queries.length)
      Effect.fail e

/-- The second half of a dispatch, before the mappers: one result for each
statement. -/
def conclude (x : Executor) (t : Ticket) : Act E (List Value) := do
  let call := t.job.call
  let answer ← x.backend.collect call
  let results ← Effect.ofExcept (x.coerce answer call)
  match t.stamp with
  | none => pure results
  | some (id, started) =>
    let now ← Act.ask .clock
    let duration := now.millisecondsSince started
    Act.log ⟨10, logger, s!"query {id}: finished in {String.ofList (duration.fixed 2)} ms"⟩
    let alteration ← x.runAfter id call.queries results duration
    pure (alteration.results results)

/-- The second half of a dispatch: one result for each statement, its rows
mapped. -/
def finish (x : Executor) (t : Ticket) : Act E (List Value) := do
  let results ← x.conclude t
  mapResults t.job.mappers results

/-- A dispatch as a whole. -/
def dispatch (x : Executor) (job : Job) : Act E (List Value) := do
  let t ← x.start job
  x.finish t

end Executor

end SqlWeave
