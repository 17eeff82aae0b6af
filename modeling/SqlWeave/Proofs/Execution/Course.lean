import SqlWeave.Proofs.Execution.Asked

/-!
# The course of a dispatch

All that can be asked in the course of a dispatch, in order, together with how the dispatch ends. The
steps of an executor that is not direct are: the hook before; a reading of the clock; the call to the
backend and the coercion of its answer; a second reading of the clock; the hook after; and the row
mappers. What is dispatched is a `Plan`, in which the call is open to what the hook before alters.
`Executor.Concluded` lists the ways in which a plan can go up to its mappers, `Executor.Dispatched`
those of the whole.
-/

namespace SqlWeave

/-! ### Plans -/

/-- What a dispatch is to do. -/
@[ext]
structure Plan where
  /-- The queries, of which the hooks are told. -/
  queries : List String
  /-- The call to the backend, after what the hook before has altered. -/
  call : Alteration → Call
  /-- How the answer of the backend is taken: as one result for each statement, or refused. -/
  take : Value → Except Failure (List Value)
  /-- The mapper of each statement whose rows are mapped. -/
  mappers : List (Option String)

/-- What an executor does with a job. -/
def Executor.plan (x : Executor) (job : Job) : Plan where
  queries := job.call.queries
  call a := job.call.altered a
  take v := x.coerce v job.call
  mappers := job.mappers

/-! ### Hooks -/

/-- What is asked when there may be a hook before a dispatch, and how that ends. -/
inductive BeforeHook.Called (id : Nat) (queries : List String) :
    Option BeforeHook → List Exchange → Except Failure Alteration → Prop where
  /-- There is no hook, and nothing is altered. -/
  | absent : Called id queries none [] (.ok none)
  /-- A function is called once, and its answer is how it ends. -/
  | callback {n : Nat} {a : Except Failure Alteration} :
    Called id queries (some (.callback n)) [⟨.before n id queries, a⟩] a
  /-- What is no function cannot be called. -/
  | inert {typeName : String} :
    Called id queries (some (.inert typeName)) [] (.error (.notCallable typeName))

/-- What is asked when there may be a hook after a dispatch, and how that ends. -/
inductive AfterHook.Called (th : Threshold) (id : Nat) (queries : List String)
    (results : List Value) (duration : Binary64) :
    Option AfterHook → List Exchange → Except Failure Alteration → Prop where
  /-- There is no hook, and nothing is altered. -/
  | absent : Called th id queries results duration none [] (.ok none)
  /-- A function is called once, and its answer is how it ends. -/
  | callback {n : Nat} {a : Except Failure Alteration} :
    Called th id queries results duration (some (.callback n))
      [⟨.after n id queries results duration, a⟩] a
  /-- The query log writes what it records, and ends as its report does. -/
  | logged {logger : String} {level : Value} {ending : Except Failure Unit}
      {records : List LogRecord} {r : Except Failure Alteration} :
    QueryLog.report th level logger (queries.map .text) results (.primitive (.float duration)) [] =
        (ending, records) →
      r = ending.map (fun _ => none) →
      Called th id queries results duration (some (.queryLog logger level))
        (records.flatMap (·.written th)) r
  /-- What is no function cannot be called. -/
  | inert {typeName : String} :
    Called th id queries results duration (some (.inert typeName)) []
      (.error (.notCallable typeName))

/-! ### The backend -/

/-- What is asked when a call is handed to a backend and its answer is taken. -/
inductive Backend.Called (E : Environment) (call : Call) :
    Backend → List Exchange → Except Failure Value → Prop where
  /-- A store is handed the call once, and gives one answer. -/
  | store {n delay : Nat} {a : Except Failure Value} :
    Called E call (.store n) [⟨.submit n call, delay⟩, ⟨.collect n call, a⟩] a
  /-- A recorder gives its rows, and nothing is asked. -/
  | recorder {n : Nat} {rows : List Value} :
    Called E call (.recorder n) [] (.ok (Backend.recorded rows call))
  /-- The statements of the call are executed on a connection. -/
  | connection {n : Nat} {w : World E.recorded} {es : List Exchange} :
    w.Extends (Connection.answer n call w).2 es → (∀ x ∈ es, Connection.Concerns n x.request) →
      Called E call (.connection n) es (Connection.answer n call w).1
  /-- The statements of the call are executed on an engine. -/
  | engine {n : Nat} {w : World E.recorded} {es : List Exchange} :
    w.Extends (Engine.answer n call w).2 es → (∀ x ∈ es, Engine.Concerns n x.request) →
      Called E call (.engine n) es (Engine.answer n call w).1

/-! ### Row mappers -/

namespace Executor

/-- A mapper gets rows one after the other, up to the first at which it fails. -/
inductive RowsMapped (mapper : String) :
    List Value → List Exchange → Except Failure (List Value) → Prop where
  /-- There are no rows. -/
  | nil : RowsMapped mapper [] [] (.ok [])
  /-- The mapper fails at a row, and gets none of the others. -/
  | failed {row : Value} {rows : List Value} {e : Failure} :
    RowsMapped mapper (row :: rows) [⟨.mapRow mapper row, .error e⟩] (.error e)
  /-- The mapper gives a value for a row, and then gets the others. -/
  | cons {row v : Value} {rows : List Value} {es : List Exchange}
      {r : Except Failure (List Value)} :
    RowsMapped mapper rows es r →
      RowsMapped mapper (row :: rows) (⟨.mapRow mapper row, .ok v⟩ :: es) (r.map (v :: ·))

/-- The rows of a result are mapped, if its statement has a mapper and it is an outcome with
rows. -/
inductive ResultMapped : Option String → Value → List Exchange → Except Failure Value → Prop where
  /-- The statement has no mapper. -/
  | unmapped {v : Value} : ResultMapped none v [] (.ok v)
  /-- The result has no rows. -/
  | rowless {mapper : String} {v : Value} :
    (∀ label o, v ≠ .query label o) → ResultMapped (some mapper) v [] (.ok v)
  /-- The rows of an outcome are mapped. -/
  | query {mapper : String} {o : QueryOutcome Value} {es : List Exchange}
      {r : Except Failure (List Value)} :
    RowsMapped mapper o.rows es r →
      ResultMapped (some mapper) (.query none o) es (r.map fun rows => .query none { o with rows })
  /-- The rows of an outcome that is held elsewhere too are mapped, and numbered. -/
  | held {mapper : String} {number next : Nat} {o : QueryOutcome Value} {es : List Exchange}
      {r : Except Failure (List Value)} :
    RowsMapped mapper o.rows es r →
      ResultMapped (some mapper) (.query (some number) o) es
        (r.map fun rows => .query (some number) { o with rows := (Value.shareItems rows next).1 })

/-- The rows of results are mapped, result by result, up to the first failure. -/
inductive ResultsMapped : List Value → List (Option String) → List Value → List Exchange →
    Except Failure (List Value) → Prop where
  /-- No result is left. -/
  | nil {done vs : List Value} {ms : List (Option String)} :
    ms = [] ∨ vs = [] → ResultsMapped done ms vs [] (.ok (done ++ vs))
  /-- The mapping of a result fails, and no other result is mapped. -/
  | failed {done vs : List Value} {m : Option String} {ms : List (Option String)} {v : Value}
      {es : List Exchange} {e : Failure} :
    ResultMapped m v es (.error e) → ResultsMapped done (m :: ms) (v :: vs) es (.error e)
  /-- A result is mapped, wherever it is held, and then the others are. -/
  | cons {done vs : List Value} {m : Option String} {ms : List (Option String)} {v v' : Value}
      {es fs : List Exchange} {r : Except Failure (List Value)} :
    ResultMapped m v es (.ok v') →
      ResultsMapped (done.map (renewal v') ++ [v']) ms (vs.map (renewal v')) fs r →
      ResultsMapped done (m :: ms) (v :: vs) (es ++ fs) r

/-- Mapping rows asks the mapper. -/
theorem RowsMapped.request {mapper : String} {rows : List Value} {es : List Exchange}
    {r : Except Failure (List Value)} (h : RowsMapped mapper rows es r) :
    ∀ y ∈ es, ∃ row, y.request = .mapRow mapper row := by
  induction h with
  | nil => exact fun y hy => absurd hy List.not_mem_nil
  | failed =>
    intro y hy
    rw [List.mem_singleton] at hy
    subst hy
    exact ⟨_, rfl⟩
  | cons _ ih =>
    intro y hy
    rcases List.mem_cons.mp hy with rfl | hy
    · exact ⟨_, rfl⟩
    · exact ih y hy

/-- Mapping a result asks the mapper of its statement. -/
theorem ResultMapped.request {m : Option String} {v : Value} {es : List Exchange}
    {r : Except Failure Value} (h : ResultMapped m v es r) :
    ∀ y ∈ es, ∃ mapper row, m = some mapper ∧ y.request = .mapRow mapper row := by
  intro y hy
  cases h with
  | unmapped => cases hy
  | rowless => cases hy
  | query h =>
    obtain ⟨row, hrow⟩ := h.request y hy
    exact ⟨_, row, rfl, hrow⟩
  | held h =>
    obtain ⟨row, hrow⟩ := h.request y hy
    exact ⟨_, row, rfl, hrow⟩

/-- Mapping results asks the mappers that there are. -/
theorem ResultsMapped.request {done vs : List Value} {ms : List (Option String)}
    {es : List Exchange} {r : Except Failure (List Value)} (h : ResultsMapped done ms vs es r) :
    ∀ y ∈ es, ∃ mapper row, some mapper ∈ ms ∧ y.request = .mapRow mapper row := by
  induction h with
  | nil => exact fun y hy => absurd hy List.not_mem_nil
  | failed h =>
    intro y hy
    obtain ⟨mapper, row, rfl, hrow⟩ := h.request y hy
    exact ⟨mapper, row, List.mem_cons_self, hrow⟩
  | cons h _ ih =>
    intro y hy
    rcases List.mem_append.mp hy with hy | hy
    · obtain ⟨mapper, row, rfl, hrow⟩ := h.request y hy
      exact ⟨mapper, row, List.mem_cons_self, hrow⟩
    · obtain ⟨mapper, row, hmem, hrow⟩ := ih y hy
      exact ⟨mapper, row, List.mem_cons_of_mem _ hmem, hrow⟩

/-! ### The whole -/

/-- What is asked before a call is handed to a backend, if nothing of it fails; the stamp that the
dispatch gets; and what the hook has altered. -/
inductive Opened (x : Executor) (th : Threshold) (queries : List String) (id : Nat) :
    List Exchange → Option (Nat × Binary64) → Alteration → Prop where
  /-- A direct executor asks nothing. -/
  | direct : x.direct = true → Opened x th queries id [] none none
  /-- The hook is called, and the clock read. -/
  | timed {es : List Exchange} {now : Binary64} {a : Alteration} :
    x.direct = false → BeforeHook.Called id queries x.before es (.ok a) →
      Opened x th queries id
        (es ++ (dispatching id queries.length).written th ++ [⟨.clock, now⟩]) (some (id, now)) a

/-- The warning about a hook that failed after a dispatch. -/
def warning (id count : Nat) : LogRecord :=
  ⟨30, "fragql.execute.executor",
    "after_query hook failed for query " ++ toString id ++ "; its " ++ toString count ++
      " statement(s) already executed"⟩

/-- What is asked after the answer of a backend has been coerced, and the results that the hook
leaves, or how it fails. The duration is that between two readings of the clock, in milliseconds. -/
inductive Reported (x : Executor) (th : Threshold) (queries : List String)
    (results : List Value) :
    Option (Nat × Binary64) → List Exchange → Except Failure (List Value) → Prop where
  /-- A direct executor asks nothing. -/
  | direct : Reported x th queries results none [] (.ok results)
  /-- The clock is read, and the hook is called. -/
  | heard {id : Nat} {started now duration : Binary64} {es : List Exchange} {a : Alteration} :
    duration = (now.sub started).mul (.ofInt 1000) →
      AfterHook.Called th id queries results duration x.after es (.ok a) →
      Reported x th queries results (some (id, started))
        (⟨.clock, now⟩ :: (finished id duration).written th ++ es) (.ok (a.results results))
  /-- The clock is read, and the hook fails; if that is an ordinary failure, a warning is logged. -/
  | objected {id : Nat} {started now duration : Binary64} {es : List Exchange} {e : Failure} :
    duration = (now.sub started).mul (.ofInt 1000) →
      AfterHook.Called th id queries results duration x.after es (.error e) →
      Reported x th queries results (some (id, started))
        (⟨.clock, now⟩ :: (finished id duration).written th ++ es ++
          if e.ordinary then (warning id queries.length).written th else [])
        (.error e)

/-- The ways in which a plan can go up to its mappers: what is asked in the course of it, and how it
ends. -/
inductive Concluded (E : Environment) (x : Executor) (th : Threshold) (plan : Plan) (id : Nat) :
    List Exchange → Except Failure (List Value) → Prop where
  /-- The hook before fails. -/
  | refused {es : List Exchange} {e : Failure} :
    x.direct = false → BeforeHook.Called id plan.queries x.before es (.error e) →
      Concluded E x th plan id es (.error e)
  /-- The backend fails. -/
  | unanswered {opening served : List Exchange} {stamp : Option (Nat × Binary64)} {a : Alteration}
      {e : Failure} :
    x.Opened th plan.queries id opening stamp a →
      Backend.Called E (plan.call a) x.backend served (.error e) →
      Concluded E x th plan id (opening ++ served) (.error e)
  /-- The answer is refused. -/
  | uncoerced {opening served : List Exchange} {stamp : Option (Nat × Binary64)} {a : Alteration}
      {v : Value} {e : Failure} :
    x.Opened th plan.queries id opening stamp a →
      Backend.Called E (plan.call a) x.backend served (.ok v) →
      plan.take v = .error e → Concluded E x th plan id (opening ++ served) (.error e)
  /-- The answer is taken, and the hook after ends the dispatch or lets it go on. -/
  | reported {opening served closing : List Exchange} {stamp : Option (Nat × Binary64)}
      {a : Alteration} {v : Value} {results : List Value} {r : Except Failure (List Value)} :
    x.Opened th plan.queries id opening stamp a →
      Backend.Called E (plan.call a) x.backend served (.ok v) →
      plan.take v = .ok results → x.Reported th plan.queries results stamp closing r →
      Concluded E x th plan id (opening ++ served ++ closing) r

/-- The ways in which a plan can go. -/
inductive Dispatched (E : Environment) (x : Executor) (th : Threshold) (plan : Plan) (id : Nat) :
    List Exchange → Except Failure (List Value) → Prop where
  /-- It fails, and no row is mapped. -/
  | failed {es : List Exchange} {e : Failure} :
    Concluded E x th plan id es (.error e) → Dispatched E x th plan id es (.error e)
  /-- The rows of the results are mapped. -/
  | mapped {es mapping : List Exchange} {results : List Value} {r : Except Failure (List Value)} :
    Concluded E x th plan id es (.ok results) →
      ResultsMapped [] plan.mappers results mapping r → Dispatched E x th plan id (es ++ mapping) r

end Executor

end SqlWeave
