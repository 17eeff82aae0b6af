import SqlWeave.Proofs.Execution.Course

/-!
# The protocol of a dispatch

What a dispatch asks, in which order, and which of its steps decides how it ends.

**`dispatch_protocol`**: every call for the rows of a statement, for its effect, or for a batch goes in
one of the ways of `Executor.Dispatched`, whatever the environment answers, and the plan of each of
them is written out (`Plan.all`, `Plan.run`, `Plan.batch`). Each half of a dispatch is accounted for by
itself (`traces_startAs`, `traces_conclude`), so that the account also holds where other work comes
between the halves.
-/

namespace SqlWeave

variable {E : Environment} {th : Threshold}

/-! ### The backend -/

namespace Backend

/-- What is asked when a call is handed to a backend that waits so many rounds. -/
def submission (call : Call) (delay : Nat) : Backend → List Exchange
  | store n => [⟨.submit n call, delay⟩]
  | _ => []

theorem traces_submit (b : Backend) (call : Call) :
    Act.Traces (E := E) th (b.submit call) fun es r => ∃ d, r = .ok d ∧ es = b.submission call d := by
  cases b with
  | store n => exact .ask fun d => ⟨d, rfl, rfl⟩
  | recorder n => exact .pure ⟨0, rfl, rfl⟩
  | connection n => exact .pure ⟨0, rfl, rfl⟩
  | engine n => exact .pure ⟨0, rfl, rfl⟩

/-- Taking the answer of a backend completes the call that was handed to it. -/
theorem traces_collect (b : Backend) (call : Call) (d : Nat) :
    Act.Traces (E := E) th (b.collect call) fun es r =>
      Called E call b (b.submission call d ++ es) r := by
  cases b with
  | store n => exact .ask_bind fun a => .ofExcept .store
  | recorder n =>
    intro w _
    exact ⟨[], .of_unasked rfl rfl rfl, .recorder⟩
  | connection n =>
    intro w _
    obtain ⟨es, hext, hes, -⟩ := Connection.asks_answer n call w
    exact ⟨es, hext, .connection hext hes⟩
  | engine n =>
    intro w _
    obtain ⟨es, hext, hes, -⟩ := Engine.asks_answer n call w
    exact ⟨es, hext, .engine hext hes⟩

end Backend

/-! ### Hooks -/

theorem BeforeHook.traces_call (id : Nat) (queries : List String) (hook : BeforeHook) :
    Act.Traces (E := E) th (hook.call id queries) (Called id queries (some hook)) := by
  cases hook with
  | callback n => exact .ask_bind fun a => .ofExcept .callback
  | inert typeName => exact .fail .inert

theorem AfterHook.traces_call (id : Nat) (queries : List String) (results : List Value)
    (duration : Binary64) (hook : AfterHook) :
    Act.Traces (E := E) th (hook.call id queries results duration)
      (Called th id queries results duration (some hook)) := by
  cases hook with
  | callback n => exact .ask_bind fun a => .ofExcept .callback
  | inert typeName => exact .fail .inert
  | queryLog logger level =>
    intro w hw
    rw [call_queryLog, hw]
    rcases h : QueryLog.report th level logger (queries.map .text) results
      (.primitive (.float duration)) [] with ⟨ending, records⟩
    refine (Act.traces_publish th _).bind (fun es e hes => ?_) (fun es _ hes => .pure ?_) w hw
    · rw [h] at hes
      obtain ⟨rfl, rfl⟩ := hes
      exact .logged h rfl
    · rw [h] at hes
      obtain ⟨rfl, rfl⟩ := hes
      rw [List.append_nil]
      exact .logged h rfl

namespace Executor

theorem traces_callBefore (x : Executor) (id : Nat) (queries : List String) :
    Act.Traces (E := E) th (x.callBefore id queries) (BeforeHook.Called id queries x.before) := by
  rw [callBefore]
  cases x.before with
  | none => exact .pure .absent
  | some hook => exact hook.traces_call id queries

theorem traces_warn (id count : Nat) (e : Failure) :
    Act.Traces (E := E) th (warn id count e) fun es r =>
      ∃ a, r = .ok a ∧ es = if e.ordinary then (hookFailed id count).written th else [] := by
  rw [warn]
  cases e.ordinary with
  | false => exact .pure ⟨(), rfl, rfl⟩
  | true => exact Act.traces_log th _

theorem hookFailed_eq (id count : Nat) : hookFailed id count = warning id count := rfl

theorem traces_runAfter (x : Executor) (id : Nat) (queries : List String) (results : List Value)
    (duration : Binary64) :
    Act.Traces (E := E) th (x.runAfter id queries results duration) fun es r =>
      (∃ a, r = .ok a ∧ AfterHook.Called th id queries results duration x.after es (.ok a)) ∨
        ∃ e fs, r = .error e ∧
          AfterHook.Called th id queries results duration x.after fs (.error e) ∧
          es = fs ++ if e.ordinary then (warning id queries.length).written th else [] := by
  cases hx : x.after with
  | none =>
    rw [runAfter, hx]
    exact .pure (.inl ⟨none, rfl, .absent⟩)
  | some hook =>
    rw [runAfter_of_hook hx]
    refine (hook.traces_call id queries results duration).attempt.bind_ok fun es s hcalled => ?_
    rcases s with e | a
    · refine (traces_warn id queries.length e).bind_ok fun fs _ h =>
        .fail (.inr ⟨e, es, rfl, hcalled, ?_⟩)
      rw [h, List.append_nil, hookFailed_eq]
    · refine .pure (.inl ⟨a, rfl, ?_⟩)
      rw [List.append_nil]
      exact hcalled

theorem traces_report (x : Executor) (t : Ticket) (results : List Value) :
    Act.Traces (E := E) th (x.report t results)
      (x.Reported th t.job.call.queries results t.stamp) := by
  rw [report]
  rcases t.stamp with _ | ⟨id, started⟩
  · exact .pure .direct
  · refine .ask_bind fun now => .log_bind ((traces_runAfter x id _ results _).bind
      (fun gs e hr => ?_) fun gs a hr => .pure ?_)
    · obtain ⟨_, he, -⟩ | ⟨e', hs, he, hcalled, rfl⟩ := hr
      · cases he
      · obtain rfl := Except.error.inj he
        rw [← List.append_assoc, ← List.cons_append, ← List.cons_append]
        exact .objected rfl hcalled
    · obtain ⟨a', ha, hcalled⟩ | ⟨_, _, ha, -, -⟩ := hr
      · obtain rfl := Except.ok.inj ha
        rw [List.append_nil]
        exact .heard rfl hcalled
      · cases ha

/-! ### Mapping rows -/

/-- Renewed contents are numbered, and nothing is asked. -/
theorem traces_refresh (number : Nat) (vs : List Value) :
    Act.Traces (E := E) th (Act.refresh number vs) fun es r =>
      ∃ vs', r = .ok vs' ∧ es = [] ∧ ∃ next, vs' = (Value.shareItems vs next).1 := by
  intro w _
  exact ⟨[], .of_unasked rfl rfl rfl, _, rfl, rfl, w.minted, rfl⟩

theorem traces_mapRows (mapper : String) (rows : List Value) :
    Act.Traces (E := E) th (mapRows mapper rows) (RowsMapped mapper rows) := by
  induction rows with
  | nil => exact .pure .nil
  | cons row rows ih =>
    refine .ask_bind fun a => ?_
    cases a with
    | error e => exact .fail .failed
    | ok v =>
      refine ih.bind (fun es e h => .cons h) fun es vs h => .pure ?_
      rw [List.append_nil]
      exact .cons h

theorem traces_mapResult (mapper : Option String) (v : Value) :
    Act.Traces (E := E) th (mapResult mapper v) (ResultMapped mapper v) := by
  cases mapper with
  | none => exact .pure .unmapped
  | some m =>
    by_cases hv : ∀ label o, v ≠ .query label o
    · have hpure : (mapResult (some m) v : Act E.recorded Value) = pure v := by
        cases v <;> first | rfl | exact absurd rfl (hv _ _)
      rw [hpure]
      exact .pure (.rowless hv)
    · obtain ⟨label, o, rfl⟩ : ∃ label o, v = .query label o := by simpa using hv
      cases label with
      | none =>
        refine (traces_mapRows m o.rows).bind (fun es e h => .query h) fun es rows h => .pure ?_
        rw [List.append_nil]
        exact .query h
      | some number =>
        refine (traces_mapRows m o.rows).bind
          (fun es e h => @ResultMapped.held m number 0 o es (.error e) h) fun es rows h => ?_
        refine (traces_refresh number rows).bind_ok fun fs rows' hfs => .pure ?_
        obtain ⟨rfl, next, rfl⟩ := hfs
        rw [List.append_nil, List.append_nil]
        exact .held h

theorem traces_mapEach (done : List Value) (ms : List (Option String)) (vs : List Value) :
    Act.Traces (E := E) th (mapEach done ms vs) (ResultsMapped done ms vs) := by
  induction ms generalizing done vs with
  | nil => exact .pure (.nil (.inl rfl))
  | cons m ms ih =>
    cases vs with
    | nil => exact .pure (.nil (.inr rfl))
    | cons v vs =>
      exact (traces_mapResult m v).bind (fun es e h => .failed h) fun es v' h =>
        (ih _ _).mono fun fs r h' => .cons h h'

/-! ### The two halves -/

/-- The first half of a dispatch fails with the hook, or hands the call to the backend as the hook
leaves it. -/
theorem traces_startAs {x : Executor} (h : x.direct = false) (job : Job) (id : Nat) :
    Act.Traces (E := E) th (x.startAs job id) fun es r =>
      (∃ e, r = .error e ∧ BeforeHook.Called id job.call.queries x.before es (.error e)) ∨
        ∃ fs stamp a d, r = .ok ⟨job.altered a, stamp, d⟩ ∧
          x.Opened th job.call.queries id fs stamp a ∧
          es = fs ++ x.backend.submission (job.call.altered a) d := by
  refine (traces_callBefore x id _).bind (fun es e hes => .inl ⟨e, rfl, hes⟩) fun es a hes => ?_
  refine .log_bind (.ask_bind fun now => (Backend.traces_submit x.backend (job.altered a).call).bind_ok
    fun fs d hfs => .pure (.inr ⟨_, _, a, d, rfl, .timed h hes, ?_⟩))
  rw [hfs, Job.altered, Call.queries_altered]
  simp only [List.append_assoc, List.singleton_append, List.append_nil]

/-- An alteration of the parameters does not change how an answer is taken. -/
theorem coerce_altered (x : Executor) (v : Value) (a : Alteration) (call : Call) :
    x.coerce v (call.altered a) = x.coerce v call := by
  cases call <;> rfl

/-- The second half of a dispatch, before the mappers, completes what the first half has begun. -/
theorem traces_conclude {x : Executor} (job : Job) {id : Nat} {opening : List Exchange}
    {stamp : Option (Nat × Binary64)} {a : Alteration}
    (h : x.Opened th job.call.queries id opening stamp a) (d : Nat) :
    Act.Traces (E := E) th (x.conclude ⟨job.altered a, stamp, d⟩) fun fs r =>
      Concluded E x th (x.plan job) id
        (opening ++ x.backend.submission (job.call.altered a) d ++ fs) r := by
  rw [conclude_eq]
  refine (x.backend.traces_collect (job.altered a).call d).bind (fun fs e hfs => ?_)
    fun fs v hserved => ?_
  · rw [List.append_assoc]
    exact .unanswered h hfs
  have htake : x.coerce v (job.altered a).call = (x.plan job).take v := x.coerce_altered v a job.call
  rw [htake]
  rcases hr : (x.plan job).take v with e | results
  · refine .fail ?_
    rw [List.append_nil, List.append_assoc]
    exact .uncoerced h hserved hr
  refine (traces_report x ⟨job.altered a, stamp, d⟩ results).mono fun gs r hgs => ?_
  rw [Job.altered, Call.queries_altered] at hgs
  rw [List.append_assoc, ← List.append_assoc _ fs, ← List.append_assoc]
  exact .reported h hserved hr hgs

/-! ### A dispatch -/

/-- What a run leads to that adds exchanges to the record, and draws an id of an executor unless
it is direct. -/
structure Leads (x : Executor) (w w' : World E.recorded) (es : List Exchange) : Prop where
  /-- The exchanges are added to the record. -/
  past : w'.past = w.past ++ es
  /-- The behaviour can have them. -/
  given : ∀ y ∈ es, E.Gives y
  /-- The next id is drawn. -/
  drawn : w'.drawn =
    if x.direct then w.drawn
    else fun n => if n = x.number then w.drawn x.number + 1 else w.drawn n
  /-- The threshold stays. -/
  threshold : w'.threshold = w.threshold

theorem Leads.extend {x : Executor} {w w₁ w₂ : World E.recorded} {es fs : List Exchange}
    (h : x.Leads w w₁ es) (h' : w₁.Extends w₂ fs) : x.Leads w w₂ (es ++ fs) where
  past := by rw [h'.past, h.past, List.append_assoc]
  given y hy := (List.mem_append.mp hy).elim (h.given y) (h'.given y)
  drawn := h'.drawn.trans h.drawn
  threshold := h'.threshold.trans h.threshold

/-- A direct executor hands its call over as it is, and takes the answer. -/
theorem traces_direct {x : Executor} (h : x.direct = true) (job : Job) (id : Nat) :
    Act.Traces (E := E) th (x.backend.submit job.call >>= fun d => x.conclude ⟨job, none, d⟩)
      (Concluded E x th (x.plan job) id) := by
  refine (Backend.traces_submit x.backend job.call).bind_ok fun es d hes => ?_
  have hconclude := traces_conclude (E := E) job (.direct h : x.Opened th _ id [] none none) d
  rw [Job.altered_none, Call.altered_none] at hconclude
  subst hes
  exact hconclude

/-- The two halves of a dispatch under an id that has been drawn. -/
theorem traces_numbered {x : Executor} (h : x.direct = false) (job : Job) (id : Nat) :
    Act.Traces (E := E) th (x.startAs job id >>= x.conclude) (Concluded E x th (x.plan job) id) := by
  refine (traces_startAs h job id).bind (fun es e hes => ?_) fun es t hes => ?_
  · obtain ⟨e', he, hcalled⟩ | ⟨_, _, _, _, he, _⟩ := hes
    · obtain rfl := Except.error.inj he
      exact .refused h hcalled
    · cases he
  · obtain ⟨_, he, _⟩ | ⟨fs, stamp, a, d, ht, hopened, rfl⟩ := hes
    · cases he
    · obtain rfl := Except.ok.inj ht
      exact traces_conclude job hopened d

/-- Up to its mappers a dispatch goes in one of the ways there are; no row is mapped, nothing is
numbered, and recorders keep their rows. -/
theorem perform_concluded (x : Executor) (job : Job) (w : World E.recorded) :
    ∃ es, x.Leads w (x.perform job w).2 es ∧
      Concluded E x w.threshold (x.plan job) (w.drawn x.number + 1) es (x.perform job w).1 ∧
      (∀ y ∈ es, Unmapped y.request) ∧ w.Keeps (x.perform job w).2 := by
  rw [perform]
  cases h : x.direct with
  | true =>
    rw [start_of_direct h]
    simp only [bind_assoc, pure_bind]
    obtain ⟨es, hext, hes, hunmapped, hkeeps⟩ := (traces_direct h job _).and_asks
      (.bind (asks_submit x.backend job.call) fun d => asks_conclude x ⟨job, none, d⟩) rfl
    exact ⟨es, ⟨hext.past, hext.given, by rw [hext.drawn, h]; rfl, hext.threshold⟩, hes, hunmapped,
      hkeeps⟩
  | false =>
    have hdraw : Act.drawId x.number w =
        (.ok (w.drawn x.number + 1), (Act.drawId x.number w).2) := rfl
    have hdrawn : w.Keeps (Act.drawId x.number w).2 := ⟨rfl, fun _ => rfl⟩
    rw [start_of_not_direct h, bind_assoc, Effect.bind_of_ok hdraw]
    obtain ⟨es, hext, hes, hunmapped, hkeeps⟩ := (traces_numbered h job _).and_asks
      (.bind (asks_startAs x job _) (asks_conclude x)) (w := (Act.drawId x.number w).2) rfl
    exact ⟨es, ⟨hext.past, hext.given, by rw [hext.drawn, h]; rfl, hext.threshold⟩, hes, hunmapped,
      hdrawn.trans hkeeps⟩

/-- What executes a plan: it draws the next id, unless the executor is direct, and goes in one of the
ways there are. Rows are mapped for those statements only that have a mapper. -/
def Follows (x : Executor) (plan : Plan) (p : Act E.recorded (List Value)) (w : World E.recorded) :
    Prop :=
  ∃ es, x.Leads w (p w).2 es ∧ Dispatched E x w.threshold plan (w.drawn x.number + 1) es (p w).1 ∧
    ∀ y ∈ es, ∀ mapper row, y.request = .mapRow mapper row → some mapper ∈ plan.mappers

/-- A dispatch executes the plan of its job, whatever the environment answers. -/
theorem follows_dispatch (x : Executor) (job : Job) (w : World E.recorded) :
    x.Follows (x.plan job) (x.dispatch job) w := by
  rw [Follows, dispatch_eq]
  obtain ⟨es, hleads, hes, hunmapped, -⟩ := perform_concluded x job w
  rcases hperform : x.perform job w with ⟨e | results, w'⟩
  · rw [hperform] at hleads hes
    rw [Effect.bind_of_error hperform]
    exact ⟨es, hleads, .failed hes, fun y hy mapper row h => absurd h (hunmapped y hy mapper row)⟩
  · rw [hperform] at hleads hes
    rw [Effect.bind_of_ok hperform]
    obtain ⟨fs, hext, hfs⟩ : ∃ fs, w'.Extends (mapResults job.mappers results w').2 fs ∧
        ResultsMapped [] job.mappers results fs (mapResults job.mappers results w').1 :=
      traces_mapEach [] job.mappers results w' hleads.threshold
    refine ⟨es ++ fs, hleads.extend hext, .mapped hes hfs, fun y hy mapper row h => ?_⟩
    rcases List.mem_append.mp hy with hy | hy
    · exact absurd h (hunmapped y hy mapper row)
    · obtain ⟨mapper', row', hmem, hrow⟩ := hfs.request y hy
      obtain ⟨rfl, -⟩ := Request.mapRow.inj (h.symm.trans hrow)
      exact hmem

end Executor

/-! ### Functions of the caller -/

/-- The behaviour in which stores answer by a table and row mappers are functions; hooks return. -/
def Environment.answering (answers : Call → Value)
    (f : String → Value → Except Failure Value) : Environment where
  State := Unit
  answer q _ :=
    match q with
    | .clock => (.zero, ())
    | .before .. => (.ok none, ())
    | .after .. => (.ok none, ())
    | .submit .. => ((0 : Nat), ())
    | .collect _ call => (.ok (answers call), ())
    | .connection _ (.execute ..) => (.ok {}, ())
    | .connection _ .inTransaction => (.ok false, ())
    | .connection _ .enter => (.ok (), ())
    | .connection _ (.leave _) => (.ok (), ())
    | .connection _ .commit => (.ok (), ())
    | .connection _ .close => (.ok (), ())
    | .engine _ (.execute ..) => (.ok {}, ())
    | .engine _ .begin => (.ok (), ())
    | .engine _ (.leave _) => (.ok (), ())
    | .mapRow mapper row => (f mapper row, ())
    | .log _ => ((), ())
  renew _ s := s

/-- What functions of the caller do: hooks before and after a dispatch under an id, and mappers when so
many rows have been mapped before. -/
structure Conduct where
  /-- What the hook before does. -/
  before : Nat → Except Failure Alteration := fun _ => .ok none
  /-- What the hook after does. -/
  after : Nat → Except Failure Alteration := fun _ => .ok none
  /-- What mappers do. -/
  map : Nat → String → Value → Except Failure Value := fun _ _ row => .ok row

/-- The behaviour of such functions, and of stores that answer with what they hold. -/
def Conduct.environment (c : Conduct) : Environment where
  State := Value × Nat
  answer
    | .before _ id _, s => (c.before id, s)
    | .after _ id _ _ _, s => (c.after id, s)
    | .collect _ _, s => (.ok s.1, s)
    | .mapRow mapper row, s => (c.map s.2 mapper row, (s.1, s.2 + 1))
    | q, s => (((Environment.answering (fun _ => .null) (c.map 0)).answer q ()).1, s)
  renew g s := (g s.1, s.2)

/-- The same hooks, with mappers that do this. -/
def Conduct.mapping (c : Conduct) (f : Nat → String → Value → Except Failure Value) :
    Conduct := { c with map := f }

/-- The world in front of a store that holds this. -/
def Conduct.world (c : Conduct) (held : Value) (th : Threshold) : World c.environment.recorded where
  drawn := fun _ => 0
  minted := 1
  recorders := fun _ => {}
  threshold := th
  outside := ((held, 0), [])

namespace Executor

/-- An executor on a store, with functions as hooks. -/
def hooked : Executor where
  number := 0
  backend := .store 0
  style := .numbered
  before := some (.callback 0)
  after := some (.callback 1)

/-- A statement with this mapper. -/
def selecting (mapper : Option String) : Statement Value :=
  { query := "select a", values := [], mapper }

/-- The failure of a hook. -/
def objection : Raised := ⟨"HookError", "no", true⟩

/-- A hook that fails after the first dispatch. -/
def objecting : Conduct where
  after id := if id = 1 then .error (.raised objection) else .ok none

/-- A hook that adds a parameter to the statement that is about to be executed. -/
def supplying : Conduct where
  before _ := .ok (some [.int 7])

/-- The integers among values. -/
def integers (vs : List Value) : List Int :=
  vs.filterMap fun
    | .primitive (.int n) => some n
    | _ => none

/-- The integers among the parameters of the single statements that stores are handed for their rows. -/
def handedOver (es : List Exchange) : List (List Int) :=
  es.filterMap fun y =>
    match y.request with
    | .submit _ (.all b) => some (integers b.values)
    | _ => none

end Executor

/-! ### The calls there are -/

namespace Plan

/-- Executing a statement for its rows. The backend gets the query with the parameters that the
statement has after the hook before; the answer has to be an outcome with rows. -/
def all (s : Statement Value) : Plan where
  queries := [s.query]
  call a := .all ⟨s.query, a.getD s.values⟩
  take v := (Outcome.asQuery v).map ([·])
  mappers := [s.mapper]

/-- Executing a statement for its effect. The backend gets the query with the parameters that the
statement has after the hook before; the answer has to be an outcome, and no rows are mapped. -/
def run (s : Statement Value) : Plan where
  queries := [s.query]
  call a := .run ⟨s.query, a.getD s.values⟩
  take v := (Outcome.asRun v).map ([·])
  mappers := [none]

/-- Executing statements all or none. The backend gets all the queries, with the parameters from
before the hook; each item of the answer has to be an outcome with rows, and there have to be as many
of them as statements. -/
def batch (ss : List (Statement Value)) : Plan where
  queries := ss.map (·.query)
  call _ := .batch (ss.map fun s => ⟨s.query, s.values⟩)
  take v := do
    let items ← v.items
    let results ← items.mapM Outcome.asQuery
    if results.length = ss.length then .ok results
    else .error (.structural (.resultMismatch ss.length results.length))
  mappers := ss.map (·.mapper)

end Plan

namespace Executor

theorem coerceQuery_of_not_direct {x : Executor} (h : x.direct = false) :
    x.coerceQuery = Outcome.asQuery := by
  funext v
  rw [coerceQuery]
  exact h

theorem coerceRun_of_not_direct {x : Executor} (h : x.direct = false) :
    x.coerceRun = Outcome.asRun := by
  funext v
  rw [coerceRun]
  exact h

theorem coerceEach_eq_mapM (x : Executor) (items : List Value) :
    x.coerceEach items = items.mapM x.coerceQuery := by
  induction items with
  | nil => rfl
  | cons item items ih =>
    rw [coerceEach, List.mapM_cons, ih]
    rcases x.coerceQuery item with e | r
    · rfl
    · rcases items.mapM x.coerceQuery with e | rs
      · rfl
      · rfl

theorem coerceBatch_eq (x : Executor) (expected : Nat) (v : Value) :
    x.coerceBatch expected v = v.items >>= fun items => items.mapM x.coerceQuery >>= fun results =>
      if results.length = expected then .ok results
      else .error (.structural (.resultMismatch expected results.length)) := by
  rw [coerceBatch]
  rcases v.items with e | items
  · rfl
  · dsimp only
    show _ = (items.mapM x.coerceQuery >>= _)
    rw [coerceEach_eq_mapM]
    rcases items.mapM x.coerceQuery with e | results
    · rfl
    · rfl

theorem coerceBatch_of_not_direct {x : Executor} (h : x.direct = false)
    (ss : List (Statement Value)) : x.coerceBatch ss.length = (Plan.batch ss).take := by
  funext v
  rw [coerceBatch_eq, coerceQuery_of_not_direct h]
  rfl

theorem plan_all {x : Executor} (h : x.direct = false) (s : Statement Value) :
    x.plan (.all s) = .all s := by
  refine Plan.ext rfl rfl (funext fun v => ?_) rfl
  exact congrArg (fun q => (q v).map ([·])) (coerceQuery_of_not_direct h)

theorem plan_run {x : Executor} (h : x.direct = false) (s : Statement Value) :
    x.plan (.run s) = .run s := by
  refine Plan.ext rfl rfl (funext fun v => ?_) rfl
  exact congrArg (fun q => (q v).map ([·])) (coerceRun_of_not_direct h)

theorem plan_batch {x : Executor} (h : x.direct = false) (ss : List (Statement Value)) :
    x.plan (.batch ss) = .batch ss := by
  refine Plan.ext List.map_map rfl (funext fun v => ?_) rfl
  show x.coerceBatch (ss.map (·.bound)).length v = (Plan.batch ss).take v
  rw [List.length_map, coerceBatch_of_not_direct h]

/-- **The protocol of a dispatch.** Whatever the environment answers, an executor that is not direct
executes a statement for its rows, a statement for its effect, or statements all or none, as the plan
for that says: the id is drawn, the hook before is called, the clock is read, the backend gets the
query texts with their parameters, its answer is coerced, the clock is read again, the hook after is
called, and the rows of mapped statements are mapped; and the first of these steps that fails is the
last one. -/
theorem dispatch_protocol (x : Executor) (hx : x.direct = false) (w : World E.recorded) :
    (∀ s, x.Follows (.all s) (x.dispatch (.all s)) w) ∧
      (∀ s, x.Follows (.run s) (x.dispatch (.run s)) w) ∧
      ∀ ss, x.Follows (.batch ss) (x.dispatch (.batch ss)) w := by
  refine ⟨fun s => ?_, fun s => ?_, fun ss => ?_⟩
  · rw [← plan_all hx]
    exact x.follows_dispatch (.all s) w
  · rw [← plan_run hx]
    exact x.follows_dispatch (.run s) w
  · rw [← plan_batch hx]
    exact x.follows_dispatch (.batch ss) w

/-- A statement is executed in each of the three ways, with a hook that adds a parameter. -/
theorem dispatch_protocol_selecting :
    hooked.direct = false ∧
      hooked.Follows (.all (selecting (some "m"))) (hooked.dispatch (.all (selecting (some "m"))))
        (supplying.world (.query none {}) none) ∧
      hooked.Follows (.run (selecting none)) (hooked.dispatch (.run (selecting none)))
        (supplying.world (.query none {}) none) ∧
      hooked.Follows (.batch [selecting none]) (hooked.dispatch (.batch [selecting none]))
        (supplying.world (.query none {}) none) := by
  obtain ⟨hall, hrun, hbatch⟩ := dispatch_protocol hooked rfl (supplying.world (.query none {}) none)
  exact ⟨rfl, hall _, hrun _, hbatch _⟩

/-- What the backend gets need not be the pair of the statement as it was compiled, since a hook can
reach the parameters; and that a hook fails is not in the log where warnings are not logged. -/
theorem different_protocol :
    ((selecting none).values = [] ∧
        handedOver (hooked.dispatch (.all (selecting none))
          (supplying.world (.query none {}) none)).2.past = [[7]]) ∧
      (hooked.dispatch (.all (selecting none)) (objecting.world (.query none {}) (some 40))).1 =
          .error (.raised objection) ∧
        Failure.ordinary (.raised objection) = true ∧
        logged (hooked.dispatch (.all (selecting none))
          (objecting.world (.query none {}) (some 40))).2.past = [] :=
  ⟨⟨rfl, by decide +kernel⟩, rfl, rfl, rfl⟩

end Executor

end SqlWeave
