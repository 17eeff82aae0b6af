import SqlWeave.Proofs.Effect.Reading
import SqlWeave.Proofs.Execution.Halves
import SqlWeave.Proofs.Execution.Repeated

/-!
# Stand-ins

A direct executor in the place of another one. The other one (`Executor.plain`) has the same number,
backend and style, and no hooks; it draws ids, reads the clock, writes to the log and coerces every
answer. Where the backends behave alike (`Environment.Mirrors`) and give only answers that both
executors take (`Call.Admits`), the worlds stay alike (`World.Mirrored`) and the results are the same
(`Executor.start_mirrored`, `Executor.finish_mirrored`).
-/

namespace SqlWeave

/-! ### Answers that both take -/

/-- A mapping, or an outcome with rows. -/
def Value.ReportsRows : Value → Prop
  | .dict _ => True
  | .query .. => True
  | _ => False

/-- A mapping, or an outcome. -/
def Value.Reports : Value → Prop
  | .dict _ => True
  | .query .. => True
  | .run _ => True
  | _ => False

/-- The answers to a call that every executor takes for outcomes, or refuses. -/
def Call.Admits (v : Value) : Call → Prop
  | .all _ => v.ReportsRows
  | .run _ => v.Reports
  | .batch _ => ∀ items, v.items = .ok items → ∀ u ∈ items, u.ReportsRows

namespace Executor

/-- The executor that does all that executors do, without hooks. -/
def plain (x : Executor) : Executor := { x with before := none, after := none, handler := none }

variable {x : Executor}

theorem coerceQuery_plain (hx : x.direct = true) {v : Value} (hv : v.ReportsRows) :
    x.coerceQuery v = x.plain.coerceQuery v := by
  show _ = Outcome.asQuery v
  unfold coerceQuery
  rw [hx]
  cases v with
  | dict entries => rfl
  | query label o => rfl
  | _ => exact hv.elim

theorem coerceRun_plain (hx : x.direct = true) {v : Value} (hv : v.Reports) :
    x.coerceRun v = x.plain.coerceRun v := by
  show _ = Outcome.asRun v
  unfold coerceRun
  rw [hx]
  cases v with
  | dict entries => rfl
  | query label o => rfl
  | run o => rfl
  | _ => exact hv.elim

theorem coerceEach_plain (hx : x.direct = true) {vs : List Value} (hvs : ∀ v ∈ vs, v.ReportsRows) :
    x.coerceEach vs = x.plain.coerceEach vs := by
  induction vs with
  | nil => rfl
  | cons v vs ih =>
    rw [coerceEach, coerceEach, coerceQuery_plain hx (hvs v List.mem_cons_self),
      ih fun u hu => hvs u (List.mem_cons_of_mem _ hu)]

/-- Answers that both take are coerced alike. -/
theorem coerce_plain (hx : x.direct = true) {v : Value} {call : Call} (hv : call.Admits v) :
    x.coerce v call = x.plain.coerce v call := by
  cases call with
  | all b => rw [coerce, coerce, coerceQuery_plain hx hv]
  | run b => rw [coerce, coerce, coerceRun_plain hx hv]
  | batch bs =>
    rw [coerce, coerce, coerceBatch, coerceBatch]
    rcases hitems : v.items with e | items
    · rfl
    · simp only [coerceEach_plain hx (hv items hitems)]

end Executor

/-! ### Environments and worlds that are alike -/

variable {E E' : Environment} {α β : Type}

/-- The stores and row mappers of two environments behave alike, in states with this relation. Stores
give answers that every executor takes; the clock and the log of the second environment can behave in
any way. -/
structure Environment.Mirrors (E E' : Environment) (R : E.State → E'.State → Prop) : Prop where
  /-- Calls are handed over. -/
  submit : ∀ n call s s', R s s' →
    R (E.answer (.submit n call) s).2 (E'.answer (.submit n call) s').2
  /-- Calls are answered alike. -/
  collect : ∀ n call s s', R s s' →
    (E.answer (.collect n call) s).1 = (E'.answer (.collect n call) s').1 ∧
      R (E.answer (.collect n call) s).2 (E'.answer (.collect n call) s').2
  /-- The answers are mappings and outcomes. -/
  admitted : ∀ n call s s' v, R s s' → (E.answer (.collect n call) s).1 = .ok v → call.Admits v
  /-- Rows are mapped alike. -/
  mapRow : ∀ mapper row s s', R s s' →
    (E.answer (.mapRow mapper row) s).1 = (E'.answer (.mapRow mapper row) s').1 ∧
      R (E.answer (.mapRow mapper row) s).2 (E'.answer (.mapRow mapper row) s').2
  /-- Reading the clock makes no difference. -/
  clock : ∀ s s', R s s' → R s (E'.answer .clock s').2
  /-- Writing to the log makes no difference. -/
  log : ∀ r s s', R s s' → R s (E'.answer (.log r) s').2
  /-- What is changed in place is changed in both. -/
  renew : ∀ f s s', R s s' → R (E.renew f s) (E'.renew f s')

/-- The call that a question hands to a store, if it hands one. -/
def Request.handed? : Request → Option (Nat × Call)
  | .submit n call => some (n, call)
  | _ => none

/-- The calls that were handed to stores, in order. -/
def handed (es : List Exchange) : List (Nat × Call) := es.filterMap fun y => y.request.handed?

theorem handed_append (es fs : List Exchange) : handed (es ++ fs) = handed es ++ handed fs :=
  List.filterMap_append

/-- Two worlds in which the same has been handed to stores and recorders, and in which what comes next
is alike. -/
structure World.Mirrored (R : E.State → E'.State → Prop) (w : World E.recorded)
    (w' : World E'.recorded) : Prop where
  /-- The next shared value gets the same number. -/
  minted : w.minted = w'.minted
  /-- Recorders have heard the same. -/
  recorders : w.recorders = w'.recorders
  /-- The states of the environments have the relation. -/
  outside : R w.outside.1 w'.outside.1
  /-- Stores were handed the same calls. -/
  handed : handed w.past = handed w'.past

/-! ### Computations that keep worlds alike -/

variable {R : E.State → E'.State → Prop}

/-- Started in worlds that are alike, the computations end in such worlds, with the same result. -/
def Act.Coupled (R : E.State → E'.State → Prop) (p : Act E.recorded α) (p' : Act E'.recorded α) :
    Prop :=
  ∀ w w', w.Mirrored R w' → (p w).2.Mirrored R (p' w').2 ∧ (p w).1 = (p' w').1

/-- Started in the second of two worlds that are alike, the computation succeeds, and ends in such a
world. -/
def Act.Idle (R : E.State → E'.State → Prop) (q : Act E'.recorded α) : Prop :=
  ∀ (w : World E.recorded) w', w.Mirrored R w' → w.Mirrored R (q w').2 ∧ ∃ a, (q w').1 = .ok a

namespace Act.Coupled

theorem pure (a : α) :
    Coupled R (Pure.pure a : Act E.recorded α) (Pure.pure a : Act E'.recorded α) :=
  fun _ _ h => ⟨h, rfl⟩

theorem ofExcept (r : Except Failure α) :
    Coupled R (Effect.ofExcept r : Act E.recorded α) (Effect.ofExcept r : Act E'.recorded α) := by
  cases r with
  | ok a => exact pure a
  | error e => exact fun _ _ h => ⟨h, rfl⟩

theorem bind {p : Act E.recorded α} {p' : Act E'.recorded α} {k : α → Act E.recorded β}
    {k' : α → Act E'.recorded β} (hp : Coupled R p p') (hk : ∀ a, Coupled R (k a) (k' a)) :
    Coupled R (p >>= k) (p' >>= k') := by
  intro w w' hw
  obtain ⟨hmirrored, hresult⟩ := hp w w' hw
  rw [Effect.bind_apply, Effect.bind_apply]
  rcases h : p w with ⟨r, v⟩
  rcases h' : p' w' with ⟨r', v'⟩
  rw [h, h'] at hmirrored hresult
  obtain rfl : r = r' := hresult
  cases r with
  | error e => exact ⟨hmirrored, rfl⟩
  | ok a => exact hk a v v' hmirrored

/-- What is idle can come before. -/
theorem after {p : Act E.recorded β} {q : Act E'.recorded α} {k : α → Act E'.recorded β}
    (hq : Act.Idle R q) (hk : ∀ a, Coupled R p (k a)) : Coupled R p (q >>= k) := by
  intro w w' hw
  obtain ⟨hmirrored, a, ha⟩ := hq w w' hw
  rw [Effect.bind_of_ok (Prod.ext ha rfl)]
  exact hk a w _ hmirrored

/-- A question that is answered alike. -/
theorem ask {q : Request} (h : ∀ s s', R s s' → (E.answer q s).1 = (E'.answer q s').1 ∧
    R (E.answer q s).2 (E'.answer q s').2) :
    Coupled R (Act.ask q : Act E.recorded q.Answer) (Act.ask q : Act E'.recorded q.Answer) := by
  intro w w' hw
  obtain ⟨hanswer, hR⟩ := h _ _ hw.outside
  refine ⟨⟨hw.minted, hw.recorders, hR, ?_⟩, congrArg Except.ok hanswer⟩
  rw [(World.Extends.ask q w).past, (World.Extends.ask q w').past, handed_append, handed_append,
    hw.handed]
  rfl

end Act.Coupled

namespace Act.Idle

theorem ask {q : Request} (h : ∀ s s', R s s' → R s (E'.answer q s').2) (hq : q.handed? = none) :
    Idle R (Act.ask q : Act E'.recorded q.Answer) := by
  intro w w' hw
  refine ⟨⟨hw.minted, hw.recorders, h _ _ hw.outside, ?_⟩, _, rfl⟩
  rw [(World.Extends.ask q w').past, handed_append, hw.handed]
  simp [SqlWeave.handed, hq]

theorem log (hE : E.Mirrors E' R) (r : LogRecord) : Idle R (Act.log r : Act E'.recorded Unit) := by
  intro w w' hw
  have hlog : (Act.log r : Act E'.recorded Unit) w' =
      (if w'.threshold.admits r.level then Act.ask (.log r) else Pure.pure () :
        Act E'.recorded Unit) w' := rfl
  rw [hlog]
  by_cases ha : w'.threshold.admits r.level = true
  · rw [if_pos ha]
    exact ask (hE.log r) rfl w w' hw
  · rw [if_neg ha]
    exact ⟨hw, (), rfl⟩

theorem drawId (n : Nat) : Idle R (Act.drawId n : Act E'.recorded Nat) :=
  fun _ _ hw => ⟨⟨hw.minted, hw.recorders, hw.outside, hw.handed⟩, _, rfl⟩

theorem bind {q : Act E'.recorded α} {k : α → Act E'.recorded β} (hq : Idle R q)
    (hk : ∀ a, Idle R (k a)) : Idle R (q >>= k) := by
  intro w w' hw
  obtain ⟨hmirrored, a, ha⟩ := hq w w' hw
  rw [Effect.bind_of_ok (Prod.ext ha rfl)]
  exact hk a w _ hmirrored

end Act.Idle

theorem Act.Coupled.refresh (hE : E.Mirrors E' R) (number : Nat) (vs : List Value) :
    Act.Coupled R (Act.refresh number vs : Act E.recorded (List Value))
      (Act.refresh number vs : Act E'.recorded (List Value)) := by
  intro w w' hw
  have hminted := hw.minted
  have hstate : ∀ (F : Environment) (u : World F), Act.refresh number vs u =
      (.ok (Value.shareItems vs u.minted).1,
        World.mapValues (Value.refresh number (Value.shareItems vs u.minted).1)
          { u with minted := (Value.shareItems vs u.minted).2 }) := fun _ _ => rfl
  rw [hstate, hstate, hminted]
  refine ⟨⟨rfl, ?_, hE.renew _ _ _ hw.outside, hw.handed⟩, rfl⟩
  funext n
  exact congrArg (Recorder.mapValues _) (congrFun hw.recorders n)

/-! ### The halves of a dispatch -/

/-- Whether a backend is what a direct executor hands calls to: something of the caller. -/
def Backend.IsHandler : Backend → Prop
  | .store _ => True
  | .recorder _ => True
  | _ => False

/-- The answer of a backend is the same, and executors take it. -/
theorem Backend.coupled_collect (hE : E.Mirrors E' R) {b : Backend} (hb : b.IsHandler) (call : Call) :
    Act.Coupled R (b.collect call : Act E.recorded Value) (b.collect call : Act E'.recorded Value) ∧
      ∀ (w : World E.recorded) (w' : World E'.recorded) v, w.Mirrored R w' →
        (b.collect call w).1 = .ok v → call.Admits v := by
  cases b with
  | connection n => exact hb.elim
  | engine n => exact hb.elim
  | store n =>
    refine ⟨(Act.Coupled.ask (hE.collect n call)).bind fun r => .ofExcept r, fun w w' v hw hv => ?_⟩
    refine hE.admitted n call w.outside.1 w'.outside.1 v hw.outside ?_
    rw [← hv]
    show _ = (Effect.ofExcept (E.answer (.collect n call) w.outside.1).1 _).1
    rw [Effect.ofExcept_apply]
  | recorder n =>
    constructor
    · intro w w' hw
      have hstate : ∀ (F : Environment) (u : World F), (Backend.recorder n).collect call u =
          (.ok (Backend.recorded (u.recorders n).rows call), (Act.hear n call u).2) := fun _ _ => rfl
      rw [hstate, hstate]
      refine ⟨⟨hw.minted, ?_, hw.outside, hw.handed⟩, by rw [hw.recorders]⟩
      have hheard : ∀ (F : Environment) (u : World F), (Act.hear n call u).2.recorders = fun m =>
          if m = n then { u.recorders n with heard := (u.recorders n).heard ++ [call] }
          else u.recorders m := fun _ _ => rfl
      rw [hheard, hheard, hw.recorders]
    · intro w w' v _ hv
      obtain rfl := Except.ok.inj hv
      cases call with
      | all b => trivial
      | run b => trivial
      | batch bs =>
        intro items hitems u hu
        obtain rfl := Except.ok.inj hitems
        obtain ⟨_, -, rfl⟩ := List.mem_map.mp hu
        trivial

theorem Backend.mirrored_submit (hE : E.Mirrors E' R) (b : Backend) (call : Call)
    {w : World E.recorded} {w' : World E'.recorded} (hw : w.Mirrored R w') :
    ((b.submit call : Act E.recorded Nat) w).2.Mirrored R
      ((b.submit call : Act E'.recorded Nat) w').2 := by
  cases b with
  | store n =>
    refine ⟨hw.minted, hw.recorders, hE.submit n call _ _ hw.outside, ?_⟩
    show SqlWeave.handed (Act.ask (.submit n call) w).2.past =
      SqlWeave.handed (Act.ask (.submit n call) w').2.past
    rw [(World.Extends.ask _ w).past, (World.Extends.ask _ w').past, handed_append, handed_append,
      hw.handed]
    rfl
  | _ => exact hw

namespace Executor

theorem coupled_mapRows (hE : E.Mirrors E' R) (mapper : String) (rows : List Value) :
    Act.Coupled R (mapRows mapper rows : Act E.recorded (List Value))
      (mapRows mapper rows : Act E'.recorded (List Value)) := by
  induction rows with
  | nil => exact .pure _
  | cons row rows ih =>
    exact (Act.Coupled.ask (hE.mapRow mapper row)).bind fun r => (Act.Coupled.ofExcept r).bind fun v =>
      ih.bind fun vs => .pure _

theorem coupled_mapResult (hE : E.Mirrors E' R) (mapper : Option String) (v : Value) :
    Act.Coupled R (mapResult mapper v : Act E.recorded Value)
      (mapResult mapper v : Act E'.recorded Value) := by
  rcases mapper with _ | m
  · exact .pure _
  · cases v with
    | query label o =>
      rcases label with _ | number
      · exact (coupled_mapRows hE m o.rows).bind fun rows => .pure _
      · exact (coupled_mapRows hE m o.rows).bind fun rows =>
          (Act.Coupled.refresh hE number rows).bind fun rows => .pure _
    | _ => exact .pure _

theorem coupled_mapEach (hE : E.Mirrors E' R) (done : List Value) (ms : List (Option String))
    (vs : List Value) :
    Act.Coupled R (mapEach done ms vs : Act E.recorded (List Value))
      (mapEach done ms vs : Act E'.recorded (List Value)) := by
  induction ms generalizing done vs with
  | nil => exact .pure _
  | cons m ms ih =>
    cases vs with
    | nil => exact .pure _
    | cons v vs => exact (coupled_mapResult hE m v).bind fun v => ih _ _

variable {x : Executor}

/-- What is reported without a hook makes no difference, and the results go on as they are. -/
theorem coupled_report (hE : E.Mirrors E' R) (t : Ticket) (results : List Value) {α : Type}
    {p : Act E.recorded α} {k : List Value → Act E'.recorded α} (h : Act.Coupled R p (k results)) :
    Act.Coupled R p (x.plain.report t results >>= k) := by
  rcases hstamp : t.stamp with _ | ⟨id, started⟩
  · rw [report_of_no_stamp hstamp, pure_bind]
    exact h
  · have hreport : (x.plain.report t results : Act E'.recorded (List Value)) =
        Act.ask .clock >>= fun now => Act.log (finished id (now.millisecondsSince started)) >>=
          fun _ => pure results := report_of_stamp hstamp results
    rw [hreport, bind_assoc]
    refine .after (.ask hE.clock rfl) fun now => ?_
    rw [bind_assoc]
    refine .after (.log hE _) fun _ => ?_
    rw [pure_bind]
    exact h

/-- What an executor without hooks does before it hands over a call. -/
def stampCall (x : Executor) (job : Job) : Act E (Nat × Binary64) := do
  let id ← Act.drawId x.number
  Act.log (dispatching id job.call.queries.length)
  let now ← Act.ask .clock
  pure (id, now)

theorem start_plain_eq (x : Executor) (job : Job) :
    (x.plain.start job : Act E Ticket) = x.stampCall job >>= fun stamp =>
      x.backend.submit job.call >>= fun delay => pure ⟨job, some stamp, delay⟩ := by
  have hstartAs : x.plain.startAs job = fun id => (x.plain.startAs job id : Act E Ticket) := rfl
  have hbefore : ∀ id queries, (x.plain.callBefore id queries : Act E Alteration) = pure none :=
    fun _ _ => rfl
  rw [start_of_not_direct rfl, hstartAs, stampCall]
  simp only [startAs, hbefore, bind_assoc, pure_bind, Job.altered_none]
  rfl

/-- The first halves of a dispatch keep worlds alike. -/
theorem start_mirrored (hE : E.Mirrors E' R) (hx : x.direct = true) (job : Job)
    {w : World E.recorded} {w' : World E'.recorded} (hw : w.Mirrored R w') :
    (x.start job w).2.Mirrored R (x.plain.start job w').2 := by
  have hidle : Act.Idle R (x.stampCall job : Act E'.recorded (Nat × Binary64)) :=
    .bind (.drawId _) fun id => .bind (.log hE _) fun _ => .bind (.ask hE.clock rfl) fun now =>
      fun w w' hw => ⟨hw, _, rfl⟩
  obtain ⟨hmirrored, stamp, hstamp⟩ := hidle w w' hw
  rw [start_of_direct hx, start_plain_eq, Effect.bind_of_ok (Prod.ext hstamp rfl),
    Effect.Reads.snd_bind _ fun _ => .pure _, Effect.Reads.snd_bind _ fun _ => .pure _]
  exact Backend.mirrored_submit hE x.backend job.call hmirrored

/-- A direct executor hands over every call, and the mappers make no difference. -/
theorem start_handed (hx : x.direct = true) (call : Call) (w : World E.recorded) :
    ∃ d v, ∀ mappers, x.start ⟨call, mappers⟩ w = (.ok ⟨⟨call, mappers⟩, none, d⟩, v) := by
  obtain ⟨_, _, d, hd, -⟩ := Backend.traces_submit x.backend call w rfl
  refine ⟨d, (x.backend.submit call w).2, fun mappers => ?_⟩
  rw [start_of_direct hx, Effect.bind_of_ok (Prod.ext hd rfl)]
  rfl

/-- An executor without hooks hands over every call, too. -/
theorem start_plain (x : Executor) (job : Job) (w : World E.recorded) :
    ∃ stamp d, (x.plain.start job w).1 = .ok ⟨job, some stamp, d⟩ := by
  obtain ⟨es, -, hbegun⟩ := x.plain.start_begun job w
  generalize (x.plain.start job w).1 = r at hbegun
  cases hbegun with
  | refused _ hbefore => cases hbefore
  | handed hopened =>
    cases hopened with
    | direct hdirect => cases hdirect
    | timed _ hbefore =>
      cases hbefore
      rw [Job.altered_none]
      exact ⟨_, _, rfl⟩

/-- The second halves of a dispatch have the same result, and keep worlds alike. -/
theorem finish_mirrored (hE : E.Mirrors E' R) (hx : x.direct = true) (hb : x.backend.IsHandler)
    {t t' : Ticket} (hjob : t.job = t'.job) (hstamp : t.stamp = none) {w : World E.recorded}
    {w' : World E'.recorded} (hw : w.Mirrored R w') :
    (x.finish t w).2.Mirrored R (x.plain.finish t' w').2 ∧
      (x.finish t w).1 = (x.plain.finish t' w').1 := by
  obtain ⟨hcollect, hadmits⟩ := Backend.coupled_collect hE hb t'.job.call
  obtain ⟨hmirrored, hanswer⟩ := hcollect w w' hw
  rw [finish_eq_settle, finish_eq_settle, hjob]
  show (x.settle t (x.backend.collect t'.job.call w).1 _).2.Mirrored R
      (x.plain.settle t' (x.backend.collect t'.job.call w').1 _).2 ∧
    (x.settle t (x.backend.collect t'.job.call w).1 _).1 =
      (x.plain.settle t' (x.backend.collect t'.job.call w').1 _).1
  have hsettle : Act.Coupled R (x.settle t (x.backend.collect t'.job.call w).1)
      (x.plain.settle t' (x.backend.collect t'.job.call w).1) := by
    rw [settle, settle, hjob]
    rcases hv : (x.backend.collect t'.job.call w).1 with e | v
    · exact fun _ _ h => ⟨h, rfl⟩
    · rw [Effect.ok_bind, Effect.ok_bind, coerce_plain hx (hadmits w w' v hw hv)]
      refine (Act.Coupled.ofExcept _).bind fun results => ?_
      rw [report_of_no_stamp hstamp, pure_bind]
      exact coupled_report hE t' results (coupled_mapEach hE [] _ _)
  rw [← hanswer]
  exact hsettle _ _ hmirrored

end Executor

/-! ### What a direct executor asks -/

/-- A question about a call, its answer or a row, and not to a hook, the clock or the log. -/
def Request.Bare : Request → Prop
  | .submit .. => True
  | .collect .. => True
  | .mapRow .. => True
  | _ => False

namespace Executor

variable {x : Executor} {th : Threshold} {id : Nat}

theorem bare_submission (b : Backend) (call : Call) (d : Nat) :
    ∀ y ∈ b.submission call d, y.request.Bare := by
  intro y hy
  obtain ⟨n, hrequest⟩ := request_of_submission hy
  rw [hrequest]
  trivial

theorem bare_served {b : Backend} (hb : b.IsHandler) {call : Call} {es : List Exchange}
    {r : Except Failure Value} (h : b.Called E call es r) : ∀ y ∈ es, y.request.Bare := by
  rintro ⟨q, a⟩ hy
  cases h with
  | store =>
    obtain h | h : _ ∨ _ := by simpa using hy
    · obtain ⟨rfl, -⟩ := h
      trivial
    · obtain ⟨rfl, -⟩ := h
      trivial
  | recorder => cases hy
  | connection => exact hb.elim
  | engine => exact hb.elim

/-- A direct executor does nothing before it hands over a call. -/
theorem Opened.eq_nil (hx : x.direct = true) {queries : List String} {es : List Exchange}
    {stamp : Option (Nat × Binary64)} {a : Alteration} (h : x.Opened th queries id es stamp a) :
    es = [] ∧ stamp = none ∧ a = none := by
  cases h with
  | direct _ => exact ⟨rfl, rfl, rfl⟩
  | timed hdirect _ => exact absurd (hx.symm.trans hdirect) (by decide)

theorem Begun.bare (hx : x.direct = true) {job : Job} {es : List Exchange}
    {r : Except Failure Ticket} (h : x.Begun th job id es r) : ∀ y ∈ es, y.request.Bare := by
  cases h with
  | refused hdirect _ => exact absurd (hx.symm.trans hdirect) (by decide)
  | handed hopened =>
    obtain ⟨rfl, -⟩ := hopened.eq_nil hx
    exact bare_submission _ _ _

theorem Concluded.bare (hx : x.direct = true) (hb : x.backend.IsHandler) {plan : Plan}
    {es : List Exchange} {r : Except Failure (List Value)} (h : Concluded E x th plan id es r) :
    ∀ y ∈ es, y.request.Bare := by
  cases h with
  | refused hdirect _ => exact absurd (hx.symm.trans hdirect) (by decide)
  | unanswered hopened hserved =>
    obtain ⟨rfl, -⟩ := hopened.eq_nil hx
    exact bare_served hb hserved
  | uncoerced hopened hserved _ =>
    obtain ⟨rfl, -⟩ := hopened.eq_nil hx
    exact bare_served hb hserved
  | reported hopened hserved _ hreported =>
    obtain ⟨rfl, rfl, -⟩ := hopened.eq_nil hx
    cases hreported with
    | direct =>
      rw [List.append_nil]
      exact bare_served hb hserved

/-- A direct executor calls no hook, reads no clock and writes no log. -/
theorem Dispatched.bare (hx : x.direct = true) (hb : x.backend.IsHandler) {plan : Plan}
    {es : List Exchange} {r : Except Failure (List Value)} (h : Dispatched E x th plan id es r) :
    ∀ y ∈ es, y.request.Bare := by
  intro y hy
  cases h with
  | failed h => exact h.bare hx hb y hy
  | mapped h hmapped =>
    rcases List.mem_append.mp hy with hy | hy
    · exact h.bare hx hb y hy
    · obtain ⟨mapper, row, -, hrequest⟩ := hmapped.request y hy
      rw [hrequest]
      trivial

end Executor

end SqlWeave
