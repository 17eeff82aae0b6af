import SqlWeave.Proofs.Execution.Parallel
import SqlWeave.Proofs.QueryLog.Recording

/-!
# A dispatch repeated elsewhere

The two halves of a dispatch, each side by side with the same half in another environment. The first
halves hand over the call alike (`Executor.parallel_start`), and the second halves end alike if the
backends give the same answer (`Executor.parallel_settle`), unless a hook or a row mapper behaves
differently. Ids, times and how long a backend waits make no difference.
-/

namespace SqlWeave

variable {E E' : Environment} {N : Nat → Nat → Prop}

theorem Act.Parallel.drawId_bind {β β' : Type} {S : β → β' → Prop} {n n' : Nat}
    {k : Nat → Act E.recorded β} {k' : Nat → Act E'.recorded β'}
    (h : ∀ id id', Act.Parallel N (k id) (k' id') S) :
    Act.Parallel N (Act.drawId n >>= k) (Act.drawId n' >>= k') S := by
  intro w w' hw
  exact h _ _ (Act.drawId n w).2 (Act.drawId n' w').2 ⟨hw.threshold, hw.minted⟩

/-- New contents get the same numbers where the next numbers are the same. -/
theorem Act.Parallel.refresh (number : Nat) (vs : List Value) :
    Act.Parallel Eq (Act.refresh number vs : Act E.recorded (List Value))
      (Act.refresh number vs : Act E'.recorded (List Value)) Eq := by
  intro w w' hw
  have hminted := hw.minted
  have hshare : ∀ (F : Environment) (u : World F), (Act.refresh number vs u).1 =
      .ok (Value.shareItems vs u.minted).1 ∧
        (Act.refresh number vs u).2.minted = (Value.shareItems vs u.minted).2 := fun _ _ => ⟨rfl, rfl⟩
  refine ⟨[], [], (List.append_nil _).symm, (List.append_nil _).symm, .inr ⟨rfl, ?_, ?_⟩⟩
  · constructor
    · exact hw.threshold
    · rw [(hshare _ w).2, (hshare _ w').2, hminted]
  · rw [(hshare _ w).1, (hshare _ w').1, hminted]
    exact .ok rfl

theorem Backend.unheard_submit (b : Backend) (call : Call) :
    Act.Asks (E := E) Request.Unheard (b.submit call) := by
  cases b with
  | store n => exact .ask fun _ => rfl
  | _ => exact .pure 0

/-- No function of the caller is asked while a backend answers. -/
theorem Backend.unheard_collect (b : Backend) (call : Call) :
    Act.Asks (E := E) Request.Unheard (b.collect call) := by
  cases b with
  | store n => exact .bind (.ask fun _ => rfl) fun r => .ofExcept r
  | recorder n =>
    intro w
    obtain ⟨es, hext, -, hkeeps⟩ := Executor.asks_collect (.recorder n) call w
    have hpast : w.past = w.past ++ es := hext.past
    obtain rfl : es = [] := by simpa using hpast
    exact ⟨[], hext, fun _ h => absurd h List.not_mem_nil, hkeeps⟩
  | connection n =>
    refine (Connection.asks_answer n call).mono fun q hq => ?_
    cases q <;> first | exact fun _ => rfl | exact hq.elim
  | engine n =>
    refine (Engine.asks_answer n call).mono fun q hq => ?_
    cases q <;> first | exact fun _ => rfl | exact hq.elim

namespace Executor

/-- A function that is heard alike answers alike. -/
theorem eq_of_heard {α β : Type} {f : α → β} (hf : ∀ a b, f a = f b → a = b)
    {r r' : Except Failure α} (h : r.map f = r'.map f) : r = r' := by
  cases r with
  | error e =>
    cases r' with
    | error e' => exact congrArg _ (Except.error.inj h)
    | ok _ => cases h
  | ok a =>
    cases r' with
    | error e' => cases h
    | ok a' => exact congrArg _ (hf a a' (Except.ok.inj h))

/-- A hook that is heard alike answers alike. -/
theorem agree_of_heard {a a' : Except Failure Alteration}
    (h : (a.map Sum.inl : Response) = a'.map Sum.inl) : Effect.Agree Eq a a' := by
  rw [eq_of_heard (fun _ _ => Sum.inl.inj) h]
  exact .of_eq a'

/-! ### The first half -/

theorem parallel_callBefore (x : Executor) (id id' : Nat) (queries : List String) :
    Act.Parallel N (x.callBefore id queries : Act E.recorded Alteration)
      (x.callBefore id' queries : Act E'.recorded Alteration) Eq := by
  rw [callBefore, callBefore]
  rcases x.before with _ | hook
  · exact .pure rfl
  · cases hook with
    | inert typeName => exact .fail _
    | callback n =>
      exact (Act.Parallel.ask_heard (fun _ => rfl) fun _ => rfl).bind (fun r => .ofExcept r)
        (fun r => .ofExcept r) fun a a' h => .ofExcept (agree_of_heard h)

theorem unheard_handOver (x : Executor) (job : Job) (id : Nat) :
    Act.Asks (E := E) Request.Unheard (x.handOver job id) :=
  .bind (.log (fun _ _ => rfl) _) fun _ => .bind (.ask fun _ => rfl) fun _ =>
    .bind (x.backend.unheard_submit _) fun _ => .pure _

theorem traces_handOver (th : Threshold) (x : Executor) (job : Job) (id : Nat) :
    Act.Traces (E := E) th (x.handOver job id) fun _ r =>
      ∃ now d, r = .ok ⟨job, some (id, now), d⟩ := by
  refine .log_bind (.ask_bind fun now => (Backend.traces_submit x.backend job.call).bind_ok
    fun es d _ => .pure ?_)
  exact ⟨now, d, rfl⟩

/-- What two first halves of a dispatch end with. -/
structure Handed (job : Job) (t t' : Ticket) : Prop where
  /-- One dispatches the job, which the hook before may have altered. -/
  left : ∃ a, t.job = job.altered a
  /-- So does the other one. -/
  right : t'.job = t.job
  /-- Both have a stamp, or none has. -/
  stamp : t.stamp.isSome = t'.stamp.isSome

theorem parallel_startAs (x : Executor) (job : Job) (id id' : Nat) :
    Act.Parallel N (x.startAs job id : Act E.recorded Ticket)
      (x.startAs job id' : Act E'.recorded Ticket) (Handed job) := by
  refine (parallel_callBefore x id id' _).bind
    (fun a => .of_asks (x.unheard_handOver (job.altered a) id))
    (fun a => .of_asks (x.unheard_handOver (job.altered a) id')) fun a a' ha => ?_
  subst ha
  refine .of_unheard (x.unheard_handOver (job.altered a) id)
    (x.unheard_handOver (job.altered a) id') fun w w' _ => ?_
  obtain ⟨_, _, now, d, h⟩ := x.traces_handOver w.threshold (job.altered a) id w rfl
  obtain ⟨_, _, now', d', h'⟩ := x.traces_handOver w'.threshold (job.altered a) id' w' rfl
  rw [h, h']
  exact .ok ⟨⟨a, rfl⟩, rfl, rfl⟩

/-- First halves hand over a call alike, unless a hook behaves differently. -/
theorem parallel_start (x : Executor) (job : Job) :
    Act.Parallel N (x.start job : Act E.recorded Ticket) (x.start job : Act E'.recorded Ticket)
      (Handed job) := by
  cases h : x.direct with
  | true =>
    rw [start_of_direct h, start_of_direct h]
    refine .of_unheard (.bind (x.backend.unheard_submit _) fun _ => .pure _)
      (.bind (x.backend.unheard_submit _) fun _ => .pure _) fun w w' _ => ?_
    have hresult : ∀ (F : Environment) (u : World F.recorded), ∃ d,
        ((do
          let delay ← x.backend.submit job.call
          pure (⟨job, none, delay⟩ : Ticket) : Act F.recorded Ticket) u).1 = .ok ⟨job, none, d⟩ := by
      intro F u
      obtain ⟨_, _, d, hd, -⟩ := Backend.traces_submit x.backend job.call u rfl
      refine ⟨d, ?_⟩
      rw [Effect.bind_of_ok (Prod.ext hd rfl)]
      rfl
    obtain ⟨d, hd⟩ := hresult E w
    obtain ⟨d', hd'⟩ := hresult E' w'
    rw [hd, hd']
    exact .ok ⟨⟨none, (Job.altered_none job).symm⟩, rfl, rfl⟩
  | false =>
    rw [start_of_not_direct h, start_of_not_direct h]
    exact .drawId_bind (parallel_startAs x job)

/-! ### The second half -/

/-- A hook after a dispatch ends alike, unless it behaves differently. -/
theorem parallel_callAfter (hook : AfterHook) (id id' : Nat) (queries : List String)
    (results : List Value) (duration duration' : Binary64) :
    Act.Parallel N (hook.call id queries results duration : Act E.recorded Alteration)
      (hook.call id' queries results duration' : Act E'.recorded Alteration) Eq := by
  cases hook with
  | inert typeName => exact .fail _
  | callback n =>
    exact (Act.Parallel.ask_heard (fun _ => rfl) fun _ => rfl).bind (fun r => .ofExcept r)
      (fun r => .ofExcept r) fun a a' h => .ofExcept (agree_of_heard h)
  | queryLog logger level =>
    have hasks : ∀ (F : Environment) (id : Nat) (d : Binary64), Act.Asks (E := F) Request.Unheard
        ((AfterHook.queryLog logger level).call id queries results d) := fun F id d =>
      .bind (.of_unchanged fun _ => rfl) fun w =>
        .bind (.publish (fun _ _ => rfl) _) fun _ => .pure none
    refine .of_unheard (hasks E id duration) (hasks E' id' duration') fun w w' hw => ?_
    rw [AfterHook.call_queryLog_fst, AfterHook.call_queryLog_fst, hw.threshold,
      QueryLog.report_fst_duration duration duration']
    exact .of_eq _

theorem unheard_passOn (id count : Nat) (r : Except Failure Alteration) :
    Act.Asks (E := E) Request.Unheard (passOn id count r) := by
  rcases r with e | a
  · refine .bind ?_ fun _ => .fail e
    rw [warn]
    cases e.ordinary with
    | false => exact .pure ()
    | true => exact .log (fun _ _ => rfl) _
  · exact .pure a

theorem passOn_fst (id count : Nat) (r : Except Failure Alteration) (w : World E.recorded) :
    (passOn id count r w).1 = r := by
  rcases r with e | _
  · obtain ⟨_, _, a, ha, -⟩ := traces_warn id count e w rfl
    rw [passOn, Effect.bind_of_ok (Prod.ext ha rfl)]
    rfl
  · rfl

theorem parallel_runAfter (x : Executor) (id id' : Nat) (queries : List String)
    (results : List Value) (duration duration' : Binary64) :
    Act.Parallel N (x.runAfter id queries results duration : Act E.recorded Alteration)
      (x.runAfter id' queries results duration' : Act E'.recorded Alteration) Eq := by
  rcases h : x.after with _ | hook
  · rw [runAfter, runAfter, h]
    exact .pure rfl
  · rw [runAfter_of_hook h, runAfter_of_hook h]
    refine (parallel_callAfter hook id id' queries results duration duration').attempt.bind
      (fun _ => .of_asks (unheard_passOn _ _ _)) (fun _ => .of_asks (unheard_passOn _ _ _))
      fun r r' hr => .of_unheard (unheard_passOn _ _ _) (unheard_passOn _ _ _) fun w w' _ => ?_
    rw [passOn_fst, passOn_fst, hr.eq]
    exact .of_eq r'

/-- Reports end alike, whatever the clock says, unless the hook behaves differently. -/
theorem parallel_report (x : Executor) {job : Job} {t t' : Ticket} (h : Handed job t t')
    (results : List Value) :
    Act.Parallel N (x.report t results : Act E.recorded (List Value))
      (x.report t' results : Act E'.recorded (List Value)) Eq := by
  have hstamp := h.stamp
  rw [report, report, h.right]
  rcases hleft : t.stamp with _ | ⟨id, started⟩
  · rcases hright : t'.stamp with _ | ⟨id', started'⟩
    · exact .pure rfl
    · rw [hleft, hright] at hstamp
      cases hstamp
  · rcases hright : t'.stamp with _ | ⟨id', started'⟩
    · rw [hleft, hright] at hstamp
      cases hstamp
    · have hafter : ∀ (F : Environment) (id : Nat) (d : Binary64), Act.Asks (E := F) Unmapped (do
          let a ← x.runAfter id t.job.call.queries results d
          pure (a.results results)) := fun F id d =>
        .bind (asks_runAfter x id _ results d) fun _ => .pure _
      have hlog : ∀ (F : Environment) (id : Nat) (d : Binary64), Act.Grows (do
          Act.log (finished id d)
          let a ← x.runAfter id t.job.call.queries results d
          pure (a.results results) : Act F.recorded (List Value)) := fun F id d =>
        .of_asks (.bind (.log unmapped_log _) fun _ => hafter F id d)
      refine (Act.Parallel.ask_unheard (q := .clock) fun _ => rfl).bind (fun _ => hlog E id _)
        (fun _ => hlog E' id' _) fun now now' _ => ?_
      refine (Act.Parallel.log _ _).bind (fun _ => .of_asks (hafter E id _))
        (fun _ => .of_asks (hafter E' id' _)) fun _ _ _ => ?_
      refine (parallel_runAfter x id id' _ results _ _).bind (fun _ => .pure _) (fun _ => .pure _)
        fun a a' ha => ?_
      rw [ha]
      exact .pure rfl

theorem parallel_mapRows (mapper : String) (rows : List Value) :
    Act.Parallel N (mapRows mapper rows : Act E.recorded (List Value))
      (mapRows mapper rows : Act E'.recorded (List Value)) Eq := by
  induction rows with
  | nil => exact .pure rfl
  | cons row rows ih =>
    have hrest : ∀ (F : Environment) (v : Value), Act.Grows (do
        let rows ← mapRows mapper rows
        pure (v :: rows) : Act F.recorded (List Value)) := fun F v =>
      .bind (.of_traces fun th => traces_mapRows mapper rows) fun _ => .pure _
    refine (Act.Parallel.ask_heard (q := .mapRow mapper row) (fun _ => rfl) fun _ => rfl).bind
      (fun r => .bind (.ofExcept r) fun v => hrest E v)
      (fun r => .bind (.ofExcept r) fun v => hrest E' v) fun a a' h => ?_
    obtain rfl : a = a' := eq_of_heard (fun _ _ => Sum.inr.inj) h
    refine (Act.Parallel.ofExcept (.of_eq a)).bind (fun v => hrest E v) (fun v => hrest E' v)
      fun v v' hv => ?_
    rw [hv]
    refine ih.bind (fun _ => .pure _) (fun _ => .pure _) fun vs vs' hvs => ?_
    rw [hvs]
    exact .pure rfl

theorem parallel_mapResult (mapper : Option String) (v : Value) :
    Act.Parallel Eq (mapResult mapper v : Act E.recorded Value)
      (mapResult mapper v : Act E'.recorded Value) Eq := by
  rcases mapper with _ | m
  · exact .pure rfl
  · cases v with
    | query label o =>
      rcases label with _ | number
      · refine (parallel_mapRows m o.rows).bind (fun _ => .pure _) (fun _ => .pure _) fun a a' h => ?_
        rw [h]
        exact .pure rfl
      · have hrest : ∀ (F : Environment) (rows : List Value), Act.Grows (do
            let rows ← Act.refresh number rows
            pure (.query (some number) { o with rows }) : Act F.recorded Value) := fun F rows =>
          .bind (.of_traces fun th => traces_refresh number rows) fun _ => .pure _
        refine (parallel_mapRows m o.rows).bind (fun _ => hrest E _) (fun _ => hrest E' _)
          fun a a' h => ?_
        rw [h]
        refine (Act.Parallel.refresh number a').bind (fun _ => .pure _) (fun _ => .pure _)
          fun b b' hb => ?_
        rw [hb]
        exact .pure rfl
    | _ => exact .pure rfl

/-- The mapped results are the same, unless a mapper behaves differently. -/
theorem parallel_mapEach (done : List Value) (ms : List (Option String)) (vs : List Value) :
    Act.Parallel Eq (mapEach done ms vs : Act E.recorded (List Value))
      (mapEach done ms vs : Act E'.recorded (List Value)) Eq := by
  induction ms generalizing done vs with
  | nil => exact .pure rfl
  | cons m ms ih =>
    cases vs with
    | nil => exact .pure rfl
    | cons v vs =>
      refine (parallel_mapResult m v).bind (fun _ => .of_traces fun th => traces_mapEach _ _ _)
        (fun _ => .of_traces fun th => traces_mapEach _ _ _) fun a a' h => ?_
      rw [h]
      exact ih _ _

/-- The second half of a dispatch, after the answer of the backend. -/
def settle (x : Executor) (t : Ticket) (answer : Except Failure Value) : Act E (List Value) := do
  let v ← Effect.ofExcept answer
  let results ← Effect.ofExcept (x.coerce v t.job.call)
  let results ← x.report t results
  mapResults t.job.mappers results

/-- The second half of a dispatch takes the answer of the backend, and then needs nothing else of
it. -/
theorem finish_eq_settle (x : Executor) (t : Ticket) (w : World E) :
    x.finish t w = x.settle t (x.backend.collect t.job.call w).1 (x.backend.collect t.job.call w).2 := by
  rw [finish, conclude_eq, settle]
  simp only [bind_assoc]
  rw [Effect.bind_apply]
  rcases x.backend.collect t.job.call w with ⟨e | v, w'⟩
  · rfl
  · rfl

/-- Second halves end alike on the same answer of the backend, unless a hook or a mapper behaves
differently. -/
theorem parallel_settle (x : Executor) {job : Job} {t t' : Ticket} (h : Handed job t t')
    (answer : Except Failure Value) :
    Act.Parallel Eq (x.settle t answer : Act E.recorded (List Value))
      (x.settle t' answer : Act E'.recorded (List Value)) Eq := by
  have hmapped : ∀ (F : Environment) (results : List Value),
      Act.Grows (mapResults t.job.mappers results : Act F.recorded (List Value)) :=
    fun F results => .of_traces fun th => traces_mapEach _ _ _
  have hreported : ∀ (F : Environment) (u : Ticket) (results : List Value), Act.Grows (do
      let results ← x.report u results
      mapResults t.job.mappers results : Act F.recorded (List Value)) := fun F u results =>
    .bind (.of_traces fun th => traces_report x u results) fun results => hmapped F results
  rw [settle, settle, h.right]
  refine (Act.Parallel.ofExcept (.of_eq answer)).bind
    (fun v => .bind (.ofExcept _) fun results => hreported E t results)
    (fun v => .bind (.ofExcept _) fun results => hreported E' t' results) fun v v' hv => ?_
  rw [hv]
  refine (Act.Parallel.ofExcept (.of_eq _)).bind (fun results => hreported E t results)
    (fun results => hreported E' t' results) fun results results' hresults => ?_
  rw [hresults]
  refine (parallel_report x h results').bind (fun _ => hmapped E _) (fun _ => hmapped E' _)
    fun left left' hleft => ?_
  rw [hleft]
  exact parallel_mapEach [] _ _

/-- Second halves on the same answer of the backend, with all that is asked in them. -/
theorem finish_alike (x : Executor) {job : Job} {t t' : Ticket} (h : Handed job t t')
    {w : World E.recorded} {w' : World E'.recorded} (hw : w.Beside Eq w')
    (hanswer : (x.backend.collect t.job.call w).1 = (x.backend.collect t.job.call w').1) :
    ∃ es es', (x.finish t w).2.past = w.past ++ es ∧ (x.finish t' w').2.past = w'.past ++ es' ∧
      (Differ (heard es) (heard es') ∨
        heard es = heard es' ∧ (x.finish t w).1 = (x.finish t' w').1) := by
  obtain ⟨fs, hext, hfs, hkeeps⟩ := x.backend.unheard_collect t.job.call w
  obtain ⟨fs', hext', hfs', hkeeps'⟩ := x.backend.unheard_collect t.job.call w'
  have hbeside : (x.backend.collect t.job.call w).2.Beside Eq (x.backend.collect t.job.call w').2 := by
    constructor
    · rw [hext.threshold, hext'.threshold, hw.threshold]
    · rw [hkeeps.minted, hkeeps'.minted, hw.minted]
  obtain ⟨gs, gs', hgs, hgs', hcase⟩ := parallel_settle x h (x.backend.collect t.job.call w).1 _ _ hbeside
  rw [finish_eq_settle, finish_eq_settle, h.right, ← hanswer]
  refine ⟨fs ++ gs, fs' ++ gs', ?_, ?_, ?_⟩
  · rw [hgs, hext.past, List.append_assoc]
  · rw [hgs', hext'.past, List.append_assoc]
  · rw [heard_append, heard_append, heard_of_unheard hfs, heard_of_unheard hfs']
    obtain hdiffer | ⟨hheard, -, hagree⟩ := hcase
    · exact .inl hdiffer
    · exact .inr ⟨hheard, hagree.eq⟩

/-- The first half of a dispatch numbers nothing. -/
theorem start_minted (x : Executor) (job : Job) (w : World E.recorded) :
    (x.start job w).2.minted = w.minted := by
  cases h : x.direct with
  | true =>
    obtain ⟨_, _, _, hkeeps⟩ := asks_submit x.backend job.call w
    rw [start_of_direct h, Effect.bind_apply]
    rcases hsubmit : (x.backend.submit job.call : Act E.recorded Nat) w with ⟨e | d, w'⟩
    · rw [hsubmit] at hkeeps
      exact hkeeps.minted
    · rw [hsubmit] at hkeeps
      exact hkeeps.minted
  | false =>
    obtain ⟨_, _, _, hkeeps⟩ := asks_startAs x job (w.drawn x.number + 1) (Act.drawId x.number w).2
    rw [start_of_not_direct h]
    exact hkeeps.minted

end Executor

end SqlWeave
