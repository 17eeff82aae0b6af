import SqlWeave.Proofs.Execution.Unhooked

/-!
# Dispatches without hooks

The halves of a dispatch beside those of the executor without hooks. The first halves hand over the
same (`Executor.relates_start`). The second halves end alike, or the hook after the dispatch has failed
(`Executor.finish_paired`); then the mappers are called on one side only.
-/

namespace SqlWeave

open Effect

variable {E E' : Environment} {R : E.State → E'.State → Prop}

/-! ### Backends -/

/-- Outcomes that nothing else holds, as the answer to a batch. -/
theorem Call.owns_ofList {α : Type} {bs : List Bound} {f : α → Value} {as : List α}
    (h : ∀ a, (f a).outcomeNumber? = none) : (Call.batch bs).Owns (.ofList (as.map f)) := by
  intro items hitems u hu
  obtain rfl := Except.ok.inj hitems
  obtain ⟨a, -, rfl⟩ := List.mem_map.mp hu
  exact h a

namespace Backend

theorem relates_submit (hE : E.Unhooks E' R) (b : Backend) (call : Call) :
    Relates (World.Paired R) (fun _ _ => True) (b.submit call : Act E.recorded Nat)
      (b.submit call : Act E'.recorded Nat) := by
  cases b with
  | store n => exact Act.relates_ask_any (hE.submit n call)
  | _ => exact .pure trivial

/-- A backend that answers alike gives the same answer. -/
theorem relates_collect {b : Backend} (hb : b.Alike E E' R) (call : Call) :
    Relates (World.Paired R) Eq (b.collect call : Act E.recorded Value)
      (b.collect call : Act E'.recorded Value) := by
  cases b with
  | store n => exact (Act.relates_ask (hb call)).bind_eq fun r => .ofExcept (.of_eq r)
  | connection n => exact Connection.relates_answer (fun q hq => Act.relates_ask (hb q hq)) call
  | engine n => exact Engine.relates_answer (fun q hq => Act.relates_ask (hb q hq)) call
  | recorder n =>
    intro w w' hw
    have hstate : ∀ (F : Environment) (u : World F), (Backend.recorder n).collect call u =
        (.ok (Backend.recorded (u.recorders n).rows call),
          { u with recorders := fun m =>
              (if m = n then { u.recorders n with heard := (u.recorders n).heard ++ [call] }
              else u.recorders m) }) := fun _ _ => rfl
    rw [hstate, hstate, hw.recorders]
    exact ⟨⟨hw.drawn, hw.minted, rfl, hw.outside, hw.served⟩, .ok rfl⟩

/-- The rows that a connection, an engine or a recorder answers with are held by nothing else. -/
theorem owns_collect {b : Backend} (hb : b.Owning E E' R) {call : Call} {w : World E.recorded}
    {w' : World E'.recorded} (hw : w.Paired R w') {v : Value} (h : (b.collect call w).1 = .ok v) :
    call.Owns v := by
  have hmade : ∀ {β : Type} (p : Act E.recorded β) (f : β → Value),
      ((p >>= fun a => pure (f a)) w).1 = .ok v → ∃ a, f a = v := by
    intro β p f hv
    rw [bind_apply] at hv
    rcases hp : p w with ⟨e | a, u⟩
    · rw [hp] at hv
      cases hv
    · rw [hp] at hv
      exact ⟨a, Except.ok.inj hv⟩
  cases b with
  | store n =>
    refine hb call w.outside.1 w'.outside.1 v hw.outside ?_
    rw [← h]
    show _ = (Effect.ofExcept (E.answer (.collect n call) w.outside.1).1 _).1
    rw [ofExcept_apply]
  | recorder n =>
    obtain rfl := Except.ok.inj h
    cases call with
    | all b | run b => rfl
    | batch bs => exact Call.owns_ofList fun b => rfl
  | connection n | engine n =>
    cases call with
    | all b | run b =>
      obtain ⟨o, rfl⟩ := hmade _ _ h
      rfl
    | batch bs =>
      obtain ⟨os, rfl⟩ := hmade _ _ h
      exact Call.owns_ofList fun o => rfl

end Backend

namespace Executor

/-! ### Coercing answers -/

theorem coerceEach_unhooked (x : Executor) (vs : List Value) :
    x.unhooked.coerceEach vs = x.coerceEach vs := by
  induction vs with
  | nil => rfl
  | cons v vs ih =>
    rw [coerceEach, coerceEach, ih]
    rfl

/-- Hooks make no difference to how answers are coerced. -/
theorem coerce_unhooked (x : Executor) (v : Value) (call : Call) :
    x.unhooked.coerce v call = x.coerce v call := by
  cases call with
  | all b => rfl
  | run b => rfl
  | batch bs => simp only [coerce, coerceBatch, coerceEach_unhooked]

theorem outcomeNumber?_coerceQuery {x : Executor} {v r : Value} (hv : v.outcomeNumber? = none)
    (h : x.coerceQuery v = .ok r) : r.outcomeNumber? = none := by
  rcases hr : r.outcomeNumber? with _ | n
  · rfl
  · rw [outcomeNumber?_of_coerceQuery h hr] at hv
    cases hv

theorem outcomeNumber?_coerceRun {x : Executor} {v r : Value} (hv : v.outcomeNumber? = none)
    (h : x.coerceRun v = .ok r) : r.outcomeNumber? = none := by
  have hrun : ∀ {v r : Value}, v.outcomeNumber? = none → Outcome.asRun v = .ok r →
      r.outcomeNumber? = none := by
    intro v r hv h
    cases v with
    | run o =>
      obtain rfl := Except.ok.inj h
      rfl
    | query label o =>
      obtain rfl := Except.ok.inj h
      exact hv
    | dict entries =>
      rw [Outcome.asRun] at h
      rcases hcheck : RunOutcome.check entries with issues | o
      · rw [hcheck] at h
        cases h
      · rw [hcheck] at h
        obtain rfl := Except.ok.inj h
        rfl
    | _ => cases h
  unfold coerceRun at h
  split at h
  · exact hrun hv h
  · exact hrun hv h
  · obtain rfl := Except.ok.inj h
    exact hv

/-- Answers that are held by nothing else are coerced to such results. -/
theorem outcomeNumber?_coerce {x : Executor} {v : Value} {call : Call} {results : List Value}
    (hv : call.Owns v) (h : x.coerce v call = .ok results) :
    ∀ r ∈ results, r.outcomeNumber? = none := by
  intro r hr
  cases coerces_of_mem h hr with
  | all hr => exact outcomeNumber?_coerceQuery hv hr
  | run hr => exact outcomeNumber?_coerceRun hv hr
  | batch hitems hu hr => exact outcomeNumber?_coerceQuery (hv _ hitems _ hu) hr

/-! ### Mapping rows -/

theorem relates_mapRows (hE : E.Unhooks E' R) (mapper : String) (rows : List Value) :
    Relates (World.Paired R) Eq (mapRows mapper rows : Act E.recorded (List Value))
      (mapRows mapper rows : Act E'.recorded (List Value)) := by
  induction rows with
  | nil => exact .pure rfl
  | cons row rows ih =>
    exact (Act.relates_ask (hE.mapRow mapper row)).bind_eq fun r =>
      (Relates.ofExcept (.of_eq r)).bind_eq fun v => ih.bind_eq fun vs => .pure rfl

theorem relates_mapResult (hE : E.Unhooks E' R) (mapper : Option String) (v : Value) :
    Relates (World.Paired R) Eq (mapResult mapper v : Act E.recorded Value)
      (mapResult mapper v : Act E'.recorded Value) := by
  rcases mapper with _ | m
  · exact .pure rfl
  · cases v with
    | query label o =>
      rcases label with _ | number
      · exact (relates_mapRows hE m o.rows).bind_eq fun rows => .pure rfl
      · exact (relates_mapRows hE m o.rows).bind_eq fun rows =>
          (Act.relates_refresh hE number rows).bind_eq fun rows => .pure rfl
    | _ => exact .pure rfl

theorem relates_mapEach (hE : E.Unhooks E' R) (done : List Value) (ms : List (Option String))
    (vs : List Value) :
    Relates (World.Paired R) Eq (mapEach done ms vs : Act E.recorded (List Value))
      (mapEach done ms vs : Act E'.recorded (List Value)) := by
  induction ms generalizing done vs with
  | nil => exact .pure rfl
  | cons m ms ih =>
    cases vs with
    | nil => exact .pure rfl
    | cons v vs => exact (relates_mapResult hE m v).bind_eq fun v => ih _ _

theorem preserves_mapRows (hfree : E.MapsFreely E' R) (w : World E.recorded) (mapper : String)
    (rows : List Value) :
    Preserves (World.Paired R w) (mapRows mapper rows : Act E'.recorded (List Value)) := by
  have hask : ∀ row, Preserves (World.Paired R w) (Act.ask (.mapRow mapper row) : Act E'.recorded _) :=
    fun row w' hw => hw.ask_right rfl (hfree mapper row _ _ hw.outside)
  induction rows with
  | nil => exact .pure _
  | cons row rows ih =>
    exact (hask row).bind fun _ r _ => (Preserves.ofExcept r).bind fun _ v _ =>
      ih.bind fun _ vs _ => .pure _

theorem preserves_mapResult (hfree : E.MapsFreely E' R) (w : World E.recorded)
    (mapper : Option String) {v : Value} (hv : v.outcomeNumber? = none) :
    Preserves (World.Paired R w) (mapResult mapper v : Act E'.recorded Value) := by
  rcases mapper with _ | m
  · exact .pure _
  · cases v with
    | query label o =>
      obtain rfl : label = none := hv
      exact (preserves_mapRows hfree w m o.rows).bind fun _ rows _ => .pure _
    | _ => exact .pure _

/-- Mapping the rows of results that are held by nothing else makes no difference. -/
theorem preserves_mapEach (hfree : E.MapsFreely E' R) (w : World E.recorded) (done : List Value)
    (ms : List (Option String)) {vs : List Value} (hvs : ∀ v ∈ vs, v.outcomeNumber? = none) :
    Preserves (World.Paired R w) (mapEach done ms vs : Act E'.recorded (List Value)) := by
  induction ms generalizing done vs with
  | nil => exact .pure _
  | cons m ms ih =>
    cases vs with
    | nil => exact .pure _
    | cons v vs =>
      have hv : v.outcomeNumber? = none := hvs v List.mem_cons_self
      refine (preserves_mapResult hfree w m hv).bind fun u v' hv' => ?_
      have hnumber : v'.outcomeNumber? = none := (outcomeNumber?_of_mapResult hv').trans hv
      have hself : vs.map (renewal v') = vs := by
        refine (List.map_congr_left fun u _ => renewal_eq_self fun n hn => ?_).trans (List.map_id vs)
        rw [hnumber] at hn
        cases hn
      rw [hself]
      exact ih _ fun u hu => hvs u (List.mem_cons_of_mem v hu)

/-! ### The first half -/

variable {x : Executor} {job : Job} {t t' : Ticket} {w : World E.recorded} {w' : World E'.recorded}

theorem preserves_callBefore (hE : E.Unhooks E' R) (x : Executor) (id : Nat) (queries : List String)
    (w' : World E'.recorded) :
    Preserves (World.Paired R · w') (x.callBefore id queries : Act E.recorded Alteration) := by
  rw [callBefore]
  rcases x.before with _ | hook
  · exact .pure none
  · cases hook with
    | inert typeName => exact .fail _
    | callback n =>
      exact .bind (fun w hw => hw.ask_left rfl (hE.before n id queries _ _ hw.outside))
        fun _ r _ => .ofExcept r

/-- A hook before a dispatch that returns leaves the parameters alone. -/
theorem callBefore_fst (hx : ∀ hook, x.before = some hook → hook.ReturnsIn E E' R)
    (hw : w.Paired R w') (id : Nat) (queries : List String) :
    (x.callBefore id queries w).1 = .ok none := by
  rw [callBefore]
  rcases hhook : x.before with _ | hook
  · rfl
  · have hreturns := hx hook hhook
    cases hook with
    | inert typeName => exact hreturns.elim
    | callback n =>
      show (Effect.ofExcept (E.answer (.before n id queries) w.outside.1).1 _).1 = _
      rw [ofExcept_apply]
      exact hreturns id queries _ _ hw.outside

theorem relates_callBefore (hE : E.Unhooks E' R)
    (hx : ∀ hook, x.before = some hook → hook.ReturnsIn E E' R) (id : Nat) (queries : List String) :
    Relates (World.Paired R) (fun a a' => a = none ∧ a' = none)
      (x.callBefore id queries : Act E.recorded Alteration)
      (x.unhooked.callBefore id queries : Act E'.recorded Alteration) := by
  intro w w' hw
  rw [callBefore_fst hx hw]
  exact ⟨preserves_callBefore hE x id queries w' w hw, .ok ⟨rfl, rfl⟩⟩

/-- The first halves hand over the same. -/
theorem relates_start (hE : E.Unhooks E' R) (hx : x.Unaffected E E' R) (job : Job) :
    Relates (World.Paired R) (Handed job) (x.start job : Act E.recorded Ticket)
      (x.unhooked.start job : Act E'.recorded Ticket) := by
  cases h : x.direct with
  | true =>
    rw [start_of_direct h, start_of_direct (x := x.unhooked) h]
    exact (Backend.relates_submit hE x.backend job.call).bind fun d d' _ =>
      .pure ⟨⟨none, (Job.altered_none job).symm⟩, rfl, rfl⟩
  | false =>
    rw [start_of_not_direct h, start_of_not_direct (x := x.unhooked) h]
    refine (Act.relates_drawId x.number).bind_eq fun id => ?_
    refine (relates_callBefore hE hx.before id _).bind fun a a' ha => ?_
    obtain ⟨rfl, rfl⟩ := ha
    rw [Job.altered_none]
    refine .left (fun u => Act.preserves_log_left hE u _) (fun u => Act.returns_log _ _) fun _ =>
      .right (fun u => Act.preserves_log_right hE u _) (fun u => Act.returns_log _ _) fun _ => ?_
    exact (Act.relates_ask_any hE.clock).bind fun now now' _ =>
      (Backend.relates_submit hE x.backend job.call).bind fun d d' _ =>
        .pure ⟨⟨none, (Job.altered_none job).symm⟩, rfl, rfl⟩

/-! ### The hook after a dispatch -/

theorem preserves_callAfter (hE : E.Unhooks E' R) (w' : World E'.recorded) (hook : AfterHook)
    (id : Nat) (queries : List String) (results : List Value) (duration : Binary64) :
    Preserves (World.Paired R · w')
      (hook.call id queries results duration : Act E.recorded Alteration) := by
  cases hook with
  | inert typeName => exact .fail _
  | callback n =>
    exact .bind (fun w hw => hw.ask_left rfl (hE.after n id queries results duration _ _ hw.outside))
      fun _ r _ => .ofExcept r
  | queryLog logger level =>
    have hlog := Act.preserves_logAll (I := (World.Paired R · w'))
      fun r _ hw => hw.ask_left rfl (hE.logLeft r _ _ hw.outside)
    intro w hw
    rw [AfterHook.call_queryLog]
    exact Preserves.bind (I := (World.Paired R · w'))
      ((hlog _).bind fun _ _ _ => .ofExcept _) (fun _ _ _ => .pure none) w hw

theorem preserves_runAfter (hE : E.Unhooks E' R) (w' : World E'.recorded) (x : Executor) (id : Nat)
    (queries : List String) (results : List Value) (duration : Binary64) :
    Preserves (World.Paired R · w')
      (x.runAfter id queries results duration : Act E.recorded Alteration) := by
  rcases hhook : x.after with _ | hook
  · rw [runAfter, hhook]
    exact .pure none
  · rw [runAfter_of_hook hhook]
    refine (preserves_callAfter hE w' hook id queries results duration).attempt.bind fun _ r _ => ?_
    rcases r with e | a
    · refine Preserves.bind ?_ fun _ _ _ => .fail e
      rw [warn]
      cases e.ordinary with
      | false => exact .pure ()
      | true => exact Act.preserves_log_left hE w' _
    · exact .pure a

/-- The query log at a level that can be written returns, if the outcomes can be. -/
theorem returns_queryLog (id : Nat) (queries : List String) {results : List Value}
    (hresults : ∀ r ∈ results, QueryLog.Reportable r) (duration : Binary64) (logger : String)
    {level : Int} (hlevel : QueryLog.Short level) (w : World E) :
    ((AfterHook.queryLog logger (.int level)).call id queries results duration w).1 = .ok none := by
  rw [AfterHook.call_queryLog_fst, QueryLog.report_fst_of_reportable w.threshold hlevel logger
    (fun r hr => hresults r (List.mem_of_mem_take hr)) (.number duration)]
  rfl

/-- What a hook after a dispatch gives does not alter the results, if it leaves them alone. -/
theorem eq_none_of_call {hook : AfterHook} (hhook : hook.LeavesAlone E E' R) (hw : w.Paired R w')
    {id : Nat} {queries : List String} {results : List Value} {duration : Binary64} {a : Alteration}
    (h : (hook.call id queries results duration w).1 = .ok a) : a = none := by
  cases hook with
  | inert typeName => cases h
  | queryLog logger level =>
    rw [AfterHook.call_queryLog_fst] at h
    generalize (QueryLog.report _ _ _ _ _ _ _).1 = ending at h
    cases ending with
    | error e => cases h
    | ok _ => exact (Except.ok.inj h).symm
  | callback n =>
    refine hhook id queries results duration _ _ hw.outside a ?_
    have hanswer : (Effect.ofExcept (E.answer (.after n id queries results duration) w.outside.1).1
        (Act.ask (.after n id queries results duration) w).2).1 = .ok a := h
    rwa [ofExcept_apply] at hanswer

/-- A hook that returns normally leaves the results of an executor alone. -/
theorem call_fst_of_returnsIn {hook : AfterHook} (hhook : hook.ReturnsIn E E' R x) (hw : w.Paired R w')
    {u : World E.recorded} {u' : World E'.recorded} (hu : u.Paired R u') {call : Call} {v : Value}
    {results : List Value} (hv : (x.backend.collect call w).1 = .ok v)
    (hresults : x.coerce v call = .ok results) (id : Nat) (queries : List String)
    (duration : Binary64) : (hook.call id queries results duration u).1 = .ok none := by
  cases hook with
  | inert typeName => exact hhook.elim
  | queryLog logger level =>
    obtain ⟨⟨n, rfl, hn⟩, hreportable⟩ := hhook
    exact returns_queryLog id queries (hreportable call w _ v results hw.outside hv hresults) duration
      logger hn u
  | callback n =>
    show (Effect.ofExcept (E.answer (.after n id queries results duration) u.outside.1).1 _).1 = _
    rw [ofExcept_apply]
    exact hhook id queries results duration _ _ hu.outside

theorem preserves_inform (hE : E.Unhooks E' R) (w' : World E'.recorded) (x : Executor) (id : Nat)
    (queries : List String) (results : List Value) (duration : Binary64) :
    Preserves (World.Paired R · w') (do
      Act.log (finished id duration)
      let a ← x.runAfter id queries results duration
      pure (a.results results) : Act E.recorded (List Value)) :=
  (Act.preserves_log_left hE w' _).bind fun _ _ _ =>
    (preserves_runAfter hE w' x id queries results _).bind fun _ _ _ => .pure _

/-- Whatever becomes of the hook after a dispatch, what comes next is alike. -/
theorem paired_report (hE : E.Unhooks E' R) (h : Handed job t t') (hw : w.Paired R w')
    (results : List Value) :
    (x.report t results w).2.Paired R (x.unhooked.report t' results w').2 := by
  have hstamp := h.stamp
  rcases hleft : t.stamp with _ | ⟨id, started⟩
  · rcases hright : t'.stamp with _ | ⟨id', started'⟩
    · rw [report_of_no_stamp hleft, report_of_no_stamp hright]
      exact hw
    · rw [hleft, hright] at hstamp
      cases hstamp
  · rcases hright : t'.stamp with _ | ⟨id', started'⟩
    · rw [hleft, hright] at hstamp
      cases hstamp
    -- both read the clock; after that each one goes on by itself
    have hclock := hw.ask (hE.clock _ _ hw.outside)
    have hleft' := preserves_inform hE (Act.ask .clock w').2 x id t.job.call.queries results
      (((E.answer .clock w.outside.1).1).millisecondsSince started) _ hclock
    have hright' : Preserves (World.Paired R (x.report t results w).2) (do
        Act.log (finished id' (((E'.answer .clock w'.outside.1).1).millisecondsSince started'))
        pure results : Act E'.recorded (List Value)) :=
      (Act.preserves_log_right hE _ _).bind fun _ _ _ => .pure results
    rw [report_of_stamp hleft] at hright' ⊢
    rw [report_of_stamp hright]
    exact hright' _ hleft'

/-- A hook is called beside a world in which the clock has been read as well. -/
theorem inform_call (hE : E.Unhooks E' R) (hw : w.Paired R w') (hook : AfterHook) (id : Nat)
    (started : Binary64) (queries : List String) (results : List Value) :
    ∃ (duration : Binary64) (u : World E.recorded) (u' : World E'.recorded), u.Paired R u' ∧
      (inform hook id started queries results w).1 = (hook.call id queries results duration u).1 := by
  have hask : Act.ask .clock w = (.ok _, (Act.ask .clock w).2) := rfl
  rw [inform, bind_of_ok hask, bind_of_ok (Prod.ext (Act.log_fst _ _) rfl)]
  exact ⟨_, _, _, Act.preserves_log_left hE _ _ _ (hw.ask (hE.clock _ _ hw.outside)), rfl⟩

/-- If the hook leaves them alone, the results go on as they are, or the hook fails. -/
theorem report_fst_of_leavesAlone (hE : E.Unhooks E' R)
    (hx : ∀ hook, x.after = some hook → hook.LeavesAlone E E' R) (hw : w.Paired R w')
    (results : List Value) :
    (x.report t results w).1 = .ok results ∨ ∃ e, (x.report t results w).1 = .error e := by
  rcases hstamp : t.stamp with _ | ⟨id, started⟩
  · exact .inl (report_of_silent (.inl hstamp) results w)
  · rcases hafter : x.after with _ | hook
    · exact .inl (report_of_silent (.inr hafter) results w)
    · obtain ⟨duration, u, u', hu, hcall⟩ :=
        inform_call hE hw hook id started t.job.call.queries results
      rw [report_fst hstamp hafter, hcall]
      rcases hcalled : (hook.call id t.job.call.queries results duration u).1 with e | a
      · exact .inr ⟨e, rfl⟩
      · rw [eq_none_of_call (hx hook hafter) hu hcalled]
        exact .inl rfl

/-- If the hook returns, the results go on as they are. -/
theorem report_fst_of_returnsIn (hE : E.Unhooks E' R)
    (hx : ∀ hook, x.after = some hook → hook.ReturnsIn E E' R x) (hw : w.Paired R w')
    {u : World E.recorded} {u' : World E'.recorded} (hu : u.Paired R u') {v : Value}
    {results : List Value} (hv : (x.backend.collect t.job.call w).1 = .ok v)
    (hresults : x.coerce v t.job.call = .ok results) : (x.report t results u).1 = .ok results := by
  rcases hstamp : t.stamp with _ | ⟨id, started⟩
  · exact report_of_silent (.inl hstamp) results u
  · rcases hafter : x.after with _ | hook
    · exact report_of_silent (.inr hafter) results u
    · obtain ⟨duration, u₁, u₁', hu₁, hcall⟩ :=
        inform_call hE hu hook id started t.job.call.queries results
      rw [report_fst hstamp hafter, hcall, call_fst_of_returnsIn (hx hook hafter) hw hu₁ hv hresults]
      rfl

/-! ### The second half -/

theorem settle_of_coerced {v : Value} {results : List Value}
    (h : x.coerce v t.job.call = .ok results) :
    (x.settle t (.ok v) : Act E (List Value)) =
      x.report t results >>= mapResults t.job.mappers := by
  rw [settle, ok_bind, h, ok_bind]

theorem settle_of_not_coerced {v : Value} {e : Failure} (h : x.coerce v t.job.call = .error e) :
    (x.settle t (.ok v) : Act E (List Value)) = fail e := by
  rw [settle, ok_bind, h, error_bind]

/-- The second halves end alike, or the hook after the dispatch has failed. -/
theorem finish_paired (hE : E.Unhooks E' R) (hx : x.Unaffected E E' R) (h : Handed job t t')
    (hw : w.Paired R w') :
    (x.finish t w).2.Paired R (x.unhooked.finish t' w').2 ∧
      ((x.unhooked.finish t' w').1 = (x.finish t w).1 ∨ ∃ e, x.Objects t w e) := by
  obtain ⟨hpaired, hagree⟩ := Backend.relates_collect hx.backend t.job.call w w' hw
  have hbackend : x.unhooked.backend = x.backend := rfl
  rw [finish_eq_settle, finish_eq_settle, h.right, hbackend, ← hagree.eq]
  rcases hanswer : (x.backend.collect t.job.call w).1 with e | v
  · exact ⟨hpaired, .inl rfl⟩
  rcases hresults : x.coerce v t.job.call with e | results
  · rw [settle_of_not_coerced hresults,
      settle_of_not_coerced (by rw [h.right, coerce_unhooked, hresults])]
    exact ⟨hpaired, .inl rfl⟩
  rw [settle_of_coerced hresults, settle_of_coerced (by rw [h.right, coerce_unhooked, hresults]),
    h.right]
  have hreported := paired_report (x := x) hE h hpaired results
  have hok : (x.unhooked.report t' results (x.backend.collect t.job.call w').2).1 = .ok results :=
    report_of_silent (.inr rfl) results _
  rw [bind_of_ok (Prod.ext hok rfl)]
  obtain hleft | ⟨e, hfailed⟩ := report_fst_of_leavesAlone (t := t) hE hx.after hpaired results
  · rw [bind_of_ok (Prod.ext hleft rfl)]
    obtain ⟨hend, hmapped⟩ := relates_mapEach hE [] t.job.mappers results _ _ hreported
    exact ⟨hend, .inl hmapped.eq.symm⟩
  · rw [bind_of_error (Prod.ext hfailed rfl)]
    -- the second one alone goes on to its mappers
    obtain hafter | ⟨hfree, howning⟩ := hx.mapping
    · rw [report_fst_of_returnsIn hE hafter hw hpaired hanswer hresults] at hfailed
      cases hfailed
    · have howned := outcomeNumber?_coerce (Backend.owns_collect howning hw hanswer) hresults
      exact ⟨preserves_mapEach hfree _ [] _ howned _ hreported,
        .inr ⟨e, objects_of_report hanswer hresults hfailed⟩⟩

end Executor

end SqlWeave
