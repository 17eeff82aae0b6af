import SqlWeave.Proofs.Execution.Protocol

/-!
# The halves of a dispatch

A dispatch with other work between its halves. The first half draws the id and goes in one of the
ways of `Executor.Begun`; the second half completes what the first one has begun, wherever it takes
place (`Executor.traces_finish`). In both halves every hook gets the id and the queries of the
dispatch (`Executor.Dispatched.carries`).
-/

namespace SqlWeave

variable {E : Environment} {th : Threshold}

/-! ### The two halves -/

namespace Executor

/-- How the first half of a dispatch goes: the hook before fails, or the call is handed to the
backend. -/
inductive Begun (x : Executor) (th : Threshold) (job : Job) (id : Nat) :
    List Exchange → Except Failure Ticket → Prop where
  /-- The hook before fails. -/
  | refused {es : List Exchange} {e : Failure} :
    x.direct = false → BeforeHook.Called id job.call.queries x.before es (.error e) →
      Begun x th job id es (.error e)
  /-- The call is handed to the backend as the hook leaves it. -/
  | handed {es : List Exchange} {stamp : Option (Nat × Binary64)} {a : Alteration} {delay : Nat} :
    x.Opened th job.call.queries id es stamp a →
      Begun x th job id (es ++ x.backend.submission (job.call.altered a) delay)
        (.ok ⟨job.altered a, stamp, delay⟩)

/-- The first half of a dispatch draws the next id, unless the executor is direct, and goes in one of
the ways there are. -/
theorem start_begun (x : Executor) (job : Job) (w : World E.recorded) :
    ∃ es, x.Leads w (x.start job w).2 es ∧
      x.Begun w.threshold job (w.drawn x.number + 1) es (x.start job w).1 := by
  cases h : x.direct with
  | true =>
    rw [start_of_direct h]
    have hrun : Act.Traces (E := E) w.threshold
        (x.backend.submit job.call >>= fun d => pure (⟨job, none, d⟩ : Ticket))
        (x.Begun w.threshold job (w.drawn x.number + 1)) := by
      refine (Backend.traces_submit x.backend job.call).bind_ok fun es d hes => .pure ?_
      have hhanded : Begun x w.threshold job (w.drawn x.number + 1)
          ([] ++ x.backend.submission (job.call.altered none) d) (.ok ⟨job.altered none, none, d⟩) :=
        .handed (.direct h)
      rw [Job.altered_none, Call.altered_none] at hhanded
      rw [hes, List.append_nil]
      exact hhanded
    obtain ⟨es, hext, hes⟩ := hrun w rfl
    exact ⟨es, ⟨hext.past, hext.given, by rw [hext.drawn, h]; rfl, hext.threshold⟩, hes⟩
  | false =>
    rw [start_of_not_direct h]
    have hdraw : Act.drawId x.number w =
        (.ok (w.drawn x.number + 1), (Act.drawId x.number w).2) := rfl
    rw [Effect.bind_of_ok hdraw]
    have hrun : Act.Traces (E := E) w.threshold (x.startAs job (w.drawn x.number + 1))
        (x.Begun w.threshold job (w.drawn x.number + 1)) := by
      refine (traces_startAs h job _).mono fun es r hes => ?_
      obtain ⟨e, rfl, hcalled⟩ | ⟨fs, stamp, a, d, rfl, hopened, rfl⟩ := hes
      · exact .refused h hcalled
      · exact .handed hopened
    obtain ⟨es, hext, hes⟩ := hrun (Act.drawId x.number w).2 rfl
    exact ⟨es, ⟨hext.past, hext.given, by rw [hext.drawn, h]; rfl, hext.threshold⟩, hes⟩

/-- What has a stamp was not handed over directly. -/
theorem direct_of_stamp {x : Executor} {job : Job} {w : World E.recorded} {t : Ticket}
    (h : (x.start job w).1 = .ok t) (hstamp : t.stamp.isSome) : x.direct = false := by
  obtain ⟨es, -, hbegun⟩ := x.start_begun job w
  rw [h] at hbegun
  cases hbegun with
  | handed hopened =>
    cases hopened with
    | direct _ => cases hstamp
    | timed hdirect _ => exact hdirect

/-- The second half of a dispatch draws no id. -/
theorem finish_extends (x : Executor) (t : Ticket) (w : World E.recorded) :
    ∃ es, w.Extends (x.finish t w).2 es := by
  obtain ⟨es, hext, -⟩ := asks_conclude x t w
  rw [finish]
  rcases h : x.conclude t w with ⟨e | results, w'⟩
  · rw [h] at hext
    rw [Effect.bind_of_error h]
    exact ⟨es, hext⟩
  · rw [h] at hext
    rw [Effect.bind_of_ok h]
    obtain ⟨fs, hext', -⟩ := traces_mapEach [] t.job.mappers results w' rfl
    exact ⟨es ++ fs, hext.trans hext'⟩

/-- The second half of a dispatch completes what the first half has begun. -/
theorem traces_finish {x : Executor} {job : Job} {id : Nat} {opening : List Exchange}
    {stamp : Option (Nat × Binary64)} {a : Alteration}
    (h : x.Opened th job.call.queries id opening stamp a) (d : Nat) :
    Act.Traces (E := E) th (x.finish ⟨job.altered a, stamp, d⟩) fun fs r =>
      Dispatched E x th (x.plan job) id
        (opening ++ x.backend.submission (job.call.altered a) d ++ fs) r := by
  rw [finish]
  refine (traces_conclude job h d).bind (fun fs e hfs => .failed hfs) fun fs results hfs => ?_
  refine (traces_mapEach [] job.mappers results).mono fun gs r hgs => ?_
  rw [← List.append_assoc]
  exact .mapped hfs hgs

end Executor

/-! ### What the hooks of a call get -/

/-- Whether a question, if a hook is called with it, tells the hook this id and these queries. -/
def Request.Carries (id : Nat) (queries : List String) : Request → Prop
  | .before _ id' queries' => id' = id ∧ queries' = queries
  | .after _ id' queries' _ _ => id' = id ∧ queries' = queries
  | _ => True

namespace Executor

variable {x : Executor} {id : Nat} {queries : List String}

theorem carries_written (r : LogRecord) :
    ∀ y ∈ r.written th, y.request.Carries id queries := by
  intro y hy
  rw [LogRecord.written] at hy
  split at hy
  · rw [List.mem_singleton] at hy
    subst hy
    trivial
  · cases hy

theorem carries_before {hook : Option BeforeHook} {es : List Exchange}
    {r : Except Failure Alteration}
    (h : BeforeHook.Called id queries hook es r) : ∀ y ∈ es, y.request.Carries id queries := by
  intro y hy
  cases h with
  | absent => cases hy
  | inert => cases hy
  | callback =>
    rw [List.mem_singleton] at hy
    subst hy
    exact ⟨rfl, rfl⟩

theorem carries_after {results : List Value} {duration : Binary64} {hook : Option AfterHook}
    {es : List Exchange} {r : Except Failure Alteration}
    (h : AfterHook.Called th id queries results duration hook es r) :
    ∀ y ∈ es, y.request.Carries id queries := by
  intro y hy
  cases h with
  | absent => cases hy
  | inert => cases hy
  | callback =>
    rw [List.mem_singleton] at hy
    subst hy
    exact ⟨rfl, rfl⟩
  | logged =>
    obtain ⟨record, -, hy⟩ := List.mem_flatMap.mp hy
    exact carries_written record y hy

theorem carries_opened {es : List Exchange} {stamp : Option (Nat × Binary64)} {a : Alteration}
    (h : x.Opened th queries id es stamp a) :
    (∀ y ∈ es, y.request.Carries id queries) ∧ ∀ id' started, stamp = some (id', started) → id' = id := by
  cases h with
  | direct _ => exact ⟨fun y hy => absurd hy List.not_mem_nil, fun _ _ h => nomatch h⟩
  | timed _ hbefore =>
    refine ⟨fun y hy => ?_, fun _ _ h => (congrArg Prod.fst (Option.some.inj h)).symm⟩
    rcases List.mem_append.mp hy with hy | hy
    · rcases List.mem_append.mp hy with hy | hy
      · exact carries_before hbefore y hy
      · exact carries_written _ y hy
    · rw [List.mem_singleton] at hy
      subst hy
      trivial

/-- Handing over a call asks at most one question. -/
theorem request_of_submission {b : Backend} {call : Call} {d : Nat} {y : Exchange}
    (hy : y ∈ b.submission call d) : ∃ n, y.request = .submit n call := by
  cases b with
  | store n =>
    rw [Backend.submission, List.mem_singleton] at hy
    subst hy
    exact ⟨n, rfl⟩
  | _ => cases hy

theorem carries_submission (b : Backend) (call : Call) (d : Nat) :
    ∀ y ∈ b.submission call d, y.request.Carries id queries := by
  intro y hy
  obtain ⟨n, hrequest⟩ := request_of_submission hy
  rw [hrequest]
  trivial

theorem carries_served {b : Backend} {call : Call} {es : List Exchange} {r : Except Failure Value}
    (h : b.Called E call es r) : ∀ y ∈ es, y.request.Carries id queries := by
  rintro ⟨q, a⟩ hy
  cases h with
  | store =>
    obtain h | h : _ ∨ _ := by simpa using hy
    · obtain ⟨rfl, -⟩ := h
      trivial
    · obtain ⟨rfl, -⟩ := h
      trivial
  | recorder => cases hy
  | connection _ hes =>
    have hq := hes _ hy
    cases q <;> trivial
  | engine _ hes =>
    have hq := hes _ hy
    cases q <;> trivial

theorem carries_reported {results : List Value} {stamp : Option (Nat × Binary64)}
    {es : List Exchange} {r : Except Failure (List Value)}
    (h : x.Reported th queries results stamp es r)
    (hid : ∀ id' started, stamp = some (id', started) → id' = id) :
    ∀ y ∈ es, y.request.Carries id queries := by
  intro y hy
  cases h with
  | direct => cases hy
  | heard _ hafter =>
    obtain rfl := hid _ _ rfl
    rcases List.mem_append.mp hy with hy | hy
    · rcases List.mem_cons.mp hy with rfl | hy
      · trivial
      · exact carries_written _ y hy
    · exact carries_after hafter y hy
  | objected _ hafter =>
    obtain rfl := hid _ _ rfl
    rcases List.mem_append.mp hy with hy | hy
    · rcases List.mem_append.mp hy with hy | hy
      · rcases List.mem_cons.mp hy with rfl | hy
        · trivial
        · exact carries_written _ y hy
      · exact carries_after hafter y hy
    · split at hy
      · exact carries_written _ y hy
      · cases hy

theorem Concluded.carries {plan : Plan} {es : List Exchange} {r : Except Failure (List Value)}
    (h : Concluded E x th plan id es r) : ∀ y ∈ es, y.request.Carries id plan.queries := by
  intro y hy
  cases h with
  | refused _ hbefore => exact carries_before hbefore y hy
  | unanswered hopened hserved =>
    rcases List.mem_append.mp hy with hy | hy
    · exact (carries_opened hopened).1 y hy
    · exact carries_served hserved y hy
  | uncoerced hopened hserved _ =>
    rcases List.mem_append.mp hy with hy | hy
    · exact (carries_opened hopened).1 y hy
    · exact carries_served hserved y hy
  | reported hopened hserved _ hreported =>
    rcases List.mem_append.mp hy with hy | hy
    · rcases List.mem_append.mp hy with hy | hy
      · exact (carries_opened hopened).1 y hy
      · exact carries_served hserved y hy
    · exact carries_reported hreported (carries_opened hopened).2 y hy

/-- The hooks of a dispatch get its id and its queries. -/
theorem Dispatched.carries {plan : Plan} {es : List Exchange} {r : Except Failure (List Value)}
    (h : Dispatched E x th plan id es r) : ∀ y ∈ es, y.request.Carries id plan.queries := by
  intro y hy
  cases h with
  | failed h => exact h.carries y hy
  | mapped h hmapped =>
    rcases List.mem_append.mp hy with hy | hy
    · exact h.carries y hy
    · obtain ⟨mapper, row, -, hrequest⟩ := hmapped.request y hy
      rw [hrequest]
      trivial

end Executor

end SqlWeave
