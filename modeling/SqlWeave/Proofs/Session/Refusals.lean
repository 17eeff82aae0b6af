import Mathlib.Data.List.Nodup
import SqlWeave.Proofs.Execution.Pointwise
import SqlWeave.Proofs.Session.Numbered

/-!
# Refused calls

A call that is refused leaves no trace: nothing is asked for it and no id is drawn, and without it
everything else goes as it does with it (`Traffic.run_without`). Some calls are always refused
(`Session.Misuse`).

**`Traffic.ids_count_dispatches`**: the ids of an executor count the calls that reach it, whatever
becomes of them and of all other calls.
-/

namespace SqlWeave

variable {E : Environment}

/-! ### Misuses -/

namespace Session

/-- The calls that are always refused. -/
inductive Misuse : Invocation → Prop where
  /-- A fragment has a leaf that is no primitive, and is executed for its rows. -/
  | unsupportedAll {f : Fragment Value} {v : Value} :
    v ∈ f.leaves → v.primitive? = none → Misuse (.all (.fragment f))
  /-- A fragment has a leaf that is no primitive, and is executed for its effect. -/
  | unsupportedRun {f : Fragment Value} {v : Value} :
    v ∈ f.leaves → v.primitive? = none → Misuse (.run (.fragment f))
  /-- A statement without an executor is executed for its rows. -/
  | unboundAll {n : Nat} {st : Statement Value} :
    st.executor = none → Misuse (.all (.statement n st))
  /-- A statement without an executor is executed for its effect. -/
  | unboundRun {n : Nat} {st : Statement Value} :
    st.executor = none → Misuse (.run (.statement n st))
  /-- A member of a batch, at whatever position, is no statement. -/
  | uncompiled {number : Nat} {before after : List Value} {v : Value} :
    (∀ n st, v ≠ .statement n st) → Misuse (.batch number (before ++ v :: after))

/-- A value without a statement cannot be sent. -/
theorem Sends.statement_of_leaf {s : Session E} {operation : String} {f : Fragment Value} {v : Value}
    (hv : v ∈ f.leaves) (hprimitive : v.primitive? = none) {x : Executor} {st : Statement Value} :
    ¬ s.Sends operation (.fragment f) x st := by
  rintro ⟨hst, -⟩
  obtain ⟨style, -, hst⟩ := (styleOf_reads _).bind_eq_ok_iff.mp hst
  obtain ⟨u, -, hu⟩ := f.expand_of_leaf style hv hprimitive
  rw [Effect.ofExcept_apply, Statement.compile, hu] at hst
  cases hst

/-- A statement without an executor cannot be sent. -/
theorem Sends.executor_of_none {s : Session E} {operation : String} {n : Nat} {st st' : Statement Value}
    (h : st.executor = none) {x : Executor} : ¬ s.Sends operation (.statement n st) x st' := by
  rintro ⟨hst, origin, horigin, -⟩
  obtain rfl := Except.ok.inj hst
  rw [h] at horigin
  cases horigin

/-- The first member of a batch that is no statement is the failure. -/
theorem members_of_uncompiled {v : Value} (hv : ∀ n st, v ≠ .statement n st) (position : Nat)
    (before after : List Value) : ∃ e, members position (before ++ v :: after) = .error e := by
  induction before generalizing position with
  | nil =>
    refine ⟨.structural (.uncompiledMember position v.typeName), ?_⟩
    cases v with
    | statement n st => exact absurd rfl (hv n st)
    | _ => rfl
  | cons u before ih =>
    cases u with
    | statement n st =>
      obtain ⟨e, he⟩ := ih (position + 1)
      refine ⟨e, ?_⟩
      rw [List.cons_append, members, he]
      rfl
    | _ => exact ⟨_, rfl⟩

/-- A misuse is refused. -/
theorem Misuse.refused {i : Invocation} (h : Misuse i) (s : Session E) :
    ∃ e, (prepare i s).1 = .error e := by
  rcases hprepare : (prepare i s).1 with e | ⟨x, job⟩
  · exact ⟨e, rfl⟩
  · have hprepares := prepares_of_ok hprepare
    cases h with
    | unsupportedAll hv hprimitive =>
      cases hprepares with
      | all hsends => exact absurd hsends (Sends.statement_of_leaf hv hprimitive)
    | unsupportedRun hv hprimitive =>
      cases hprepares with
      | run hsends => exact absurd hsends (Sends.statement_of_leaf hv hprimitive)
    | unboundAll hnone =>
      cases hprepares with
      | all hsends => exact absurd hsends (Sends.executor_of_none hnone)
    | unboundRun hnone =>
      cases hprepares with
      | run hsends => exact absurd hsends (Sends.executor_of_none hnone)
    | uncompiled hv =>
      cases hprepares with
      | batch _ hmembers =>
        obtain ⟨e, he⟩ := members_of_uncompiled hv 0 _ _
        rw [he] at hmembers
        cases hmembers

end Session

namespace Traffic

/-- A misuse changes nothing but that there is a refused call more. -/
theorem begin_misuse (t : Traffic E) (key : Nat) {call : Session E → Except Failure Invocation}
    {i : Invocation} (hcall : call t.session = .ok i) (h : Session.Misuse i) :
    ∃ e, t.begin key call = { t with calls := t.calls ++ [(key, .error e)] } := by
  rcases haccept : (accept call t.session).1 with e | ⟨x, job⟩
  · exact ⟨e, begin_of_refused haccept key⟩
  · obtain ⟨i', hi', hprepare⟩ := accept_eq_ok_iff.mp haccept
    obtain rfl := Except.ok.inj (hcall.symm.trans hi')
    obtain ⟨e, he⟩ := h.refused t.session
    rw [he] at hprepare
    cases hprepare

/-! ### Without a refused call -/

/-- The traffic without the calls of a key. -/
def without (key : Nat) (t : Traffic E) : Traffic E :=
  { t with calls := t.calls.filter (·.1 ≠ key) }

/-- The moves without those of a key. -/
def movesWithout (key : Nat) (moves : List (Move E)) : List (Move E) :=
  moves.filter (·.key? ≠ some key)

/-- There is one call under a key. -/
theorem nodup_run (s : Session E) (moves : List (Move E)) :
    ((run ⟨s, []⟩ moves).calls.map (·.1)).Nodup := by
  have hstart : ((⟨s, []⟩ : Traffic E).calls.map (·.1)).Nodup := List.nodup_nil
  refine run_induction (P := fun t => (t.calls.map (·.1)).Nodup) (fun t m h => ?_) hstart moves
  cases m with
  | begin key call =>
    rw [step]
    by_cases hkey : t.calls.any (·.1 = key) = true
    · rw [if_pos hkey]
      exact h
    · rw [if_neg hkey]
      have hnew : key ∉ t.calls.map (·.1) := by
        intro hmem
        obtain ⟨e, he, rfl⟩ := List.mem_map.mp hmem
        exact hkey (List.any_eq_true.mpr ⟨e, he, by simp⟩)
      have hnodup : ∀ r : Except Failure (Errand E), ((t.calls ++ [(key, r)]).map (·.1)).Nodup := by
        intro r
        rw [List.map_append, List.nodup_append]
        refine ⟨h, List.nodup_singleton _, fun a ha b hb => ?_⟩
        rintro rfl
        rw [List.map_singleton, List.mem_singleton] at hb
        rw [hb] at ha
        exact hnew ha
      rcases haccept : (accept call t.session).1 with e | ⟨x, job⟩
      · rw [begin_of_refused haccept]
        exact hnodup _
      · rw [begin_of_accepted haccept]
        exact hnodup _
  | resume key =>
    show ((t.resume key).calls.map (·.1)).Nodup
    rcases hwaiting : t.waiting? key with _ | ⟨c, ticket⟩
    · rw [resume_of_not_waiting hwaiting]
      exact h
    · rw [resume_of_waiting hwaiting]
      have hkeys : ((t.calls.map fun e =>
          if e.1 = key then (e.1, e.2.map (·.goOn t.session.world)) else e).map (·.1)) =
          t.calls.map (·.1) := by
        rw [List.map_map]
        refine List.map_congr_left fun e _ => ?_
        by_cases he : e.1 = key
        · simp [he]
        · simp [he]
      rw [hkeys]
      exact h
  | aside other => exact h

/-- A call that was accepted stays one. -/
theorem mem_step {t : Traffic E} {key : Nat} {c : Errand E} (h : (key, .ok c) ∈ t.calls)
    (m : Move E) : ∃ c', (key, .ok c') ∈ (t.step m).calls := by
  cases m with
  | begin key' call =>
    rw [step]
    by_cases hkey : t.calls.any (·.1 = key') = true
    · rw [if_pos hkey]
      exact ⟨c, h⟩
    · rw [if_neg hkey]
      rcases haccept : (accept call t.session).1 with e | ⟨x, job⟩
      · rw [begin_of_refused haccept]
        exact ⟨c, List.mem_append_left _ h⟩
      · rw [begin_of_accepted haccept]
        exact ⟨c, List.mem_append_left _ h⟩
  | resume key' =>
    show ∃ c', (key, .ok c') ∈ (t.resume key').calls
    rcases hwaiting : t.waiting? key' with _ | ⟨c₀, ticket⟩
    · rw [resume_of_not_waiting hwaiting]
      exact ⟨c, h⟩
    · rw [resume_of_waiting hwaiting]
      by_cases hkey : key = key'
      · exact ⟨c.goOn t.session.world, List.mem_map.mpr ⟨_, h, by simp [hkey, Except.map]⟩⟩
      · exact ⟨c, List.mem_map.mpr ⟨_, h, by simp [hkey]⟩⟩
  | aside other => exact ⟨c, h⟩

theorem mem_run {t : Traffic E} {key : Nat} {c : Errand E} (h : (key, .ok c) ∈ t.calls)
    (moves : List (Move E)) : ∃ c', (key, .ok c') ∈ (t.run moves).calls :=
  run_induction (P := fun t => ∃ c', (key, .ok c') ∈ t.calls)
    (fun _ m ⟨_, h⟩ => mem_step h m) ⟨c, h⟩ moves

/-- A move of a key under which no call is accepted does nothing to the rest. -/
theorem without_step {t : Traffic E} {m : Move E} {key : Nat} (hm : m.key? = some key)
    (h : ∀ c, (key, .ok c) ∉ (t.step m).calls) : (t.step m).without key = t.without key := by
  cases m with
  | begin key' call =>
    obtain rfl := Option.some.inj hm
    rw [step] at h ⊢
    by_cases hkey : t.calls.any (·.1 = key') = true
    · rw [if_pos hkey]
    · rw [if_neg hkey] at h ⊢
      rcases haccept : (accept call t.session).1 with e | ⟨x, job⟩
      · rw [begin_of_refused haccept]
        simp [without]
      · rw [begin_of_accepted haccept] at h
        exact absurd (List.mem_append_right _ (List.mem_singleton_self _)) (h _)
  | resume key' =>
    obtain rfl := Option.some.inj hm
    show (t.resume key').without key' = t.without key'
    rcases hwaiting : t.waiting? key' with _ | ⟨c, ticket⟩
    · rw [resume_of_not_waiting hwaiting]
    · obtain ⟨hmem, -⟩ := waiting?_eq_some hwaiting
      have hstep : t.step (.resume key') = t.resume key' := rfl
      rw [hstep, resume_of_waiting hwaiting] at h
      have hgone : (key', .ok (c.goOn t.session.world)) ∈ t.calls.map fun e =>
          if e.1 = key' then (e.1, e.2.map (·.goOn t.session.world)) else e :=
        List.mem_map.mpr ⟨_, hmem, by simp [Except.map]⟩
      exact absurd hgone (h _)
  | aside other => cases hm

theorem waiting?_without {t : Traffic E} {key key' : Nat} (h : key' ≠ key) :
    (t.without key).waiting? key' = t.waiting? key' := by
  have hfind : (t.calls.filter (·.1 ≠ key)).find? (·.1 = key') = t.calls.find? (·.1 = key') := by
    rw [List.find?_filter]
    congr 1
    funext e
    by_cases he : e.1 = key'
    · simp [he, h]
    · simp [he]
  rw [waiting?, without, hfind, waiting?]

/-- A move of another key does the same without the calls of a key. -/
theorem step_without {t : Traffic E} {m : Move E} {key : Nat} (hm : m.key? ≠ some key) :
    (t.without key).step m = (t.step m).without key := by
  cases m with
  | begin key' call =>
    have hne : key' ≠ key := fun heq => hm (congrArg some heq)
    have hany : (t.without key).calls.any (·.1 = key') = t.calls.any (·.1 = key') := by
      rw [without, List.any_filter]
      congr 1
      funext e
      by_cases he : e.1 = key'
      · simp [he, hne]
      · simp [he]
    have hlast : ∀ (s : Session E) (r : Except Failure (Errand E)),
        (⟨s, (t.without key).calls ++ [(key', r)]⟩ : Traffic E) =
          (⟨s, t.calls ++ [(key', r)]⟩ : Traffic E).without key := by
      intro s r
      simp [without, List.filter_append, hne]
    rw [step, step, hany]
    by_cases hkey : t.calls.any (·.1 = key') = true
    · rw [if_pos hkey, if_pos hkey]
    · rw [if_neg hkey, if_neg hkey]
      rcases haccept : (accept call t.session).1 with e | ⟨x, job⟩
      · rw [begin_of_refused haccept, begin_of_refused (t := t.without key) haccept]
        exact hlast _ _
      · rw [begin_of_accepted haccept, begin_of_accepted (t := t.without key) haccept]
        exact hlast _ _
  | resume key' =>
    have hne : key' ≠ key := fun heq => hm (congrArg some heq)
    show (t.without key).resume key' = (t.resume key').without key
    rcases hwaiting : t.waiting? key' with _ | ⟨c, ticket⟩
    · rw [resume_of_not_waiting hwaiting,
        resume_of_not_waiting ((waiting?_without hne).trans hwaiting)]
    · rw [resume_of_waiting hwaiting, resume_of_waiting ((waiting?_without hne).trans hwaiting),
        without, without, List.filter_map]
      congr 2
      refine List.filter_congr fun e _ => ?_
      by_cases he : e.1 = key'
      · simp [he]
      · simp [he]
  | aside other => rfl

/-- **Without a refused call** everything else goes as it does with it. -/
theorem run_without (key : Nat) (t : Traffic E) (moves : List (Move E))
    (h : ∀ c, (key, .ok c) ∉ (t.run moves).calls) :
    (t.without key).run (movesWithout key moves) = (t.run moves).without key := by
  induction moves generalizing t with
  | nil => rfl
  | cons m moves ih =>
    rw [run_cons] at h ⊢
    have hstep : ∀ c, (key, .ok c) ∉ (t.step m).calls := by
      intro c hc
      obtain ⟨c', hc'⟩ := mem_run hc moves
      exact h c' hc'
    by_cases hm : m.key? = some key
    · rw [movesWithout, List.filter_cons_of_neg (by simp [hm]), ← ih (t.step m) h,
        without_step hm hstep]
      rfl
    · rw [movesWithout, List.filter_cons_of_pos (by simp [hm]), run_cons, step_without hm]
      exact ih (t.step m) h

/-- A call that was refused was not accepted. -/
theorem not_mem_of_refused {s : Session E} {moves : List (Move E)} {key : Nat} {e : Failure}
    (h : (key, .error e) ∈ (run ⟨s, []⟩ moves).calls) (c : Errand E) :
    (key, .ok c) ∉ (run ⟨s, []⟩ moves).calls := by
  intro hc
  have heq := List.inj_on_of_nodup_map (nodup_run s moves) h hc rfl
  cases heq

/-- **Ids count dispatches.** Whatever is called in a session, in whatever order the halves of the
calls are executed, and whatever the environment answers:

* an executor has drawn one id for each call that reached it, and its calls go under the ids that
  come one after the other, in the order in which they began, however they end;
* a call that was refused could as well not have been made: the session, its record and all other
  calls are the same without it;
* a misuse is refused, and changes nothing in the session. -/
theorem ids_count_dispatches (s : Session E.recorded) (moves : List (Move E.recorded)) :
    (∀ n, (run ⟨s, []⟩ moves).session.world.drawn n =
        s.world.drawn n + ((run ⟨s, []⟩ moves).dispatches n).length ∧
      ∀ (k : Nat) (c : Errand E.recorded), ((run ⟨s, []⟩ moves).dispatches n)[k]? = some c →
        c.Under s.world.threshold (s.world.drawn n + k + 1)) ∧
    (∀ (key : Nat) (e : Failure), (key, .error e) ∈ (run ⟨s, []⟩ moves).calls →
      run ⟨s, []⟩ (movesWithout key moves) = (run ⟨s, []⟩ moves).without key) ∧
    ∀ (t : Traffic E.recorded) (key : Nat) (call : Session E.recorded → Except Failure Invocation)
      (i : Invocation), call t.session = .ok i → Session.Misuse i →
        ∃ e, t.begin key call = { t with calls := t.calls ++ [(key, .error e)] } := by
  refine ⟨fun n => ⟨(ordered_run s moves).drawn n, fun k c hc => (ordered_run s moves).under hc⟩, ?_, ?_⟩
  · intro key e h
    exact run_without key ⟨s, []⟩ moves (not_mem_of_refused h)
  · intro t key call i hcall hi
    exact t.begin_misuse key hcall hi

/-- A session with two executors; the hook of the first one cannot be called, and the answers of the
stores are no outcomes. -/
def ailing : Session (Environment.answering (fun _ => .null) fun _ row => .ok row).recorded where
  registry := .standard
  executors := [{ Executor.hooked with before := some (.inert "int") },
    { number := 1, backend := .store 1, style := .numbered }]
  world := ⟨fun _ => 0, 0, fun _ => {}, none, ((), [])⟩

/-- Executing a statement without parameters, for an executor if there is one. -/
def selectingFor (executor : Option Origin) : Value :=
  .statement 0 { query := "select a", values := [], executor }

/-- Four calls, of which one is refused and one goes on. -/
def fourCalls : List (Move (Environment.answering (fun _ => .null) fun _ row => .ok row).recorded) :=
  [.begin 0 fun _ => .ok (.all (selectingFor (some ⟨0, "Executor", []⟩))),
    .begin 1 fun _ => .ok (.all (selectingFor none)),
    .begin 2 fun _ => .ok (.run (selectingFor (some ⟨1, "Executor", []⟩))),
    .begin 3 fun _ => .ok (.batch 0 [selectingFor none]),
    .resume 2]

/-- The second call of the first executor has the second id, and the call that was refused might as
well not have been made. -/
theorem ids_count_dispatches_ailing :
    (∃ c, ((run ⟨ailing, []⟩ fourCalls).dispatches 0)[1]? = some c ∧ c.Under none 2) ∧
      (∃ e, (1, .error e) ∈ (run ⟨ailing, []⟩ fourCalls).calls) ∧
      run ⟨ailing, []⟩ (movesWithout 1 fourCalls) = (run ⟨ailing, []⟩ fourCalls).without 1 ∧
      ∃ e, Traffic.begin 0 (fun _ => .ok (.all (selectingFor none))) ⟨ailing, []⟩ =
        ⟨ailing, [(0, .error e)]⟩ := by
  obtain ⟨hids, hwithout, hmisuse⟩ := ids_count_dispatches ailing fourCalls
  refine ⟨⟨_, rfl, (hids 0).2 1 _ rfl⟩, ⟨_, .tail _ (.head _)⟩, hwithout 1 _ (.tail _ (.head _)), ?_⟩
  exact hmisuse ⟨ailing, []⟩ 0 _ _ rfl (.unboundAll rfl)

end Traffic

end SqlWeave
