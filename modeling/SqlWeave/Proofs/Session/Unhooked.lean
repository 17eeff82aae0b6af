import SqlWeave.Proofs.Execution.Unaffected
import SqlWeave.Proofs.QueryLog.Outcomes
import SqlWeave.Proofs.Session.Numbered

/-!
# Sessions without hooks

What is called in a session can be called in one whose executors have no hooks. The two sessions stay
beside each other (`Session.Unhooked`): every move makes the same difference to both
(`Traffic.Paired.step`).

**`Traffic.hooks_alter_nothing`**: in whatever order calls begin, wait and go on, if hooks leave alone
what they are handed, backends are asked the same in both sessions, and every call ends alike or is
refused alike, unless the hook after it fails. A call with such a hook ends with its failure, no row is
mapped for it, and later calls are not altered. The query log does not fail, as long as all integers
that it writes are short. Where a hook may fail, mapping rows has to make no difference to what comes
later; otherwise the rows that are left unmapped do, and so does a hook that alters results or
parameters (`Traffic.different_with_hooks`).
-/

namespace SqlWeave

open Effect

variable {E E' : Environment} {R : E.State → E'.State → Prop}

/-! ### Sessions beside each other -/

/-- Two sessions, of which the second one has the executors of the first one without their hooks, and
in which what comes next is alike. -/
structure Session.Unhooked (R : E.State → E'.State → Prop) (s : Session E.recorded)
    (s' : Session E'.recorded) : Prop where
  /-- The styles are the same. -/
  registry : s'.registry = s.registry
  /-- The second session has the executors without hooks. -/
  executors : s'.executors = s.executors.map Executor.unhooked
  /-- The hooks can be left out. -/
  unaffected : ∀ x ∈ s.executors, x.Unaffected E E' R
  /-- Backends have been asked the same, and what comes next is alike. -/
  world : s.world.Paired R s'.world

/-- Moves that are the same in both sessions. -/
inductive Move.Same (R : E.State → E'.State → Prop) : Move E.recorded → Move E'.recorded → Prop where
  /-- The same is called. -/
  | begin {key : Nat} {call : Session E.recorded → Except Failure Invocation}
      {call' : Session E'.recorded → Except Failure Invocation} :
    (∀ s s', s.Unhooked R s' → call s = call' s') → Same R (.begin key call) (.begin key call')
  /-- Calls of the same key go on. -/
  | resume (key : Nat) : Same R (.resume key) (.resume key)
  /-- What else is done keeps the sessions beside each other. -/
  | aside {other : Interlude E.recorded} {other' : Interlude E'.recorded} :
    (∀ s s', s.Unhooked R s' → (other.act s).Unhooked R (other'.act s')) →
      Same R (.aside other) (.aside other')

/-- A call in both sessions. -/
structure Errand.Paired (R : E.State → E'.State → Prop) (c : Errand E.recorded)
    (c' : Errand E'.recorded) : Prop where
  /-- The second one is executed without hooks. -/
  executor : c'.executor = c.executor.unhooked
  /-- The hooks can be left out. -/
  unaffected : c.executor.Unaffected E E' R
  /-- The same is executed. -/
  job : c'.job = c.job
  /-- They began beside each other. -/
  began : c.began.Paired R c'.began
  /-- They went on beside each other, or did not go on. -/
  resumed : Option.Rel (World.Paired R) c.resumed c'.resumed

/-- Sessions beside each other, with the calls that were made in both or refused alike. -/
structure Traffic.Paired (R : E.State → E'.State → Prop) (t : Traffic E.recorded)
    (t' : Traffic E'.recorded) : Prop where
  /-- The sessions are beside each other. -/
  session : t.session.Unhooked R t'.session
  /-- So are the calls under each key. -/
  calls : List.Forall₂ (fun e e' => e.1 = e'.1 ∧ Agree (Errand.Paired R) e.2 e'.2) t.calls t'.calls

/-! ### Preparing a call -/

namespace Session

theorem relates_state : Relates (Unhooked R) (Unhooked R)
    (Effect.state : Sess E.recorded _) (Effect.state : Sess E'.recorded _) :=
  fun _ _ hs => ⟨hs, .ok hs⟩

theorem relates_executor (number : Nat) :
    Relates (Unhooked R) (fun x x' => x' = x.unhooked) (executor number : Sess E.recorded Executor)
      (executor number : Sess E'.recorded Executor) := by
  refine relates_state.bind fun s s' hs => ?_
  have hfind : s'.executors.find? (·.number = number) =
      (s.executors.find? (·.number = number)).map Executor.unhooked := by
    rw [hs.executors, List.find?_map]
    rfl
  rw [hfind]
  cases s.executors.find? (·.number = number) with
  | none => exact .fail _
  | some x => exact .pure rfl

theorem relates_styleOf (number : Option Nat) :
    Relates (Unhooked R) Eq (styleOf number : Sess E.recorded Style)
      (styleOf number : Sess E'.recorded Style) := by
  cases number with
  | none => exact .pure rfl
  | some n =>
    refine (relates_executor n).bind fun x x' hx => ?_
    subst hx
    exact .pure rfl

theorem relates_build (v : Value) :
    Relates (Unhooked R) Eq (build v : Sess E.recorded (Statement Value))
      (build v : Sess E'.recorded (Statement Value)) := by
  have hother : Relates (Unhooked R) Eq
      (do
        if Lookalike.isMade v then
          let style ← styleOf (Lookalike.executorNumber? v)
          let _ ← Effect.ofExcept (v.expandAsFragment style)
        Effect.fail (v.lacking buildName) : Sess E.recorded (Statement Value))
      (do
        if Lookalike.isMade v then
          let style ← styleOf (Lookalike.executorNumber? v)
          let _ ← Effect.ofExcept (v.expandAsFragment style)
        Effect.fail (v.lacking buildName) : Sess E'.recorded (Statement Value)) := by
    cases Lookalike.isMade v with
    | false => exact .fail _
    | true =>
      exact (relates_styleOf _).bind_eq fun style => (Relates.ofExcept (.of_eq _)).bind_eq fun _ =>
        .fail _
  cases v with
  | fragment f => exact (relates_styleOf _).bind_eq fun style => .ofExcept (.of_eq _)
  | _ => exact hother

theorem relates_executable (operation : String) (v : Value) :
    Relates (Unhooked R) Eq (executable operation v : Sess E.recorded (Statement Value))
      (executable operation v : Sess E'.recorded (Statement Value)) := by
  have hother : Relates (Unhooked R) Eq
      (if Lookalike.isMade v then build v else Effect.fail (v.lacking operation) :
        Sess E.recorded (Statement Value))
      (if Lookalike.isMade v then build v else Effect.fail (v.lacking operation) :
        Sess E'.recorded (Statement Value)) := by
    cases Lookalike.isMade v with
    | false => exact .fail _
    | true => exact relates_build v
  cases v with
  | statement n s => exact .pure rfl
  | fragment f => exact relates_build _
  | _ => exact hother

theorem relates_executorOf (s : Statement Value) :
    Relates (Unhooked R) (fun x x' => x' = x.unhooked) (executorOf s : Sess E.recorded Executor)
      (executorOf s : Sess E'.recorded Executor) := by
  rw [executorOf, executorOf]
  cases s.executor with
  | none => exact .fail _
  | some origin => exact relates_executor origin.number

/-- The same call is prepared for the executor and for the one without hooks, or refused with the same
failure. -/
theorem relates_prepare (i : Invocation) :
    Relates (Unhooked R) (fun p p' => p' = (p.1.unhooked, p.2))
      (prepare i : Sess E.recorded (Executor × Job)) (prepare i : Sess E'.recorded (Executor × Job)) := by
  have hsent : ∀ operation v (job : Statement Value → Job),
      Relates (Unhooked R) (fun p p' => p' = (p.1.unhooked, p.2))
        (do
          let s ← executable operation v
          let x ← executorOf s
          pure (x, job s) : Sess E.recorded (Executor × Job))
        (do
          let s ← executable operation v
          let x ← executorOf s
          pure (x, job s) : Sess E'.recorded (Executor × Job)) := fun operation v job =>
    (relates_executable operation v).bind_eq fun s => (relates_executorOf s).bind fun x x' hx =>
      .pure (by rw [hx])
  cases i with
  | all v => exact hsent _ v .all
  | run v => exact hsent _ v .run
  | batch n vs =>
    exact (relates_executor n).bind fun x x' hx =>
      (Relates.ofExcept (.of_eq _)).bind_eq fun ss => .pure (by rw [hx])

end Session

/-! ### A call in both sessions -/

/-- What is asked between worlds that are beside each other is asked of backends in both. -/
theorem World.Paired.served_eq {w v : World E.recorded} {w' v' : World E'.recorded}
    (hw : w.Paired R w') (hv : v.Paired R v') {es es' : List Exchange} (h : v.past = w.past ++ es)
    (h' : v'.past = w'.past ++ es') : SqlWeave.served es' = SqlWeave.served es := by
  have hserved := hv.served
  rw [h, h', served_append, served_append, hw.served] at hserved
  exact (List.append_cancel_left hserved).symm

namespace Errand

variable {c : Errand E.recorded} {c' : Errand E'.recorded}

/-- The hook after the call failed. -/
def Objected (c : Errand E.recorded) (e : Failure) : Prop :=
  ∃ t w, c.start.1 = .ok t ∧ c.resumed = some w ∧ c.executor.Objects t w e

/-- In what the backend has answered, all integers that a query log writes are short. -/
def Legible (c : Errand E.recorded) : Prop :=
  ∀ t w v results, c.start.1 = .ok t → c.resumed = some w →
    (c.executor.backend.collect t.job.call w).1 = .ok v →
    c.executor.coerce v t.job.call = .ok results →
    ∀ r ∈ results, ∀ s, QueryLog.statisticsOf? r = some s → QueryLog.Writable s

/-- A call and the same call without hooks. -/
structure Unaltered (c : Errand E.recorded) (c' : Errand E'.recorded) : Prop where
  /-- The second one is executed without hooks. -/
  executor : c'.executor = c.executor.unhooked
  /-- The same is executed. -/
  job : c'.job = c.job
  /-- Backends are asked the same. -/
  served : served c'.asked = served c.asked
  /-- Unless the hook after the call fails, both end alike, as far as they have come. -/
  unobjected : (∀ e, ¬c.Objected e) → c'.outcome? = c.outcome?
  /-- If it fails, that is how the first one ends, and no row is mapped. -/
  objected : ∀ e, c.Objected e →
    c.outcome? = some (.error e) ∧ ∀ y ∈ c.asked, Executor.Unmapped y.request
  /-- The query log does not fail, if the integers that it writes are short. -/
  logged : ∀ logger level, c.executor.after = some (.queryLog logger (.int level)) →
    QueryLog.Short level → c.Legible → ∀ e, ¬c.Objected e

namespace Paired

/-- Both begin beside each other. -/
theorem start (hE : E.Unhooks E' R) (h : c.Paired R c') :
    c.start.2.Paired R c'.start.2 ∧ Agree (Executor.Handed c.job) c.start.1 c'.start.1 := by
  rw [Errand.start, Errand.start, h.executor, h.job]
  exact Executor.relates_start hE h.unaffected c.job _ _ h.began

theorem goOn (h : c.Paired R c') {w : World E.recorded} {w' : World E'.recorded} (hw : w.Paired R w') :
    (c.goOn w).Paired R (c'.goOn w') :=
  ⟨h.executor, h.unaffected, h.job, h.began, .some hw⟩

/-- Both fail before they are handed over, both wait, or both go on. -/
theorem course (hE : E.Unhooks E' R) (h : c.Paired R c') :
    (∃ e, c.start.1 = .error e ∧ c'.start.1 = .error e) ∨
      ∃ t t', c.start.1 = .ok t ∧ c'.start.1 = .ok t' ∧ Executor.Handed c.job t t' ∧
        ((c.resumed = none ∧ c'.resumed = none) ∨
          ∃ w w', c.resumed = some w ∧ c'.resumed = some w' ∧ w.Paired R w') := by
  obtain ⟨e, he, he'⟩ | ⟨t, t', ht, ht', hhanded⟩ := (h.start hE).2.both
  · exact .inl ⟨e, he, he'⟩
  · refine .inr ⟨t, t', ht, ht', hhanded, ?_⟩
    have hresumed := h.resumed
    generalize c.resumed = r at hresumed
    generalize c'.resumed = r' at hresumed
    cases hresumed with
    | none => exact .inl ⟨rfl, rfl⟩
    | some hw => exact .inr ⟨_, _, rfl, rfl, hw⟩

theorem ticket? (hE : E.Unhooks E' R) (h : c.Paired R c') :
    (c.ticket? = none ∧ c'.ticket? = none) ∨
      ∃ t t', c.ticket? = some t ∧ c'.ticket? = some t' ∧ Executor.Handed c.job t t' := by
  obtain ⟨e, he, he'⟩ | ⟨t, t', ht, ht', hhanded, ⟨hw, hw'⟩ | ⟨w, w', hw, hw', -⟩⟩ := h.course hE
  · refine .inl ⟨?_, ?_⟩
    · rw [Errand.ticket?, he]
      cases c.resumed <;> rfl
    · rw [Errand.ticket?, he']
      cases c'.resumed <;> rfl
  · refine .inr ⟨t, t', ?_, ?_, hhanded⟩
    · rw [Errand.ticket?, hw, ht]
    · rw [Errand.ticket?, hw', ht']
  · refine .inl ⟨?_, ?_⟩
    · rw [Errand.ticket?, hw]
    · rw [Errand.ticket?, hw']

/-- A call that goes on in both ends alike, or the hook after it has failed. -/
theorem finish (hE : E.Unhooks E' R) (h : c.Paired R c') {t t' : Ticket}
    (hhanded : Executor.Handed c.job t t') {w : World E.recorded} {w' : World E'.recorded}
    (hw : w.Paired R w') :
    (c.executor.finish t w).2.Paired R (c'.executor.finish t' w').2 ∧
      ((c'.executor.finish t' w').1 = (c.executor.finish t w).1 ∨ ∃ e, c.executor.Objects t w e) := by
  rw [h.executor]
  exact Executor.finish_paired hE h.unaffected hhanded hw

/-- Backends are asked the same for both. -/
theorem served_asked (hE : E.Unhooks E' R) (h : c.Paired R c') : served c'.asked = served c.asked := by
  obtain ⟨es, hleads, -⟩ := c.executor.start_begun c.job c.began
  obtain ⟨es', hleads', -⟩ := c'.executor.start_begun c'.job c'.began
  have hopening : served c'.opening = served c.opening := by
    rw [opening_eq hleads.past, opening_eq hleads'.past]
    exact h.began.served_eq (h.start hE).1 hleads.past hleads'.past
  have hclosing : served c'.closing = served c.closing := by
    obtain ⟨e, he, he'⟩ | ⟨t, t', ht, ht', hhanded, ⟨hw, hw'⟩ | ⟨w, w', hw, hw', hpaired⟩⟩ :=
      h.course hE
    · rw [closing_of_error he, closing_of_error he']
    · rw [closing_of_waiting hw, closing_of_waiting hw']
    · obtain ⟨fs, hext⟩ := c.executor.finish_extends t w
      obtain ⟨fs', hext'⟩ := c'.executor.finish_extends t' w'
      rw [closing_eq ht hw hext.past, closing_eq ht' hw' hext'.past]
      exact hpaired.served_eq (h.finish hE hhanded hpaired).1 hext.past hext'.past
  rw [asked, asked, served_append, served_append, hopening, hclosing]

/-- Unless the hook after the call fails, both end alike, as far as they have come. -/
theorem outcome?_eq (hE : E.Unhooks E' R) (h : c.Paired R c') (hobjected : ∀ e, ¬c.Objected e) :
    c'.outcome? = c.outcome? := by
  obtain ⟨e, he, he'⟩ | ⟨t, t', ht, ht', hhanded, ⟨hw, hw'⟩ | ⟨w, w', hw, hw', hpaired⟩⟩ :=
    h.course hE
  · rw [outcome?_of_error he, outcome?_of_error he']
  · rw [outcome?_of_ok ht, outcome?_of_ok ht', hw, hw']
    rfl
  · rw [outcome?_of_ok ht, outcome?_of_ok ht', hw, hw']
    obtain ⟨-, hends | ⟨e, hobjects⟩⟩ := h.finish hE hhanded hpaired
    · exact congrArg some hends
    · exact absurd ⟨t, w, ht, hw, hobjects⟩ (hobjected e)

end Paired

/-- A call ends with the failure of the hook after it, and no row is mapped. -/
theorem Objected.ends {e : Failure} (h : c.Objected e) :
    c.outcome? = some (.error e) ∧ ∀ y ∈ c.asked, Executor.Unmapped y.request := by
  obtain ⟨t, w, ht, hw, hobjects⟩ := h
  obtain ⟨hends, fs, hext, hclosing⟩ := Executor.finish_of_objects hobjects
  obtain ⟨es, hpast, hopening⟩ := c.executor.start_unmapped c.job c.began
  refine ⟨?_, ?_⟩
  · rw [outcome?_of_ok ht, hw]
    exact congrArg some hends
  · rw [asked, opening_eq hpast, closing_eq ht hw hext.past]
    exact List.forall_mem_append.mpr ⟨hopening, hclosing⟩

/-- Where the integers are short, it is not the query log that fails. -/
theorem not_objected_of_legible {logger : String} {level : Int}
    (hafter : c.executor.after = some (.queryLog logger (.int level))) (hlevel : QueryLog.Short level)
    (hlegible : c.Legible) (e : Failure) : ¬c.Objected e := by
  rintro ⟨t, w, ht, hw, hv, hresults, hstamp, hhook, hfailed⟩
  obtain rfl := Option.some.inj (hhook.symm.trans hafter)
  have hdirect := Executor.direct_of_stamp ht (Option.isSome_of_eq_some hstamp)
  have hreportable := Executor.reportable_of_coerce hdirect hresults
    (hlegible t w _ _ ht hw hv hresults)
  rw [Executor.inform_fst fun duration u =>
    Executor.returns_queryLog _ _ hreportable duration logger hlevel u] at hfailed
  cases hfailed

/-- **Hooks do not alter a call.** -/
theorem Paired.unaltered (hE : E.Unhooks E' R) (h : c.Paired R c') : c.Unaltered c' where
  executor := h.executor
  job := h.job
  served := h.served_asked hE
  unobjected := h.outcome?_eq hE
  objected _ he := he.ends
  logged _ _ := not_objected_of_legible

end Errand

/-! ### Moves -/

namespace Traffic

variable {t : Traffic E.recorded} {t' : Traffic E'.recorded}

/-- The same call is accepted for the executor and for the one without hooks, or refused with the same
failure. -/
theorem relates_accept {call : Session E.recorded → Except Failure Invocation}
    {call' : Session E'.recorded → Except Failure Invocation}
    (h : ∀ s s', s.Unhooked R s' → call s = call' s') :
    Relates (Session.Unhooked R) (fun p p' => p' = (p.1.unhooked, p.2)) (accept call) (accept call') := by
  refine Session.relates_state.bind fun s s' hs => ?_
  rw [h s s' hs]
  exact (Relates.ofExcept (.of_eq _)).bind_eq fun i => Session.relates_prepare i

/-- Where one call waits, the other one does. -/
theorem Paired.waiting? (hE : E.Unhooks E' R) (h : Paired R t t') (key : Nat) :
    (t.waiting? key = none ∧ t'.waiting? key = none) ∨
      ∃ c c' ticket ticket', t.waiting? key = some (c, ticket) ∧
        t'.waiting? key = some (c', ticket') ∧ c.Paired R c' ∧
        Executor.Handed c.job ticket ticket' := by
  refine waiting?_like h.calls (fun r r' hagree => ?_) (fun c c' hc => hc.ticket? hE) key
  obtain ⟨e, he, he'⟩ | hc := hagree.both
  · exact .inl ⟨e, e, he, he'⟩
  · exact .inr hc

/-- A call begins in both sessions. -/
theorem Paired.begin (hE : E.Unhooks E' R) (h : Paired R t t') (key : Nat)
    {call : Session E.recorded → Except Failure Invocation}
    {call' : Session E'.recorded → Except Failure Invocation}
    (hcall : ∀ s s', s.Unhooked R s' → call s = call' s') :
    Paired R (t.begin key call) (t'.begin key call') := by
  obtain ⟨e, hrefused, hrefused'⟩ | ⟨⟨x, job⟩, p', haccept, haccept', hp⟩ :=
    (relates_accept hcall _ _ h.session).2.both
  · rw [begin_of_refused hrefused, begin_of_refused hrefused']
    exact ⟨h.session, List.rel_append h.calls (.cons ⟨rfl, .error⟩ .nil)⟩
  · subst hp
    obtain ⟨i, -, hi⟩ := accept_eq_ok_iff.mp haccept
    have hx := h.session.unaffected x (List.mem_of_find?_eq_some (Session.prepares_of_ok hi).found)
    have hworld := (Executor.relates_start hE hx job _ _ h.session.world).1
    rw [begin_of_accepted haccept, begin_of_accepted haccept']
    exact ⟨⟨h.session.registry, h.session.executors, h.session.unaffected, hworld⟩,
      List.rel_append h.calls (.cons ⟨rfl, .ok ⟨rfl, hx, rfl, h.session.world, .none⟩⟩ .nil)⟩

/-- A call goes on in both sessions. -/
theorem Paired.resume (hE : E.Unhooks E' R) (h : Paired R t t') (key : Nat) :
    Paired R (t.resume key) (t'.resume key) := by
  obtain ⟨hnone, hnone'⟩ | ⟨c, c', ticket, ticket', hwaiting, hwaiting', hc, hhanded⟩ :=
    h.waiting? hE key
  · rw [resume_of_not_waiting hnone, resume_of_not_waiting hnone']
    exact h
  · have hworld := (hc.finish hE hhanded h.session.world).1
    rw [resume_of_waiting hwaiting, resume_of_waiting hwaiting']
    refine ⟨⟨h.session.registry, h.session.executors, h.session.unaffected, hworld⟩, ?_⟩
    refine map_key_like h.calls (fun r r' hagree => ?_) key
    cases hagree with
    | ok hpaired => exact .ok (hpaired.goOn h.session.world)
    | error => exact .error

/-- The same moves keep sessions beside each other. -/
theorem Paired.step (hE : E.Unhooks E' R) (h : Paired R t t') {m : Move E.recorded}
    {m' : Move E'.recorded} (hm : Move.Same R m m') : Paired R (t.step m) (t'.step m') := by
  cases hm with
  | @begin key call call' hcall =>
    rw [Traffic.step, Traffic.step, any_key_like h.calls key]
    by_cases hkey : t'.calls.any (·.1 = key) = true
    · rw [if_pos hkey, if_pos hkey]
      exact h
    · rw [if_neg hkey, if_neg hkey]
      exact h.begin hE key hcall
  | resume key => exact h.resume hE key
  | aside hother => exact ⟨hother _ _ h.session, h.calls⟩

theorem Paired.run (hE : E.Unhooks E' R) (h : Paired R t t') {moves : List (Move E.recorded)}
    {moves' : List (Move E'.recorded)} (hmoves : List.Forall₂ (Move.Same R) moves moves') :
    Paired R (t.run moves) (t'.run moves') := by
  induction hmoves generalizing t t' with
  | nil => exact h
  | cons hm _ ih => exact ih (h.step hE hm)

/-- Sessions beside each other, with calls that are not altered by hooks or have been refused alike. -/
structure Unaltered (R : E.State → E'.State → Prop) (t : Traffic E.recorded)
    (t' : Traffic E'.recorded) : Prop where
  /-- Backends have been asked the same, and what comes next is alike. -/
  session : t.session.Unhooked R t'.session
  /-- The calls under each key are not altered, or have been refused with the same failure. -/
  calls : List.Forall₂ (fun e e' => e.1 = e'.1 ∧ Agree Errand.Unaltered e.2 e'.2) t.calls t'.calls

/-- **Hooks do not alter results.** A session and the one without hooks stay beside each other, and so
do their calls, whether the hooks after them return or fail, as long as hooks leave alone what they are
handed. As a hook, the query log returns and alters nothing, whatever the queries are and whatever an
executor makes of an answer, if all integers can be written. -/
theorem hooks_alter_nothing (hE : E.Unhooks E' R) {s : Session E.recorded} {s' : Session E'.recorded}
    (hs : s.Unhooked R s') {moves : List (Move E.recorded)} {moves' : List (Move E'.recorded)}
    (hmoves : List.Forall₂ (Move.Same R) moves moves') :
    Unaltered R (run ⟨s, []⟩ moves) (run ⟨s', []⟩ moves') ∧
      ∀ (x : Executor) (v : Value) (call : Call) (results : List Value), x.direct = false →
        x.coerce v call = .ok results →
        (∀ r ∈ results, ∀ s, QueryLog.statisticsOf? r = some s → QueryLog.Writable s) →
        ∀ level : Int, QueryLog.Short level →
          ∀ (F : Environment) (w : World F) (logger : String) (id : Nat) (queries : List String)
            (duration : Binary64),
            ((AfterHook.queryLog logger (.int level)).call id queries results duration w).1 =
              .ok none := by
  have hstart : Paired R ⟨s, []⟩ ⟨s', []⟩ := ⟨hs, .nil⟩
  have hpaired := hstart.run hE hmoves
  refine ⟨⟨hpaired.session, hpaired.calls.imp ?_⟩, ?_⟩
  · rintro ⟨key, r⟩ ⟨key', r'⟩ ⟨rfl, hagree⟩
    refine ⟨rfl, ?_⟩
    cases hagree with
    | error => exact .error
    | ok hc => exact .ok (hc.unaltered hE)
  · intro x v call results hx hcoerce hwritable level hlevel F w logger id queries duration
    exact Executor.returns_queryLog id queries (Executor.reportable_of_coerce hx hcoerce hwritable)
      duration logger hlevel w

/-! ### Hooks that fail, and hooks that interfere -/

open Executor

/-- A hook that fails after the first dispatch, and mappers that give the number nine. -/
def refusing : Conduct := objecting.mapping fun _ => nine

/-- A session with one executor, in front of a store that holds this. -/
def opening (c : Conduct) (held : Value) (x : Executor) : Session c.environment.recorded where
  registry := .standard
  executors := [x]
  world := c.world held none

/-- Executing a statement with a mapper for its rows, and then one with this mapper. -/
def twoCalls (E : Environment) (m : Option String) : List (Move E) :=
  let call (m : Option String) : Value := .statement 0
    { query := "select a", values := [], mapper := m, executor := some ⟨0, "Executor", []⟩ }
  [.begin 0 fun _ => .ok (.all (call (some "m"))), .resume 0,
    .begin 1 fun _ => .ok (.all (call m)), .resume 1]

/-- The two calls of the executor, one after the other. -/
def executed (c : Conduct) (held : Value) (m : Option String) (x : Executor) :
    Traffic c.environment.recorded :=
  run ⟨opening c held x, []⟩ (twoCalls _ m)

/-- An outcome with one row. -/
def oneRow (label : Label) (row : Value) : Value := .query label { rows := [row] }

/-- The failure that a call ends with, or the integers among the rows of its result. -/
def endOf? : Option (Except Failure (List Value)) → Option (Raised ⊕ List Int)
  | some (.error (.raised r)) => some (.inl r)
  | some (.ok [.query _ o]) => some (.inr (integers o.rows))
  | _ => none

/-- What calls end with. -/
def endsOf (t : Traffic E) : List (Option (Raised ⊕ List Int)) := t.errands.map (endOf? ·.outcome?)

/-- Both stores hold an outcome with one row, which nothing else holds. -/
def Holding (s s' : Value × Nat) : Prop := s.1 = oneRow none (.int 5) ∧ s'.1 = s.1

theorem hooked_unaffected :
    hooked.Unaffected refusing.environment refusing.environment Holding where
  toComparable := hooked_comparable _ fun _ _ h => h.2.symm
  mapping := by
    refine .inr ⟨fun _ _ _ _ h => h, fun call s s' v h hv => ?_⟩
    obtain rfl : s.1 = v := Except.ok.inj hv
    rw [h.1]
    cases call with
    | batch =>
      -- Iterating over an outcome gives pairs of a name and a value.
      intro items hitems u hu
      obtain rfl := Except.ok.inj hitems
      obtain ⟨field, -, rfl⟩ := List.mem_map.mp hu
      rfl
    | _ => rfl

/-- The first of two calls ends with the failure of the hook, and the second one ends as it does
without hooks. The query log of the outcome returns. -/
theorem hooks_alter_nothing_twoCalls :
    refusing.environment.Unhooks refusing.environment Holding ∧
      (opening refusing (oneRow none (.int 5)) hooked).Unhooked Holding
        (opening refusing (oneRow none (.int 5)) hooked.unhooked) ∧
      Unaltered Holding (executed refusing (oneRow none (.int 5)) (some "m") hooked)
        (executed refusing (oneRow none (.int 5)) (some "m") hooked.unhooked) ∧
      endsOf (executed refusing (oneRow none (.int 5)) (some "m") hooked) =
        [some (.inl objection), some (.inr [9])] ∧
      endsOf (executed refusing (oneRow none (.int 5)) (some "m") hooked.unhooked) =
        [some (.inr [9]), some (.inr [9])] ∧
      ((AfterHook.queryLog "queries" (.int 20)).call 1 ["select a"] [oneRow none (.int 5)] .zero
        (opening refusing (oneRow none (.int 5)) hooked).world).1 = .ok none := by
  have hE : refusing.environment.Unhooks refusing.environment Holding := by
    refine Conduct.unhooks _ (fun _ _ _ _ h => ⟨rfl, h⟩) ?_
    rintro number contents s s' ⟨hs, hs'⟩
    rw [hs', hs]
    exact ⟨rfl, rfl⟩
  have hs : (opening refusing (oneRow none (.int 5)) hooked).Unhooked Holding
      (opening refusing (oneRow none (.int 5)) hooked.unhooked) :=
    ⟨rfl, rfl, List.forall_mem_singleton.mpr hooked_unaffected, rfl, rfl, rfl, ⟨rfl, rfl⟩, rfl⟩
  have hmoves : List.Forall₂ (Move.Same Holding) (twoCalls refusing.environment.recorded (some "m"))
      (twoCalls refusing.environment.recorded (some "m")) :=
    .cons (.begin fun _ _ _ => rfl) <| .cons (.resume 0) <| .cons (.begin fun _ _ _ => rfl) <|
      .cons (.resume 1) .nil
  have hwritable : ∀ r ∈ [oneRow none (.int 5)], ∀ s, QueryLog.statisticsOf? r = some s →
      QueryLog.Writable s := by
    intro r hr s hstatistics
    obtain rfl := List.mem_singleton.mp hr
    obtain rfl := Option.some.inj hstatistics
    exact ⟨by decide, fun _ h => (nomatch h), fun _ h => (nomatch h)⟩
  obtain ⟨hunaltered, hlogged⟩ := hooks_alter_nothing hE hs hmoves
  exact ⟨hE, hs, hunaltered, by decide +kernel, by decide +kernel,
    hlogged hooked (oneRow none (.int 5)) (.all ⟨"select a", []⟩) [oneRow none (.int 5)] rfl rfl
      hwritable 20 (by decide) _ _ "queries" 1 ["select a"] .zero⟩

/-- A mapping of rows to how many have been mapped before. -/
def counting : Nat → Mapping := fun n _ _ => .ok (.int n)

/-- A hook that fails after the first dispatch, and mappers that count. -/
def tallying : Conduct := objecting.mapping counting

/-- A hook that takes the rows out of the result that it is handed. -/
def clearing : Conduct where
  after _ := .ok (some [.query none {}])
  map _ := nine

/-- Where a hook fails, it is not enough that backends answer alike and that rows are mapped alike, as
rows are left unmapped: a mapper that counts rows gives the second call another number then, and an
outcome that is the answer again still has its row. Hooks that return can interfere as well, as they
are handed the results themselves, and can reach the parameters of a statement. -/
theorem different_with_hooks :
    (tallying.environment.Unhooks tallying.environment Eq ∧
        hooked.Comparable tallying.environment tallying.environment Eq ∧
        endsOf (executed tallying (oneRow none (.int 5)) (some "m") hooked) =
          [some (.inl objection), some (.inr [0])] ∧
        endsOf (executed tallying (oneRow none (.int 5)) (some "m") hooked.unhooked) =
          [some (.inr [0]), some (.inr [1])]) ∧
      (refusing.environment.Unhooks refusing.environment Eq ∧
        hooked.Comparable refusing.environment refusing.environment Eq ∧
        endsOf (executed refusing (oneRow (some 0) (.int 5)) none hooked) =
          [some (.inl objection), some (.inr [5])] ∧
        endsOf (executed refusing (oneRow (some 0) (.int 5)) none hooked.unhooked) =
          [some (.inr [9]), some (.inr [9])]) ∧
      (clearing.environment.Unhooks clearing.environment Eq ∧
        hooked.backend.Alike clearing.environment clearing.environment Eq ∧
        endsOf (executed clearing (oneRow none (.int 5)) none hooked) =
          [some (.inr []), some (.inr [])] ∧
        endsOf (executed clearing (oneRow none (.int 5)) none hooked.unhooked) =
          [some (.inr [9]), some (.inr [5])]) ∧
      supplying.environment.Unhooks supplying.environment Eq ∧
        hooked.backend.Alike supplying.environment supplying.environment Eq ∧
        handedOver (executed supplying (oneRow none (.int 5)) none hooked).session.world.past =
          [[7], [7]] ∧
        handedOver (executed supplying (oneRow none (.int 5)) none hooked.unhooked).session.world.past =
          [[], []] := by
  have hcomparable : ∀ f, hooked.Comparable (objecting.mapping f).environment
      (objecting.mapping f).environment Eq := fun f => hooked_comparable f fun _ _ h =>
    congrArg Prod.fst h
  have halike : ∀ c : Conduct, hooked.backend.Alike c.environment c.environment Eq :=
    fun c _ s s' h => h ▸ ⟨rfl, rfl⟩
  exact ⟨⟨Conduct.unhooks_eq _, hcomparable _, by decide +kernel, by decide +kernel⟩,
    ⟨Conduct.unhooks_eq _, hcomparable _, by decide +kernel, by decide +kernel⟩,
    ⟨Conduct.unhooks_eq _, halike _, by decide +kernel, by decide +kernel⟩,
    Conduct.unhooks_eq _, halike _, by decide +kernel, by decide +kernel⟩

end Traffic

end SqlWeave
