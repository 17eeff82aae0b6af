import SqlWeave.Proofs.Execution.Untouched
import SqlWeave.Proofs.Session.Alike
import SqlWeave.Proofs.Session.Numbered

/-!
# Sessions with stand-ins

What is called in a session of direct executors can be called in one of executors that number, time
and log their dispatches. The two sessions stay alike (`Session.Mirrored`): every move makes the same
difference to both (`Traffic.Like.step`), as long as backends answer with mappings, outcomes and
failures. Other answers are left alone by direct executors only (`Errand.Spares`).

**`Traffic.stands_in`**: in whatever order calls begin, wait and go on, the handlers of direct
executors are handed the same calls as the backends of their stand-ins, and every call ends alike or
is refused alike; direct executors call no hook and draw no id; and an answer that is no mapping and
no outcome with rows is given as it is, without a call of the mapper of its statement. The direct
executors of tags are numbered ones (`Scenario.makeTag_direct`).
-/

namespace SqlWeave

variable {E E' : Environment} {R : E.State → E'.State → Prop}

/-! ### Tags with direct executors -/

/-- Whether a tag is made with a direct executor. -/
def TagExpr.isDirect : TagExpr → Bool
  | .backend .. => false
  | _ => true

namespace Scenario

/-- What gives the style that it goes on with, where none has been asked for, goes on with the style
that is registered as numbered. -/
theorem of_resolveStyle {k : Style → Scene Style} {s s' : Session Script.environment} {style : Style}
    (hk : ∀ found u, (k found u).1 = .ok found)
    (h : (makeTag.resolveStyle none none >>= k) s = (.ok style, s')) :
    s.registry.create Style.numbered.name = .ok style ∧ (k style s).2 = s' := by
  have hresolve : makeTag.resolveStyle none none s =
      Effect.ofExcept (s.registry.create Style.numbered.name) s := rfl
  rw [Effect.bind_apply, hresolve] at h
  rcases hcreate : s.registry.create Style.numbered.name with e | found
  · rw [hcreate] at h
    cases h
  · rw [hcreate] at h
    obtain rfl : found = style := Except.ok.inj ((hk found s).symm.trans (congrArg Prod.fst h))
    exact ⟨rfl, congrArg Prod.snd h⟩

/-- The rows of a recorder. -/
def rowsOf (rows : Expr) : Scene (List Value) :=
  eval rows >>= fun v => if v.isVoid then pure [] else Effect.ofExcept v.items

theorem rowsOf_reads (rows : Expr) : (rowsOf rows).Reads := by
  refine .bind (.bind (.bind (.bind .state fun _ => .pure _) fun _ => .pure _) fun _ => .ofExcept _)
    fun v => ?_
  cases v.isVoid with
  | true => exact .pure []
  | false => exact .ofExcept v.items

/-- Such a tag gets a direct executor in front of a handler, in the style that is registered as
numbered. -/
theorem makeTag_direct {name : String} {how : TagExpr} {s s' : Session Script.environment}
    {style : Style} (hhow : how.isDirect = true) (h : makeTag name how s = (.ok style, s')) :
    s.registry.create Style.numbered.name = .ok style ∧
      ∃ x, s'.executors = s.executors ++ [x] ∧ x.direct = true ∧ x.backend.IsHandler ∧
        x.style = style := by
  cases how with
  | backend => cases hhow
  | handler typeName answers =>
    have hstore : makeTag name (.handler typeName answers) s = (makeTag.resolveStyle none none >>=
      fun style => addTag name (fun n =>
        { number := n, backend := .store s.world.outside.stores.length, style,
          handler := some typeName }) >>= fun _ => pure style) (addStore { answers } s).2 := rfl
    rw [hstore] at h
    obtain ⟨hcreate, rfl⟩ := of_resolveStyle (fun _ _ => rfl) h
    exact ⟨hcreate, _, rfl, rfl, trivial, rfl⟩
  | recorder rows =>
    have hrows : makeTag name (.recorder rows) s = (rowsOf rows >>= fun rows =>
        makeTag.resolveStyle none none >>= fun style => addTag name (fun n =>
          { number := n, backend := .recorder n, style, handler := some recorderName }) >>= fun x =>
        Session.execute (Act.setRecorder x.number { rows }) >>= fun _ => pure style) s := by
      rw [rowsOf, bind_assoc]
      refine congrFun (congrArg (eval rows >>= ·) (funext fun v => ?_)) s
      cases v.isVoid with
      | true => rfl
      | false => rfl
    have hreads := rowsOf_reads rows s
    rcases hread : rowsOf rows s with ⟨e | rows, t⟩
    · rw [hrows, Effect.bind_of_error hread] at h
      cases h
    · rw [hread] at hreads
      obtain rfl : t = s := hreads
      rw [hrows, Effect.bind_of_ok hread] at h
      obtain ⟨hcreate, rfl⟩ := of_resolveStyle (fun _ _ => rfl) h
      exact ⟨hcreate, _, rfl, rfl, trivial, rfl⟩

end Scenario

/-! ### Sessions that are alike -/

/-- Two sessions, the one with direct executors in front of handlers, the other one with executors in
their places that do all that executors do; the same has been handed over in both. -/
structure Session.Mirrored (R : E.State → E'.State → Prop) (s : Session E.recorded)
    (s' : Session E'.recorded) : Prop where
  /-- The second session has the stand-ins. -/
  executors : s'.executors = s.executors.map Executor.plain
  /-- The first one has direct executors in front of handlers. -/
  direct : ∀ x ∈ s.executors, x.direct = true ∧ x.backend.IsHandler
  /-- The worlds are alike. -/
  world : s.world.Mirrored R s'.world

/-- Moves that are the same but for the executors that they are about. -/
inductive Move.Like (R : E.State → E'.State → Prop) : Move E.recorded → Move E'.recorded → Prop where
  /-- Where sessions are alike, calls begin that are. -/
  | begin {key : Nat} {call : Session E.recorded → Except Failure Invocation}
      {call' : Session E'.recorded → Except Failure Invocation} :
    (∀ s s', s.Mirrored R s' → Matched Invocation.Like (call s) (call' s')) →
      Like R (.begin key call) (.begin key call')
  /-- Calls of the same key go on. -/
  | resume (key : Nat) : Like R (.resume key) (.resume key)
  /-- What else is done keeps sessions alike. -/
  | aside {other : Interlude E.recorded} {other' : Interlude E'.recorded} :
    (∀ s s', s.Mirrored R s' → (other.act s).Mirrored R (other'.act s')) →
      Like R (.aside other) (.aside other')

/-- Accepted calls that are the same but for their executors. -/
structure Errand.Like (c : Errand E.recorded) (c' : Errand E'.recorded) : Prop where
  /-- One is executed by a stand-in. -/
  executor : c'.executor = c.executor.plain
  /-- The other one is executed directly. -/
  direct : c.executor.direct = true ∧ c.executor.backend.IsHandler
  /-- The same is executed. -/
  job : c'.job = c.job
  /-- Both have gone on, or none has. -/
  resumed : c'.resumed.isSome = c.resumed.isSome
  /-- They have ended alike, if they have. -/
  outcome : c'.outcome? = c.outcome?

/-- Sessions that are alike, with calls that are alike or have been refused alike. -/
structure Traffic.Like (R : E.State → E'.State → Prop) (t : Traffic E.recorded)
    (t' : Traffic E'.recorded) : Prop where
  /-- The sessions are alike. -/
  session : t.session.Mirrored R t'.session
  /-- So are the calls under each key. -/
  calls : List.Forall₂ (fun e e' => e.1 = e'.1 ∧ Matched Errand.Like e.2 e'.2) t.calls t'.calls

/-! ### A call in both sessions -/

namespace Errand

variable {c : Errand E.recorded} {c' : Errand E'.recorded}

/-- A call that is executed directly has been handed over. -/
theorem start_of_direct (h : c.executor.direct = true) : ∃ d, c.start.1 = .ok ⟨c.job, none, d⟩ := by
  obtain ⟨d, v, hstart⟩ := Executor.start_handed h c.job.call c.began
  exact ⟨d, congrArg Prod.fst (hstart c.job.mappers)⟩

namespace Like

/-- Both calls have been handed over. -/
theorem start (h : c.Like c') : ∃ d stamp d', c.start.1 = .ok ⟨c.job, none, d⟩ ∧
    c'.start.1 = .ok ⟨c.job, stamp, d'⟩ := by
  obtain ⟨d, hstart⟩ := start_of_direct h.direct.1
  obtain ⟨stamp, d', hstart'⟩ := Executor.start_plain c.executor c'.job c'.began
  rw [h.job] at hstart'
  refine ⟨d, some stamp, d', hstart, ?_⟩
  rw [Errand.start, h.executor, h.job]
  exact hstart'

/-- Calls that go on in worlds that are alike end alike. -/
theorem goOn (hE : E.Mirrors E' R) (h : c.Like c') {w : World E.recorded} {w' : World E'.recorded}
    (hw : w.Mirrored R w') : (c.goOn w).Like (c'.goOn w') where
  executor := h.executor
  direct := h.direct
  job := h.job
  resumed := rfl
  outcome := by
    obtain ⟨d, stamp, d', hstart, hstart'⟩ := h.start
    have hjob : (⟨c.job, none, d⟩ : Ticket).job = (⟨c.job, stamp, d'⟩ : Ticket).job := rfl
    rw [outcome?_of_ok (c := c.goOn w) hstart, outcome?_of_ok (c := c'.goOn w') hstart']
    show some (c'.executor.finish _ w').1 = some (c.executor.finish _ w).1
    rw [h.executor, (Executor.finish_mirrored hE h.direct.1 h.direct.2 hjob rfl hw).2]

theorem ticket? (h : c.Like c') : (c.ticket? = none ∧ c'.ticket? = none) ∨
    ∃ t t', c.ticket? = some t ∧ c'.ticket? = some t' ∧ t.job = t'.job ∧ t.stamp = none := by
  obtain ⟨d, stamp, d', hstart, hstart'⟩ := h.start
  have hresumed := h.resumed
  rw [Errand.ticket?, Errand.ticket?, hstart, hstart']
  rcases hleft : c.resumed with _ | w
  · rcases hright : c'.resumed with _ | w'
    · exact .inr ⟨_, _, rfl, rfl, rfl, rfl⟩
    · rw [hleft, hright] at hresumed
      cases hresumed
  · rcases hright : c'.resumed with _ | w'
    · rw [hleft, hright] at hresumed
      cases hresumed
    · exact .inl ⟨rfl, rfl⟩

end Like

/-- No hook is called for a call that is executed directly, no clock is read, and nothing is
logged. -/
theorem bare (hx : c.executor.direct = true) (hb : c.executor.backend.IsHandler)
    (h : ∀ w, c.resumed = some w → w.threshold = c.began.threshold) :
    ∀ y ∈ c.asked, y.request.Bare := by
  cases c.under_next h with
  | ended _ h => exact h.bare hx hb
  | waiting _ h => exact h.bare hx

/-- The call with another mapper for the statement at a place. -/
def remapped (i : Nat) (m : Option String) (c : Errand E) : Errand E :=
  { c with job := c.job.remapped i m }

/-- A call leaves the answer alone that it gets for its statement at a place, with answers for the
others. -/
structure Spares (c : Errand E.recorded) (answers : List Value) (i : Nat) (u : Value) : Prop where
  /-- With any other mapper for the statement, the same is asked, and the call ends alike. -/
  unmapped : ∀ m, (c.remapped i m).asked = c.asked ∧ (c.remapped i m).outcome? = c.outcome?
  /-- If the call succeeds, the answer is in its place, with the rows of outcomes that it shares with
  other answers as they are then. -/
  given : ∀ rs, c.outcome? = some (.ok rs) →
    ∃ r, rs[i]? = some r ∧ u.Renewed (fun n => ∃ v ∈ answers, v.outcomeNumber? = some n) r
  /-- If it shares none with them, it is as it was. -/
  unchanged : (∀ v ∈ answers, ∀ n, v.outcomeNumber? = some n → u.Avoids n) →
    ∀ rs, c.outcome? = some (.ok rs) → rs[i]? = some u
  /-- If there is one statement only, the call succeeds, and gives the answer. -/
  alone : ∀ b, c.job.call = .all b → c.outcome? = some (.ok [u])

/-- A call is handed over in the same way with any mappers. -/
theorem start_remapped (hx : c.executor.direct = true) (i : Nat) (m : Option String) :
    ∃ d, c.start.1 = .ok ⟨c.job, none, d⟩ ∧
      (c.remapped i m).start = (.ok ⟨c.job.remapped i m, none, d⟩, c.start.2) := by
  obtain ⟨d, v, hstart⟩ := Executor.start_handed hx c.job.call c.began
  have hc : c.start = (.ok ⟨c.job, none, d⟩, v) := hstart c.job.mappers
  rw [hc]
  exact ⟨d, rfl, hstart _⟩

section

variable {w : World E.recorded} {v : Value} {answers : List Value} {i : Nat} {u : Value}

theorem outcome?_of_resumed (hw : c.resumed = some w) {t : Ticket} (hstart : c.start.1 = .ok t) :
    c.outcome? = some (c.executor.finish t w).1 := by
  rw [outcome?_of_ok hstart, hw]
  rfl

/-- The mapper of a statement makes no difference if its answer is no outcome with rows. -/
theorem remapped_alike (hx : c.executor.direct = true) (hw : c.resumed = some w)
    (hv : (c.executor.backend.collect c.job.call w).1 = .ok v)
    (hanswers : c.job.call.slots v = .ok answers) (hi : answers[i]? = some u) (hu : ¬u.ReportsRows)
    (m : Option String) :
    (c.remapped i m).asked = c.asked ∧ (c.remapped i m).outcome? = c.outcome? := by
  obtain ⟨d, hstart, hstart'⟩ := start_remapped hx i m
  have hremapped : (c.remapped i m).start.1 = .ok ⟨c.job.remapped i m, none, d⟩ :=
    congrArg Prod.fst hstart'
  have hfinish : c.executor.finish ⟨c.job.remapped i m, none, d⟩ w =
      c.executor.finish ⟨c.job, none, d⟩ w :=
    Executor.finish_remapped (t := ⟨c.job, none, d⟩) hx rfl hv hanswers hi hu m
  obtain ⟨es, hext⟩ := c.executor.finish_extends ⟨c.job, none, d⟩ w
  have hopening : (c.remapped i m).opening = c.opening := by
    rw [opening, hstart']
    rfl
  have hclosing : (c.remapped i m).closing = c.closing := by
    rw [closing_eq hstart hw hext.past]
    refine closing_eq (c := c.remapped i m) hremapped hw ?_
    rw [← hext.past, ← hfinish]
    rfl
  constructor
  · rw [asked, asked, hopening, hclosing]
  · rw [outcome?_of_resumed hw hstart, ← hfinish]
    exact outcome?_of_resumed (c := c.remapped i m) hw hremapped

/-- **A direct executor leaves alone what is no mapping and no outcome with rows.** -/
theorem spares (hx : c.executor.direct = true) (hw : c.resumed = some w)
    (hv : (c.executor.backend.collect c.job.call w).1 = .ok v)
    (hanswers : c.job.call.slots v = .ok answers) (hi : answers[i]? = some u)
    (hu : ¬u.ReportsRows) : c.Spares answers i u := by
  obtain ⟨d, hstart⟩ := c.start_of_direct hx
  have houtcome := outcome?_of_resumed hw hstart
  have hgiven : ∀ rs, c.outcome? = some (.ok rs) →
      ∃ r, rs[i]? = some r ∧ u.Renewed (fun n => ∃ v ∈ answers, v.outcomeNumber? = some n) r := by
    intro rs hrs
    rw [houtcome] at hrs
    exact Executor.finish_untouched (t := ⟨c.job, none, d⟩) hx rfl hv hanswers hi hu
      (Option.some.inj hrs)
  refine ⟨remapped_alike hx hw hv hanswers hi hu, hgiven, ?_, ?_⟩
  · intro havoids rs hrs
    obtain ⟨r, hr, hrenewed⟩ := hgiven rs hrs
    have hsame : r = u := by
      refine hrenewed.eq_self ?_
      rintro n ⟨v, hmem, hn⟩
      exact havoids v hmem n hn
    rw [hr, hsame]
  · intro b hb
    rw [hb] at hanswers
    obtain rfl := Except.ok.inj hanswers
    cases i with
    | zero =>
      obtain rfl := Option.some.inj hi
      rw [houtcome, Executor.finish_all_untouched (t := ⟨c.job, none, d⟩) hx rfl hb hv hu]
    | succ i => cases hi

end

end Errand

namespace Traffic

variable {t : Traffic E.recorded} {t' : Traffic E'.recorded}

/-- Calls that are alike are accepted or refused alike. -/
theorem accept_like {s : Session E.recorded} {s' : Session E'.recorded} (hs : s.Mirrored R s')
    {call : Session E.recorded → Except Failure Invocation}
    {call' : Session E'.recorded → Except Failure Invocation}
    (h : Matched Invocation.Like (call s) (call' s')) :
    Matched (fun p p' => p.1 ∈ s.executors ∧ p' = (p.1.plain, p.2)) (accept call s).1
      (accept call' s').1 := by
  refine .bind (S := fun u u' => u = s ∧ u' = s') .state .state (.ok ⟨rfl, rfl⟩) fun u u' hu => ?_
  obtain ⟨rfl, rfl⟩ := hu
  refine .bind (S := Invocation.Like) (.ofExcept _) (.ofExcept _) ?_
    fun i i' hi => Session.prepare_like hs.executors hi
  rw [Effect.ofExcept_apply, Effect.ofExcept_apply]
  exact h

/-- Where one call waits, the other one does. -/
theorem Like.waiting? (h : Like R t t') (key : Nat) :
    (t.waiting? key = none ∧ t'.waiting? key = none) ∨
      ∃ c c' ticket ticket', t.waiting? key = some (c, ticket) ∧
        t'.waiting? key = some (c', ticket') ∧ c.Like c' ∧ ticket.job = ticket'.job ∧
        ticket.stamp = none := by
  refine waiting?_like (T := fun _ ticket ticket' => ticket.job = ticket'.job ∧ ticket.stamp = none)
    h.calls (fun r r' hmatched => ?_) (fun c c' hc => hc.ticket?) key
  cases hmatched with
  | error => exact .inl ⟨_, _, rfl, rfl⟩
  | ok hc => exact .inr ⟨_, _, rfl, rfl, hc⟩

/-! ### Moves -/

/-- A call begins in both sessions. -/
theorem Like.begin (hE : E.Mirrors E' R) (h : Like R t t') (key : Nat)
    {call : Session E.recorded → Except Failure Invocation}
    {call' : Session E'.recorded → Except Failure Invocation}
    (hcall : Matched Invocation.Like (call t.session) (call' t'.session)) :
    Like R (t.begin key call) (t'.begin key call') := by
  have hmatched := accept_like h.session hcall
  rcases haccept : (accept call t.session).1 with e | ⟨x, job⟩
  · rcases haccept' : (accept call' t'.session).1 with e' | p'
    · rw [haccept, haccept'] at hmatched
      rw [begin_of_refused haccept, begin_of_refused haccept']
      cases hmatched with
      | error he =>
        exact ⟨h.session, List.rel_append h.calls (.cons ⟨rfl, .error he⟩ .nil)⟩
    · rw [haccept, haccept'] at hmatched
      cases hmatched
  · rcases haccept' : (accept call' t'.session).1 with e' | p'
    · rw [haccept, haccept'] at hmatched
      cases hmatched
    · rw [haccept, haccept'] at hmatched
      cases hmatched with
      | ok hp =>
        obtain ⟨hmem, rfl⟩ := hp
        obtain ⟨hx, hb⟩ := h.session.direct x hmem
        have hworld := Executor.start_mirrored hE hx job h.session.world
        obtain ⟨d, hstart⟩ := Errand.start_of_direct (c := ⟨x, job, t.session.world, none⟩) hx
        obtain ⟨stamp, d', hstart'⟩ := Executor.start_plain x job t'.session.world
        rw [begin_of_accepted haccept, begin_of_accepted haccept']
        refine ⟨⟨h.session.executors, h.session.direct, hworld⟩,
          List.rel_append h.calls (.cons ⟨rfl, .ok ⟨rfl, ⟨hx, hb⟩, rfl, rfl, ?_⟩⟩ .nil)⟩
        -- neither of them has ended
        exact (Errand.outcome?_of_ok (c := ⟨x.plain, job, t'.session.world, none⟩) hstart').trans
          (Errand.outcome?_of_ok (c := ⟨x, job, t.session.world, none⟩) hstart).symm

/-- A call goes on in both sessions. -/
theorem Like.resume (hE : E.Mirrors E' R) (h : Like R t t') (key : Nat) :
    Like R (t.resume key) (t'.resume key) := by
  obtain ⟨hnone, hnone'⟩ | ⟨c, c', ticket, ticket', hwaiting, hwaiting', hc, hjob, hstamp⟩ :=
    h.waiting? key
  · rw [resume_of_not_waiting hnone, resume_of_not_waiting hnone']
    exact h
  · have hworld := (Executor.finish_mirrored hE hc.direct.1 hc.direct.2 hjob hstamp h.session.world).1
    rw [resume_of_waiting hwaiting, resume_of_waiting hwaiting', hc.executor]
    refine ⟨⟨h.session.executors, h.session.direct, hworld⟩, ?_⟩
    exact map_key_like h.calls
      (fun r r' hmatched => hmatched.map fun _ _ hlike => hlike.goOn hE h.session.world) key

/-- **Moves that are alike keep sessions alike.** -/
theorem Like.step (hE : E.Mirrors E' R) (h : Like R t t') {m : Move E.recorded}
    {m' : Move E'.recorded} (hm : Move.Like R m m') : Like R (t.step m) (t'.step m') := by
  cases hm with
  | @begin key call call' hcall =>
    rw [Traffic.step, Traffic.step, any_key_like h.calls key]
    by_cases hkey : t'.calls.any (·.1 = key) = true
    · rw [if_pos hkey, if_pos hkey]
      exact h
    · rw [if_neg hkey, if_neg hkey]
      exact h.begin hE key (hcall _ _ h.session)
  | resume key => exact h.resume hE key
  | aside hother => exact ⟨hother _ _ h.session, h.calls⟩

theorem Like.run (hE : E.Mirrors E' R) (h : Like R t t') {moves : List (Move E.recorded)}
    {moves' : List (Move E'.recorded)} (hmoves : List.Forall₂ (Move.Like R) moves moves') :
    Like R (t.run moves) (t'.run moves') := by
  induction hmoves generalizing t t' with
  | nil => exact h
  | cons hm _ ih => exact ih (h.step hE hm)

/-- In sessions that are alike the calls of the first one are executed directly. -/
theorem Like.direct (h : Like R t t') {c : Errand E.recorded} (hc : c ∈ t.errands) :
    c.executor.direct = true ∧ c.executor.backend.IsHandler := by
  have hcalls : List.Forall₂ (fun e e' => (∀ c, e.2 = .ok c → c.executor.direct = true ∧
      c.executor.backend.IsHandler) ∧ e.1 = e'.1) t.calls t'.calls := by
    refine h.calls.imp fun e e' he => ⟨fun c hc => ?_, he.1⟩
    have hmatched := he.2
    rw [hc] at hmatched
    generalize e'.2 = r' at hmatched
    cases hmatched with
    | ok hlike => exact hlike.direct
  obtain ⟨key, hmem⟩ := mem_errands.mp hc
  exact ((List.forall₂_and_left _ _).mp hcalls).1 _ hmem c rfl

/-- **Stand-ins make no difference.** Two sessions are alike, one with direct executors in front of
handlers and one with their stand-ins in front of backends that answer alike, with mappings, outcomes
or failures. After the same moves the handlers and the backends have been handed the same calls, and
each call has ended alike or has been refused alike. In the first session no id has been drawn, and
no hook has been called for any call. An answer of another kind, alone or among others, is given as it
is by a direct executor, and the mapper of its statement makes no difference. The direct executor that a
tag is made with has the numbered style, and so has its stand-in. -/
theorem stands_in (hE : E.Mirrors E' R) {s : Session E.recorded} {s' : Session E'.recorded}
    (hs : s.Mirrored R s') {moves : List (Move E.recorded)} {moves' : List (Move E'.recorded)}
    (hmoves : List.Forall₂ (Move.Like R) moves moves') :
    Like R (run ⟨s, []⟩ moves) (run ⟨s', []⟩ moves') ∧
      (run ⟨s, []⟩ moves).session.world.drawn = s.world.drawn ∧
      (∀ c ∈ (run ⟨s, []⟩ moves).errands, ∀ y ∈ c.asked, y.request.Bare) ∧
      (∀ (F : Environment) (c : Errand F.recorded) (w : World F.recorded) (v : Value)
        (answers : List Value) (i : Nat) (u : Value), c.executor.direct = true →
        c.resumed = some w → (c.executor.backend.collect c.job.call w).1 = .ok v →
        c.job.call.slots v = .ok answers → answers[i]? = some u → ¬u.ReportsRows →
        c.Spares answers i u) ∧
      ∀ (name : String) (how : TagExpr) (style : Style) (u u' : Session Script.environment),
        how.isDirect = true → u.registry.create "numbered" = .ok .numbered →
        Scenario.makeTag name how u = (.ok style, u') →
        ∃ x, u'.executors = u.executors ++ [x] ∧ x.direct = true ∧ x.backend.IsHandler ∧
          x.style = .numbered ∧ x.plain.style = .numbered := by
  have hstart : Like R ⟨s, []⟩ ⟨s', []⟩ := ⟨hs, .nil⟩
  have hlike := hstart.run hE hmoves
  have hordered := ordered_run s moves
  refine ⟨hlike, funext fun n => ?_, fun c hc => ?_, fun F c w v answers i u hx hw hv hanswers hi hu =>
    Errand.spares hx hw hv hanswers hi hu, fun name how style u u' hhow hregistry hmade => ?_⟩
  · have hnone : (run ⟨s, []⟩ moves).dispatches n = [] := by
      refine List.eq_nil_iff_forall_not_mem.mpr fun c hc => ?_
      obtain ⟨hc, -, hdirect⟩ := mem_dispatches.mp hc
      rw [(hlike.direct hc).1] at hdirect
      cases hdirect
    rw [hordered.drawn, hnone]
    rfl
  · obtain ⟨hx, hb⟩ := hlike.direct hc
    obtain ⟨hbegan, hresumed⟩ := hordered.level c hc
    exact Errand.bare hx hb fun w hw => (hresumed w hw).trans hbegan.symm
  · obtain ⟨hcreate, x, hx, hdirect, hhandler, hstyle⟩ := Scenario.makeTag_direct hhow hmade
    obtain rfl := Except.ok.inj (hregistry.symm.trans hcreate)
    exact ⟨x, hx, hdirect, hhandler, hstyle, hstyle⟩

/-- The behaviour of stores that answer with a row to every statement, and of mappers that give back
their rows. -/
abbrev obliging : Environment :=
  .answering (fun
    | .all _ => .dict [(.text "results", .ofList [.int 1])]
    | .run _ => .run {}
    | .batch bs => .ofList (bs.map fun _ => .query none { rows := [.int 1] })) fun _ row => .ok row

/-- A direct executor in front of a store. -/
def rehearsing : Executor :=
  { number := 0, backend := .store 0, style := .numbered, handler := some "Handler" }

/-- A session with one executor, in which nothing has been done. -/
def fresh (E : Environment) (x : Executor) (s : E.State) : Session E.recorded where
  registry := .standard
  executors := [x]
  world := ⟨fun _ => 0, 0, fun _ => {}, none, (s, [])⟩

/-- Selecting by a parameter, for an executor. -/
def askingFor (x : Executor) : Fragment Value := ⟨"select ", [(.int 5, "")], some x.origin⟩

/-- Executing a fragment, a mapped statement and a batch with a member that has not been compiled, on an
executor. The first two calls wait at the same time. -/
def rehearsal (x : Executor) : List (Move obliging.recorded) :=
  [.begin 0 fun _ => .ok (.all (.fragment (askingFor x))),
    .begin 1 fun _ => .ok (.all (.statement 0
      { query := "select ?1", values := [.int 5], mapper := some "m", executor := some x.origin })),
    .begin 2 fun _ => .ok (.batch 0 [.fragment (askingFor x)]), .resume 1, .resume 0]

/-- A statement that is executed directly for its rows, and mapped, where the answer is a list. -/
def listed : Errand (Environment.answering (fun _ => .ofList [.int 7]) fun _ row => .ok row).recorded where
  executor := rehearsing
  job := ⟨.all ⟨"select ?1", [.int 5]⟩, [some "m"]⟩
  began := (fresh _ rehearsing ()).world
  resumed := some (fresh _ rehearsing ()).world

/-- A session by script, without executors. -/
def blank : Session Script.environment where
  registry := .standard
  executors := []
  world := ⟨fun _ => 0, 0, fun _ => {}, none, {}⟩

/-- Both sessions make the same calls, the list is given as it is, and a tag over a handler is
numbered. -/
theorem stands_in_rehearsal :
    Like (fun _ _ => True) (run ⟨fresh obliging rehearsing (), []⟩ (rehearsal rehearsing))
        (run ⟨fresh obliging rehearsing.plain (), []⟩ (rehearsal rehearsing.plain)) ∧
      (run ⟨fresh obliging rehearsing (), []⟩ (rehearsal rehearsing)).errands.length = 2 ∧
      ¬(Value.ofList [.int 7]).ReportsRows ∧
      listed.outcome? = some (.ok [.ofList [.int 7]]) ∧
      ∃ x, (Scenario.makeTag "m" (.handler "Handler" []) blank).2.executors = [x] ∧
        x.plain.style = .numbered := by
  have hE : obliging.Mirrors obliging fun _ _ => True := by
    refine ⟨fun _ _ _ _ h => h, fun _ _ _ _ h => ⟨rfl, h⟩, fun n call s s' v _ hv => ?_,
      fun _ _ _ _ h => ⟨rfl, h⟩, fun _ _ h => h, fun _ _ _ h => h, fun _ _ _ h => h⟩
    obtain rfl := Except.ok.inj hv
    cases call with
    | all b => trivial
    | run b => trivial
    | batch bs =>
      intro items hitems u hu
      obtain rfl := Except.ok.inj hitems
      obtain ⟨b, -, rfl⟩ := List.mem_map.mp hu
      trivial
  have hs : (fresh obliging rehearsing ()).Mirrored (fun _ _ => True)
      (fresh obliging rehearsing.plain ()) := by
    refine ⟨rfl, fun x hx => ?_, ⟨rfl, rfl, trivial, rfl⟩⟩
    obtain rfl := List.mem_singleton.mp hx
    exact ⟨rfl, trivial⟩
  have hfragment : (askingFor rehearsing).Like (askingFor rehearsing.plain) :=
    ⟨List.forall₂_same.mpr fun token _ => .same token, rfl⟩
  have hmoves : List.Forall₂ (Move.Like fun _ _ => True) (rehearsal rehearsing)
      (rehearsal rehearsing.plain) := by
    refine .cons (.begin fun _ _ _ => .ok (.all (.fragment hfragment)))
      (.cons (.begin fun _ _ _ => .ok (.all (.statement ⟨rfl, rfl, rfl, rfl⟩)))
      (.cons (.begin fun _ _ _ => .ok (.batch (.cons (.fragment hfragment) .nil)))
      (.cons (.resume 1) (.cons (.resume 0) .nil))))
  obtain ⟨hlike, -, -, hspares, htag⟩ := stands_in hE hs hmoves
  have hlist : ¬(Value.ofList [.int 7]).ReportsRows := fun h => h
  have hspared := hspares _ listed _ (.ofList [.int 7]) [.ofList [.int 7]] 0 _ rfl rfl rfl rfl rfl hlist
  obtain ⟨x, hx, -, -, -, hstyle⟩ :=
    htag "m" (.handler "Handler" []) .numbered blank _ rfl rfl (Prod.ext rfl rfl)
  exact ⟨hlike, rfl, hlist, hspared.alone _ rfl, x, hx, hstyle⟩

end Traffic

end SqlWeave
