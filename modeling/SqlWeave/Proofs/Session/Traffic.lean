import SqlWeave.Proofs.Session.Prepared
import SqlWeave.Session.Action

/-!
# Calls in traffic

Any number of calls can be on their way in one session. A call has two halves: the first one ends
when it is handed to its backend, the second one begins when the backend answers, and in between
anything else can be executed. `Traffic` is a session together with the calls that were made in it.
A `Move` begins a call, resumes one, or does something else that dispatches nothing (`Interlude`);
`Traffic.run` makes moves in any order. Calls go by keys, and a call that is refused stays refused.

The halves are those of `Scenario.begin` and `Scenario.endCall` (`session_begin`,
`session_resume`).
-/

namespace SqlWeave

/-- A call that was accepted. -/
structure Errand (E : Environment) where
  /-- What executes it. -/
  executor : Executor
  /-- What is executed. -/
  job : Job
  /-- The world in which it began. -/
  began : World E
  /-- The world in which it went on, if it did. -/
  resumed : Option (World E) := none

namespace Errand

variable {E : Environment}

/-- The first half. -/
def start (c : Errand E) : Except Failure Ticket × World E := c.executor.start c.job c.began

/-- How a call has ended, if it has. -/
def outcome? (c : Errand E) : Option (Except Failure (List Value)) :=
  match c.start.1 with
  | .error e => some (.error e)
  | .ok ticket => c.resumed.map fun w => (c.executor.finish ticket w).1

/-- What a call waits with, if it waits. -/
def ticket? (c : Errand E) : Option Ticket :=
  match c.resumed, c.start.1 with
  | none, .ok ticket => some ticket
  | _, _ => none

/-- The same call, gone on in a world. -/
def goOn (w : World E) (c : Errand E) : Errand E := { c with resumed := some w }

end Errand

/-- Something that dispatches nothing: it draws no id, leaves the threshold of the log, and takes no
executor away. -/
structure Interlude (E : Environment) where
  /-- What is done. -/
  act : Session E → Session E
  /-- Executors stay, and others come after them. -/
  executors : ∀ s, s.executors <+: (act s).executors
  /-- No id is drawn. -/
  drawn : ∀ s, (act s).world.drawn = s.world.drawn
  /-- The threshold stays. -/
  threshold : ∀ s, (act s).world.threshold = s.world.threshold

/-- What can happen in a session. -/
inductive Move (E : Environment) where
  /-- A call begins, under a key. What is called can depend on the session. -/
  | begin (key : Nat) (call : Session E → Except Failure Invocation)
  /-- The call of a key goes on. -/
  | resume (key : Nat)
  /-- Something else is done. -/
  | aside (other : Interlude E)

/-- The key of a move. -/
def Move.key? {E : Environment} : Move E → Option Nat
  | begin key _ => some key
  | resume key => some key
  | aside _ => none

/-- A session and the calls that were made in it, each refused or accepted. -/
structure Traffic (E : Environment) where
  /-- The session. -/
  session : Session E
  /-- The calls under their keys, in the order in which they began. -/
  calls : List (Nat × Except Failure (Errand E)) := []

namespace Traffic

variable {E : Environment}

/-- Accepts a call or refuses it. -/
def accept (call : Session E → Except Failure Invocation) : Sess E (Executor × Job) := do
  let s ← Effect.state
  let i ← Effect.ofExcept (call s)
  Session.prepare i

/-- Begins a call: what is accepted is executed up to its backend. -/
def begin (key : Nat) (call : Session E → Except Failure Invocation) (t : Traffic E) : Traffic E :=
  match accept call t.session with
  | (.error e, s) => ⟨s, t.calls ++ [(key, .error e)]⟩
  | (.ok (x, job), s) =>
    ⟨(Session.execute (x.start job) s).2,
      t.calls ++ [(key, .ok { executor := x, job, began := s.world })]⟩

/-- The call that waits under a key, and what it waits with. -/
def waiting? (key : Nat) (t : Traffic E) : Option (Errand E × Ticket) :=
  match t.calls.find? (·.1 = key) with
  | some (_, .ok c) => c.ticket?.map (c, ·)
  | _ => none

/-- Goes on with the call of a key, if it waits. -/
def resume (key : Nat) (t : Traffic E) : Traffic E :=
  match t.waiting? key with
  | none => t
  | some (c, ticket) =>
    ⟨(Session.execute (c.executor.finish ticket) t.session).2,
      t.calls.map fun e => if e.1 = key then (e.1, e.2.map (·.goOn t.session.world)) else e⟩

/-- Makes a move. A key is used once. -/
def step (t : Traffic E) : Move E → Traffic E
  | .begin key call => if t.calls.any (·.1 = key) then t else t.begin key call
  | .resume key => t.resume key
  | .aside other => { t with session := other.act t.session }

/-- Makes moves one after the other. -/
def run (t : Traffic E) (moves : List (Move E)) : Traffic E := moves.foldl step t

/-- The calls that were accepted, in the order in which they began. -/
def errands (t : Traffic E) : List (Errand E) := t.calls.filterMap (·.2.toOption)

/-- The calls that drew an id of the executor of a number, in the order in which they began. -/
def dispatches (n : Nat) (t : Traffic E) : List (Errand E) :=
  t.errands.filter fun c => c.executor.number = n && !c.executor.direct

/-! ### Moves -/

@[simp] theorem run_nil (t : Traffic E) : t.run [] = t := rfl

@[simp] theorem run_cons (t : Traffic E) (m : Move E) (moves : List (Move E)) :
    t.run (m :: moves) = (t.step m).run moves := rfl

/-- What every move preserves, every run does. -/
theorem run_induction {P : Traffic E → Prop} (hstep : ∀ t m, P t → P (t.step m)) {t : Traffic E}
    (h : P t) (moves : List (Move E)) : P (t.run moves) := by
  induction moves generalizing t with
  | nil => exact h
  | cons m moves ih => exact ih (hstep t m h)

theorem accept_reads (call : Session E → Except Failure Invocation) : (accept call).Reads :=
  .bind .state fun _ => .bind (.ofExcept _) fun i => Session.prepare_reads i

/-- What is accepted is a call that the session has prepared. -/
theorem accept_eq_ok_iff {call : Session E → Except Failure Invocation} {s : Session E}
    {p : Executor × Job} :
    (accept call s).1 = .ok p ↔ ∃ i, call s = .ok i ∧ (Session.prepare i s).1 = .ok p := by
  have hstate : ((Effect.state : Sess E (Session E)) s).1 = .ok s := rfl
  rw [accept, Effect.Reads.bind_eq_ok_iff .state]
  simp only [hstate, Except.ok.injEq, exists_eq_left', (Effect.Reads.ofExcept _).bind_eq_ok_iff,
    Effect.ofExcept_apply]

/-- A refused call leaves the session as it is. -/
theorem begin_of_refused {t : Traffic E} {call : Session E → Except Failure Invocation} {e : Failure}
    (h : (accept call t.session).1 = .error e) (key : Nat) :
    t.begin key call = { t with calls := t.calls ++ [(key, .error e)] } := by
  have hreads := accept_reads call t.session
  rw [begin]
  rcases haccept : accept call t.session with ⟨r, s⟩
  rw [haccept] at h hreads
  subst hreads
  cases h
  rfl

/-- An accepted call is executed up to its backend. -/
theorem begin_of_accepted {t : Traffic E} {call : Session E → Except Failure Invocation}
    {x : Executor} {job : Job} (h : (accept call t.session).1 = .ok (x, job)) (key : Nat) :
    t.begin key call =
      ⟨{ t.session with world := (x.start job t.session.world).2 },
        t.calls ++ [(key, .ok { executor := x, job, began := t.session.world })]⟩ := by
  have hreads := accept_reads call t.session
  rw [begin]
  rcases haccept : accept call t.session with ⟨r, s⟩
  rw [haccept] at h hreads
  subst hreads
  cases h
  rfl

/-- What waits is a call of the key, whose first half is done and whose second half is not. -/
theorem waiting?_eq_some {t : Traffic E} {key : Nat} {c : Errand E} {ticket : Ticket}
    (h : t.waiting? key = some (c, ticket)) :
    (key, .ok c) ∈ t.calls ∧ c.resumed = none ∧ c.start.1 = .ok ticket := by
  rw [waiting?] at h
  split at h
  · next key' c' hfind =>
    obtain ⟨ticket', hticket, heq⟩ := Option.map_eq_some_iff.mp h
    obtain ⟨rfl, rfl⟩ := Prod.mk.inj heq
    have hkey : key' = key := by simpa using List.find?_some hfind
    subst hkey
    refine ⟨List.mem_of_find?_eq_some hfind, ?_⟩
    rw [Errand.ticket?] at hticket
    split at hticket
    · next hresumed hstart =>
      cases hticket
      exact ⟨hresumed, hstart⟩
    · cases hticket
  · cases h

theorem resume_of_waiting {t : Traffic E} {key : Nat} {c : Errand E} {ticket : Ticket}
    (h : t.waiting? key = some (c, ticket)) :
    t.resume key =
      ⟨{ t.session with world := (c.executor.finish ticket t.session.world).2 },
        t.calls.map fun e => if e.1 = key then (e.1, e.2.map (·.goOn t.session.world)) else e⟩ := by
  rw [resume, h]
  rfl

theorem resume_of_not_waiting {t : Traffic E} {key : Nat} (h : t.waiting? key = none) :
    t.resume key = t := by
  rw [resume, h]

/-- No move takes an executor away. -/
theorem executors_step (t : Traffic E) (m : Move E) :
    t.session.executors <+: (t.step m).session.executors := by
  have hsame : ∀ u : Traffic E, u.session.executors = t.session.executors →
      t.session.executors <+: u.session.executors :=
    fun u hu => ⟨[], by rw [List.append_nil, hu]⟩
  cases m with
  | begin key call =>
    rw [step]
    by_cases hkey : t.calls.any (·.1 = key) = true
    · exact hsame _ (by rw [if_pos hkey])
    · rw [if_neg hkey]
      rcases haccept : (accept call t.session).1 with e | ⟨x, job⟩
      · exact hsame _ (by rw [begin_of_refused haccept])
      · exact hsame _ (by rw [begin_of_accepted haccept])
  | resume key =>
    show t.session.executors <+: (t.resume key).session.executors
    rcases hwaiting : t.waiting? key with _ | ⟨c, ticket⟩
    · exact hsame _ (by rw [resume_of_not_waiting hwaiting])
    · exact hsame _ (by rw [resume_of_waiting hwaiting])
  | aside other => exact other.executors t.session

/-! ### Calls -/

theorem mem_errands {t : Traffic E} {c : Errand E} :
    c ∈ t.errands ↔ ∃ key, (key, .ok c) ∈ t.calls := by
  rw [errands, List.mem_filterMap]
  constructor
  · rintro ⟨⟨key, r⟩, hmem, h⟩
    cases r with
    | error e => cases h
    | ok c' =>
      obtain rfl := Option.some.inj h
      exact ⟨key, hmem⟩
  · rintro ⟨key, hmem⟩
    exact ⟨_, hmem, rfl⟩

theorem mem_dispatches {t : Traffic E} {n : Nat} {c : Errand E} :
    c ∈ t.dispatches n ↔ c ∈ t.errands ∧ c.executor.number = n ∧ c.executor.direct = false := by
  simp [dispatches]

theorem errands_append (s : Session E) (calls calls' : List (Nat × Except Failure (Errand E))) :
    errands ⟨s, calls ++ calls'⟩ = errands ⟨s, calls⟩ ++ errands ⟨s, calls'⟩ :=
  List.filterMap_append

/-- Going on with a call changes nothing else about the calls. -/
theorem errands_goOn (s : Session E) (calls : List (Nat × Except Failure (Errand E))) (key : Nat)
    (w : World E) :
    List.Forall₂ (fun c c' => c' = c ∨ c' = c.goOn w) (errands ⟨s, calls⟩)
      (errands ⟨s, calls.map fun e => if e.1 = key then (e.1, e.2.map (·.goOn w)) else e⟩) := by
  induction calls with
  | nil => exact .nil
  | cons e calls ih =>
    obtain ⟨key', r⟩ := e
    cases r with
    | error e =>
      by_cases hkey : key' = key
      · simpa [errands, hkey, Except.map, Except.toOption] using ih
      · simpa [errands, hkey, Except.toOption] using ih
    | ok c =>
      by_cases hkey : key' = key
      · simpa [errands, hkey, Except.map, Except.toOption] using ih
      · simpa [errands, hkey, Except.toOption] using ih

/-- A call after one goes on is a call from before, gone on or not. -/
theorem mem_resume {t : Traffic E} {key key' : Nat} {c' : Errand E}
    (h : (key', .ok c') ∈ (t.resume key).calls) :
    ∃ c, (key', .ok c) ∈ t.calls ∧ (c' = c ∨ ∃ w, c' = c.goOn w) := by
  rcases hwaiting : t.waiting? key with _ | ⟨c₀, ticket⟩
  · rw [resume_of_not_waiting hwaiting] at h
    exact ⟨c', h, .inl rfl⟩
  · rw [resume_of_waiting hwaiting] at h
    obtain ⟨⟨key₁, r⟩, hmem, heq⟩ := List.mem_map.mp h
    by_cases hkey : key₁ = key
    · rw [if_pos hkey] at heq
      obtain ⟨rfl, hr⟩ := Prod.mk.inj heq
      cases r with
      | error e => cases hr
      | ok c => exact ⟨c, hmem, .inr ⟨_, (Except.ok.inj hr).symm⟩⟩
    · rw [if_neg hkey] at heq
      rw [heq] at hmem
      exact ⟨c', hmem, .inl rfl⟩

/-! ### Calls in two sessions -/

section

variable {α β : Type} {P : α → β → Prop} {calls : List (Nat × α)} {calls' : List (Nat × β)}

/-- Where calls are alike, the same keys are used. -/
theorem any_key_like (h : List.Forall₂ (fun e e' => e.1 = e'.1 ∧ P e.2 e'.2) calls calls') (key : Nat) :
    calls.any (·.1 = key) = calls'.any (·.1 = key) := by
  induction h with
  | nil => rfl
  | cons h _ ih => rw [List.any_cons, List.any_cons, ih, h.1]

/-- Where calls are alike, those under a key are. -/
theorem find_key_like (h : List.Forall₂ (fun e e' => e.1 = e'.1 ∧ P e.2 e'.2) calls calls')
    (key : Nat) : (calls.find? (·.1 = key) = none ∧ calls'.find? (·.1 = key) = none) ∨
      ∃ r r', calls.find? (·.1 = key) = some (key, r) ∧ calls'.find? (·.1 = key) = some (key, r') ∧
        P r r' := by
  induction h with
  | nil => exact .inl ⟨rfl, rfl⟩
  | @cons e e' _ _ h _ ih =>
    obtain ⟨k, r⟩ := e
    obtain ⟨k', r'⟩ := e'
    obtain ⟨rfl, hP⟩ : k = k' ∧ P r r' := h
    by_cases hkey : k = key
    · subst hkey
      exact .inr ⟨r, r', by simp, by simp, hP⟩
    · simpa [hkey] using ih

/-- Where calls are alike, they still are when the one of a key has changed alike. -/
theorem map_key_like {f : α → α} {f' : β → β}
    (h : List.Forall₂ (fun e e' => e.1 = e'.1 ∧ P e.2 e'.2) calls calls')
    (hf : ∀ r r', P r r' → P (f r) (f' r')) (key : Nat) :
    List.Forall₂ (fun e e' => e.1 = e'.1 ∧ P e.2 e'.2)
      (calls.map fun e => if e.1 = key then (e.1, f e.2) else e)
      (calls'.map fun e => if e.1 = key then (e.1, f' e.2) else e) := by
  refine List.rel_map (fun e e' he => ?_) h
  obtain ⟨k, r⟩ := e
  obtain ⟨k', r'⟩ := e'
  obtain ⟨rfl, hr⟩ : k = k' ∧ P r r' := he
  by_cases hkey : k = key
  · rw [if_pos hkey, if_pos hkey]
    exact ⟨rfl, hf r r' hr⟩
  · rw [if_neg hkey, if_neg hkey]
    exact ⟨rfl, hr⟩

end

/-- Where calls are alike, one waits under a key if the other one does. -/
theorem waiting?_like {E' : Environment} {t : Traffic E} {t' : Traffic E'}
    {P : Except Failure (Errand E) → Except Failure (Errand E') → Prop}
    {Q : Errand E → Errand E' → Prop} {T : Errand E → Ticket → Ticket → Prop}
    (h : List.Forall₂ (fun e e' => e.1 = e'.1 ∧ P e.2 e'.2) t.calls t'.calls)
    (hP : ∀ r r', P r r' → (∃ e e', r = .error e ∧ r' = .error e') ∨
      ∃ c c', r = .ok c ∧ r' = .ok c' ∧ Q c c')
    (hQ : ∀ c c', Q c c' → (c.ticket? = none ∧ c'.ticket? = none) ∨
      ∃ ticket ticket', c.ticket? = some ticket ∧ c'.ticket? = some ticket' ∧ T c ticket ticket')
    (key : Nat) :
    (t.waiting? key = none ∧ t'.waiting? key = none) ∨
      ∃ c c' ticket ticket', t.waiting? key = some (c, ticket) ∧
        t'.waiting? key = some (c', ticket') ∧ Q c c' ∧ T c ticket ticket' := by
  rw [waiting?, waiting?]
  obtain ⟨hnone, hnone'⟩ | ⟨r, r', hfind, hfind', hr⟩ := find_key_like h key
  · rw [hnone, hnone']
    exact .inl ⟨rfl, rfl⟩
  rw [hfind, hfind']
  obtain ⟨e, e', rfl, rfl⟩ | ⟨c, c', rfl, rfl, hc⟩ := hP r r' hr
  · exact .inl ⟨rfl, rfl⟩
  · show (c.ticket?.map _ = none ∧ c'.ticket?.map _ = none) ∨ ∃ d d' ticket ticket',
      c.ticket?.map _ = some (d, ticket) ∧ c'.ticket?.map _ = some (d', ticket') ∧ _
    obtain ⟨hticket, hticket'⟩ | ⟨ticket, ticket', hticket, hticket', hT⟩ := hQ c c' hc
    · rw [hticket, hticket']
      exact .inl ⟨rfl, rfl⟩
    · rw [hticket, hticket']
      exact .inr ⟨c, c', ticket, ticket', rfl, rfl, hc, hT⟩

end Traffic

/-! ### The calls of a scenario -/

namespace Scenario

/-- The call that is written down, as a session makes it. -/
def calling (c : CallExpr) (s : Session Script.environment) : Except Failure Invocation :=
  (evalCall c s).1

theorem scope_reads : (scope : Scene Scope).Reads := .bind .state fun _ => .pure _

theorem eval_reads (e : Expr) : (eval e).Reads := .bind scope_reads fun _ => .ofExcept _

theorem evalAll_reads (es : List Expr) : (evalAll es).Reads :=
  .bind scope_reads fun _ => .ofExcept _

theorem executorOfTag_reads (tag part : String) : (executorOfTag tag part).Reads := by
  refine .bind scope_reads fun names => ?_
  cases names.tag tag with
  | ok origin => exact Session.executor_reads _
  | error e => exact .fail _

/-- Evaluating what is called changes nothing. -/
theorem evalCall_reads (c : CallExpr) : (evalCall c).Reads := by
  cases c with
  | all e => exact .bind (eval_reads e) fun _ => .pure _
  | run e => exact .bind (eval_reads e) fun _ => .pure _
  | batch tag es =>
    exact .bind (executorOfTag_reads tag _) fun _ => .bind (evalAll_reads es) fun _ => .pure _

/-- A call that is written down is accepted or refused as it is evaluated and prepared. -/
theorem accept_calling (c : CallExpr) :
    Traffic.accept (calling c) = evalCall c >>= Session.prepare := by
  funext s
  have hreads := evalCall_reads c s
  show (Effect.ofExcept (evalCall c s).1 >>= Session.prepare) s = (evalCall c >>= Session.prepare) s
  rw [Effect.bind_apply, Effect.bind_apply, Effect.ofExcept_apply]
  rcases h : evalCall c s with ⟨e | i, s'⟩
  · rw [h] at hreads
    rw [show s' = s from hreads]
  · rw [h] at hreads
    rw [show s' = s from hreads]

/-- The first half of a call in a scenario does to the session what beginning the call does. -/
theorem session_begin (c : CallExpr) (t : Traffic Script.environment) (key : Nat) :
    (t.begin key (calling c)).session = (begin (.call c) t.session).2 := by
  have hbegin : begin (.call c) = evalCall c >>= fun i => Session.prepare i >>= fun p =>
      Session.execute (p.1.start p.2) >>= fun ticket => pure (.waiting p.1 ticket i.result) := rfl
  rw [hbegin, Traffic.begin, accept_calling]
  rcases hi : evalCall c t.session with ⟨e | i, s⟩
  · rw [Effect.bind_of_error hi, Effect.bind_of_error hi]
  · rw [Effect.bind_of_ok hi, Effect.bind_of_ok hi]
    rcases hp : Session.prepare i s with ⟨e | ⟨x, job⟩, s⟩
    · rw [Effect.bind_of_error hp]
    · rw [Effect.bind_of_ok hp]
      exact (Effect.Reads.snd_bind _ (fun _ => .pure _) s).symm

/-- The second half of a call in a scenario does to the session what going on with it does. -/
theorem session_resume {t : Traffic Script.environment} {key : Nat} {c : Errand Script.environment}
    {ticket : Ticket} (h : t.waiting? key = some (c, ticket)) (result : List Value → Value) :
    (t.resume key).session = (endCall c.executor ticket result t.session).2 := by
  rw [Traffic.resume_of_waiting h]
  exact (Effect.Reads.snd_bind (Session.execute (c.executor.finish ticket))
    (fun _ => .pure _) t.session).symm

end Scenario

end SqlWeave
