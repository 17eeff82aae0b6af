import SqlWeave.Proofs.Execution.AnsweredAlike
import SqlWeave.Proofs.Execution.Objections
import SqlWeave.Proofs.QueryLog.Outcomes

/-!
# Executors without hooks

An executor beside the one that has no hooks and is the same otherwise (`Executor.unhooked`). What
is outside behaves alike for both, up to the clock and the log, and the hooks make no difference to
that (`Environment.Unhooks`).
-/

namespace SqlWeave

open Effect

/-- The executor without hooks. -/
def Executor.unhooked (x : Executor) : Executor := { x with before := none, after := none }

variable {E E' : Environment} {R : E.State → E'.State → Prop} {α : Type}

/-! ### Environments -/

/-- A question is answered alike in states with the relation, and then they have it again. -/
def Environment.AnswersAlike (E E' : Environment) (R : E.State → E'.State → Prop) (q : Request) :
    Prop :=
  ∀ s s', R s s' → (E.answer q s).1 = (E'.answer q s').1 ∧ R (E.answer q s).2 (E'.answer q s').2

/-- Two environments, in states with this relation, of which the first one has hooks. They map rows
alike. Neither the hooks nor the clock nor the log make a difference to how they behave. -/
structure Environment.Unhooks (E E' : Environment) (R : E.State → E'.State → Prop) : Prop where
  /-- Reading the clock makes no difference. -/
  clock : ∀ s s', R s s' → R (E.answer .clock s).2 (E'.answer .clock s').2
  /-- Calling a hook before a dispatch makes no difference. -/
  before : ∀ hook id queries s s', R s s' → R (E.answer (.before hook id queries) s).2 s'
  /-- Calling a hook after a dispatch makes no difference. -/
  after : ∀ hook id queries results duration s s', R s s' →
    R (E.answer (.after hook id queries results duration) s).2 s'
  /-- Writing to the log of the first one makes no difference. -/
  logLeft : ∀ r s s', R s s' → R (E.answer (.log r) s).2 s'
  /-- Writing to the log of the second one makes no difference. -/
  logRight : ∀ r s s', R s s' → R s (E'.answer (.log r) s').2
  /-- Calls are handed over. -/
  submit : ∀ n call s s', R s s' →
    R (E.answer (.submit n call) s).2 (E'.answer (.submit n call) s').2
  /-- Rows are mapped alike. -/
  mapRow : ∀ mapper row, E.AnswersAlike E' R (.mapRow mapper row)
  /-- What is changed in place is changed in both. -/
  renew : ∀ number contents s s', R s s' →
    R (E.renew (Value.refresh number contents) s) (E'.renew (Value.refresh number contents) s')

/-- Mapping a row in the second environment makes no difference. -/
def Environment.MapsFreely (E E' : Environment) (R : E.State → E'.State → Prop) : Prop :=
  ∀ mapper row s s', R s s' → R s (E'.answer (.mapRow mapper row) s').2

/-! ### Backends and hooks -/

/-- The answers to a call that hold no outcome which is held elsewhere too. -/
def Call.Owns (v : Value) : Call → Prop
  | .batch _ => ∀ items, v.items = .ok items → ∀ u ∈ items, u.outcomeNumber? = none
  | _ => v.outcomeNumber? = none

namespace Backend

/-- A backend answers alike in both environments. -/
def Alike (E E' : Environment) (R : E.State → E'.State → Prop) : Backend → Prop
  | store n => ∀ call, E.AnswersAlike E' R (.collect n call)
  | recorder _ => True
  | connection n => ∀ q, Connection.Concerns n q → E.AnswersAlike E' R q
  | engine n => ∀ q, Engine.Concerns n q → E.AnswersAlike E' R q

/-- What a backend answers with is held by nothing else. -/
def Owning (E E' : Environment) (R : E.State → E'.State → Prop) : Backend → Prop
  | store n => ∀ call s s' v, R s s' → (E.answer (.collect n call) s).1 = .ok v → call.Owns v
  | _ => True

end Backend

/-- A hook before a dispatch is a function that returns normally and leaves the parameters alone. -/
def BeforeHook.ReturnsIn (E E' : Environment) (R : E.State → E'.State → Prop) : BeforeHook → Prop
  | callback n => ∀ id queries s s', R s s' → (E.answer (.before n id queries) s).1 = .ok none
  | inert _ => False

/-- If a hook after a dispatch returns, it has left the results alone. -/
def AfterHook.LeavesAlone (E E' : Environment) (R : E.State → E'.State → Prop) : AfterHook → Prop
  | callback n => ∀ id queries results duration s s', R s s' →
      ∀ a, (E.answer (.after n id queries results duration) s).1 = .ok a → a = none
  | _ => True

/-- A hook after a dispatch of an executor returns normally and leaves the results alone: a function of
the caller always does, and the query log at a level that can be written, as the outcomes that the
executor has can be. -/
def AfterHook.ReturnsIn (E E' : Environment) (R : E.State → E'.State → Prop) (x : Executor) :
    AfterHook → Prop
  | callback n => ∀ id queries results duration s s', R s s' →
      (E.answer (.after n id queries results duration) s).1 = .ok none
  | queryLog _ level => (∃ n, level = .int n ∧ QueryLog.Short n) ∧
      ∀ call (w : World E.recorded) s' v results, R w.outside.1 s' →
        (x.backend.collect call w).1 = .ok v → x.coerce v call = .ok results →
        ∀ r ∈ results, QueryLog.Reportable r
  | inert _ => False

/-- An executor that can be compared with the one without hooks: its backend answers alike, the hook
before a dispatch returns normally, the one after it need not, and both of them leave alone what they
are handed. -/
structure Executor.Comparable (E E' : Environment) (R : E.State → E'.State → Prop) (x : Executor) :
    Prop where
  /-- The backend answers alike. -/
  backend : x.backend.Alike E E' R
  /-- The hook before a dispatch returns normally. -/
  before : ∀ hook, x.before = some hook → hook.ReturnsIn E E' R
  /-- The hook after a dispatch leaves the results alone. -/
  after : ∀ hook, x.after = some hook → hook.LeavesAlone E E' R

/-- An executor with hooks that can be left out. Where the hook after a dispatch need not return,
mapping rows makes no difference to what comes later: neither in the row mappers nor in outcomes that
are held elsewhere. -/
structure Executor.Unaffected (E E' : Environment) (R : E.State → E'.State → Prop) (x : Executor) :
    Prop extends x.Comparable E E' R where
  /-- The hook after a dispatch returns normally, or rows are mapped freely. -/
  mapping : (∀ hook, x.after = some hook → hook.ReturnsIn E E' R x) ∨
    E.MapsFreely E' R ∧ x.backend.Owning E E' R

/-! ### Functions of the caller -/

/-- The behaviour is alike in states that map rows alike and stay so. -/
theorem Conduct.unhooks (c : Conduct) {R : Value × Nat → Value × Nat → Prop}
    (hmap : ∀ mapper row s s', R s s' → c.map s.2 mapper row = c.map s'.2 mapper row ∧
      R (s.1, s.2 + 1) (s'.1, s'.2 + 1))
    (hrenew : ∀ number contents s s', R s s' →
      R (s.1.refresh number contents, s.2) (s'.1.refresh number contents, s'.2)) :
    c.environment.Unhooks c.environment R where
  clock _ _ h := h
  before _ _ _ _ _ h := h
  after _ _ _ _ _ _ _ h := h
  logLeft _ _ _ h := h
  logRight _ _ _ h := h
  submit _ _ _ _ h := h
  mapRow := hmap
  renew := hrenew

theorem Conduct.unhooks_eq (c : Conduct) : c.environment.Unhooks c.environment Eq :=
  c.unhooks (fun _ _ _ _ h => h ▸ ⟨rfl, rfl⟩) fun _ _ _ _ h => h ▸ rfl

namespace Executor

/-- The executor with hooks, on a store that answers alike. -/
theorem hooked_comparable (f : Nat → Mapping) {R : Value × Nat → Value × Nat → Prop}
    (hheld : ∀ s s', R s s' → s.1 = s'.1) :
    hooked.Comparable (objecting.mapping f).environment (objecting.mapping f).environment R where
  backend _ s s' h := ⟨congrArg Except.ok (hheld s s' h), h⟩
  before hook h := by
    obtain rfl := Option.some.inj h
    exact fun _ _ _ _ _ => rfl
  after hook h := by
    obtain rfl := Option.some.inj h
    intro id queries results duration s s' hs a ha
    by_cases hid : id = 1
    · rw [show ((objecting.mapping f).environment.answer (.after 1 id queries results duration) s).1 =
        .error (.raised objection) from if_pos hid] at ha
      cases ha
    · rw [show ((objecting.mapping f).environment.answer (.after 1 id queries results duration) s).1 =
        .ok none from if_neg hid] at ha
      exact (Except.ok.inj ha).symm

end Executor

/-! ### Worlds -/

/-- Whether a question is put to a backend. -/
def Request.isServed : Request → Bool
  | .submit .. => true
  | .collect .. => true
  | .connection .. => true
  | .engine .. => true
  | _ => false

/-- The questions that were put to backends, in order. -/
def served (es : List Exchange) : List Request := (es.map (·.request)).filter Request.isServed

theorem served_append (es fs : List Exchange) : served (es ++ fs) = served es ++ served fs := by
  simp [served]

/-- Two worlds in which backends have been asked the same, and in which what comes next is alike. -/
structure World.Paired (R : E.State → E'.State → Prop) (w : World E.recorded)
    (w' : World E'.recorded) : Prop where
  /-- Executors have drawn the same ids. -/
  drawn : w.drawn = w'.drawn
  /-- The next shared value gets the same number. -/
  minted : w.minted = w'.minted
  /-- Recorders have heard the same. -/
  recorders : w.recorders = w'.recorders
  /-- The states of the environments have the relation. -/
  outside : R w.outside.1 w'.outside.1
  /-- Backends were asked the same. -/
  served : served w.past = served w'.past

namespace World.Paired

variable {w : World E.recorded} {w' : World E'.recorded} {q : Request}

theorem ask (h : w.Paired R w') (hR : R (E.answer q w.outside.1).2 (E'.answer q w'.outside.1).2) :
    (Act.ask q w).2.Paired R (Act.ask q w').2 where
  drawn := h.drawn
  minted := h.minted
  recorders := h.recorders
  outside := hR
  served := by
    rw [(World.Extends.ask q w).past, (World.Extends.ask q w').past, served_append, served_append,
      h.served]
    rfl

theorem ask_left (h : w.Paired R w') (hq : q.isServed = false)
    (hR : R (E.answer q w.outside.1).2 w'.outside.1) : (Act.ask q w).2.Paired R w' where
  drawn := h.drawn
  minted := h.minted
  recorders := h.recorders
  outside := hR
  served := by
    rw [(World.Extends.ask q w).past, served_append, h.served]
    simp [SqlWeave.served, hq]

theorem ask_right (h : w.Paired R w') (hq : q.isServed = false)
    (hR : R w.outside.1 (E'.answer q w'.outside.1).2) : w.Paired R (Act.ask q w').2 where
  drawn := h.drawn
  minted := h.minted
  recorders := h.recorders
  outside := hR
  served := by
    rw [(World.Extends.ask q w').past, served_append, ← h.served]
    simp [SqlWeave.served, hq]

end World.Paired

/-! ### Questions, the log and shared values -/

namespace Act

theorem returns_log (I : World E → Prop) (r : LogRecord) : Returns I (log r : Act E Unit) :=
  fun w _ => ⟨(), log_fst r w⟩

/-- What writing to a log keeps is kept where it is not written as well. -/
theorem preserves_log {I : World E → Prop} (h : ∀ r, Preserves I (ask (.log r) : Act E Unit))
    (r : LogRecord) : Preserves I (log r : Act E Unit) := by
  refine .bind (fun _ hw => hw) fun _ w _ => ?_
  cases w.threshold.admits r.level with
  | false => exact .pure ()
  | true => exact h r

theorem preserves_logAll {I : World E → Prop} (h : ∀ r, Preserves I (ask (.log r) : Act E Unit))
    (rs : List LogRecord) : Preserves I (logAll rs : Act E Unit) := by
  induction rs with
  | nil => exact .pure ()
  | cons r rs ih => exact (preserves_log h r).bind fun _ _ _ => ih

/-- A question that is answered alike. -/
theorem relates_ask {q : Request} (h : E.AnswersAlike E' R q) :
    Relates (World.Paired R) Eq (ask q : Act E.recorded q.Answer) (ask q : Act E'.recorded q.Answer) := by
  intro w w' hw
  obtain ⟨hanswer, hR⟩ := h _ _ hw.outside
  exact ⟨hw.ask hR, .ok hanswer⟩

/-- A question with any answers. -/
theorem relates_ask_any {q : Request}
    (h : ∀ s s', R s s' → R (E.answer q s).2 (E'.answer q s').2) :
    Relates (World.Paired R) (fun _ _ => True) (ask q : Act E.recorded q.Answer)
      (ask q : Act E'.recorded q.Answer) :=
  fun _ _ hw => ⟨hw.ask (h _ _ hw.outside), .ok trivial⟩

theorem relates_drawId (n : Nat) :
    Relates (World.Paired R) Eq (drawId n : Act E.recorded Nat) (drawId n : Act E'.recorded Nat) := by
  intro w w' hw
  have hdraw : ∀ (F : Environment) (u : World F), drawId n u =
      (.ok (u.drawn n + 1), { u with drawn := fun x => if x = n then u.drawn n + 1 else u.drawn x }) :=
    fun _ _ => rfl
  rw [hdraw, hdraw, hw.drawn]
  exact ⟨⟨rfl, hw.minted, hw.recorders, hw.outside, hw.served⟩, .ok rfl⟩

variable (hE : E.Unhooks E' R)

include hE

theorem preserves_log_left (w' : World E'.recorded) (r : LogRecord) :
    Preserves (World.Paired R · w') (log r : Act E.recorded Unit) :=
  preserves_log (fun r _ hw => hw.ask_left rfl (hE.logLeft r _ _ hw.outside)) r

theorem preserves_log_right (w : World E.recorded) (r : LogRecord) :
    Preserves (World.Paired R w) (log r : Act E'.recorded Unit) :=
  preserves_log (fun r _ hw => hw.ask_right rfl (hE.logRight r _ _ hw.outside)) r

/-- What is changed in place is changed alike. -/
theorem relates_refresh (number : Nat) (vs : List Value) :
    Relates (World.Paired R) Eq (refresh number vs : Act E.recorded (List Value))
      (refresh number vs : Act E'.recorded (List Value)) := by
  intro w w' hw
  have hstate : ∀ (F : Environment) (u : World F), refresh number vs u =
      (.ok (Value.shareItems vs u.minted).1,
        World.mapValues (Value.refresh number (Value.shareItems vs u.minted).1)
          { u with minted := (Value.shareItems vs u.minted).2 }) := fun _ _ => rfl
  rw [hstate, hstate, hw.minted]
  refine ⟨⟨hw.drawn, rfl, ?_, hE.renew _ _ _ _ hw.outside, hw.served⟩, .ok rfl⟩
  funext n
  exact congrArg (Recorder.mapValues _) (congrFun hw.recorders n)

end Act

end SqlWeave
