import SqlWeave.Execution.Executor
import SqlWeave.Proofs.Effect.Triple

/-!
# Recorded runs

What is asked of an environment while something is executed, in order, and what is answered. Any
environment can keep a record of it (`Environment.recorded`): it answers as before, and nothing that
is executed can see the record.

`Act.Traces` says of a computation which exchanges a run of it adds to the record and how the run
ends. It has one rule for each way of making a computation, as triples have; `Traces.bind` puts
the exchanges of what follows behind those that there are already. A run draws no ids, moves no
threshold and takes back no number (`World.Extends`).
-/

namespace SqlWeave

/-- A question and the answer to it. -/
structure Exchange where
  /-- The question. -/
  request : Request
  /-- The answer. -/
  answer : request.Answer

/-- The same behaviour with a record of what was asked and answered. -/
abbrev Environment.recorded (E : Environment) : Environment where
  State := E.State × List Exchange
  answer q s := ((E.answer q s.1).1, (E.answer q s.1).2, s.2 ++ [⟨q, (E.answer q s.1).1⟩])
  renew f s := (E.renew f s.1, s.2)

variable {E : Environment} {α β : Type}

/-- An exchange that a behaviour can have. -/
def Environment.Gives (E : Environment) (x : Exchange) : Prop :=
  ∃ s, (E.answer x.request s).1 = x.answer

/-- The record that an exchange writes to the log. -/
def Exchange.record? : Exchange → Option LogRecord
  | ⟨.log r, _⟩ => some r
  | _ => none

/-- The records that exchanges write to the log, in order. -/
def logged (es : List Exchange) : List LogRecord := es.filterMap Exchange.record?

@[simp] theorem logged_append (es fs : List Exchange) : logged (es ++ fs) = logged es ++ logged fs :=
  List.filterMap_append

@[simp] theorem logged_clock (now : Binary64) (es : List Exchange) :
    logged (⟨.clock, now⟩ :: es) = logged es := rfl

theorem logged_eq_nil {es : List Exchange} (h : ∀ y ∈ es, y.record? = none) : logged es = [] :=
  List.filterMap_eq_nil_iff.mpr h

/-- The record. -/
def World.past (w : World E.recorded) : List Exchange := w.outside.2

/-- What a run leads to that adds exchanges to the record and draws no id. -/
structure World.Extends (w w' : World E.recorded) (es : List Exchange) : Prop where
  /-- The exchanges are added to the record. -/
  past : w'.past = w.past ++ es
  /-- The behaviour can have them. -/
  given : ∀ x ∈ es, E.Gives x
  /-- No id is drawn. -/
  drawn : w'.drawn = w.drawn
  /-- The threshold stays. -/
  threshold : w'.threshold = w.threshold

namespace World.Extends

theorem of_unasked {w w' : World E.recorded} (hpast : w'.past = w.past)
    (hdrawn : w'.drawn = w.drawn) (hthreshold : w'.threshold = w.threshold) : w.Extends w' [] :=
  ⟨hpast.trans (List.append_nil _).symm, fun _ h => absurd h List.not_mem_nil, hdrawn, hthreshold⟩

theorem refl (w : World E.recorded) : w.Extends w [] := of_unasked rfl rfl rfl

theorem trans {w₁ w₂ w₃ : World E.recorded} {es fs : List Exchange} (h : w₁.Extends w₂ es)
    (h' : w₂.Extends w₃ fs) : w₁.Extends w₃ (es ++ fs) where
  past := by rw [h'.past, h.past, List.append_assoc]
  given x hx := (List.mem_append.mp hx).elim (h.given x) (h'.given x)
  drawn := h'.drawn.trans h.drawn
  threshold := h'.threshold.trans h.threshold

/-- Asking a question adds it with its answer. -/
theorem ask (q : Request) (w : World E.recorded) :
    w.Extends (Act.ask q w).2 [⟨q, (E.answer q w.outside.1).1⟩] where
  past := rfl
  given x hx := by
    rw [List.mem_singleton] at hx
    subst hx
    exact ⟨w.outside.1, rfl⟩
  drawn := rfl
  threshold := rfl

end World.Extends

/-- A run with this threshold adds exchanges to the record and ends in a way that fits them. -/
def Act.Traces (threshold : Threshold) (p : Act E.recorded α)
    (T : List Exchange → Except Failure α → Prop) : Prop :=
  ∀ w : World E.recorded, w.threshold = threshold → ∃ es, w.Extends (p w).2 es ∧ T es (p w).1

namespace Act.Traces

variable {th : Threshold} {S T : List Exchange → Except Failure α → Prop}
  {U : List Exchange → Except Failure β → Prop}

theorem mono {p : Act E.recorded α} (h : Traces th p S) (hST : ∀ es r, S es r → T es r) :
    Traces th p T := by
  intro w hw
  obtain ⟨es, hext, hS⟩ := h w hw
  exact ⟨es, hext, hST es _ hS⟩

theorem pure {a : α} (h : T [] (.ok a)) : Traces th (Pure.pure a : Act E.recorded α) T :=
  fun w _ => ⟨[], .refl w, h⟩

theorem fail {e : Failure} (h : T [] (.error e)) :
    Traces th (Effect.fail e : Act E.recorded α) T :=
  fun w _ => ⟨[], .refl w, h⟩

theorem ofExcept {r : Except Failure α} (h : T [] r) :
    Traces th (Effect.ofExcept r : Act E.recorded α) T := by
  intro w _
  cases r with
  | ok a => exact ⟨[], .refl w, h⟩
  | error e => exact ⟨[], .refl w, h⟩

theorem ask {q : Request} {T : List Exchange → Except Failure q.Answer → Prop}
    (h : ∀ a, T [⟨q, a⟩] (.ok a)) : Traces th (Act.ask q : Act E.recorded q.Answer) T :=
  fun w _ => ⟨_, .ask q w, h _⟩

/-- What comes after a success adds its exchanges behind those that led to it. -/
theorem bind {p : Act E.recorded α} {k : α → Act E.recorded β} (hp : Traces th p S)
    (herror : ∀ es e, S es (.error e) → U es (.error e))
    (hk : ∀ es a, S es (.ok a) → Traces th (k a) fun fs r => U (es ++ fs) r) :
    Traces th (p >>= k) U := by
  intro w hw
  obtain ⟨es, hext, hS⟩ := hp w hw
  rw [Effect.bind_apply]
  rcases hpw : p w with ⟨e | a, w'⟩
  · rw [hpw] at hext hS
    exact ⟨es, hext, herror es e hS⟩
  · rw [hpw] at hext hS
    obtain ⟨fs, hext', hU⟩ := hk es a hS w' (hext.threshold.trans hw)
    exact ⟨es ++ fs, hext.trans hext', hU⟩

/-- After a run that always succeeds, what comes next is all that is left to account for. -/
theorem bind_ok {p : Act E.recorded α} {k : α → Act E.recorded β} {P : List Exchange → α → Prop}
    (hp : Traces th p fun es r => ∃ a, r = .ok a ∧ P es a)
    (hk : ∀ es a, P es a → Traces th (k a) fun fs r => U (es ++ fs) r) : Traces th (p >>= k) U := by
  refine hp.bind ?_ ?_
  · rintro es e ⟨a, h, -⟩
    cases h
  · rintro es a ⟨b, h, hP⟩
    obtain rfl := Except.ok.inj h
    exact hk es a hP

/-- An answer that tells of a failure is an answer. -/
theorem ask_bind {q : Request} {k : q.Answer → Act E.recorded β}
    (hk : ∀ a, Traces th (k a) fun fs r => U (⟨q, a⟩ :: fs) r) : Traces th (Act.ask q >>= k) U := by
  have hask : Traces (E := E) th (Act.ask q) fun es r => ∃ a, r = .ok a ∧ es = [⟨q, a⟩] :=
    ask fun a => ⟨a, rfl, rfl⟩
  refine hask.bind_ok fun es a h => ?_
  subst h
  exact hk a

theorem attempt {p : Act E.recorded α} (hp : Traces th p S) :
    Traces th (Effect.attempt p) fun es r => ∃ s, r = .ok s ∧ S es s := by
  intro w hw
  obtain ⟨es, hext, hS⟩ := hp w hw
  exact ⟨es, hext, _, rfl, hS⟩

end Act.Traces

/-! ### The log -/

/-- The exchange of writing a record to the log, if its level is logged. -/
def LogRecord.written (threshold : Threshold) (r : LogRecord) : List Exchange :=
  if threshold.admits r.level then [⟨.log r, ()⟩] else []

theorem Act.log_fst (r : LogRecord) (w : World E) : (log r w).1 = .ok () := by
  show ((if w.threshold.admits r.level then ask (.log r) else pure () : Act E Unit) w).1 = .ok ()
  split <;> rfl

theorem Act.logAll_fst (rs : List LogRecord) (w : World E) : (logAll rs w).1 = .ok () := by
  induction rs generalizing w with
  | nil => rfl
  | cons r rs ih =>
    rw [logAll, Effect.bind_of_ok (Prod.ext (log_fst r w) rfl)]
    exact ih _

/-- Writing to the log does not change how publishing ends. -/
theorem Act.publish_bind_fst (report : Effect (List LogRecord) Unit) (a : α) (w : World E) :
    ((publish report >>= fun _ => pure a : Act E α) w).1 = (report []).1.map fun _ => a := by
  rw [publish, bind_assoc, Effect.bind_of_ok (Prod.ext (logAll_fst _ w) rfl)]
  rcases (report []).1 with e | _
  · rfl
  · rfl

theorem Act.traces_log (th : Threshold) (r : LogRecord) :
    Act.Traces (E := E) th (Act.log r) fun es s => ∃ a, s = .ok a ∧ es = r.written th := by
  intro w hw
  have hlog : Act.log r w =
      (if w.threshold.admits r.level then Act.ask (.log r) else pure () : Act E.recorded Unit) w := rfl
  rw [hlog, LogRecord.written, hw]
  by_cases h : th.admits r.level = true
  · rw [if_pos h, if_pos h]
    exact ⟨_, .ask (.log r) w, (), rfl, rfl⟩
  · rw [if_neg h, if_neg h]
    exact ⟨[], .refl w, (), rfl, rfl⟩

/-- Writing to the log cannot fail. -/
theorem Act.Traces.log_bind {th : Threshold} {r : LogRecord} {k : Unit → Act E.recorded β}
    {U : List Exchange → Except Failure β → Prop}
    (hk : Act.Traces th (k ()) fun fs s => U (r.written th ++ fs) s) :
    Act.Traces th (Act.log r >>= k) U := by
  refine (traces_log th r).bind_ok fun es _ h => ?_
  rw [h]
  exact hk

theorem Act.traces_logAll (th : Threshold) (rs : List LogRecord) :
    Act.Traces (E := E) th (Act.logAll rs) fun es s => es = rs.flatMap (·.written th) ∧ s = .ok () := by
  induction rs with
  | nil => exact .pure ⟨rfl, rfl⟩
  | cons r rs ih =>
    refine .log_bind (ih.mono fun es s h => ?_)
    rw [h.1]
    exact ⟨List.flatMap_cons.symm, h.2⟩

/-- What has been recorded is written, and then publishing ends as recording did. -/
theorem Act.traces_publish (th : Threshold) (report : Effect (List LogRecord) Unit) :
    Act.Traces (E := E) th (Act.publish report) fun es r =>
      es = (report []).2.flatMap (·.written th) ∧ r = (report []).1 := by
  refine (traces_logAll th _).bind (fun es e h => nomatch h.2) fun es _ h => .ofExcept ?_
  rw [List.append_nil]
  exact ⟨h.1, rfl⟩

/-! ### What is asked -/

/-- What a run leads to that numbers nothing and changes no rows of recorders. -/
structure World.Keeps (w w' : World E) : Prop where
  /-- Nothing is numbered. -/
  minted : w'.minted = w.minted
  /-- The rows of recorders stay. -/
  rows : ∀ n, (w'.recorders n).rows = (w.recorders n).rows

theorem World.Keeps.refl (w : World E) : w.Keeps w := ⟨rfl, fun _ => rfl⟩

theorem World.Keeps.trans {w₁ w₂ w₃ : World E} (h : w₁.Keeps w₂) (h' : w₂.Keeps w₃) : w₁.Keeps w₃ :=
  ⟨h'.minted.trans h.minted, fun n => (h'.rows n).trans (h.rows n)⟩

/-- All that a run asks satisfies `Q`; it numbers nothing, and recorders keep their rows. -/
def Act.Asks (Q : Request → Prop) (p : Act E.recorded α) : Prop :=
  ∀ w : World E.recorded,
    ∃ es, w.Extends (p w).2 es ∧ (∀ x ∈ es, Q x.request) ∧ w.Keeps (p w).2

namespace Act.Asks

variable {Q : Request → Prop}

theorem of_unchanged {p : Act E.recorded α} (h : ∀ w, (p w).2 = w) : Asks Q p := by
  intro w
  rw [h w]
  exact ⟨[], .refl w, fun _ hx => absurd hx List.not_mem_nil, .refl w⟩

theorem pure (a : α) : Asks Q (Pure.pure a : Act E.recorded α) := of_unchanged fun _ => rfl

theorem fail (e : Failure) : Asks Q (Effect.fail e : Act E.recorded α) := of_unchanged fun _ => rfl

theorem ofExcept (r : Except Failure α) : Asks Q (Effect.ofExcept r : Act E.recorded α) := by
  cases r with
  | ok a => exact pure a
  | error e => exact fail e

theorem ask {q : Request} (h : Q q) : Asks Q (Act.ask q : Act E.recorded q.Answer) := by
  intro w
  refine ⟨_, .ask q w, fun x hx => ?_, ⟨rfl, fun _ => rfl⟩⟩
  rw [List.mem_singleton] at hx
  subst hx
  exact h

theorem bind {p : Act E.recorded α} {k : α → Act E.recorded β} (hp : Asks Q p)
    (hk : ∀ a, Asks Q (k a)) : Asks Q (p >>= k) := by
  intro w
  obtain ⟨es, hext, hes, hkeeps⟩ := hp w
  rw [Effect.bind_apply]
  rcases hpw : p w with ⟨e | a, w'⟩
  · rw [hpw] at hext hkeeps
    exact ⟨es, hext, hes, hkeeps⟩
  · rw [hpw] at hext hkeeps
    obtain ⟨fs, hext', hfs, hkeeps'⟩ := hk a w'
    exact ⟨es ++ fs, hext.trans hext', fun x hx => (List.mem_append.mp hx).elim (hes x) (hfs x),
      hkeeps.trans hkeeps'⟩

theorem attempt {p : Act E.recorded α} (hp : Asks Q p) : Asks Q (Effect.attempt p) := hp

theorem log (h : ∀ r, Q (.log r)) (r : LogRecord) : Asks Q (Act.log r : Act E.recorded Unit) := by
  intro w
  have hlog : Act.log r w =
      (if w.threshold.admits r.level then Act.ask (.log r) else Pure.pure () :
        Act E.recorded Unit) w := rfl
  rw [hlog]
  by_cases ha : w.threshold.admits r.level = true
  · rw [if_pos ha]
    exact ask (h r) w
  · rw [if_neg ha]
    exact pure () w

theorem logAll (h : ∀ r, Q (.log r)) (rs : List LogRecord) :
    Asks Q (Act.logAll rs : Act E.recorded Unit) := by
  induction rs with
  | nil => exact pure ()
  | cons r rs ih => exact bind (log h r) fun _ => ih

theorem publish (h : ∀ r, Q (.log r)) (report : Effect (List LogRecord) Unit) :
    Asks Q (Act.publish report : Act E.recorded Unit) :=
  bind (logAll h _) fun _ => ofExcept _

theorem mono {Q' : Request → Prop} {p : Act E.recorded α} (hp : Asks Q p) (h : ∀ q, Q q → Q' q) :
    Asks Q' p := by
  intro w
  obtain ⟨es, hext, hes, hkeeps⟩ := hp w
  exact ⟨es, hext, fun x hx => h _ (hes x hx), hkeeps⟩

end Act.Asks

/-- The exchanges that a run adds are those of which both accounts of it speak. -/
theorem Act.Traces.and_asks {th : Threshold} {Q : Request → Prop} {p : Act E.recorded α}
    {T : List Exchange → Except Failure α → Prop} (h : Traces th p T) (hp : Asks Q p)
    {w : World E.recorded} (hw : w.threshold = th) :
    ∃ es, w.Extends (p w).2 es ∧ T es (p w).1 ∧ (∀ x ∈ es, Q x.request) ∧ w.Keeps (p w).2 := by
  obtain ⟨es, hext, hT⟩ := h w hw
  obtain ⟨fs, hext', hfs, hkeeps⟩ := hp w
  obtain rfl := List.append_cancel_left (hext.past.symm.trans hext'.past)
  exact ⟨es, hext, hT, hfs, hkeeps⟩

end SqlWeave
