import SqlWeave.Proofs.Effect.Reading
import SqlWeave.Proofs.Fragment.Unsupported
import SqlWeave.Session.Basic

/-!
# What a call executes

A call is prepared before anything is executed: its fragment is expanded, its executor is looked up,
or the members of a batch are checked. All of that only reads the session (`Session.prepare_reads`),
so a call that is refused here leaves the session as it was. `Session.Prepares` lists the ways in
which a call can be accepted.
-/

namespace SqlWeave

/-! ### Preparing a call -/

namespace Session

variable {E : Environment}

theorem executor_reads (number : Nat) : (executor number : Sess E Executor).Reads := by
  refine .bind .state fun s => ?_
  cases s.executors.find? (·.number = number) with
  | none => exact .fail _
  | some x => exact .pure x

theorem executor_eq_ok_iff {number : Nat} {s : Session E} {x : Executor} :
    (executor number s).1 = .ok x ↔ s.executors.find? (·.number = number) = some x := by
  rw [executor, Effect.Reads.bind_eq_ok_iff .state]
  have hstate : ((Effect.state : Sess E (Session E)) s).1 = .ok s := rfl
  cases h : s.executors.find? (·.number = number) with
  | none => simp [hstate, h, Effect.fail]
  | some y => simp [hstate, h, Effect.pure_apply]

theorem styleOf_reads (number : Option Nat) : (styleOf number : Sess E Style).Reads := by
  cases number with
  | none => exact .pure _
  | some n => exact .bind (executor_reads n) fun x => .pure x.style

theorem build_reads (v : Value) : (build v : Sess E (Statement Value)).Reads := by
  have hother : (do
      if Lookalike.isMade v then
        let style ← styleOf (Lookalike.executorNumber? v)
        let _ ← Effect.ofExcept (v.expandAsFragment style)
      Effect.fail (v.lacking buildName) : Sess E (Statement Value)).Reads := by
    cases Lookalike.isMade v with
    | false => exact .fail _
    | true => exact .bind (styleOf_reads _) fun _ => .bind (.ofExcept _) fun _ => .fail _
  cases v with
  | fragment f => exact .bind (styleOf_reads _) fun style => .ofExcept _
  | _ => exact hother

theorem executable_reads (operation : String) (v : Value) :
    (executable operation v : Sess E (Statement Value)).Reads := by
  have hother : (if Lookalike.isMade v then build v else Effect.fail (v.lacking operation) :
      Sess E (Statement Value)).Reads := by
    cases Lookalike.isMade v with
    | false => exact .fail _
    | true => exact build_reads v
  cases v with
  | statement n s => exact .pure s
  | fragment f => exact build_reads _
  | _ => exact hother

theorem executorOf_reads (s : Statement Value) : (executorOf s : Sess E Executor).Reads := by
  rw [executorOf]
  cases s.executor with
  | none => exact .fail _
  | some origin => exact executor_reads origin.number

/-- Preparing a call leaves no trace. -/
theorem prepare_reads (i : Invocation) : (prepare i : Sess E (Executor × Job)).Reads := by
  cases i with
  | all v => exact .bind (executable_reads _ v) fun s => .bind (executorOf_reads s) fun x => .pure _
  | run v => exact .bind (executable_reads _ v) fun s => .bind (executorOf_reads s) fun x => .pure _
  | batch n vs => exact .bind (executor_reads n) fun x => .bind (.ofExcept _) fun ss => .pure _

/-- The statement of a call on a single value, and the executor of the statement. -/
structure Sends (s : Session E) (operation : String) (v : Value) (x : Executor)
    (st : Statement Value) : Prop where
  /-- The value is the statement, or compiles to it. -/
  statement : (executable operation v s).1 = .ok st
  /-- The statement has the executor. -/
  executor : ∃ origin, st.executor = some origin ∧
    s.executors.find? (·.number = origin.number) = some x

/-- The ways in which a call is accepted. -/
inductive Prepares (s : Session E) : Invocation → Executor → Job → Prop where
  /-- A statement is executed for its rows. -/
  | all {v : Value} {x : Executor} {st : Statement Value} :
    s.Sends "all" v x st → Prepares s (.all v) x (.all st)
  /-- A statement is executed for its effect. -/
  | run {v : Value} {x : Executor} {st : Statement Value} :
    s.Sends "run" v x st → Prepares s (.run v) x (.run st)
  /-- Statements are executed all or none, on the executor of the number. -/
  | batch {number : Nat} {vs : List Value} {x : Executor} {ss : List (Statement Value)} :
    s.executors.find? (·.number = number) = some x → members 0 vs = .ok ss →
      Prepares s (.batch number vs) x (.batch ss)

theorem executorOf_eq_ok_iff {s : Session E} {st : Statement Value} {x : Executor} :
    (executorOf st s).1 = .ok x ↔ ∃ origin, st.executor = some origin ∧
      s.executors.find? (·.number = origin.number) = some x := by
  rw [executorOf]
  cases h : st.executor with
  | none => simp [Effect.fail]
  | some origin => simp [executor_eq_ok_iff]

/-- Whatever a call does with the statement of a value and with its executor, it has to be accepted
for that first. -/
theorem sends_bind_iff {α : Type} {s : Session E} {operation : String} {v : Value}
    {k : Executor → Statement Value → α} {a : α} :
    ((do
      let st ← executable operation v
      let x ← executorOf st
      pure (k x st) : Sess E α) s).1 = .ok a ↔ ∃ x st, s.Sends operation v x st ∧ k x st = a := by
  rw [(executable_reads operation v).bind_eq_ok_iff]
  constructor
  · rintro ⟨st, hst, h⟩
    rw [(executorOf_reads st).bind_eq_ok_iff] at h
    obtain ⟨x, hx, h⟩ := h
    exact ⟨x, st, ⟨hst, executorOf_eq_ok_iff.mp hx⟩, Except.ok.inj h⟩
  · rintro ⟨x, st, ⟨hst, hx⟩, rfl⟩
    refine ⟨st, hst, ?_⟩
    rw [(executorOf_reads st).bind_eq_ok_iff]
    exact ⟨x, executorOf_eq_ok_iff.mpr hx, rfl⟩

/-- A call is accepted in one of the ways there are. -/
theorem prepares_of_ok {s : Session E} {i : Invocation} {x : Executor} {job : Job}
    (h : (prepare i s).1 = .ok (x, job)) : s.Prepares i x job := by
  cases i with
  | all v =>
    obtain ⟨y, st, hsends, heq⟩ := sends_bind_iff.mp h
    obtain ⟨rfl, rfl⟩ := Prod.mk.inj heq
    exact .all hsends
  | run v =>
    obtain ⟨y, st, hsends, heq⟩ := sends_bind_iff.mp h
    obtain ⟨rfl, rfl⟩ := Prod.mk.inj heq
    exact .run hsends
  | batch n vs =>
    obtain ⟨y, hy, h⟩ := (executor_reads n).bind_eq_ok_iff.mp h
    obtain ⟨ss, hss, h⟩ := (Effect.Reads.ofExcept _).bind_eq_ok_iff.mp h
    obtain ⟨rfl, rfl⟩ := Prod.mk.inj (Except.ok.inj h)
    rw [Effect.ofExcept_apply] at hss
    exact .batch (executor_eq_ok_iff.mp hy) hss

/-- The executor of an accepted call is the one that the session has under its number. -/
theorem Prepares.found {s : Session E} {i : Invocation} {x : Executor} {job : Job}
    (h : s.Prepares i x job) : s.executors.find? (·.number = x.number) = some x := by
  have hfound : ∀ n, s.executors.find? (·.number = n) = some x →
      s.executors.find? (·.number = x.number) = some x := by
    intro n hn
    have hnumber : x.number = n := by simpa using List.find?_some hn
    rw [hnumber]
    exact hn
  cases h with
  | all h =>
    obtain ⟨origin, -, hx⟩ := h.executor
    exact hfound _ hx
  | run h =>
    obtain ⟨origin, -, hx⟩ := h.executor
    exact hfound _ hx
  | batch hx _ => exact hfound _ hx

end Session

end SqlWeave
