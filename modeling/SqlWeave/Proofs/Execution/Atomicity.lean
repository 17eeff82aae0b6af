import SqlWeave.Proofs.Effect.Triple
import SqlWeave.Proofs.Execution.Planned

/-!
# Calls on a connection are atomic

An adapter for a connection that serves a database (`Environment.Serves`), started
outside of a transaction. A statement of its own runs in a block, and a batch
between a savepoint and its release or its undoing; whatever fails on the way, each
call ends outside of a transaction, and it has changed the contents by all of its
statements when it succeeded and by none of them when it failed (`answer_spec`).

Within a batch the invariant is that the database is the one that the savepoint left,
with some work since (`Database.withWork`), or that the transaction has been
abandoned (`executeEach_spec`); `undo_spec` says that the test for an open transaction
tells the two apart. **`history_atomic`** is the same for calls one after the other.
-/

namespace SqlWeave

open Database
open Effect (Triple)

/-- The parameters of a statement as they are given to the driver: none when it has none. -/
def Bound.parameters (b : Bound) : Option (List Value) :=
  if b.values.isEmpty then none else some b.values

/-- The statements of a call, in order. -/
def Call.statements : Call → List Bound
  | .all b => [b]
  | .run b => [b]
  | .batch bs => bs

/-- The contents after statements one after the other. -/
def Bound.applyAll {D : Type} (effect : String → Option (List Value) → D → D) (bs : List Bound)
    (d : D) : D :=
  bs.foldl (fun x b => effect b.query b.parameters x) d

/-! ### One statement -/

namespace Connection

variable {E : Environment} {D : Type} {number : Nat} {view : E.State → Database D}
  {controls : String → Bool} {effect : String → Option (List Value) → D → D}

/-- The outcome of a statement once its rows are read. -/
def conclude (start : Binary64) (c : Cursor) (rows : List Value) : Act E (QueryOutcome Value) := do
  let now ← Act.ask .clock
  let changes ← Effect.ofExcept c.changes
  Effect.ofExcept (Cursor.outcome rows (now.millisecondsSince start) changes c.lastRowId)

/-- What the adapter makes of the driver's answer to a statement. -/
def report (start : Binary64) (r : Except Failure Cursor) : Act E (QueryOutcome Value) := do
  let cursor ← Effect.ofExcept r
  match cursor.columns with
  | none => conclude start cursor []
  | some columns => do
    let rows ← Effect.ofExcept cursor.rows
    let rows ← Effect.ofExcept (Cursor.mappings columns rows)
    conclude start cursor rows

theorem execute_eq (b : Bound) :
    (execute number b : Act E (QueryOutcome Value)) = (do
      let start ← Act.ask .clock
      let r ← tell number (.execute b.query b.parameters)
      report start r) := rfl

theorem report_of_no_columns {c : Cursor} (hc : c.columns = none) (start : Binary64) :
    (report start (.ok c) : Act E (QueryOutcome Value)) = conclude start c [] := by
  rw [report, Effect.ok_bind, hc]

theorem report_of_columns {c : Cursor} {columns : List Value} (hc : c.columns = some columns)
    (start : Binary64) :
    (report start (.ok c) : Act E (QueryOutcome Value)) = (do
      let rows ← Effect.ofExcept c.rows
      let rows ← Effect.ofExcept (Cursor.mappings columns rows)
      conclude start c rows) := by
  rw [report, Effect.ok_bind, hc]

/-- Reading the clock preserves whatever is known of the database. -/
theorem clock_spec (hE : E.Serves number view controls effect) (P : Database D → Prop)
    {R : Failure → World E → Prop} :
    Triple (fun w => P (view w.outside)) (Act.ask .clock) (fun _ w => P (view w.outside))
      R :=
  Triple.ask fun w hw => by
    show P (view (E.answer .clock w.outside).2)
    rwa [hE.clock]

/-- Concluding leaves the database alone, and a finished statement can be concluded. -/
theorem conclude_spec (hE : E.Serves number view controls effect) (P : Database D → Prop)
    (start : Binary64) (c : Cursor) (rows : List Value) :
    Triple (fun w => P (view w.outside)) (conclude start c rows)
      (fun _ w => P (view w.outside))
      (fun _ w => P (view w.outside) ∧ ¬ (Cursor.Finished (.ok c) ∧ rows = [])) := by
  refine (clock_spec hE P).bind fun now => ?_
  rcases hv : c.changes with e | v
  · rw [Effect.error_bind]
    refine Triple.fail fun w hw => ⟨hw, fun h => ?_⟩
    obtain ⟨v, hok, -⟩ := h.1.outcome
    rw [hv] at hok
    cases hok
  · rw [Effect.ok_bind]
    refine Triple.ofExcept fun w hw => ?_
    rcases ho : Cursor.outcome rows (now.millisecondsSince start) v c.lastRowId with e | o
    · refine ⟨hw, fun h => ?_⟩
      obtain ⟨hfin, rfl⟩ := h
      obtain ⟨v', hok, hout⟩ := hfin.outcome
      rw [hv] at hok
      cases hok
      obtain ⟨o, ho'⟩ := hout (now.millisecondsSince start)
      rw [ho] at ho'
      cases ho'
    · exact hw

/-- What is made of the driver's answer leaves the database alone. It fails when the statement has
failed, and never when the statement is finished. -/
theorem report_spec (hE : E.Serves number view controls effect) (P : Database D → Prop)
    (start : Binary64) (r : Except Failure Cursor) :
    Triple (fun w => P (view w.outside)) (report start r)
      (fun _ w => P (view w.outside) ∧ ¬ Cursor.Failed r)
      (fun _ w => P (view w.outside) ∧ ¬ Cursor.Finished r) := by
  rcases r with e | c
  · rw [report, Effect.error_bind]
    exact Triple.fail fun w hw => ⟨hw, id⟩
  rcases hc : c.columns with _ | columns
  · have hok : ¬ Cursor.Failed (.ok c) := fun hf => by
      rw [Cursor.Failed, hc] at hf
      exact Bool.noConfusion hf.1
    rw [report_of_no_columns hc]
    exact (conclude_spec hE P start c []).consequence (fun _ hw => hw) (fun _ _ hw => ⟨hw, hok⟩)
      fun _ _ hw => ⟨hw.1, fun h => hw.2 ⟨h, rfl⟩⟩
  · have hfin : ¬ Cursor.Finished (.ok c) := fun h => by
      have hnone := h.1
      rw [hc] at hnone
      cases hnone
    rw [report_of_columns hc]
    rcases hr : c.rows with e | rows
    · rw [Effect.error_bind]
      exact Triple.fail fun w hw => ⟨hw, hfin⟩
    have hok : ¬ Cursor.Failed (.ok c) := fun hf => by
      obtain ⟨e, he⟩ := hf.2
      rw [hr] at he
      cases he
    rw [Effect.ok_bind]
    rcases Cursor.mappings columns rows with e | vs
    · rw [Effect.error_bind]
      exact Triple.fail fun w hw => ⟨hw, hfin⟩
    · rw [Effect.ok_bind]
      exact (conclude_spec hE P start c vs).consequence (fun _ hw => hw)
        (fun _ _ hw => ⟨hw, hok⟩) fun _ _ hw => ⟨hw.1, hfin⟩

/-- A statement does to the database what a statement can do; it only succeeds when it has not
failed, and only fails when it was not finished. -/
theorem execute_spec (hE : E.Serves number view controls effect) {b : Bound}
    (hb : controls b.query = false) (s : Database D) :
    Triple (fun w => view w.outside = s) (execute number b)
      (fun _ w => ∃ r, Executes (effect b.query b.parameters) s r (view w.outside) ∧
        ¬ Cursor.Failed r)
      (fun _ w => ∃ r, Executes (effect b.query b.parameters) s r (view w.outside) ∧
        ¬ Cursor.Finished r) := by
  rw [execute_eq]
  refine (clock_spec hE (· = s)).bind fun start => ?_
  have htell : Triple (fun w => view w.outside = s)
      (tell number (.execute b.query b.parameters))
      (fun r w => Executes (effect b.query b.parameters) s r (view w.outside))
      (fun _ w => ∃ r, Executes (effect b.query b.parameters) s r (view w.outside) ∧
        ¬ Cursor.Finished r) := by
    refine Triple.ask fun w hw => ?_
    rw [← hw]
    exact hE.execute w.outside b.query b.parameters hb
  refine htell.bind fun r => ?_
  exact (report_spec hE (Executes (effect b.query b.parameters) s r) start r).consequence
    (fun _ hw => hw) (fun _ _ hw => ⟨r, hw⟩) fun _ _ hw => ⟨r, hw⟩

/-! ### A statement of its own -/

/-- The end of a block works; it commits or rolls back. -/
theorem leave_spec (hE : E.Serves number view controls effect) (P : Database D → Prop)
    (success : Bool) {R : Failure → World E → Prop} :
    Triple
      (fun w => P (if success then (view w.outside).commit else (view w.outside).rollback))
      (tell number (.leave success)) (fun r w => r = .ok () ∧ P (view w.outside)) R := by
  refine Triple.ask fun w hw => ?_
  obtain ⟨hok, hview⟩ := hE.leave success w.outside
  refine ⟨hok, ?_⟩
  show P (view (E.command number (.leave success) w.outside).2)
  rwa [hview]

/-- **A statement of its own is atomic.** Its block ends outside of a transaction, with the change
of the statement when it succeeded and with none when it failed. -/
theorem executeOne_spec (hE : E.Serves number view controls effect) {b : Bound}
    (hb : controls b.query = false) (d : D) :
    Triple (fun w => view w.outside = idle d) (executeOne number b)
      (fun _ w => view w.outside = idle (effect b.query b.parameters d))
      (fun _ w => view w.outside = idle d) := by
  have henter : Triple (fun w => view w.outside = idle d) (tell number .enter)
      (fun _ w => view w.outside = idle d) (fun _ w => view w.outside = idle d) := by
    refine Triple.ask fun w hw => ?_
    rw [← hw]
    exact hE.enter w.outside
  refine henter.bind fun r => ?_
  rcases r with e | u
  · rw [Effect.error_bind]
    exact Triple.fail fun _ hw => hw
  rw [Effect.ok_bind]
  refine (execute_spec hE hb (idle d)).attempt.bind fun outcome => ?_
  rcases outcome with e | o
  · refine Triple.bind (Q := fun r w => r = .ok () ∧ view w.outside = idle d)
      ((leave_spec hE (· = idle d) false).pre ?_) fun r => Triple.and_pre ?_
    · rintro w ⟨r, hr, hfin⟩
      exact hr.rollback_eq hfin
    · rintro rfl
      rw [Effect.ok_bind]
      exact Triple.ofExcept fun _ hw => hw
  · refine Triple.bind
      ((leave_spec hE (· = idle (effect b.query b.parameters d)) true).pre ?_)
      fun r => Triple.and_pre ?_
    · rintro w ⟨r, hr, hok⟩
      exact hr.commit_eq hok
    · rintro rfl
      rw [Effect.ok_bind]
      exact Triple.ofExcept fun _ hw => hw

/-! ### A batch -/

/-- Statements within a transaction add to its work one after the other, until one fails; that
leaves some work, or the transaction is abandoned. -/
theorem executeEach_spec (hE : E.Serves number view controls effect) {s : Database D}
    (hs : s.isOpen = true) (bs : List Bound) (hbs : ∀ b ∈ bs, controls b.query = false) (x : D) :
    Triple (fun w => view w.outside = s.withWork x) (executeEach number bs)
      (fun _ w => view w.outside = s.withWork (Bound.applyAll effect bs x))
      (fun _ w => (∃ y, view w.outside = s.withWork y) ∨ view w.outside = s.rollback) := by
  induction bs generalizing x with
  | nil => exact Triple.pure fun _ hw => hw
  | cons b bs ih =>
    have hb : controls b.query = false := hbs b List.mem_cons_self
    have hrest : ∀ b ∈ bs, controls b.query = false := fun b h => hbs b (List.mem_cons_of_mem _ h)
    have hone : Triple (fun w => view w.outside = s.withWork x) (execute number b)
        (fun _ w => view w.outside = s.withWork (effect b.query b.parameters x))
        (fun _ w => (∃ y, view w.outside = s.withWork y) ∨ view w.outside = s.rollback) :=
      (execute_spec hE hb (s.withWork x)).consequence (fun _ hw => hw)
        (fun o w ⟨r, hr, hok⟩ => hr.withWork_eq hs hok)
        fun e w ⟨r, hr, _⟩ => hr.withWork_or_rollback hs
    refine hone.bind fun o => (ih hrest (effect b.query b.parameters x)).bind fun os => ?_
    exact Triple.pure fun _ hw => hw

/-- A command on a savepoint that is there works, and leads to where the driver says. -/
theorem control_spec (next : Database D → Option (Database D)) {sql : String}
    (hcontrol : ∀ s b, next (view s) = some b →
      (∃ c, (E.command number (.execute sql none) s).1 = .ok c) ∧
        view (E.command number (.execute sql none) s).2 = b)
    (P : Database D → Prop) {R : Failure → World E → Prop} :
    Triple (fun w => ∃ b, next (view w.outside) = some b ∧ P b) (control number sql)
      (fun _ w => P (view w.outside)) R := by
  have htell : Triple (fun w => ∃ b, next (view w.outside) = some b ∧ P b)
      (tell number (.execute sql none)) (fun r w => (∃ c, r = .ok c) ∧ P (view w.outside)) R := by
    refine Triple.ask fun w hw => ?_
    obtain ⟨b, hnext, hb⟩ := hw
    obtain ⟨hok, hview⟩ := hcontrol w.outside b hnext
    refine ⟨hok, ?_⟩
    show P (view (E.command number (.execute sql none) w.outside).2)
    rwa [hview]
  refine htell.bind fun r => Triple.and_pre ?_
  rintro ⟨c, rfl⟩
  rw [Effect.ok_bind]
  exact Triple.pure fun _ hw => hw

/-- The connection says whether a transaction is open. -/
theorem inTransaction_spec (hE : E.Serves number view controls effect) (s : Database D)
    {R : Failure → World E → Prop} :
    Triple (fun w => view w.outside = s) (tell number .inTransaction)
      (fun r w => r = .ok s.isOpen ∧ view w.outside = s) R := by
  refine Triple.ask fun w hw => ?_
  rw [← hw]
  exact hE.inTransaction w.outside

/-- **A failed batch is undone**, whatever work it got done since its savepoint and whether or not
the transaction has been abandoned. -/
theorem undo_spec (hE : E.Serves number view controls effect) (d : D)
    {R : Failure → World E → Prop} :
    Triple
      (fun w => (∃ y, view w.outside = ((idle d).savepoint batchName).withWork y) ∨
        view w.outside = idle d)
      (undo number) (fun _ w => view w.outside = idle d) R := by
  intro w hw
  rcases hw with ⟨y, hy⟩ | hidle
  · -- The savepoint is still there: going back to it and releasing it leaves the contents as they
    -- were when it was set.
    have hback : Triple (fun w => view w.outside = ((idle d).savepoint batchName).withWork y)
        (control number ("ROLLBACK TO " ++ savepoint))
        (fun _ w => view w.outside = (idle d).savepoint batchName) R :=
      (control_spec (E := E) (rollbackTo batchName) hE.rollbackTo
        (· = (idle d).savepoint batchName)).pre fun w hw =>
          ⟨_, by rw [hw, rollbackTo_withWork_savepoint], rfl⟩
    have hrelease : Triple (fun w => view w.outside = (idle d).savepoint batchName)
        (control number ("RELEASE " ++ savepoint)) (fun _ w => view w.outside = idle d) R :=
      (control_spec (E := E) (release batchName) hE.release (· = idle d)).pre fun w hw =>
          ⟨_, by rw [hw]; exact release_withWork_savepoint_idle batchName d d, rfl⟩
    refine ((inTransaction_spec hE _).bind fun r => Triple.and_pre ?_) w hy
    rintro rfl
    rw [Effect.ok_bind, isOpen_withWork, isOpen_savepoint, if_pos rfl]
    exact hback.bind fun _ => hrelease
  · refine ((inTransaction_spec hE _).bind fun r => Triple.and_pre ?_) w hidle
    rintro rfl
    rw [Effect.ok_bind, isOpen_idle, if_neg Bool.false_ne_true]
    exact Triple.pure fun _ hw => hw

/-- The savepoint of a batch opens a transaction, unless it fails. -/
theorem savepoint_spec (hE : E.Serves number view controls effect) (d : D) :
    Triple (fun w => view w.outside = idle d) (control number savepoint)
      (fun _ w => view w.outside = (idle d).savepoint batchName)
      (fun _ w => view w.outside = idle d) := by
  have htell : Triple (fun w => view w.outside = idle d)
      (tell number (.execute savepoint none))
      (fun r w => Effect.Ends (fun _ w => view w.outside = (idle d).savepoint batchName)
        (fun _ w => view w.outside = idle d) (r, w)) (fun _ w => view w.outside = idle d) := by
    refine Triple.ask fun w hw => ?_
    show Effect.Ends _ _ ((E.command number (.execute savepoint none) w.outside).1, _)
    rw [← hw]
    rcases hE.savepoint w.outside with ⟨c, hc, hview⟩ | ⟨e, he, hview⟩
    · rw [show (E.command number (.execute savepoint none) w.outside).1 = .ok c from hc]
      exact hview
    · rw [show (E.command number (.execute savepoint none) w.outside).1 = .error e from he]
      exact hview
  refine htell.bind fun r => ?_
  rcases r with e | c
  · rw [Effect.error_bind]
    exact Triple.fail fun _ hw => hw
  · rw [Effect.ok_bind]
    exact Triple.pure fun _ hw => hw

/-- **A batch is atomic.** It ends outside of a transaction, with the changes of all its statements
in order when it succeeded and with none of them when it failed. -/
theorem executeMany_spec (hE : E.Serves number view controls effect) (bs : List Bound)
    (hbs : ∀ b ∈ bs, controls b.query = false) (d : D) :
    Triple (fun w => view w.outside = idle d) (executeMany number bs)
      (fun _ w => view w.outside = idle (Bound.applyAll effect bs d))
      (fun _ w => view w.outside = idle d) := by
  have heach : Triple (fun w => view w.outside = (idle d).savepoint batchName)
      (executeEach number bs)
      (fun _ w => view w.outside =
        ((idle d).savepoint batchName).withWork (Bound.applyAll effect bs d))
      (fun _ w => (∃ y, view w.outside = ((idle d).savepoint batchName).withWork y) ∨
        view w.outside = idle d) :=
    executeEach_spec hE (isOpen_savepoint batchName (idle d)) bs hbs d
  refine (savepoint_spec hE d).bind fun _ => (heach.attempt.bind fun outcome => ?_)
  rcases outcome with e | os
  · exact (undo_spec hE d).bind fun _ => Triple.fail fun _ hw => hw
  · have hrelease : Triple
        (fun w => view w.outside =
          ((idle d).savepoint batchName).withWork (Bound.applyAll effect bs d))
        (control number ("RELEASE " ++ savepoint))
        (fun _ w => view w.outside = idle (Bound.applyAll effect bs d))
        (fun _ w => view w.outside = idle d) :=
      (control_spec (E := E) (release batchName) hE.release
        (· = idle (Bound.applyAll effect bs d))).pre fun w hw =>
          ⟨_, by rw [hw]; exact release_withWork_savepoint_idle batchName _ d, rfl⟩
    refine hrelease.bind fun _ => (inTransaction_spec hE _).bind fun r => Triple.and_pre ?_
    rintro rfl
    -- The release has committed: there is no transaction left to commit.
    rw [Effect.ok_bind, isOpen_idle, if_neg Bool.false_ne_true]
    exact Triple.pure fun _ hw => hw

/-! ### Calls -/

/-- **A call is atomic.** -/
theorem answer_spec (hE : E.Serves number view controls effect) (call : Call)
    (hcall : ∀ b ∈ call.statements, controls b.query = false) (d : D) :
    Triple (fun w => view w.outside = idle d) (answer number call)
      (fun _ w => view w.outside = idle (Bound.applyAll effect call.statements d))
      (fun _ w => view w.outside = idle d) := by
  cases call with
  | all b =>
    exact (executeOne_spec hE (hcall b List.mem_cons_self) d).bind fun o => Triple.pure fun _ hw => hw
  | run b =>
    exact (executeOne_spec hE (hcall b List.mem_cons_self) d).bind fun o => Triple.pure fun _ hw => hw
  | batch bs =>
    exact (executeMany_spec hE bs hcall d).bind fun os => Triple.pure fun _ hw => hw

/-- A call that has been answered, with its result and the world after it. -/
structure Answered (E : Environment) where
  /-- The call. -/
  call : Call
  /-- What it gave. -/
  result : Except Failure Value
  /-- The world after it. -/
  world : World E

/-- The calls answered one after the other, whatever comes of each. -/
def history (number : Nat) : List Call → World E → List (Answered E)
  | [], _ => []
  | call :: calls, w =>
    ⟨call, (answer number call w).1, (answer number call w).2⟩ ::
      history number calls (answer number call w).2

/-- The statements of the calls that succeeded, in order. -/
def Answered.kept (as : List (Answered E)) : List Bound :=
  (as.filter (·.result.isOk)).flatMap (·.call.statements)

theorem Answered.kept_cons (a : Answered E) (as : List (Answered E)) :
    kept (a :: as) = kept [a] ++ kept as := by
  by_cases h : a.result.isOk
  · simp [kept, h]
  · simp [kept, h]

theorem applyAll_append (bs cs : List Bound) (d : D) :
    Bound.applyAll effect (bs ++ cs) d = Bound.applyAll effect cs (Bound.applyAll effect bs d) :=
  List.foldl_append

/-- One call keeps its statements if it succeeds. -/
theorem answer_idle (hE : E.Serves number view controls effect) {call : Call}
    (hcall : ∀ b ∈ call.statements, controls b.query = false) {d : D} {w : World E}
    (hw : view w.outside = idle d) :
    view (answer number call w).2.outside =
      idle (Bound.applyAll effect
        (Answered.kept [⟨call, (answer number call w).1, (answer number call w).2⟩]) d) := by
  have hend := answer_spec hE call hcall d w hw
  rcases h : answer number call w with ⟨e | v, w'⟩ <;> rw [h] at hend
  · exact hend
  · simpa [Effect.Ends, Answered.kept, Except.isOk, Except.toBool] using hend

/-- **Calls one after the other are atomic.** Started outside of a transaction, every call is
answered, and after each of them the database is outside of a transaction with the committed contents
that result from exactly the statements of the calls that have succeeded so far, in order. -/
theorem history_atomic (hE : E.Serves number view controls effect) {calls : List Call}
    (hcalls : ∀ call ∈ calls, ∀ b ∈ call.statements, controls b.query = false) {d : D}
    {w : World E} (hw : view w.outside = idle d) :
    (history number calls w).map (·.call) = calls ∧
      ∀ past a future, history number calls w = past ++ a :: future →
        view a.world.outside = idle (Bound.applyAll effect (Answered.kept (past ++ [a])) d) := by
  induction calls generalizing d w with
  | nil => exact ⟨rfl, fun past a future h => by simp [history] at h⟩
  | cons call calls ih =>
    have hstep := answer_idle hE (hcalls call List.mem_cons_self) hw
    have hrest := ih (fun c hc => hcalls c (List.mem_cons_of_mem _ hc)) hstep
    refine ⟨congrArg (call :: ·) hrest.1, fun past a future h => ?_⟩
    rcases past with _ | ⟨p, past⟩
    · obtain ⟨rfl, -⟩ := List.cons.inj h
      exact hstep
    · obtain ⟨rfl, htail⟩ := List.cons.inj h
      rw [hrest.2 past a future htail, List.cons_append, Answered.kept_cons _ (past ++ [a]),
        applyAll_append]

/-- A statement without parameters. -/
def plain (query : String) : Bound := ⟨query, []⟩

/-- Calls of all kinds, for a table that keeps the texts executed on it. -/
def mixedCalls : List Call :=
  [.run (plain "insert a"), .batch [plain "insert b", plain "insert c"],
    .batch [plain "insert d", plain "insert e"], .all (plain "insert f"),
    .run (plain "insert g"), .batch [plain "insert h", plain "insert i"]]

/-- What the texts do to the table. -/
def appending (sql : String) (_ : Option (List Value)) (table : List String) : List String :=
  table ++ [sql]

/-- The second batch fails with the transaction abandoned, the first one without; the rows of one
statement cannot be read, and the changes of another are no number. -/
def mixedWorld : World (Planned.environment appending) where
  drawn := fun _ => 0
  minted := 0
  recorders := fun _ => {}
  threshold := none
  outside :=
    { database := idle []
      fates := [.answered {}, .answered {}, .refused .tooLarge, .answered {},
        .abandoned .tooLarge, .answered { columns := some [.text "x"], rows := .error .tooLarge },
        .answered { rowCount := .text "many" }] }

theorem history_atomic_mixed :
    (history 0 mixedCalls mixedWorld).map (·.result.isOk) =
        [true, false, false, false, false, true] ∧
      ∃ past a, history 0 mixedCalls mixedWorld = past ++ [a] ∧
        a.world.outside.database = idle ["insert a", "insert h", "insert i"] := by
  have hcalls : ∀ call ∈ mixedCalls, ∀ b ∈ call.statements, Planned.controls b.query = false := by
    decide
  obtain ⟨-, hafter⟩ := history_atomic (Planned.serves appending 0) hcalls (d := [])
    (w := mixedWorld) rfl
  have hne : history 0 mixedCalls mixedWorld ≠ [] := List.cons_ne_nil _ _
  have hlast := List.dropLast_concat_getLast hne
  refine ⟨by decide +kernel, _, _, hlast.symm, ?_⟩
  rw [hafter _ _ [] hlast.symm, hlast]
  exact congrArg idle (by decide +kernel)

end Connection

end SqlWeave
