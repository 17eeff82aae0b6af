import SqlWeave.Proofs.Effect.Reading
import SqlWeave.Proofs.Execution.Rollback
import SqlWeave.Proofs.Execution.Scripted

/-!
# The two adapters agree

A batch on a connection and the same batch on an engine, with drivers that answer the statements
alike and clocks with the same readings (`Scripted`).

* **`batch_agrees`**: both adapters begin one transaction, send the queries up to the first
  statement that fails, and end the transaction as a success if and only if there is none. They
  send the parameters of the statements that have some, and fail with the same failure. If no
  statement fails, their results are the same if and only if no statement that gave rows changed
  any.

Both perform liness (`Connection.performs`, `Engine.performs`). They differ in the changes that
they count: an engine counts none for a statement that gives rows (`Engine.counted`).
-/

namespace SqlWeave

/-- The parameters of a statement under the names p1, p2 and so on, as they are given to the driver:
none when it has none. -/
def Bound.namedParameters (b : Bound) : Option (List (String × Value)) :=
  if b.values.isEmpty then none
  else some (b.values.mapIdx fun i v => ("p" ++ toString (i + 1), v))

/-- They are named as an engine wants them. -/
theorem Bound.namedParameters_eq (b : Bound) :
    b.namedParameters = if b.values.isEmpty then none else some (Style.nameParameters b.values) := by
  rw [namedParameters, Style.nameParameters, List.mapIdx_eq_zipIdx_map]
  rfl

namespace Scripted

variable {w : World environment} {s : Scripted}

/-- The rows of a reply are read before anything is made of them. -/
theorem read_rows {r : Fetched} {names : List String} (hc : r.columns = some names)
    (k : List Value → Act environment (QueryOutcome Value)) :
    (do
      let rows ← Effect.ofExcept r.cursor.rows
      let rows ← Effect.ofExcept (Cursor.mappings (names.map .text) rows)
      k rows) = Effect.ofExcept r.mappings >>= k := by
  have hrows : r.cursor.rows = r.rows := rfl
  rw [hrows, Fetched.mappings, hc]
  rcases r.rows with e | rows
  · rfl
  · rw [Effect.ok_bind, Cursor.mappings_text]
    rfl

end Scripted

/-! ### A connection -/

namespace Connection

open Scripted

/-- The command that executes a statement. -/
def command (number : Nat) (b : Bound) : Request :=
  .connection number (.execute b.query b.parameters)

/-- The changes that are counted. -/
def counted (r : Fetched) : Int := max r.rowCount 0

variable {number : Nat} {w : World environment} {s : Scripted}

theorem conclude_cursor (start : Binary64) (r : Fetched) :
    conclude start r.cursor = Scripted.conclude counted start r := by
  funext rows
  rw [conclude, Scripted.conclude]
  simp only [Cursor.changes_cursor, Effect.ok_bind, Cursor.outcome_cursor]
  rfl

/-- What is made of a reply. -/
theorem report_cursor (start : Binary64) (r : Fetched) :
    report start (.ok r.cursor) =
      Effect.ofExcept r.mappings >>= Scripted.conclude counted start r := by
  rw [← conclude_cursor]
  rcases hc : r.columns with _ | names
  · have hnone : r.cursor.columns = none := by simp [Fetched.cursor, hc]
    have hrows : r.mappings = .ok [] := by rw [Fetched.mappings, hc]
    rw [report_of_no_columns hnone, hrows, Effect.ok_bind]
  · have hsome : r.cursor.columns = some (names.map .text) := by simp [Fetched.cursor, hc]
    rw [report_of_columns hsome, read_rows hc]

/-- **The adapter for a connection performs liness.** -/
theorem performs (number : Nat) : Performs (execute number) (command number) counted :=
  .of_report (fun _ _ _ => rfl) (fun _ _ => rfl) report_cursor

theorem executeEach_eq_mapM {E : Environment} (number : Nat) (bs : List Bound) :
    (executeEach number bs : Act E (List (QueryOutcome Value))) = bs.mapM (execute number) := by
  induction bs with
  | nil => rfl
  | cons b bs ih => rw [executeEach, List.mapM_cons, ih]

/-- The commands that end a batch: a success releases the savepoint and commits, and a failure
undoes what came since. -/
def closing (number : Nat) : Bool → List Request
  | true =>
    [.connection number (.execute ("RELEASE " ++ savepoint) none),
      .connection number .inTransaction, .connection number .commit]
  | false =>
    [.connection number .inTransaction,
      .connection number (.execute ("ROLLBACK TO " ++ savepoint) none),
      .connection number (.execute ("RELEASE " ++ savepoint) none)]

/-- The command that begins a batch. -/
def opening (number : Nat) : Request := .connection number (.execute savepoint none)

theorem control_of_done (number : Nat) (w : World environment) (hbegun : s.begun = true)
    (hanswers : s.answers = []) (sql : String) :
    control number sql (w.at s) =
      (.ok (), w.at (s.keep [.connection number (.execute sql none)])) := by
  have hexecute := execute_of_done (s := s.keep [.connection number (.execute sql none)])
    hbegun hanswers
  have htell : tell number (.execute sql none) (w.at s) =
      (.ok (s.keep [.connection number (.execute sql none)]).execute.1,
        w.at (s.keep [.connection number (.execute sql none)]).execute.2) := rfl
  rw [hexecute] at htell
  rw [control, Effect.bind_of_ok htell]
  rfl

theorem undo_of_done (hbegun : s.begun = true) (hanswers : s.answers = []) :
    undo number (w.at s) = (.ok (), w.at (s.keep (closing number false))) := by
  have hask : tell number .inTransaction (w.at s) =
      (.ok (.ok true), w.at (s.keep [.connection number .inTransaction])) := rfl
  have hback := control_of_done number w (s := s.keep [.connection number .inTransaction])
    hbegun hanswers ("ROLLBACK TO " ++ savepoint)
  rw [undo, Effect.bind_of_ok hask, Effect.ok_bind, if_pos rfl, Effect.bind_of_ok hback]
  have hend : s.keep (closing number false) = ((s.keep [.connection number .inTransaction]).keep
      [.connection number (.execute ("ROLLBACK TO " ++ savepoint) none)]).keep
      [.connection number (.execute ("RELEASE " ++ savepoint) none)] := by
    simp [closing]
  rw [hend]
  refine control_of_done number w ?_ ?_ _
  · exact hbegun
  · exact hanswers

theorem endBatch_of_done (hbegun : s.begun = true) (hanswers : s.answers = []) :
    endBatch number (w.at s) = (.ok (), w.at (s.keep (closing number true))) := by
  have hrelease := control_of_done number w hbegun hanswers ("RELEASE " ++ savepoint)
  have hend : s.keep (closing number true) =
      ((s.keep [.connection number (.execute ("RELEASE " ++ savepoint) none)]).keep
        [.connection number .inTransaction]).keep [.connection number .commit] := by
    simp [closing]
  rw [endBatch, Effect.bind_of_ok hrelease, hend]
  rfl

/-- After its statements, a batch undoes a failure and ends a success. -/
theorem finish_of_done (hbegun : s.begun = true) (hanswers : s.answers = [])
    (r : Except Failure (List (QueryOutcome Value))) :
    (match r with
      | .error e => do
        undo number
        Effect.fail e
      | .ok outcomes => do
        endBatch number
        pure outcomes : Act environment (List (QueryOutcome Value))) (w.at s) =
      (r, w.at (s.keep (closing number r.isOk))) := by
  cases r with
  | error e => exact Effect.bind_of_ok (undo_of_done hbegun hanswers)
  | ok outcomes => exact Effect.bind_of_ok (endBatch_of_done hbegun hanswers)

/-- **A batch on a connection.** It gives the outcomes of its statements or their first failure,
between a savepoint and the commands that end it. -/
theorem executeMany_start (number : Nat) (w : World environment) (clock : Nat → Binary64)
    (lines : Lines) :
    ∃ s, executeMany number (lines.map (·.1)) (w.at (start clock lines)) =
        (outcomes counted clock 0 (lines.map (·.2)), w.at s) ∧
      s.told = [opening number] ++ sent (command number) lines ++
        closing number (failure? lines).isNone := by
  let begun : Scripted := { (start clock lines).keep [opening number] with begun := true }
  have hopen : control number savepoint (w.at (start clock lines)) =
      (.ok (), w.at begun) := rfl
  obtain ⟨n, heach⟩ := (performs number).mapM lines w (s := begun) rfl rfl
  rw [← executeEach_eq_mapM] at heach
  have hmany : executeMany number (lines.map (·.1)) (w.at (start clock lines)) =
      (outcomes counted clock 0 (lines.map (·.2)),
        w.at ((begun.ended n (sent (command number) lines)).keep
          (closing number (outcomes counted clock 0 (lines.map (·.2))).isOk))) := by
    rw [executeMany_eq, Effect.bind_of_ok hopen, Effect.bind_of_ok (Effect.attempt_of_eq heach)]
    exact finish_of_done rfl rfl _
  refine ⟨_, hmany, ?_⟩
  rw [failure?_eq, ← isOk_outcomes counted clock 0]
  rfl

end Connection

/-! ### An engine -/

namespace Engine

open Scripted

/-- The command that executes a statement. -/
def command (number : Nat) (b : Bound) : Request :=
  .engine number (.execute b.query b.namedParameters)

/-- The changes that are counted: none for a statement that gives rows. -/
def counted (r : Fetched) : Int := if r.columns.isSome then 0 else max r.rowCount 0

/-- What the adapter makes of the driver's answer to a statement. -/
def report {E : Environment} (start : Binary64) (r : Except Failure Cursor) :
    Act E (QueryOutcome Value) := do
  let cursor ← Effect.ofExcept r
  match cursor.columns with
  | some columns =>
    let rows ← Effect.ofExcept cursor.rows
    let rows ← Effect.ofExcept (Cursor.mappings columns rows)
    let now ← Act.ask .clock
    Effect.ofExcept (Cursor.outcome rows (now.millisecondsSince start) (.int 0) .null)
  | none =>
    let changes ← Effect.ofExcept cursor.changes
    let now ← Act.ask .clock
    Effect.ofExcept (Cursor.outcome [] (now.millisecondsSince start) changes cursor.lastRowId)

/-- What is made of a reply. -/
theorem report_cursor (start : Binary64) (r : Fetched) :
    report start (.ok r.cursor) =
      Effect.ofExcept r.mappings >>= Scripted.conclude counted start r := by
  rcases hc : r.columns with _ | names
  · have hnone : r.cursor.columns = none := by simp [Fetched.cursor, hc]
    have hrows : r.mappings = .ok [] := by rw [Fetched.mappings, hc]
    have hcounted : counted r = max r.rowCount 0 := by simp [counted, hc]
    rw [report, Effect.ok_bind, hnone, hrows, Effect.ok_bind, Scripted.conclude, hcounted]
    simp only [Cursor.changes_cursor, Effect.ok_bind, Cursor.outcome_cursor]
    rfl
  · have hsome : r.cursor.columns = some (names.map .text) := by simp [Fetched.cursor, hc]
    have hcounted : counted r = 0 := by simp [counted, hc]
    have houtcome : ∀ rows duration, Cursor.outcome rows duration (.int 0) .null =
        .ok (r.outcome (counted r) rows duration) := by
      -- Without changes the row id does not matter.
      intro rows duration
      rw [hcounted]
      exact Cursor.outcome_cursor r 0 rows duration
    rw [report, Effect.ok_bind, hsome]
    simp only [houtcome]
    exact read_rows hc (Scripted.conclude counted start r)

/-- **The adapter for an engine performs liness.** -/
theorem performs (number : Nat) : Performs (execute number) (command number) counted := by
  refine .of_report (fun b w s => ?_) (fun _ _ => rfl) report_cursor
  rw [← b.namedParameters_eq]
  rfl

theorem executeEach_eq_mapM {E : Environment} (number : Nat) (bs : List Bound) :
    (executeEach number bs : Act E (List (QueryOutcome Value))) = bs.mapM (execute number) := by
  induction bs with
  | nil => rfl
  | cons b bs ih => rw [executeEach, List.mapM_cons, ih]

/-- **A batch on an engine.** It gives the outcomes of its statements or their first failure,
within a transaction. -/
theorem transaction_start (number : Nat) (w : World environment) (clock : Nat → Binary64)
    (lines : Lines) :
    ∃ s, transaction number (executeEach number (lines.map (·.1))) (w.at (start clock lines)) =
        (outcomes counted clock 0 (lines.map (·.2)), w.at s) ∧
      s.told = [.engine number .begin] ++ sent (command number) lines ++
        [.engine number (.leave (failure? lines).isNone)] := by
  let begun : Scripted := { (start clock lines).keep [.engine number .begin] with begun := true }
  have hbegin : tell number .begin (w.at (start clock lines)) =
      (.ok (.ok ()), w.at begun) := rfl
  obtain ⟨n, heach⟩ := (performs number).mapM lines w (s := begun) rfl rfl
  rw [← executeEach_eq_mapM] at heach
  have hrun : transaction number (executeEach number (lines.map (·.1))) (w.at (start clock lines)) =
      (outcomes counted clock 0 (lines.map (·.2)),
        w.at ((begun.ended n (sent (command number) lines)).keep
          [.engine number (.leave (outcomes counted clock 0 (lines.map (·.2))).isOk)])) := by
    rw [transaction, Effect.bind_of_ok hbegin, Effect.ok_bind,
      Effect.bind_of_ok (Effect.attempt_of_eq heach)]
    exact Effect.ofExcept_apply _ _
  refine ⟨_, hrun, ?_⟩
  rw [failure?_eq, ← isOk_outcomes counted clock 0]
  rfl

end Engine

/-! ### Both of them -/

namespace Scripted

/-- The results of a batch as an adapter gives them. -/
def results (os : List (QueryOutcome Value)) : Value := .ofList (os.map (.query none))

theorem results_inj {os os' : List (QueryOutcome Value)} : results os = results os' ↔ os = os' := by
  constructor
  · intro h
    obtain ⟨-, hitems⟩ := Value.list.inj h
    exact List.map_injective_iff.mpr (fun o o' ho => (Value.query.inj ho).2) hitems
  · rintro rfl
    rfl

theorem answer_connection (number : Nat) (bs : List Bound) (w : World environment) :
    Connection.answer number (.batch bs) w =
      ((Connection.executeMany number bs w).1.map results,
        (Connection.executeMany number bs w).2) := by
  rw [Connection.answer, Effect.bind_apply]
  rcases Connection.executeMany number bs w with ⟨e | os, w'⟩
  · rfl
  · rfl

theorem answer_engine (number : Nat) (bs : List Bound) (w : World environment) :
    Engine.answer number (.batch bs) w =
      ((Engine.transaction number (Engine.executeEach number bs) w).1.map results,
        (Engine.transaction number (Engine.executeEach number bs) w).2) := by
  rw [Engine.answer, Effect.bind_apply]
  rcases Engine.transaction number (Engine.executeEach number bs) w with ⟨e | os, w'⟩
  · rfl
  · rfl

/-- The two ways of counting changes agree on a reply, unless it gives rows and counts some. -/
theorem counted_eq_iff (r : Fetched) :
    Connection.counted r = Engine.counted r ↔ ¬ (r.columns.isSome ∧ 0 < r.rowCount) := by
  rw [Connection.counted, Engine.counted]
  by_cases hrows : r.columns.isSome = true
  · simp only [hrows, if_true, true_and]
    omega
  · simp [hrows]

-- A statement that inserts a row and gives its id back.
example : Connection.counted { columns := some ["id"], rowCount := 1 } = 1 ∧
    Engine.counted { columns := some ["id"], rowCount := 1 } = 0 := by
  decide

end Scripted

open Scripted in
/-- **The two adapters agree on batches.** Each sends the queries up to the first failing one
within a transaction, which it ends as a success if and only if nothing failed. Both fail with the
first failure. If there is none, each gives the outcomes of the replies, and these are the same if
and only if no reply with rows tells of changed ones. -/
theorem batch_agrees (c n : Nat) (w : World environment) (clock : Nat → Binary64)
    (lines : Lines) :
    ∃ a s b t,
      Connection.answer c (.batch (lines.map (·.1))) (w.at (start clock lines)) =
        (a, w.at s) ∧
      Engine.answer n (.batch (lines.map (·.1))) (w.at (start clock lines)) =
        (b, w.at t) ∧
      s.told = [Connection.opening c] ++ sent (Connection.command c) lines ++
        Connection.closing c (failure? lines).isNone ∧
      t.told = [.engine n .begin] ++ sent (Engine.command n) lines ++
        [.engine n (.leave (failure? lines).isNone)] ∧
      (∀ e, failure? lines = some e → a = .error e ∧ b = .error e) ∧
      (failure? lines = none → ∃ os os',
        outcomes Connection.counted clock 0 (lines.map (·.2)) = .ok os ∧
        outcomes Engine.counted clock 0 (lines.map (·.2)) = .ok os' ∧
        a = .ok (results os) ∧ b = .ok (results os') ∧
        (a = b ↔ ∀ r, .ok r ∈ lines.map (·.2) → ¬ (r.columns.isSome ∧ 0 < r.rowCount))) := by
  obtain ⟨s, hc, hctold⟩ := Connection.executeMany_start c w clock lines
  obtain ⟨t, hn, hntold⟩ := Engine.transaction_start n w clock lines
  have ha := answer_connection c (lines.map (·.1)) (w.at (start clock lines))
  have hb := answer_engine n (lines.map (·.1)) (w.at (start clock lines))
  rw [hc] at ha
  rw [hn] at hb
  refine ⟨_, s, _, t, ha, hb, hctold, hntold, fun e he => ?_, fun hnone => ?_⟩
  · rw [failure?_eq] at he
    rw [outcomes_eq_error_iff.mpr he, outcomes_eq_error_iff.mpr he]
    exact ⟨rfl, rfl⟩
  · rw [failure?_eq] at hnone
    have heq := outcomes_eq_iff Connection.counted Engine.counted clock hnone 0
    obtain ⟨os, hos⟩ := exists_outcomes Connection.counted clock hnone 0
    obtain ⟨os', hos'⟩ := exists_outcomes Engine.counted clock hnone 0
    rw [hos, hos', Except.ok.injEq] at heq
    refine ⟨os, os', hos, hos', by rw [hos]; rfl, by rw [hos']; rfl, ?_⟩
    simp only [hos, hos', Except.map, Except.ok.injEq, results_inj, heq, counted_eq_iff]

end SqlWeave
