import SqlWeave.Execution.Adapter
import SqlWeave.Proofs.Outcome.Checked

/-!
# What comes of a cursor

Whether a statement has failed is told by the driver's answer: it is refused, or its
rows cannot be read (`Cursor.Failed`). When nothing is wrong with the answer, the
report that the adapter makes of it passes its own check (`Statistics.check_report`);
so a statement that gives no rows, only integers, always has an outcome
(`Cursor.Finished.outcome`).
-/

namespace SqlWeave

theorem Value.isVoid_int (n : Int) : (Value.int n).isVoid = (n == 0) := rfl

/-- The report of an adapter passes its own check. -/
theorem Statistics.check_report {duration : Binary64} {n : Int} {id : Value} {row : Option Int}
    {changed : Bool} (h : ReportField.optionalInteger id = .ok row) :
    check [(.text "duration", .primitive (.float duration)), (.text "changes", .int n),
      (.text "last_row_id", id), (.text "changed_db", .primitive (.bool changed))] =
      .ok { duration, changes := n, lastRowId := row, changedDb := changed } := by
  simp [check, ReportField.declared, Value.lookupText?_cons, ReportField.plain, h]
  rfl

namespace Cursor

/-- The statement failed: it was refused, or its rows cannot be read. -/
def Failed : Except Failure Cursor → Prop
  | .error _ => True
  | .ok c => c.columns.isSome ∧ ∃ e, c.rows = .error e

/-- The statement gave no rows, and integers for the count of its changes and for the row id. -/
def Finished : Except Failure Cursor → Prop
  | .error _ => False
  | .ok c => c.columns = none ∧ (∃ n : Int, c.rowCount = .int n) ∧
    ∃ row, ReportField.optionalInteger c.lastRowId = .ok row

/-- An integer is reported as the number of changes. -/
theorem outcome_int {rows : List Value} {duration : Binary64} {n : Int} {id : Value}
    {row : Option Int} (h : ReportField.optionalInteger id = .ok row) :
    outcome rows duration (.int n) id =
      .ok { statistics := { duration, changes := n, lastRowId := if n = 0 then none else row,
                            changedDb := (Extended.ofInt n).isPositive }, rows } := by
  have hid : ReportField.optionalInteger (if (Value.int n).isVoid then .null else id) =
      .ok (if n = 0 then none else row) := by
    rw [Value.isVoid_int]
    by_cases hn : n = 0
    · simp [hn, ReportField.optionalInteger, Value.null]
    · simp [hn, h]
  rw [outcome, Statistics.check_report hid]
  rfl

/-- A statement that gave no rows, only integers, has an outcome. -/
theorem Finished.outcome {c : Cursor} (h : Finished (.ok c)) :
    ∃ v, c.changes = .ok v ∧ ∀ duration, ∃ o, Cursor.outcome [] duration v c.lastRowId = .ok o := by
  obtain ⟨-, ⟨n, hn⟩, row, hrow⟩ := h
  by_cases hneg : (Extended.ofInt n).isNegative = true
  · refine ⟨.int 0, ?_, fun duration => ⟨_, outcome_int hrow⟩⟩
    rw [changes, hn]
    exact congrArg Except.ok (if_pos hneg)
  · refine ⟨.int n, ?_, fun duration => ⟨_, outcome_int hrow⟩⟩
    rw [changes, hn]
    exact congrArg Except.ok (if_neg hneg)

end Cursor

end SqlWeave
