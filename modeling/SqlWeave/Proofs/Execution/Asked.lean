import SqlWeave.Proofs.Execution.Steps

/-!
# What is asked

Which questions the parts of a dispatch can ask. What executes statements on a connection gives
commands to that connection and reads the clock, and does nothing else to the environment; the same
goes for an engine. Before its row mappers a dispatch maps no row and numbers nothing
(`Executor.asks_startAs`, `Executor.asks_conclude`).
-/

namespace SqlWeave

variable {E : Environment}

/-! ### Statements -/

/-- Whether a question is one that executing statements on a connection asks. -/
def Connection.Concerns (number : Nat) : Request → Prop
  | .clock => True
  | .connection n _ => n = number
  | _ => False

/-- Whether a question is one that executing statements on an engine asks. -/
def Engine.Concerns (number : Nat) : Request → Prop
  | .clock => True
  | .engine n _ => n = number
  | _ => False

theorem Connection.asks_execute (n : Nat) (b : Bound) :
    Act.Asks (E := E) (Connection.Concerns n) (Connection.execute n b) := by
  refine .bind (.ask trivial) fun start => .bind (.ask rfl) fun r => .bind (.ofExcept r) fun c => ?_
  have hrest : ∀ rows : List Value, Act.Asks (Connection.Concerns n) (do
      let now ← Act.ask .clock
      let changes ← Effect.ofExcept c.changes
      Effect.ofExcept (Cursor.outcome rows (now.millisecondsSince start) changes c.lastRowId) :
        Act E.recorded (QueryOutcome Value)) := fun rows =>
    .bind (.ask trivial) fun _ => .bind (.ofExcept _) fun _ => .ofExcept _
  cases c.columns with
  | none => exact hrest []
  | some columns => exact .bind (.ofExcept _) fun _ => .bind (.ofExcept _) hrest

theorem Connection.asks_executeOne (n : Nat) (b : Bound) :
    Act.Asks (E := E) (Connection.Concerns n) (Connection.executeOne n b) :=
  .bind (.ask rfl) fun r => .bind (.ofExcept r) fun _ =>
    .bind (.attempt (asks_execute n b)) fun _ => .bind (.ask rfl) fun r =>
      .bind (.ofExcept r) fun _ => .ofExcept _

theorem Connection.asks_executeEach (n : Nat) (bs : List Bound) :
    Act.Asks (E := E) (Connection.Concerns n) (Connection.executeEach n bs) := by
  induction bs with
  | nil => exact .pure _
  | cons b bs ih => exact .bind (asks_execute n b) fun _ => .bind ih fun _ => .pure _

theorem Connection.asks_control (n : Nat) (sql : String) :
    Act.Asks (E := E) (Connection.Concerns n) (Connection.control n sql) :=
  .bind (.ask rfl) fun r => .bind (.ofExcept r) fun _ => .pure _

theorem Connection.asks_undo (n : Nat) :
    Act.Asks (E := E) (Connection.Concerns n) (Connection.undo n) := by
  refine .bind (.ask rfl) fun r => .bind (.ofExcept r) fun isOpen => ?_
  cases isOpen with
  | false => exact .pure _
  | true => exact .bind (asks_control n _) fun _ => asks_control n _

theorem Connection.asks_executeMany (n : Nat) (bs : List Bound) :
    Act.Asks (E := E) (Connection.Concerns n) (Connection.executeMany n bs) := by
  refine .bind (asks_control n _) fun _ => .bind (.attempt (asks_executeEach n bs)) fun r => ?_
  cases r with
  | error e => exact .bind (asks_undo n) fun _ => .fail e
  | ok outcomes =>
    refine .bind (asks_control n _) fun _ => .bind (.ask rfl) fun r => .bind (.ofExcept r) fun b => ?_
    cases b with
    | false => exact .pure _
    | true => exact .bind (.ask rfl) fun r => .bind (.ofExcept r) fun _ => .pure _

/-- A connection executes a call by commands to it and readings of the clock. -/
theorem Connection.asks_answer (n : Nat) (call : Call) :
    Act.Asks (E := E) (Connection.Concerns n) (Connection.answer n call) := by
  cases call with
  | all b => exact .bind (asks_executeOne n b) fun _ => .pure _
  | run b => exact .bind (asks_executeOne n b) fun _ => .pure _
  | batch bs => exact .bind (asks_executeMany n bs) fun _ => .pure _

theorem Engine.asks_execute (n : Nat) (b : Bound) :
    Act.Asks (E := E) (Engine.Concerns n) (Engine.execute n b) := by
  refine .bind (.ask trivial) fun start => .bind (.ask rfl) fun r => .bind (.ofExcept r) fun c => ?_
  cases c.columns with
  | none =>
    exact .bind (.ofExcept _) fun _ => .bind (.ask trivial) fun _ => .ofExcept _
  | some columns =>
    exact .bind (.ofExcept _) fun _ => .bind (.ofExcept _) fun _ => .bind (.ask trivial) fun _ =>
      .ofExcept _

theorem Engine.asks_executeEach (n : Nat) (bs : List Bound) :
    Act.Asks (E := E) (Engine.Concerns n) (Engine.executeEach n bs) := by
  induction bs with
  | nil => exact .pure _
  | cons b bs ih => exact .bind (asks_execute n b) fun _ => .bind ih fun _ => .pure _

theorem Engine.asks_transaction {α : Type} (n : Nat) {body : Act E.recorded α}
    (h : Act.Asks (Engine.Concerns n) body) :
    Act.Asks (E := E) (Engine.Concerns n) (Engine.transaction n body) :=
  .bind (.ask rfl) fun r => .bind (.ofExcept r) fun _ => .bind (.attempt h) fun _ =>
    .bind (.ask rfl) fun r => .bind (.ofExcept r) fun _ => .ofExcept _

/-- An engine executes a call by commands to it and readings of the clock. -/
theorem Engine.asks_answer (n : Nat) (call : Call) :
    Act.Asks (E := E) (Engine.Concerns n) (Engine.answer n call) := by
  cases call with
  | all b => exact .bind (asks_transaction n (asks_execute n b)) fun _ => .pure _
  | run b => exact .bind (asks_transaction n (asks_execute n b)) fun _ => .pure _
  | batch bs => exact .bind (asks_transaction n (asks_executeEach n bs)) fun _ => .pure _

/-! ### Dispatches -/

namespace Executor

/-- Whether a question is not a call of a row mapper. -/
def Unmapped (q : Request) : Prop := ∀ mapper row, q ≠ .mapRow mapper row

theorem unmapped_of_connection {n : Nat} : ∀ q, Connection.Concerns n q → Unmapped q := by
  rintro q h mapper row rfl
  exact h

theorem unmapped_of_engine {n : Nat} : ∀ q, Engine.Concerns n q → Unmapped q := by
  rintro q h mapper row rfl
  exact h

theorem unmapped_log (r : LogRecord) : Unmapped (.log r) := by
  rintro mapper row ⟨⟩

theorem unmapped_clock : Unmapped .clock := by
  rintro mapper row ⟨⟩

theorem asks_call_before (id : Nat) (queries : List String) (hook : BeforeHook) :
    Act.Asks (E := E) Unmapped (hook.call id queries) := by
  cases hook with
  | callback n => exact .bind (.ask (by rintro mapper row ⟨⟩)) fun r => .ofExcept r
  | inert typeName => exact .fail _

theorem asks_call_after (id : Nat) (queries : List String) (results : List Value)
    (duration : Binary64) (hook : AfterHook) :
    Act.Asks (E := E) Unmapped (hook.call id queries results duration) := by
  cases hook with
  | callback n => exact .bind (.ask (by rintro mapper row ⟨⟩)) fun r => .ofExcept r
  | inert typeName => exact .fail _
  | queryLog logger level =>
    exact .bind (.of_unchanged fun _ => rfl) fun w => .bind (.publish unmapped_log _) fun _ => .pure _

theorem asks_submit (b : Backend) (call : Call) : Act.Asks (E := E) Unmapped (b.submit call) := by
  cases b with
  | store n => exact .ask (by rintro mapper row ⟨⟩)
  | recorder n => exact .pure 0
  | connection n => exact .pure 0
  | engine n => exact .pure 0

theorem asks_collect (b : Backend) (call : Call) : Act.Asks (E := E) Unmapped (b.collect call) := by
  cases b with
  | store n => exact .bind (.ask (by rintro mapper row ⟨⟩)) fun r => .ofExcept r
  | recorder n =>
    refine fun w => ⟨[], .of_unasked rfl rfl rfl, fun _ h => absurd h List.not_mem_nil, rfl, fun m => ?_⟩
    show (if m = n then _ else w.recorders m).rows = (w.recorders m).rows
    split
    · next hm => rw [hm]
    · rfl
  | connection n => exact (Connection.asks_answer n call).mono unmapped_of_connection
  | engine n => exact (Engine.asks_answer n call).mono unmapped_of_engine

theorem asks_startAs (x : Executor) (job : Job) (id : Nat) :
    Act.Asks (E := E) Unmapped (x.startAs job id) := by
  refine .bind ?_ fun _ => .bind (.log unmapped_log _) fun _ => ?_
  · rw [callBefore]
    cases x.before with
    | none => exact .pure none
    | some hook => exact asks_call_before id _ hook
  · exact .bind (.ask unmapped_clock) fun _ => .bind (asks_submit _ _) fun _ => .pure _

theorem asks_runAfter (x : Executor) (id : Nat) (queries : List String) (results : List Value)
    (duration : Binary64) :
    Act.Asks (E := E) Unmapped (x.runAfter id queries results duration) := by
  cases hx : x.after with
  | none =>
    rw [runAfter, hx]
    exact .pure none
  | some hook =>
    rw [runAfter_of_hook hx]
    refine .bind (.attempt (asks_call_after id queries results duration hook)) fun r => ?_
    rcases r with e | a
    · refine .bind ?_ fun _ => .fail e
      rw [warn]
      cases e.ordinary with
      | false => exact .pure ()
      | true => exact .log unmapped_log _
    · exact .pure a

theorem asks_conclude (x : Executor) (t : Ticket) :
    Act.Asks (E := E) Unmapped (x.conclude t) := by
  rw [conclude_eq]
  refine .bind (asks_collect _ _) fun v => .bind (.ofExcept _) fun results => ?_
  rw [report]
  rcases t.stamp with _ | ⟨id, started⟩
  · exact .pure results
  · exact .bind (.ask unmapped_clock) fun now => .bind (.log unmapped_log _) fun _ =>
      .bind (asks_runAfter x id _ results _) fun a => .pure _

end Executor

end SqlWeave
