import SqlWeave.Proofs.Effect.Relational
import SqlWeave.Proofs.Execution.Asked

/-!
# Statements executed alike

The same statements on the same connection, or on the same engine, in two environments. If the
commands to it are answered alike, and readings of the clock are, then so are the calls that it
executes (`Connection.relates_answer`, `Engine.relates_answer`), whatever else may differ.
-/

namespace SqlWeave

open Effect

variable {E E' : Environment} {W : World E → World E' → Prop}

namespace Connection

variable {n : Nat} (h : ∀ q, Concerns n q →
  Relates W Eq (Act.ask q : Act E q.Answer) (Act.ask q : Act E' q.Answer))

include h

theorem relates_tell (command : ConnectionCommand) :
    Relates W Eq (tell n command : Act E command.Answer) (tell n command : Act E' command.Answer) :=
  h _ rfl

theorem relates_execute (b : Bound) :
    Relates W Eq (execute n b : Act E (QueryOutcome Value))
      (execute n b : Act E' (QueryOutcome Value)) := by
  refine (h .clock trivial).bind_eq fun start => (relates_tell h _).bind_eq fun r =>
    (Relates.ofExcept (.of_eq r)).bind_eq fun cursor => ?_
  have hrest : ∀ rows : List Value, Relates W Eq
      (do
        let now ← Act.ask .clock
        let changes ← Effect.ofExcept cursor.changes
        Effect.ofExcept (Cursor.outcome rows (now.millisecondsSince start) changes cursor.lastRowId) :
          Act E (QueryOutcome Value))
      (do
        let now ← Act.ask .clock
        let changes ← Effect.ofExcept cursor.changes
        Effect.ofExcept (Cursor.outcome rows (now.millisecondsSince start) changes cursor.lastRowId) :
          Act E' (QueryOutcome Value)) := fun rows =>
    (h .clock trivial).bind_eq fun now => (Relates.ofExcept (.of_eq _)).bind_eq fun changes =>
      .ofExcept (.of_eq _)
  cases cursor.columns with
  | none => exact hrest []
  | some columns =>
    exact (Relates.ofExcept (.of_eq _)).bind_eq fun rows =>
      (Relates.ofExcept (.of_eq _)).bind_eq fun rows => hrest rows

theorem relates_executeOne (b : Bound) :
    Relates W Eq (executeOne n b : Act E (QueryOutcome Value))
      (executeOne n b : Act E' (QueryOutcome Value)) :=
  (relates_tell h _).bind_eq fun r => (Relates.ofExcept (.of_eq r)).bind_eq fun _ =>
    (relates_execute h b).attempt.bind_eq fun _ => (relates_tell h _).bind_eq fun r =>
      (Relates.ofExcept (.of_eq r)).bind_eq fun _ => .ofExcept (.of_eq _)

theorem relates_executeEach (bs : List Bound) :
    Relates W Eq (executeEach n bs : Act E (List (QueryOutcome Value)))
      (executeEach n bs : Act E' (List (QueryOutcome Value))) := by
  induction bs with
  | nil => exact .pure rfl
  | cons b bs ih => exact (relates_execute h b).bind_eq fun o => ih.bind_eq fun os => .pure rfl

theorem relates_control (sql : String) :
    Relates W Eq (control n sql : Act E Unit) (control n sql : Act E' Unit) :=
  (relates_tell h _).bind_eq fun r => (Relates.ofExcept (.of_eq r)).bind_eq fun _ => .pure rfl

theorem relates_undo : Relates W Eq (undo n : Act E Unit) (undo n : Act E' Unit) := by
  refine (relates_tell h _).bind_eq fun r => (Relates.ofExcept (.of_eq r)).bind_eq fun isOpen => ?_
  cases isOpen with
  | false => exact .pure rfl
  | true => exact (relates_control h _).bind_eq fun _ => relates_control h _

theorem relates_executeMany (bs : List Bound) :
    Relates W Eq (executeMany n bs : Act E (List (QueryOutcome Value)))
      (executeMany n bs : Act E' (List (QueryOutcome Value))) := by
  refine (relates_control h _).bind_eq fun _ => (relates_executeEach h bs).attempt.bind_eq fun r => ?_
  cases r with
  | error e => exact (relates_undo h).bind_eq fun _ => .fail e
  | ok outcomes =>
    refine (relates_control h _).bind_eq fun _ => (relates_tell h _).bind_eq fun r =>
      (Relates.ofExcept (.of_eq r)).bind_eq fun isOpen => ?_
    cases isOpen with
    | false => exact .pure rfl
    | true =>
      exact (relates_tell h _).bind_eq fun r => (Relates.ofExcept (.of_eq r)).bind_eq fun _ =>
        .pure rfl

/-- A connection whose commands are answered alike executes calls alike. -/
theorem relates_answer (call : Call) :
    Relates W Eq (answer n call : Act E Value) (answer n call : Act E' Value) := by
  cases call with
  | all b => exact (relates_executeOne h b).bind_eq fun _ => .pure rfl
  | run b => exact (relates_executeOne h b).bind_eq fun _ => .pure rfl
  | batch bs => exact (relates_executeMany h bs).bind_eq fun _ => .pure rfl

end Connection

namespace Engine

variable {n : Nat} (h : ∀ q, Concerns n q →
  Relates W Eq (Act.ask q : Act E q.Answer) (Act.ask q : Act E' q.Answer))

include h

theorem relates_tell (command : EngineCommand) :
    Relates W Eq (tell n command : Act E command.Answer) (tell n command : Act E' command.Answer) :=
  h _ rfl

theorem relates_execute (b : Bound) :
    Relates W Eq (execute n b : Act E (QueryOutcome Value))
      (execute n b : Act E' (QueryOutcome Value)) := by
  refine (h .clock trivial).bind_eq fun start => (relates_tell h _).bind_eq fun r =>
    (Relates.ofExcept (.of_eq r)).bind_eq fun cursor => ?_
  cases cursor.columns with
  | none =>
    exact (Relates.ofExcept (.of_eq _)).bind_eq fun changes => (h .clock trivial).bind_eq fun now =>
      .ofExcept (.of_eq _)
  | some columns =>
    exact (Relates.ofExcept (.of_eq _)).bind_eq fun rows =>
      (Relates.ofExcept (.of_eq _)).bind_eq fun rows => (h .clock trivial).bind_eq fun now =>
        .ofExcept (.of_eq _)

theorem relates_executeEach (bs : List Bound) :
    Relates W Eq (executeEach n bs : Act E (List (QueryOutcome Value)))
      (executeEach n bs : Act E' (List (QueryOutcome Value))) := by
  induction bs with
  | nil => exact .pure rfl
  | cons b bs ih => exact (relates_execute h b).bind_eq fun o => ih.bind_eq fun os => .pure rfl

theorem relates_transaction {α : Type} {body : Act E α} {body' : Act E' α}
    (hbody : Relates W Eq body body') :
    Relates W Eq (transaction n body) (transaction n body') :=
  (relates_tell h _).bind_eq fun r => (Relates.ofExcept (.of_eq r)).bind_eq fun _ =>
    hbody.attempt.bind_eq fun _ => (relates_tell h _).bind_eq fun r =>
      (Relates.ofExcept (.of_eq r)).bind_eq fun _ => .ofExcept (.of_eq _)

/-- An engine whose commands are answered alike executes calls alike. -/
theorem relates_answer (call : Call) :
    Relates W Eq (answer n call : Act E Value) (answer n call : Act E' Value) := by
  cases call with
  | all b => exact (relates_transaction h (relates_execute h b)).bind_eq fun _ => .pure rfl
  | run b => exact (relates_transaction h (relates_execute h b)).bind_eq fun _ => .pure rfl
  | batch bs =>
    exact (relates_transaction h (relates_executeEach h bs)).bind_eq fun _ => .pure rfl

end Engine

end SqlWeave
