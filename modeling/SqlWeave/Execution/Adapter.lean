import SqlWeave.Execution.Environment
import SqlWeave.Outcome.Coercion
import SqlWeave.Value.Hash

/-!
# Adapters

How the three requests to a store become commands to a connection or an engine.

* On a *connection*, a single statement is a block of its own. A batch opens a
  savepoint; if a statement fails, what came since the savepoint is rolled back,
  unless the transaction is gone by then; else the savepoint is released and a
  transaction that is still open is committed.
* On an *engine*, a single statement and a batch are one transaction each.

Both measure every statement and report the same statistics. A cursor that gives
rows counts its changed rows on a connection, and none on an engine. What a cursor tells
about changes is not trusted: it is checked like a report.
-/

namespace SqlWeave

variable {E : Environment}

/-- Refuses a column that cannot be a key. -/
def Cursor.checkKeys : List (Value × Value) → Except Failure Unit
  | [] => .ok ()
  | (column, _) :: entries => do
    let _ ← column.hash
    checkKeys entries

/-- A row of a cursor as a mapping from the columns; a row and the columns pair up to the
shorter. -/
def Cursor.mapping (columns row : List Value) : Except Failure Value := do
  let entries := columns.zip row
  checkKeys entries
  .ok (Value.dictOf entries)

/-- The rows of a cursor as mappings from the columns. -/
def Cursor.mappings (columns : List Value) : List (List Value) → Except Failure (List Value)
  | [] => .ok []
  | row :: rows => do
    let v ← mapping columns row
    let vs ← mappings columns rows
    .ok (v :: vs)

/-- Names of columns can be keys. -/
theorem Cursor.mapping_text (names : List String) (row : List Value) :
    Cursor.mapping (names.map .text) row = .ok (Value.dictOf ((names.map Value.text).zip row)) := by
  have h : ∀ (names : List String) (row : List Value),
      Cursor.checkKeys ((names.map Value.text).zip row) = .ok () := by
    intro names
    induction names with
    | nil => intro row; rfl
    | cons name names ih =>
      intro row
      cases row with
      | nil => rfl
      | cons v row => exact ih row
  simp [mapping, h, bind, Except.bind]

/-- The number of changed rows; none if that is not known. -/
def Cursor.changes (c : Cursor) : Except Failure Value :=
  match c.rowCount.number? with
  | none => .error (.notComparable ">" (Value.int 0).fullTypeName c.rowCount.fullTypeName)
  | some n => .ok (if n.isNegative then .int 0 else c.rowCount)

/-- The outcome of a statement: its rows, the milliseconds it took, the number of
rows it changed, and the row id that it reports when it changed any. -/
def Cursor.outcome (rows : List Value) (duration : Binary64) (changes lastRowId : Value) :
    Except Failure (QueryOutcome Value) :=
  let report :=
    [(Value.text "duration", .primitive (.float duration)), (.text "changes", changes),
      (.text "last_row_id", if changes.isVoid then .null else lastRowId),
      (.text "changed_db", .primitive (.bool (changes.number?.any (·.isPositive))))]
  (Outcome.valid Statistics.title (Statistics.check report)).map fun statistics =>
    { statistics, rows }

/-- An outcome for its effect: without the rows, and without further fields. -/
def QueryOutcome.effect (o : QueryOutcome Value) : RunOutcome Value :=
  { success := o.success, statistics := o.statistics }

namespace Connection

/-- Gives a command to a connection. -/
def tell (number : Nat) (command : ConnectionCommand) : Act E command.Answer :=
  Act.ask (.connection number command)

/-- Executes a statement that controls a transaction. -/
def control (number : Nat) (sql : String) : Act E Unit := do
  let r ← tell number (.execute sql none)
  let _ ← Effect.ofExcept r

/-- Executes one statement. -/
def execute (number : Nat) (b : Bound) : Act E (QueryOutcome Value) := do
  let start ← Act.ask .clock
  let r ← tell number (.execute b.query (if b.values.isEmpty then none else some b.values))
  let cursor ← Effect.ofExcept r
  let rows ← match cursor.columns with
    | none => pure []
    | some columns => do
      let rows ← Effect.ofExcept cursor.rows
      Effect.ofExcept (Cursor.mappings columns rows)
  let now ← Act.ask .clock
  let changes ← Effect.ofExcept cursor.changes
  Effect.ofExcept (Cursor.outcome rows (now.millisecondsSince start) changes cursor.lastRowId)

/-- Executes one statement as a block of its own. -/
def executeOne (number : Nat) (b : Bound) : Act E (QueryOutcome Value) := do
  let r ← tell number .enter
  Effect.ofExcept r
  let outcome ← Effect.attempt (execute number b)
  let r ← tell number (.leave outcome.isOk)
  Effect.ofExcept r
  Effect.ofExcept outcome

/-- Executes statements one after the other. -/
def executeEach (number : Nat) : List Bound → Act E (List (QueryOutcome Value))
  | [] => pure []
  | b :: bs => do
    let o ← execute number b
    let os ← executeEach number bs
    pure (o :: os)

/-- The name of the savepoint of a batch. -/
def savepoint : String := "SAVEPOINT fragql_batch"

/-- Undoes what came since the savepoint, if the transaction is still open. -/
def undo (number : Nat) : Act E Unit := do
  let r ← tell number .inTransaction
  if ← Effect.ofExcept r then
    control number ("ROLLBACK TO " ++ savepoint)
    control number ("RELEASE " ++ savepoint)

/-- Executes statements all or none. -/
def executeMany (number : Nat) (bs : List Bound) : Act E (List (QueryOutcome Value)) := do
  control number savepoint
  match ← Effect.attempt (executeEach number bs) with
  | .error e =>
    undo number
    Effect.fail e
  | .ok outcomes =>
    control number ("RELEASE " ++ savepoint)
    let r ← tell number .inTransaction
    if ← Effect.ofExcept r then
      let r ← tell number .commit
      Effect.ofExcept r
    pure outcomes

/-- Closes a connection. -/
def close (number : Nat) : Act E Unit := do
  let r ← tell number .close
  Effect.ofExcept r

/-- Answers a call. -/
def answer (number : Nat) : Call → Act E Value
  | .all b => do
    let o ← executeOne number b
    pure (.query none o)
  | .run b => do
    let o ← executeOne number b
    pure (.run o.effect)
  | .batch bs => do
    let os ← executeMany number bs
    pure (.ofList (os.map (.query none)))

end Connection

namespace Engine

/-- Gives a command to an engine. -/
def tell (number : Nat) (command : EngineCommand) : Act E command.Answer :=
  Act.ask (.engine number command)

/-- Executes one statement. -/
def execute (number : Nat) (b : Bound) : Act E (QueryOutcome Value) := do
  let start ← Act.ask .clock
  let r ← tell number
    (.execute b.query (if b.values.isEmpty then none else some (Style.nameParameters b.values)))
  let cursor ← Effect.ofExcept r
  match cursor.columns with
  | some columns =>
    let rows ← Effect.ofExcept cursor.rows
    let rows ← Effect.ofExcept (Cursor.mappings columns rows)
    let now ← Act.ask .clock
    Effect.ofExcept (Cursor.outcome rows (now.millisecondsSince start) (.int 0) .null)
  | none =>
    let changes ← Effect.ofExcept cursor.changes
    let now ← Act.ask .clock
    Effect.ofExcept (Cursor.outcome [] (now.millisecondsSince start) changes cursor.lastRowId)

/-- Executes statements one after the other. -/
def executeEach (number : Nat) : List Bound → Act E (List (QueryOutcome Value))
  | [] => pure []
  | b :: bs => do
    let o ← execute number b
    let os ← executeEach number bs
    pure (o :: os)

/-- Runs a computation as one transaction. -/
def transaction {α : Type} (number : Nat) (body : Act E α) : Act E α := do
  let r ← tell number .begin
  Effect.ofExcept r
  let outcome ← Effect.attempt body
  let r ← tell number (.leave outcome.isOk)
  Effect.ofExcept r
  Effect.ofExcept outcome

/-- Answers a call. -/
def answer (number : Nat) : Call → Act E Value
  | .all b => do
    let o ← transaction number (execute number b)
    pure (.query none o)
  | .run b => do
    let o ← transaction number (execute number b)
    pure (.run o.effect)
  | .batch bs => do
    let os ← transaction number (executeEach number bs)
    pure (.ofList (os.map (.query none)))

end Engine

end SqlWeave
