import SqlWeave.Failure

/-!
# Driver commands

What a store that speaks SQL itself is told, command by command, and what it
answers. A *connection* is one session with a database that the caller keeps
open; an *engine* hands out a transaction at a time. Statements without
parameters are executed without any.

What a database does with the commands is left to the environment. Left out are the
threads in which commands are executed: each command is answered before anything else
happens, as the locks have it.
-/

namespace SqlWeave

/-- What a driver gives after it executed a statement. -/
structure Cursor where
  /-- The names of the columns, if the statement gives rows. -/
  columns : Option (List Value) := none
  /-- The rows, whose reading can fail. -/
  rows : Except Failure (List (List Value)) := .ok []
  /-- How many rows were changed, negative if that is not known. -/
  rowCount : Value := .int (-1)
  /-- The row id of the last inserted row. -/
  lastRowId : Value := .null

/-- A command to a connection. -/
inductive ConnectionCommand where
  /-- Begin a block that is committed or rolled back as a whole. -/
  | enter
  /-- End the block: commit it after a success, else roll it back. -/
  | leave (success : Bool)
  /-- Execute a statement, with its parameters if it has any. -/
  | execute (sql : String) (parameters : Option (List Value))
  /-- Ask whether a transaction is open. -/
  | inTransaction
  /-- Commit the open transaction. -/
  | commit
  /-- Close the connection. -/
  | close

/-- What a connection answers to a command. -/
abbrev ConnectionCommand.Answer : ConnectionCommand → Type
  | execute .. => Except Failure Cursor
  | inTransaction => Except Failure Bool
  | _ => Except Failure Unit

/-- A command to an engine. -/
inductive EngineCommand where
  /-- Begin a transaction. -/
  | begin
  /-- End the transaction: commit it after a success, else roll it back. -/
  | leave (success : Bool)
  /-- Execute a statement, with its named parameters if it has any. -/
  | execute (sql : String) (parameters : Option (List (String × Value)))

/-- What an engine answers to a command. -/
abbrev EngineCommand.Answer : EngineCommand → Type
  | execute .. => Except Failure Cursor
  | _ => Except Failure Unit

end SqlWeave
