import SqlWeave.Execution.Executor
import SqlWeave.Placeholder.Registry
import SqlWeave.Session.Script

/-!
# Steps

A session by script, as it is written down: steps that make tags over scripted
backends, name values, build, map and execute statements, and ask about what came
of it. Steps can be taken one after the other or at a time.
-/

namespace SqlWeave

/-- What is given for a hook. -/
inductive HookExpr where
  /-- A scripted function. -/
  | scripted (script : HookScript)
  /-- The query log. -/
  | queryLog (logger : String) (level : Value)
  /-- A value that is no function. -/
  | plain (value : Expr)

/-- Options of a tag. -/
structure OptionsExpr where
  /-- The hook before a dispatch. -/
  before : Option HookExpr := none
  /-- The hook after a dispatch. -/
  after : Option HookExpr := none
  /-- Further fields. -/
  extra : List (String × Expr) := []

/-- How a connection is opened. -/
structure ConnectExpr where
  /-- The positional arguments. -/
  args : List Value := []
  /-- The named arguments. -/
  kwargs : List (String × Value) := []

/-- How an engine is created. -/
structure UrlExpr where
  /-- The address of the database. -/
  url : Value
  /-- Further arguments. -/
  kwargs : List (String × Value) := []

/-- A backend. -/
inductive BackendExpr where
  /-- A store, with the placeholder style that it asks for. -/
  | store (rows : List Expr) (answers : List AnswerExpr) (delays : List Nat)
      (style : Option StyleChoice)
  /-- A connection, which is opened if it is told how. -/
  | connection (cursors : List CursorExpr) (transactions : List Value)
      (controlErrors : List (String × ErrorScript)) (connect : Option ConnectExpr)
  /-- An engine, which is created if it is told how; `missing` tells that the library
  that engines need is not installed. -/
  | engine (cursors : List CursorExpr) (url : Option UrlExpr) (missing : Bool)

/-- What a tag is made over. -/
inductive TagExpr where
  /-- A recorder that answers with the items of a value as rows, if it has any. -/
  | recorder (rows : Expr)
  /-- A direct executor over something of a named type with laid down answers. -/
  | handler (typeName : String) (answers : List AnswerExpr)
  /-- An executor over a backend, with a style, options, and keyword hooks. -/
  | backend (backend : BackendExpr) (style : Option StyleChoice) (options : OptionsExpr)
      (before after : Option HookExpr)

/-- A call on the values of expressions. -/
inductive CallExpr where
  /-- Executes for the rows. -/
  | all (on : Expr)
  /-- Executes for the effect. -/
  | run (on : Expr)
  /-- Executes all or none. -/
  | batch (tag : String) (members : List Expr)

/-- What a step does. -/
inductive Action where
  /-- Executes something. -/
  | call (call : CallExpr)
  /-- Makes a tag. -/
  | tag (name : String) (how : TagExpr)
  /-- Names a value. -/
  | assign (name : String) (e : Expr)
  /-- Builds a fragment and names the statement. -/
  | build (name : String) (source : Expr)
  /-- Gives a statement a mapper and names the result. -/
  | map (name : String) (source : Expr) (mapper : String)
  /-- Asks what a store gets of a statement. -/
  | bound (on : Expr)
  /-- Puts a value at the end of a statement's parameters. -/
  | appendValue (on value : Expr)
  /-- Compares two values. -/
  | equal (left right : Expr)
  /-- Compares the hashes of two values. -/
  | equalHash (left right : Expr)
  /-- Makes a fragment of a join list. -/
  | asFragment (on : Expr)
  /-- Draws an id. -/
  | nextId (tag : String)
  /-- Asks what a tag's recorder has heard. -/
  | calls (tag : String)
  /-- Asks how a tag is made. -/
  | inspect (tag : String)
  /-- Closes the connection of a tag. -/
  | close (tag : String)

/-- A step of a scenario. -/
inductive Step where
  /-- One action. -/
  | act (action : Action)
  /-- Steps at a time. -/
  | gather (steps : List Step)

/-- The reply to a step. -/
inductive Reply where
  /-- A value. -/
  | value (v : Value)
  /-- What a store gets of a statement. -/
  | bound (b : Bound)
  /-- The style of a tag. -/
  | style (s : Style)
  /-- What a recorder has heard. -/
  | calls (cs : List Call)
  /-- How a tag is made. -/
  | inspection (x : Executor)
  /-- The replies to steps at a time. -/
  | gathered (rs : List (Except Failure Reply))

/-- A scenario. -/
structure Scenario where
  /-- The clock readings. -/
  clock : List Binary64 := []
  /-- The threshold of the log. -/
  threshold : Threshold := none
  /-- The styles that are registered beside the standard ones. -/
  styles : List (String × Style) := []
  /-- The mappers. -/
  mappers : List (String × MapperScript) := []
  /-- The steps. -/
  steps : List Step := []

end SqlWeave
