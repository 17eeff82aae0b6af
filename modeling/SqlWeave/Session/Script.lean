import SqlWeave.Execution.Environment
import SqlWeave.Session.Expr

/-!
# Scripted environments

An environment that follows a script: clock readings, hooks, mappers, stores and
drivers answer what was laid down for them, in turn, and what happens is noted as
events. An answer is laid down as an expression and evaluated when it is given, in the
scope of that time; if it has no value, that is how the request fails.
`Script.environment` is the environment; a `Script` is its state.
-/

namespace SqlWeave

/-- Something that a script noted. -/
inductive Event where
  /-- A hook was called before a dispatch. -/
  | before (label : Value) (id : Nat) (queries : List String)
  /-- A hook was called after a dispatch. -/
  | after (label : Value) (id : Nat) (queries : List String) (results : List Value)
      (duration : Binary64)
  /-- A store got a call. -/
  | call (call : Call)
  /-- A mapper got a row, at its call of this number. -/
  | mapped (number : Nat) (row : Value)
  /-- A record was logged. -/
  | log (record : LogRecord)
  /-- A connection got a command. -/
  | connection (command : ConnectionCommand)
  /-- A connection told whether a transaction is open. -/
  | transaction (answer : Value)
  /-- An engine got a command. -/
  | engine (command : EngineCommand)
  /-- A connection was opened. -/
  | connect (database : Value) (options : List (String × Value))
  /-- An engine was created. -/
  | createEngine (url : Value) (options : List (String × Value))

/-- An error, laid down before it is raised. -/
structure ErrorScript where
  /-- The name of its kind. -/
  kind : Value := .text "RuntimeError"
  /-- What it tells. -/
  message : Value := .text "boom"
  /-- False for the errors that only stop a program. -/
  ordinary : Bool := true

/-- The failure that comes of an error when it is raised: there has to be a type of its
kind. -/
def ErrorScript.failure (e : ErrorScript) : Failure :=
  match Expr.checkTypeName e.kind with
  | .ok kind => .raised ⟨kind, e.message.shown, e.ordinary⟩
  | .error f => f

/-- A hook by script. -/
structure HookScript where
  /-- How it is called in events. -/
  label : Value
  /-- The ids of the dispatches at which it fails. -/
  failOn : List Nat := []
  /-- The error with which it fails. -/
  error : ErrorScript

/-- What a mapper makes of a row. -/
inductive MapperAction where
  /-- The row itself. -/
  | identity
  /-- A mapping with the row and the number of the call. -/
  | wrap
  /-- The value of an expression. -/
  | const (e : Expr)
  /-- The item of a mapping under a key. -/
  | get (key : Value)

/-- A mapper by script. -/
structure MapperScript where
  /-- What it makes of a row. -/
  action : MapperAction
  /-- Whether its calls are events. -/
  traced : Bool := false
  /-- The number of the call at which it fails. -/
  failAt : Option Nat := none
  /-- The error with which it fails. -/
  error : ErrorScript
  /-- How often it has been called. -/
  calls : Nat := 0

/-- An answer of a store, laid down before it is asked. -/
inductive AnswerExpr where
  /-- The value of an expression. -/
  | value (e : Expr)
  /-- An error. -/
  | raised (error : ErrorScript)

/-- A cursor, laid down before its statement is executed. -/
inductive CursorExpr where
  /-- Columns, if the statement gives rows; rows; row count; last row id. -/
  | cursor (columns : Option (List Value)) (rows : List (List Expr))
      (rowCount lastRowId : Value)
  /-- An error of the execution. -/
  | raised (error : ErrorScript)

/-- A store by script. -/
structure StoreScript where
  /-- The answers to come. -/
  answers : List AnswerExpr := []
  /-- The delays of the calls to come. -/
  delays : List Nat := []
  /-- The rows of the answers that are given when there are none to come; without
  rows these answers are the missing value. -/
  rows : Option (List Expr) := none

/-- A connection or an engine by script. -/
structure DriverScript where
  /-- The cursors of the statements to come. -/
  cursors : List CursorExpr := []
  /-- The answers to come to whether a transaction is open; the last one repeats. -/
  transactions : List Value := []
  /-- The errors of the statements that control transactions, by their text. -/
  controlErrors : List (String × ErrorScript) := []

/-- A script and what it noted. -/
structure Script where
  /-- The clock readings to come; the last one repeats. -/
  clock : List Binary64 := []
  /-- The hooks, each at its number. -/
  hooks : List HookScript := []
  /-- The mappers by name. -/
  mappers : List (String × MapperScript) := []
  /-- The stores, each at its number. -/
  stores : List StoreScript := []
  /-- The connections and engines, each at its number. -/
  drivers : List DriverScript := []
  /-- The tags and the named values; answers are evaluated in it. -/
  scope : Scope := {}
  /-- What happened, in order. -/
  events : List Event := []

namespace Script

/-- Notes an event. -/
def note (s : Script) (e : Event) : Script := { s with events := s.events ++ [e] }

/-- The next of answers of which the last one repeats, if there are any, and those to
come. -/
def nextRepeating {α : Type} : List α → Option α × List α
  | [] => (none, [])
  | [a] => (some a, [a])
  | a :: as => (some a, as)

/-- Reads the clock. -/
def readClock (s : Script) : Binary64 × Script :=
  let (now, clock) := nextRepeating s.clock
  (now.getD .zero, { s with clock })

/-- Whether a hook fails at a dispatch; it alters nothing. -/
def hookAnswer (h : HookScript) (id : Nat) : Except Failure Alteration :=
  if h.failOn.contains id then .error h.error.failure else .ok none

/-- An answer in a scope. -/
def evalAnswer (scope : Scope) : AnswerExpr → Except Failure Value
  | .value e => e.eval scope
  | .raised e => .error e.failure

/-- Rows in a scope. -/
def evalRows (scope : Scope) : List (List Expr) → Except Failure (List (List Value))
  | [] => .ok []
  | row :: rows => do
    let vs ← Expr.evalAll scope row
    let vss ← evalRows scope rows
    .ok (vs :: vss)

/-- A cursor in a scope. Its rows can fail by themselves, when they are read. -/
def evalCursor (scope : Scope) : CursorExpr → Except Failure Cursor
  | .cursor columns rows rowCount lastRowId =>
    .ok { columns, rows := evalRows scope rows, rowCount, lastRowId }
  | .raised e => .error e.failure

/-- A cursor whose rows fail at once, if they fail at all. -/
def settle (c : Cursor) : Except Failure Cursor :=
  match c.rows with
  | .ok _ => .ok c
  | .error e => .error e

/-- The answer to a call when none is laid down. -/
def defaultAnswer (scope : Scope) (rows : List Expr) : Call → Except Failure Value
  | .all _ => do
    let rows ← Expr.evalAll scope rows
    .ok (.query none { statistics := { duration := .half }, rows })
  | .run _ => .ok (.run { statistics := { duration := .half, changes := 1, changedDb := true } })
  | .batch bs => .ok <| .ofList <| (List.range bs.length).map fun (i : Nat) =>
      .query none
        { statistics := { duration := .half }, rows := [.dict [(.text "slot", .int i)]] }

/-- A store gets a call. -/
def submit (s : Script) (number : Nat) (call : Call) : Nat × Script :=
  let s := s.note (.call call)
  match s.stores[number]? with
  | none => (0, s)
  | some store =>
    (store.delays.headD 0,
      { s with stores := s.stores.set number { store with delays := store.delays.tail } })

/-- A store gives an answer. -/
def collect (s : Script) (number : Nat) (call : Call) : Except Failure Value × Script :=
  match s.stores[number]? with
  | none => (.ok .null, s)
  | some store =>
    match store.answers with
    | a :: answers =>
      (evalAnswer s.scope a, { s with stores := s.stores.set number { store with answers } })
    | [] =>
      match store.rows with
      | none => (.ok .null, s)
      | some rows => (defaultAnswer s.scope rows call, s)

/-- What the action of a mapper gives at its call of this number. -/
def mapAnswer (scope : Scope) (row : Value) (number : Nat) :
    MapperAction → Except Failure Value
  | .identity => .ok row
  | .wrap => .ok (.dict [(.text "row", row), (.text "n", .int number)])
  | .const e => e.eval scope
  | .get key =>
    let missing : Failure := .raised ⟨"MapperError", "no key " ++ key.shown, true⟩
    match row with
    | .dict entries => do
      let _ ← key.hash
      match Value.lookupEntry? key entries with
      | some v => .ok v
      | none => .error missing
    | _ => .error missing

/-- A mapper gets a row. -/
def mapRow (s : Script) (name : String) (row : Value) : Except Failure Value × Script :=
  match s.mappers.find? (·.1 = name) with
  | none => (.ok row, s)
  | some (_, m) =>
    let number := m.calls + 1
    let mappers := s.mappers.map fun e =>
      if e.1 = name then (name, { m with calls := number }) else e
    let s := { s with mappers }
    let s := if m.traced then s.note (.mapped number row) else s
    (if m.failAt = some number then .error m.error.failure
      else mapAnswer s.scope row number m.action, s)

/-- Changes the script of a driver. -/
def setDriver (s : Script) (number : Nat) (d : DriverScript) : Script :=
  { s with drivers := s.drivers.set number d }

/-- Takes the next cursor of a driver. -/
def nextCursor (s : Script) (number : Nat) : Except Failure Cursor × Script :=
  match s.drivers[number]? with
  | none => (.ok {}, s)
  | some d =>
    match d.cursors with
    | [] => (.ok {}, s)
    | c :: cursors => (evalCursor s.scope c, s.setDriver number { d with cursors })

/-- How the statements end that control the transaction of a batch. -/
def controlSuffix : String := "SAVEPOINT fragql_batch"

/-- A connection executes a statement. -/
def executeOn (s : Script) (number : Nat) (sql : String) : Except Failure Cursor × Script :=
  if sql.endsWith controlSuffix then
    match s.drivers[number]?.bind fun d => d.controlErrors.find? (·.1 = sql) with
    | some e => (.error e.2.failure, s)
    | none => (.ok {}, s)
  else s.nextCursor number

/-- A connection tells whether a transaction is open, if that is laid down at all. -/
def readTransaction (s : Script) (number : Nat) : Except Failure Bool × Script :=
  match s.drivers[number]? with
  | none => (.error (.indexOutOfRange "list"), s)
  | some d =>
    let (answer, transactions) := nextRepeating d.transactions
    let s := s.setDriver number { d with transactions }
    match answer with
    | none => (.error (.indexOutOfRange "list"), s)
    | some answer => (.ok !answer.isVoid, s.note (.transaction answer))

/-- A connection gets a command. -/
def connection (s : Script) (number : Nat) :
    (command : ConnectionCommand) → command.Answer × Script
  | .execute sql parameters =>
    (s.note (.connection (.execute sql parameters))).executeOn number sql
  | .inTransaction => s.readTransaction number
  | .enter => (.ok (), s.note (.connection .enter))
  | .leave success => (.ok (), s.note (.connection (.leave success)))
  | .commit => (.ok (), s.note (.connection .commit))
  | .close => (.ok (), s.note (.connection .close))

/-- An engine gets a command. It reads the rows of a statement when it executes it. -/
def engine (s : Script) (number : Nat) : (command : EngineCommand) → command.Answer × Script
  | .execute sql parameters =>
    let (cursor, s) := (s.note (.engine (.execute sql parameters))).nextCursor number
    (cursor >>= settle, s)
  | .begin => (.ok (), s.note (.engine .begin))
  | .leave success => (.ok (), s.note (.engine (.leave success)))

/-- The answer to a question. -/
def answer : (q : Request) → Script → q.Answer × Script
  | .clock, s => s.readClock
  | .before n id queries, s =>
    match s.hooks[n]? with
    | none => (.ok none, s)
    | some h => (hookAnswer h id, s.note (.before h.label id queries))
  | .after n id queries results duration, s =>
    match s.hooks[n]? with
    | none => (.ok none, s)
    | some h => (hookAnswer h id, s.note (.after h.label id queries results duration))
  | .submit n call, s => s.submit n call
  | .collect n call, s => s.collect n call
  | .connection n command, s => s.connection n command
  | .engine n command, s => s.engine n command
  | .mapRow name row, s => s.mapRow name row
  | .log record, s => ((), s.note (.log record))

/-- The script with other values in the place of the named ones. What was noted stays. -/
def renew (f : Value → Value) (s : Script) : Script := { s with scope := s.scope.mapValues f }

/-- The environment that follows a script. -/
def environment : Environment := ⟨Script, answer, renew⟩

end Script

end SqlWeave
