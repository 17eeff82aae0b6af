import SqlWeave.Session.Basic
import SqlWeave.Session.Options
import SqlWeave.Session.Step

/-!
# Making tags

How the tags of a scenario are made: the answers and cursors of the backend are laid
down as they are written, a connection is opened or an engine created where the scenario
says how, the options are checked, and the placeholder style is resolved. The first of
these that fails is the failure of the step, and the tag of before stays.
-/

namespace SqlWeave

namespace Scenario

/-- A session by script. -/
abbrev Scene (α : Type) : Type := Sess Script.environment α

open Session

/-- Changes the script. -/
def updateScript (f : Script → Script) : Scene Unit :=
  Effect.update fun s => { s with world := { s.world with outside := f s.world.outside } }

/-- The script. -/
def script : Scene Script := do
  let s ← Effect.state
  pure s.world.outside

/-- The tags and the named values. -/
def scope : Scene Scope := do
  let s ← script
  pure s.scope

/-- Gives a value a name. From now on it can be held in several places. -/
def assign (name : String) (v : Value) : Scene Unit := do
  let v ← execute (Act.share v)
  updateScript fun s => { s with scope := s.scope.assign name v }

/-- The value of an expression. -/
def eval (e : Expr) : Scene Value := do
  let names ← scope
  Effect.ofExcept (e.eval names)

/-- The values of expressions. -/
def evalAll (es : List Expr) : Scene (List Value) := do
  let names ← scope
  Effect.ofExcept (Expr.evalAll names es)

/-- The values of named expressions. -/
def evalFields (fs : List (String × Expr)) : Scene (List (String × Value)) := do
  let names ← scope
  Effect.ofExcept (Expr.evalFields names fs)

/-- Adds a store and gives its number. -/
def addStore (store : StoreScript) : Scene Nat := do
  let s ← script
  updateScript fun s => { s with stores := s.stores ++ [store] }
  pure s.stores.length

/-- Adds a driver and gives its number. -/
def addDriver (driver : DriverScript) : Scene Nat := do
  let s ← script
  updateScript fun s => { s with drivers := s.drivers ++ [driver] }
  pure s.drivers.length

/-- Adds a hook and gives its number. -/
def addHook (hook : HookScript) : Scene Nat := do
  let s ← script
  updateScript fun s => { s with hooks := s.hooks ++ [hook] }
  pure s.hooks.length

/-- The database that a connection is opened to: named, or the first argument, or
one in memory. -/
def databaseOf (args : List Value) (kwargs : List (String × Value)) : Value :=
  match kwargs.find? (·.1 = "database") with
  | some e => e.2
  | none => args.headD (.text ":memory:")

/-- The options that a connection is opened with. It is used from several threads,
so the check against that is switched off unless something else is asked for. -/
def connectionOptions (kwargs : List (String × Value)) : List (String × Value) :=
  let options := kwargs.filter (·.1 ≠ "database")
  if options.any (·.1 = "check_same_thread") then options
  else options ++ [("check_same_thread", .primitive (.bool false))]

/-- The operation of opening a connection. -/
def connectName : String := "SQLiteBackend.connect"

/-- Opens a connection; at most one positional argument is taken, the database. -/
def connect (how : ConnectExpr) : Scene Unit := do
  let taken := if how.args.isEmpty then ["cls"] else ["cls", "database"]
  Effect.ofExcept (Expr.checkNames connectName taken how.kwargs)
  if 1 < how.args.length then Effect.fail (.excessArguments connectName (how.args.length + 1))
  updateScript fun s =>
    s.note (.connect (databaseOf how.args how.kwargs) (connectionOptions how.kwargs))

/-- The operation of creating an engine. -/
def createEngineName : String := "SQLAlchemyBackend.from_url"

/-- Fails if the library that engines need is missing. -/
def requireEngine (missing : Bool) : Scene Unit :=
  if missing then Effect.fail .engineMissing else pure ()

/-- Creates an engine. -/
def createEngine (how : UrlExpr) : Scene Unit := do
  Effect.ofExcept (Expr.checkNames createEngineName ["cls", "url"] how.kwargs)
  updateScript fun s => s.note (.createEngine how.url how.kwargs)

/-- Makes a backend, and gives the style that it asks for. -/
def makeBackend : BackendExpr → Scene (Backend × Option StyleChoice)
  | .store rows answers delays style => do
    let number ← addStore { answers, delays, rows := some rows }
    pure (.store number, style)
  | .connection cursors transactions controlErrors how => do
    match how with
    | some how => connect how
    | none => pure ()
    let number ← addDriver { cursors, transactions, controlErrors }
    pure (.connection number, some (.name Style.numbered.name))
  | .engine cursors how missing => do
    requireEngine missing
    match how with
    | some how => createEngine how
    | none => pure ()
    let number ← addDriver { cursors }
    pure (.engine number, some (.name Style.named.name))

/-- What is given for a hook before a dispatch. -/
def evalBefore : Option HookExpr → Scene (Option (HookArgument BeforeHook))
  | none => pure none
  | some (.scripted h) => do
    let n ← addHook h
    pure (some (.hook (.callback n)))
  | some (.queryLog ..) => pure none
  | some (.plain e) => do
    let v ← eval e
    pure (some (.plain v))

/-- What is given for a hook after a dispatch. -/
def evalAfter : Option HookExpr → Scene (Option (HookArgument AfterHook))
  | none => pure none
  | some (.scripted h) => do
    let n ← addHook h
    pure (some (.hook (.callback n)))
  | some (.queryLog logger level) => pure (some (.hook (.queryLog logger level)))
  | some (.plain e) => do
    let v ← eval e
    pure (some (.plain v))

/-- The name of the type of recorders. -/
def recorderName : String := "MockSqlHandler"

/-- Makes an executor for a tag: its number, then whatever is made of it. -/
def addTag (name : String) (make : Nat → Executor) : Scene Executor := do
  let number ← execute (Act.mint Executor.span)
  let x := make number
  Effect.update fun s => { s with executors := s.executors ++ [x] }
  updateScript fun s => { s with scope := s.scope.assignTag name x.origin }
  pure x

/-- Makes a tag, and gives its style. -/
def makeTag (name : String) : TagExpr → Scene Style
  | .recorder rows => do
    let v ← eval rows
    let rows ← if v.isVoid then pure [] else Effect.ofExcept v.items
    let style ← resolveStyle none none
    let x ← addTag name fun n =>
      { number := n, backend := .recorder n, style, handler := some recorderName }
    execute (Act.setRecorder x.number { rows })
    pure style
  | .handler typeName answers => do
    let number ← addStore { answers }
    let style ← resolveStyle none none
    let _ ← addTag name fun n =>
      { number := n, backend := .store number, style, handler := some typeName }
    pure style
  | .backend backend style options before after => do
    let (backend, preferred) ← makeBackend backend
    let fields : OptionFields :=
      { before := ← evalBefore options.before
        after := ← evalAfter options.after
        extra := ← evalFields options.extra }
    let checked ← Effect.ofExcept (TagOptions.check fields)
    let before ← evalBefore before
    let after ← evalAfter after
    let style ← resolveStyle style preferred
    let _ ← addTag name fun n =>
      { number := n, backend, style
        before := TagOptions.override .inert before checked.before
        after := TagOptions.override .inert after checked.after }
    pure style
where
  /-- The chosen style, by the registry of the session. -/
  resolveStyle (choice preferred : Option StyleChoice) : Scene Style := do
    let s ← Effect.state
    Effect.ofExcept (s.registry.resolve choice preferred)

end Scenario

end SqlWeave
