import SqlWeave.Session.TagMaking

/-!
# Actions

What the actions of a scenario do. Most of them end at once; a call begins
(`Scenario.begin`) and ends (`Scenario.endCall`), and other actions may come between the
two.
-/

namespace SqlWeave.Scenario

open Session

/-! ### Values -/

/-- Numbers a statement and names it. -/
def keepAs (name : String) (s : Statement Value) : Scene Reply := do
  let v ← keep s
  assign name v
  pure (.value v)

/-- The name of the list that values are appended to. -/
def valuesName : String := "values"

/-- The operation of putting a value at the end of a list. -/
def appendName : String := "append"

/-- What is appended to under a value. What is no list there needs something of the name of
the operation. -/
def appendable (v : Value) : Except Failure Value := do
  let values ← v.part valuesName
  match values with
  | .list label items => .ok (.list label items)
  | values => (values.part appendName).map fun _ => values

/-- Puts a value at the end of a list, wherever the list is held. A list that is held
nowhere is gone. -/
def append (values w : Value) : Scene Unit :=
  match values with
  | .list (some number) items => do
    let _ ← execute (Act.refresh number (items ++ [w]))
  | .list none _ => pure ()
  | values => Effect.fail (values.lacking appendName)

/-- The statement that a value is. -/
def statementOf (operation : String) : Value → Except Failure (Statement Value)
  | .statement _ s => .ok s
  | v => .error (v.lacking operation)

/-- The executor of a tag; an unknown tag has no `part`. -/
def executorOfTag (tag part : String) : Scene Executor := do
  let names ← scope
  match names.tag tag with
  | .ok origin => executor origin.number
  | .error _ => Effect.fail (.noOperation Value.null.typeName part)

/-- The name of what executes the statements of a tag. -/
def executorName : String := "executor"

/-- The name of what answers the calls of a direct executor. -/
def handlerName : String := "handler"

/-- Refuses a mapper that does not exist. -/
def checkMapper (name : String) : Scene Unit := do
  let s ← script
  if s.mappers.any (·.1 = name) then pure () else Effect.fail (.undefined name)

/-- The call that is written down. -/
def evalCall : CallExpr → Scene Invocation
  | .all e => do
    let v ← eval e
    pure (.all v)
  | .run e => do
    let v ← eval e
    pure (.run v)
  | .batch tag es => do
    let x ← executorOfTag tag "batch"
    let vs ← evalAll es
    pure (.batch x.number vs)

/-! ### Progress -/

/-- How far an action has come. -/
inductive Progress where
  /-- It has ended. -/
  | ended (reply : Reply)
  /-- It waits for its backend; `result` makes its value of the outcomes. -/
  | waiting (executor : Executor) (ticket : Ticket) (result : List Value → Value)

/-- Begins an action. A call goes as far as its backend. -/
def begin : Action → Scene Progress
  | .call c => do
    let i ← evalCall c
    let (x, job) ← prepare i
    let t ← execute (x.start job)
    pure (.waiting x t i.result)
  | .tag name how => do
    let style ← makeTag name how
    pure (.ended (.style style))
  | .assign name e => do
    let v ← eval e
    assign name v
    pure (.ended (.value v))
  | .build name e => do
    let v ← eval e
    let s ← build v
    let r ← keepAs name s
    pure (.ended r)
  | .map name e mapper => do
    let v ← eval e
    Effect.ofExcept (checkMappable v)
    checkMapper mapper
    let s ← Effect.ofExcept (withMapper mapper v)
    let r ← keepAs name s
    pure (.ended r)
  | .bound e => do
    let v ← eval e
    let s ← Effect.ofExcept (statementOf "bound" v)
    pure (.ended (.bound s.bound))
  | .appendValue e value => do
    let v ← eval e
    let values ← Effect.ofExcept (appendable v)
    let w ← eval value
    append values w
    let v ← eval e
    pure (.ended (.value v))
  | .equal l r => do
    let v ← eval l
    let w ← eval r
    pure (.ended (.value (.primitive (.bool (v.equal w)))))
  | .equalHash l r => do
    let v ← eval l
    let a ← Effect.ofExcept v.hash
    let w ← eval r
    let b ← Effect.ofExcept w.hash
    pure (.ended (.value (.primitive (.bool (a.equal b)))))
  | .asFragment e => do
    let v ← eval e
    match v with
    | .join members => pure (.ended (.value (.fragment (Fragment.ofJoin members))))
    | v => Effect.fail (v.lacking "as_fragment")
  | .nextId tag => do
    let x ← executorOfTag tag executorName
    let id ← execute (Act.drawId x.number)
    pure (.ended (.value (.int id)))
  | .calls tag => do
    let x ← executorOfTag tag handlerName
    let s ← Effect.state
    match x.backend with
    | .recorder n => pure (.ended (.calls (s.world.recorders n).heard))
    | _ =>
      match x.handler with
      | some typeName => Effect.fail (.noOperation typeName "calls")
      | none => Effect.fail (.noOperation "SqlTag" handlerName)
  | .inspect tag => do
    let x ← executorOfTag tag executorName
    pure (.ended (.inspection x))
  | .close tag => do
    let x ← executorOfTag tag executorName
    match x.backend with
    | .connection n =>
      execute (Connection.close n)
      pure (.ended (.value .null))
    | _ => Effect.fail (.noOperation x.backendName "close")

/-- Ends a call that has begun. -/
def endCall (x : Executor) (t : Ticket) (result : List Value → Value) : Scene Reply := do
  let results ← execute (x.finish t)
  pure (.value (result results))

end SqlWeave.Scenario
