import SqlWeave.Execution.Executor
import SqlWeave.Fragment.Lookalike
import SqlWeave.Placeholder.Registry

/-!
# Sessions

A session has executors, each for a tag of its own, and works with what the tags
make: fragments and compiled statements. Main definitions:

* `Session.build` and `Session.withMapper` make statements, and `Session.keep` numbers
  them;
* `Session.prepare` says what a call executes, and on which executor;
* `Session.invoke` executes a fragment, a statement or a batch.
-/

namespace SqlWeave

/-- The state of a session. -/
structure Session (E : Environment) where
  /-- The placeholder styles. -/
  registry : Registry
  /-- The executors. -/
  executors : List Executor
  /-- The state of executors and environment. -/
  world : World E

/-- A computation in a session. -/
abbrev Sess (E : Environment) (α : Type) : Type := Effect (Session E) α

/-- A call on fragments, statements and other values. -/
inductive Invocation where
  /-- Execute for the rows. -/
  | all (on : Value)
  /-- Execute for the effect. -/
  | run (on : Value)
  /-- Execute all or none, on the executor of this number. -/
  | batch (executor : Nat) (members : List Value)

/-- The results of a call as it gives them: one of its own, or a list. -/
def Invocation.result : Invocation → List Value → Value
  | batch .., vs => .ofList vs
  | _, vs => vs.headD .null

namespace Session

variable {E : Environment}

/-- A computation of an executor. -/
def execute {α : Type} (p : Act E α) : Sess E α :=
  Effect.within (·.world) (fun w s => { s with world := w }) p

/-- The executor of a number. -/
def executor (number : Nat) : Sess E Executor := do
  let s ← Effect.state
  match s.executors.find? (·.number = number) with
  | some x => pure x
  | none => Effect.fail (.undefined s!"executor {number}")

/-! ### Statements -/

/-- Numbers a new statement. -/
def keep (s : Statement Value) : Sess E Value := execute (Act.keep s)

/-- The style in which fragments are built for the executor of a number, and without an
executor. -/
def styleOf : Option Nat → Sess E Style
  | none => pure .numbered
  | some number => do
    let x ← executor number
    pure x.style

/-- The operation of building a fragment. -/
def buildName : String := "build"

/-- Builds a fragment. What is made like one fails like one, when its text is put
together. -/
def build (v : Value) : Sess E (Statement Value) :=
  match v with
  | .fragment f => do
    let style ← styleOf (f.origin.map (·.number))
    Effect.ofExcept (Statement.compile style f)
  | v => do
    if Lookalike.isMade v then
      let style ← styleOf (Lookalike.executorNumber? v)
      let _ ← Effect.ofExcept (v.expandAsFragment style)
    Effect.fail (v.lacking buildName)

/-- The operation of giving a statement a mapper. -/
def mapName : String := "map"

/-- Refuses a value that has nothing of the name of that operation. A statement that has a
mapper does not take another one. -/
def checkMappable (v : Value) : Except Failure Unit :=
  match v with
  | .statement _ s => if s.isMapped then .error (v.lacking mapName) else .ok ()
  | v => (v.part mapName).map fun _ => ()

/-- Gives a statement a mapper. -/
def withMapper (mapper : String) : Value → Except Failure (Statement Value)
  | v@(.statement _ s) =>
    if s.isMapped then .error (v.lacking mapName) else .ok (s.withMapper mapper)
  | v => .error (v.lacking mapName)

/-! ### Calls -/

/-- The statement that a value is or that its fragment compiles to. -/
def executable (operation : String) : Value → Sess E (Statement Value)
  | .statement _ s => pure s
  | v@(.fragment _) => build v
  | v => if Lookalike.isMade v then build v else Effect.fail (v.lacking operation)

/-- The executor of a statement. -/
def executorOf (s : Statement Value) : Sess E Executor :=
  match s.executor with
  | some origin => executor origin.number
  | none => Effect.fail (.structural (.unbound s.query))

/-- The statements of a batch; its members are checked from the position on, and
the first one that is no statement is the failure. -/
def members : Nat → List Value → Except Failure (List (Statement Value))
  | _, [] => .ok []
  | position, .statement _ s :: vs => (members (position + 1) vs).map (s :: ·)
  | position, v :: _ => .error (.structural (.uncompiledMember position v.typeName))

/-- The executor and the job of a call. Nothing is executed, and a call that fails
here leaves no trace. -/
def prepare : Invocation → Sess E (Executor × Job)
  | .all v => do
    let s ← executable "all" v
    let x ← executorOf s
    pure (x, .all s)
  | .run v => do
    let s ← executable "run" v
    let x ← executorOf s
    pure (x, .run s)
  | .batch number vs => do
    let x ← executor number
    let ss ← Effect.ofExcept (members 0 vs)
    pure (x, .batch ss)

/-- Executes a call. -/
def invoke (i : Invocation) : Sess E Value := do
  let (x, job) ← prepare i
  let results ← execute (x.dispatch job)
  pure (i.result results)

end Session

end SqlWeave
