import SqlWeave.Effect
import SqlWeave.Execution.Driver
import SqlWeave.QueryLog
import SqlWeave.Statement
import SqlWeave.Value.Sharing

/-!
# Environments

Everything that executing statements leaves to others: the clock, the hooks and
row mappers of the caller, the stores, and the log. The library asks
(`Request`), the environment answers (`Request.Answer`), and whatever it answers
is allowed. An `Environment` is any such behaviour, with a state of its own.

Hooks, mappers and stores belong to the environment and are known here by number
or by name only. A hook can alter what is executed (`Alteration`): the parameters of
the statement before a dispatch, the results after it. Left out is what else a hook or a
mapper could do to the objects that it is handed: no hook changes the list of
queries, no mapper changes the row that it maps or anything else, and neither of them
makes calls of its own. What an altered result is part of elsewhere, the
environment holds in its own state.

A `World` adds what the library itself keeps while statements are executed: the
last id that each executor has drawn, the recorders, the threshold of the log, and how
many numbers there are for shared values. What has such a number can change
(`Act.refresh`), and then it changes wherever it is held, also outside.
-/

namespace SqlWeave

/-- A question to the environment. -/
inductive Request where
  /-- Read the clock, in seconds. -/
  | clock
  /-- Call a hook before a dispatch. -/
  | before (hook : Nat) (id : Nat) (queries : List String)
  /-- Call a hook after a dispatch, with the duration in milliseconds. -/
  | after (hook : Nat) (id : Nat) (queries : List String) (results : List Value)
      (duration : Binary64)
  /-- Hand a call to a store. -/
  | submit (store : Nat) (call : Call)
  /-- Take a store's answer to a call. -/
  | collect (store : Nat) (call : Call)
  /-- Give a command to a connection. -/
  | connection (number : Nat) (command : ConnectionCommand)
  /-- Give a command to an engine. -/
  | engine (number : Nat) (command : EngineCommand)
  /-- Call a row mapper. -/
  | mapRow (mapper : String) (row : Value)
  /-- Write a record to the log. -/
  | log (record : LogRecord)

/-- What a hook has made of the values that it can reach, if it has altered any: of the
parameters of a statement that is executed by itself, or of the results of a dispatch. -/
abbrev Alteration := Option (List Value)

namespace Alteration

/-- Parameters after an alteration, which can also add some. -/
def parameters (a : Alteration) (values : List Value) : List Value := a.getD values

/-- Results after an alteration, which leaves as many of them. -/
def results (a : Alteration) (values : List Value) : List Value :=
  match a with
  | none => values
  | some altered => values.mapIdx fun i v => altered[i]?.getD v

@[simp] theorem parameters_none (values : List Value) : parameters none values = values := rfl

@[simp] theorem results_none (values : List Value) : results none values = values := rfl

@[simp] theorem length_results (a : Alteration) (values : List Value) :
    (a.results values).length = values.length := by
  cases a with
  | none => rfl
  | some altered => exact List.length_mapIdx

end Alteration

/-- What the environment answers to a question; it may fail in any way. A store answers
the handing over of a call with how many rounds of other work it waits before it gives
its result, and a hook that returns with what it has altered. -/
abbrev Request.Answer : Request → Type
  | clock => Binary64
  | before .. => Except Failure Alteration
  | after .. => Except Failure Alteration
  | submit .. => Nat
  | collect .. => Except Failure Value
  | connection _ command => command.Answer
  | engine _ command => command.Answer
  | mapRow .. => Except Failure Value
  | log _ => Unit

/-- A behaviour of all that is outside. -/
structure Environment where
  /-- What the behaviour depends on. -/
  State : Type
  /-- The answer to a question. -/
  answer : (q : Request) → State → q.Answer × State
  /-- The state with other values in the place of those that it holds. -/
  renew : (Value → Value) → State → State

/-- What answers every statement with the same rows, and keeps the calls. -/
structure Recorder where
  /-- The rows. -/
  rows : List Value := []
  /-- The calls that it has heard. -/
  heard : List Call := []

/-- The recorder with other values in the place of those that it holds. -/
def Recorder.mapValues (f : Value → Value) (r : Recorder) : Recorder :=
  ⟨r.rows.map f, r.heard.map (Call.mapValues f)⟩

/-- The state of the library and its environment. -/
structure World (E : Environment) where
  /-- The last id that an executor has drawn; the first one is one. -/
  drawn : Nat → Nat
  /-- How many numbers there are for shared values; the next one gets this number. -/
  minted : Nat
  /-- The recorders. -/
  recorders : Nat → Recorder
  /-- The threshold of the log. -/
  threshold : Threshold
  /-- The state of the environment. -/
  outside : E.State

/-- The state with other values in the place of those that it holds. -/
def World.mapValues {E : Environment} (f : Value → Value) (w : World E) : World E :=
  { w with
    recorders := fun n => (w.recorders n).mapValues f
    outside := E.renew f w.outside }

/-- A computation in an environment. -/
abbrev Act (E : Environment) (α : Type) : Type := Effect (World E) α

namespace Act

variable {E : Environment}

/-- Asks the environment. -/
def ask (q : Request) : Act E q.Answer := fun w =>
  let (a, t) := E.answer q w.outside
  (.ok a, { w with outside := t })

/-- The next id of an executor. -/
def drawId (executor : Nat) : Act E Nat := fun w =>
  let id := w.drawn executor + 1
  (.ok id, { w with drawn := fun x => if x = executor then id else w.drawn x })

/-- Changes a recorder. -/
def setRecorder (number : Nat) (r : Recorder) : Act E Unit :=
  Effect.update fun w =>
    { w with recorders := fun n => if n = number then r else w.recorders n }

/-- Lets a recorder hear a call, and gives its rows. -/
def hear (number : Nat) (call : Call) : Act E (List Value) := do
  let w ← Effect.state
  let r := w.recorders number
  setRecorder number { r with heard := r.heard ++ [call] }
  pure r.rows

/-! ### Shared values -/

/-- Takes so many numbers, and gives the first of them. -/
def mint (count : Nat) : Act E Nat := fun w =>
  (.ok w.minted, { w with minted := w.minted + count })

/-- The value with everything in it numbered. -/
def share (v : Value) : Act E Value := fun w =>
  let (v, minted) := v.share w.minted
  (.ok v, { w with minted })

/-- Values with everything in them numbered. -/
def shareAll (vs : List Value) : Act E (List Value) := fun w =>
  let (vs, minted) := Value.shareItems vs w.minted
  (.ok vs, { w with minted })

/-- Numbers a new statement, whose parameters can be shared with others. -/
def keep (s : Statement Value) : Act E Value := do
  let values ← shareAll s.values
  fun w => (.ok (.statement w.minted { s with values }), { w with minted := w.minted + 1 })

/-- Gives what has the number new contents, wherever it is held. -/
def refresh (number : Nat) (contents : List Value) : Act E (List Value) := do
  let contents ← shareAll contents
  Effect.update (World.mapValues (Value.refresh number contents))
  pure contents

/-! ### The log -/

/-- Writes a record to the log, if its level is logged. -/
def log (record : LogRecord) : Act E Unit := do
  let w ← Effect.state
  if w.threshold.admits record.level then ask (.log record) else pure ()

/-- Writes records to the log. -/
def logAll : List LogRecord → Act E Unit
  | [] => pure ()
  | r :: rs => do log r; logAll rs

/-- Writes to the log what is recorded, also if recording fails in the end. -/
def publish (report : Effect (List LogRecord) Unit) : Act E Unit := do
  logAll (report []).2
  Effect.ofExcept (report []).1

end Act

end SqlWeave
