import SqlWeave.Fragment.Lookalike
import SqlWeave.Session.Concurrent

/-!
# Scenarios

A scenario from its beginning to its end. Each step has a reply or fails, and reports the
events that were noted while it ran. A failing step ends nothing but itself. Main
definitions:

* `Scenario.play` plays a scenario;
* `Scenario.evaluate` and `Scenario.expand` evaluate and expand an expression in a
  fresh session.
-/

namespace SqlWeave.Scenario

open Session

/-- The first executor, over a recorder without rows. -/
def first : Executor :=
  { number := 0, backend := .recorder 0, style := .numbered, handler := some recorderName }

/-- The session at the beginning, with a tag `t` over the first executor. -/
def initial (sc : Scenario) : Session Script.environment :=
  { registry := sc.styles.foldl (fun r e => r.register e.1 e.2) .standard
    executors := [first]
    world :=
      { drawn := fun _ => 0
        minted := Executor.span
        recorders := fun _ => {}
        threshold := sc.threshold
        outside :=
          { clock := sc.clock, mappers := sc.mappers,
            scope := { tags := [("t", first.origin)] } } } }

/-- Takes a step. -/
def takeStep : Step → Scene Reply
  | .act action => do
    match ← begin action with
    | .ended r => pure r
    | .waiting x t result => endCall x t result
  | .gather steps => do
    let rs ← together steps
    pure (.gathered rs)

/-- Takes the steps one after the other: the reply to each or its failure, and the
events noted meanwhile. -/
def takeSteps : List Step → Session Script.environment →
    List (Except Failure Reply × List Event)
  | [], _ => []
  | step :: steps, s =>
    let (r, s) := takeStep step s
    let events := s.world.outside.events
    let s := { s with world := { s.world with outside := { s.world.outside with events := [] } } }
    (r, events) :: takeSteps steps s

/-- Evaluates an expression in a fresh session. -/
def evaluate (e : Expr) : Except Failure Value := (eval e (initial {})).1

/-- Names the values of expressions, each of which can use those before it. -/
def define : List (String × Expr) → Scene Unit
  | [] => pure ()
  | (name, e) :: rest => do
    let v ← eval e
    assign name v
    define rest

/-- What a value expands to in a style, as a fragment or as if it were one. -/
def expandValue (style : Style) : Value → Except Failure Expansion
  | .fragment f => f.expand style
  | v => v.expandAsFragment style

/-- Expands the value of an expression in a style, after the definitions that it uses. -/
def expand (definitions : List (String × Expr)) (e : Expr) (choice : Option StyleChoice) :
    Except Failure (Expansion × Binding Value) :=
  let go : Scene (Expansion × Binding Value) := do
    define definitions
    let v ← eval e
    let s ← Effect.state
    let style ← Effect.ofExcept (s.registry.resolve choice none)
    let x ← Effect.ofExcept (expandValue style v)
    pure (x, style.bind (x.values.map .primitive))
  (go (initial {})).1

/-- Plays a scenario. -/
def play (sc : Scenario) : List (Except Failure Reply × List Event) :=
  takeSteps sc.steps sc.initial

end SqlWeave.Scenario
