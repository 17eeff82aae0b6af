import SqlWeave.Session.Action

/-!
# Steps at a time

Steps at a time are tasks that take turns, round by round. In a round every task that is
due goes on until it ends or its backend makes it wait, and the tasks of a round go in
the order in which they were written. A call whose backend waits `d` rounds goes on `d`
rounds later; steps at a time inside of others begin in the round after.

An agenda holds the tasks in the order in which they go on. `Scenario.takeTurn` lets the
first of them go on, and `Scenario.together` lets all of them go to their ends.
-/

namespace SqlWeave

/-- What a task does next. -/
inductive Work where
  /-- Begin a step. -/
  | begin (step : Step)
  /-- Take the backend's answer to a call; `result` makes its value of the outcomes. -/
  | finish (executor : Executor) (ticket : Ticket) (result : List Value → Value)

/-- A task. -/
structure Task where
  /-- The round in which it goes on. -/
  round : Nat
  /-- Its place among the steps, from the outermost ones inwards. -/
  place : List Nat
  /-- What it does then. -/
  work : Work

namespace Task

/-- Whether a place comes before another one. -/
def placeBefore : List Nat → List Nat → Bool
  | [], _ => true
  | _ :: _, [] => false
  | i :: is, j :: js => i < j || i == j && placeBefore is js

/-- Whether a task goes on before another one. -/
def goesBefore (a b : Task) : Bool :=
  a.round < b.round || a.round == b.round && placeBefore a.place b.place

/-- Puts a task into its place in an agenda. -/
def insert (t : Task) : List Task → List Task
  | [] => [t]
  | u :: us => if t.goesBefore u then t :: u :: us else u :: insert t us

/-- The tasks of steps at a time, numbered from `index`, which begin in a round. -/
def ofSteps (round : Nat) (place : List Nat) : Nat → List Step → List Task
  | _, [] => []
  | index, s :: ss =>
    ⟨round, place ++ [index], .begin s⟩ :: ofSteps round place (index + 1) ss

end Task

mutual

/-- How many turns a step takes at most. -/
def Step.turns : Step → Nat
  | .act _ => 2
  | .gather steps => 1 + turnsOfAll steps
termination_by structural s => s

/-- How many turns steps take at most. -/
def turnsOfAll : List Step → Nat
  | [] => 0
  | s :: ss => s.turns + turnsOfAll ss
termination_by structural ss => ss

end

/-- What steps at a time came to, by their places. -/
abbrev Ends := List (List Nat × Except Failure Reply)

mutual

/-- What the step at a place came to. -/
def Ends.reply (ends : Ends) (place : List Nat) : Step → Except Failure Reply
  | .act _ =>
    match ends.find? (·.1 = place) with
    | some e => e.2
    | none => .error (.undefined "step")
  | .gather steps => .ok (.gathered (Ends.replies ends place 0 steps))
termination_by structural s => s

/-- What steps at a time came to, numbered from `index`. -/
def Ends.replies (ends : Ends) (place : List Nat) (index : Nat) :
    List Step → List (Except Failure Reply)
  | [] => []
  | s :: ss => Ends.reply ends (place ++ [index]) s :: Ends.replies ends place (index + 1) ss
termination_by structural ss => ss

end

namespace Scenario

/-- Does what a task does next. Either it has ended then, or there are tasks for later
rounds. -/
def takeTurn (t : Task) : Scene (List Task ⊕ Reply) := do
  match t.work with
  | .begin (.gather steps) => pure (.inl (Task.ofSteps (t.round + 1) t.place 0 steps))
  | .begin (.act action) =>
    match ← begin action with
    | .ended r => pure (.inr r)
    | .waiting x ticket result =>
      if ticket.delay = 0 then
        let r ← endCall x ticket result
        pure (.inr r)
      else
        pure (.inl [{ t with round := t.round + ticket.delay, work := .finish x ticket result }])
  | .finish x ticket result => do
    let r ← endCall x ticket result
    pure (.inr r)

/-- Lets the tasks of an agenda go to their ends, in so many turns at most. -/
def takeTurns : Nat → List Task → Scene Ends
  | 0, _ => pure []
  | _, [] => pure []
  | turns + 1, t :: agenda => do
    match ← Effect.attempt (takeTurn t) with
    | .ok (.inl tasks) => takeTurns turns (tasks.foldr Task.insert agenda)
    | .ok (.inr r) => do
      let ends ← takeTurns turns agenda
      pure ((t.place, .ok r) :: ends)
    | .error e => do
      let ends ← takeTurns turns agenda
      pure ((t.place, .error e) :: ends)

/-- Takes steps at a time. -/
def together (steps : List Step) : Scene (List (Except Failure Reply)) := do
  let ends ← takeTurns (turnsOfAll steps) (Task.ofSteps 0 [] 0 steps)
  pure (ends.replies [] 0 steps)

end Scenario

end SqlWeave
