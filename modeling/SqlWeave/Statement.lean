import SqlWeave.Fragment.Expansion

/-!
# Statements

A statement is a fragment expanded once: its query text, its parameters, possibly
one row mapper, and the executor that runs it. Expansion makes parameters of
primitives only; any value can be added to them afterwards. What a store gets of a
statement is the query with a copy of the parameters.
-/

namespace SqlWeave

/-- A query with its parameters, as a store gets it. -/
structure Bound where
  /-- The query text. -/
  query : String
  /-- The parameters; the first one has number one. -/
  values : List Value

namespace Statement

/-- What a store gets of a statement. -/
def bound (s : Statement Value) : Bound := ⟨s.query, s.values⟩

/-- The statement of a fragment under a style, for the fragment's executor. -/
def compile (style : Style) (f : Fragment Value) : Except Failure (Statement Value) :=
  match f.expand style with
  | .ok x =>
    .ok { query := x.query, values := x.values.map .primitive, executor := f.origin }
  | .error e => .error e

/-- The statement with a row mapper and parameters of its own. -/
def withMapper (s : Statement Value) (mapper : String) : Statement Value :=
  { s with mapper := some mapper }

/-- Whether the statement has a row mapper. -/
def isMapped (s : Statement Value) : Bool := s.mapper.isSome

end Statement

/-- A request to a store. -/
inductive Call where
  /-- Execute for the rows. -/
  | all (statement : Bound)
  /-- Execute for the effect. -/
  | run (statement : Bound)
  /-- Execute all or none, in order. -/
  | batch (statements : List Bound)

namespace Call

/-- The query texts of a request. -/
def queries : Call → List String
  | all b => [b.query]
  | run b => [b.query]
  | batch bs => bs.map (·.query)

/-- The same request with other values among the parameters. -/
def mapValues (f : Value → Value) : Call → Call
  | all b => all ⟨b.query, b.values.map f⟩
  | run b => run ⟨b.query, b.values.map f⟩
  | batch bs => batch (bs.map fun b => ⟨b.query, b.values.map f⟩)

end Call

end SqlWeave
