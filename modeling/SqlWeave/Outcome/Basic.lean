import SqlWeave.Number.Binary64

/-!
# Outcomes

What a store reports after it executed a statement: statistics, an outcome of a
statement run for its effect, and an outcome with rows. Each keeps the fields
that the store reports beyond the declared ones, in the order it reported them.

The types take the type `α` of rows and further fields as a parameter, because
a row is a value and an outcome is a value too.
-/

namespace SqlWeave

/-- Statistics of one execution. -/
structure Statistics (α : Type) where
  /-- The time the store spent, in milliseconds. -/
  duration : Binary64 := .zero
  /-- Rows inserted, updated or deleted. -/
  changes : Int := 0
  /-- Row id of the last inserted row. -/
  lastRowId : Option Int := none
  /-- Whether the statement modified the database. -/
  changedDb : Bool := false
  /-- Rows scanned. -/
  rowsRead : Option Int := none
  /-- Rows written. -/
  rowsWritten : Option Int := none
  /-- Further fields. -/
  extra : List (String × α) := []

/-- The outcome of a statement run for its effect. -/
structure RunOutcome (α : Type) where
  /-- Whether the store reported success. -/
  success : Bool := true
  /-- The statistics of the execution. -/
  statistics : Statistics α := {}
  /-- Further fields. -/
  extra : List (String × α) := []

/-- The outcome of a statement run for its rows. -/
structure QueryOutcome (α : Type) where
  /-- Whether the store reported success. -/
  success : Bool := true
  /-- The statistics of the execution. -/
  statistics : Statistics α := {}
  /-- The rows, in the store's order. -/
  rows : List α := []
  /-- Further fields. -/
  extra : List (String × α) := []

end SqlWeave
