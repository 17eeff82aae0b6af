/-!
# Validation issues

What can be wrong with a report from a store, and where in the report it is.
-/

namespace SqlWeave

/-- One step of the way to a part of a report. -/
inductive Place where
  /-- A field or a key. -/
  | name (s : String)
  /-- A number used as a key. -/
  | index (n : Int)
  deriving DecidableEq, Repr

/-- What is wrong at a place. -/
inductive Complaint where
  /-- Neither a mapping nor an outcome of the wanted kind. -/
  | notAModel (kind : String)
  /-- A key that is no text. -/
  | keyNotText
  /-- Not an integer at all. -/
  | notAnInteger
  /-- A text that spells no integer. -/
  | integerText
  /-- A number with a fraction. -/
  | fractional
  /-- An infinity or a not-a-number. -/
  | notFinite
  /-- A number too large to be taken for an integer. -/
  | integerTooLarge
  /-- Not a number at all. -/
  | notANumber
  /-- A text that spells no number. -/
  | numberText
  /-- Not a truth value at all. -/
  | notATruthValue
  /-- A text or a number that stands for no truth value. -/
  | truthValueText
  /-- Not a list. -/
  | notAList
  /-- Not a function. -/
  | notCallable
  /-- A field that is not known. -/
  | unknownField
  deriving DecidableEq, Repr

namespace Complaint

/-- The tag of a complaint. -/
def tag : Complaint → String
  | notAModel _ => "model_type"
  | keyNotText => "invalid_key"
  | notAnInteger => "int_type"
  | integerText => "int_parsing"
  | fractional => "int_from_float"
  | notFinite => "finite_number"
  | integerTooLarge => "int_parsing_size"
  | notANumber => "float_type"
  | numberText => "float_parsing"
  | notATruthValue => "bool_type"
  | truthValueText => "bool_parsing"
  | notAList => "list_type"
  | notCallable => "callable_type"
  | unknownField => "extra_forbidden"

/-- The wording of a complaint. -/
def message : Complaint → String
  | notAModel kind => "Input should be a valid dictionary or instance of " ++ kind
  | keyNotText => "Keys should be strings"
  | notAnInteger => "Input should be a valid integer"
  | integerText => "Input should be a valid integer, unable to parse string as an integer"
  | fractional => "Input should be a valid integer, got a number with a fractional part"
  | notFinite => "Input should be a finite number"
  | integerTooLarge =>
    "Unable to parse input string as an integer, exceeded maximum size"
  | notANumber => "Input should be a valid number"
  | numberText => "Input should be a valid number, unable to parse string as a number"
  | notATruthValue => "Input should be a valid boolean"
  | truthValueText => "Input should be a valid boolean, unable to interpret input"
  | notAList => "Input should be a valid list"
  | notCallable => "Input should be callable"
  | unknownField => "Extra inputs are not permitted"

end Complaint

/-- A complaint about a place. -/
structure Issue where
  /-- The way to the place, from the outside in. -/
  place : List Place
  /-- What is wrong there. -/
  complaint : Complaint
  deriving DecidableEq, Repr

/-- The same issue of a part that stands under a field. -/
def Issue.under (field : String) (i : Issue) : Issue := ⟨.name field :: i.place, i.complaint⟩

end SqlWeave
