import SqlWeave.Failure
import SqlWeave.Outcome.Field
import SqlWeave.Value.Written

/-!
# Coercing reports

A store answers with an outcome or with a mapping of the same shape. The mapping
is checked field by field: a missing field has its default, a field that cannot
be read is an issue, and all other entries under texts are kept as further
fields. All issues are reported together, in the order of the declared fields
and then of the entries.
-/

namespace SqlWeave

/-- A part of a report, or what is wrong with it. -/
def Checked (α : Type) : Type := Except (List Issue) α

namespace Checked

variable {α β : Type}

/-- The issues of a part. -/
def issues : Checked α → List Issue
  | .ok _ => []
  | .error is => is

/-- Applies a part to another one; the issues of both come together. -/
def apply (f : Checked (α → β)) (x : Checked α) : Checked β :=
  match f, x with
  | .ok f, .ok a => .ok (f a)
  | f, x => .error (f.issues ++ x.issues)

instance : Applicative Checked where
  pure a := .ok a
  seq f x := apply f (x ())

/-- The same part under a field. -/
def under (field : String) : Checked α → Checked α
  | .ok a => .ok a
  | .error is => .error (is.map (·.under field))

end Checked

namespace ReportField

/-- A declared field: read if it is reported, else its default. -/
def declared {α : Type} (entries : List (Value × Value)) (name : String) (default : α)
    (read : Value → Checked α) : Checked α :=
  match Value.lookupText? name entries with
  | none => .ok default
  | some v => (read v).under name

/-- A reading that has one complaint about the field itself. -/
def plain {α : Type} (read : Value → Except Complaint α) (v : Value) : Checked α :=
  match read v with
  | .ok a => .ok a
  | .error c => .error [⟨[], c⟩]

/-- The place of an entry under a key that is no text: a number of 64 bits stands for
itself, a truth value for its number, and all other keys are written out. -/
def placeOf : Value → Place
  | .primitive (.bool b) => .index b.toInt
  | .primitive (.int n) => if isWord n then .index n else .name (toString n)
  | v => .name v.written

/-- The entries beside the declared fields. -/
def further (names : List String) : List (Value × Value) → Checked (List (String × Value))
  | [] => .ok []
  | (.primitive (.text s), v) :: rest =>
    if names.contains s then further names rest
    else (fun xs => (s, v) :: xs) <$> further names rest
  | (key, _) :: rest =>
    Checked.apply (.error [⟨[placeOf key], .keyNotText⟩]) (further names rest)

end ReportField

open ReportField

namespace Statistics

/-- What the kind of report is called. -/
def title : String := "QueryMeta"

/-- The declared fields. -/
def fieldNames : List String :=
  ["duration", "changes", "last_row_id", "changed_db", "rows_read", "rows_written"]

/-- Checks the entries of a mapping. -/
def check (entries : List (Value × Value)) : Checked (Statistics Value) :=
  Statistics.mk
    <$> declared entries "duration" .zero (plain number)
    <*> declared entries "changes" 0 (plain integer)
    <*> declared entries "last_row_id" none (plain optionalInteger)
    <*> declared entries "changed_db" false (plain truth)
    <*> declared entries "rows_read" none (plain optionalInteger)
    <*> declared entries "rows_written" none (plain optionalInteger)
    <*> further fieldNames entries

/-- Statistics as they are, or a mapping checked. -/
def coerce : Value → Checked (Statistics Value)
  | .statistics s => .ok s
  | .dict entries => check entries
  | _ => .error [⟨[], .notAModel title⟩]

end Statistics

namespace RunOutcome

/-- What the kind of report is called. -/
def title : String := "RunResult"

/-- The declared fields. -/
def fieldNames : List String := ["success", "meta"]

/-- Checks the entries of a mapping. -/
def check (entries : List (Value × Value)) : Checked (RunOutcome Value) :=
  RunOutcome.mk
    <$> declared entries "success" true (plain truth)
    <*> declared entries "meta" {} Statistics.coerce
    <*> further fieldNames entries

end RunOutcome

namespace QueryOutcome

/-- What the kind of report is called. -/
def title : String := "QueryResult"

/-- The declared fields. -/
def fieldNames : List String := ["success", "meta", "results"]

/-- Checks the entries of a mapping. -/
def check (entries : List (Value × Value)) : Checked (QueryOutcome Value) :=
  QueryOutcome.mk
    <$> declared entries "success" true (plain truth)
    <*> declared entries "meta" {} Statistics.coerce
    <*> declared entries "results" [] (plain ReportField.rows)
    <*> further fieldNames entries

end QueryOutcome

namespace Outcome

/-- A checked report of a kind, or the failure that lists its issues. -/
def valid {α : Type} (title : String) : Checked α → Except Failure α
  | .ok a => .ok a
  | .error issues => .error (.invalid title issues)

/-- An answer as an outcome with rows: such an outcome as it is, a mapping
checked. -/
def asQuery : Value → Except Failure Value
  | .query label o => .ok (.query label o)
  | .dict entries =>
    (valid QueryOutcome.title (QueryOutcome.check entries)).map (.query none)
  | _ => .error (.invalid QueryOutcome.title [⟨[], .notAModel QueryOutcome.title⟩])

/-- An answer as an outcome without rows. An outcome with rows is one as well, and
stays as it is. -/
def asRun : Value → Except Failure Value
  | .run o => .ok (.run o)
  | .query label o => .ok (.query label o)
  | .dict entries => (valid RunOutcome.title (RunOutcome.check entries)).map .run
  | _ => .error (.invalid RunOutcome.title [⟨[], .notAModel RunOutcome.title⟩])

/-- An answer as statistics. -/
def asStatistics (v : Value) : Except Failure (Statistics Value) :=
  valid Statistics.title (Statistics.coerce v)

end Outcome

end SqlWeave
