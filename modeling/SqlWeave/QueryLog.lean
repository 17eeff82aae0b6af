import SqlWeave.Effect
import SqlWeave.Number.Printed
import SqlWeave.Text.Blank
import SqlWeave.Value.Access
import SqlWeave.Value.Hash
import SqlWeave.Value.Written

/-!
# The query log

What is logged about executed queries: a summary line, and for each query its
text on one line and a line with its statistics. Main definitions:

* `QueryLog.cleanup`: every run of white space becomes one space, so no query
  text can break a line;
* `QueryLog.statisticsLine`: the line about the statistics of one query;
* `QueryLog.report`: the records about queries and their results, one after the other.

Queries and results can be of any make, and integers have to be short enough to be
written, so that a report can fail. What was recorded before it does stays recorded.
Left out is the limit for integers inside of other values, where such values stand for
numbers of rows: these are written at any length.
-/

namespace SqlWeave

/-- A record of a log. -/
structure LogRecord where
  /-- Its importance. -/
  level : Int
  /-- The name of the logger. -/
  logger : String
  /-- The text. -/
  message : String
  deriving DecidableEq, Repr

/-- The least level that is logged; none logs nothing. -/
abbrev Threshold := Option Int

/-- Whether records of a level are logged. Levels that are not positive never are,
however low the threshold is. -/
def Threshold.admits (threshold : Threshold) (level : Int) : Bool :=
  0 < level && threshold.any (· ≤ level)

namespace QueryLog

/-- Collapses white space; the flag tells whether white space came before. -/
def collapse : Bool → List Char → List Char
  | _, [] => []
  | afterBlank, c :: cs =>
    if Text.isBlank c then
      if afterBlank then collapse true cs else ' ' :: collapse true cs
    else c :: collapse false cs

/-- The text with a space for every line break. -/
def joinLines (cs : List Char) : List Char := cs.map fun c => if c = '\n' then ' ' else c

/-- The query on one line: line breaks become spaces, and then every run of white space becomes
one space. -/
def cleanup (query : String) : String :=
  String.ofList (collapse false (joinLines query.toList))

/-- The name of the logger that is used when none is given. -/
def defaultLogger : String := "fragql.query_log"

/-- The level that is used when none is given. -/
def defaultLevel : Int := 20

/-- The line about one query: its duration, the rows it changed, and those it read and
wrote, if they are known. -/
def line (duration : Binary64) (changes : String) (rows : Option (String × String)) : String :=
  "   ↳ " ++ String.ofList (duration.general 6) ++ "ms · " ++ changes ++ " changed" ++
    match rows with
    | none => ""
    | some (read, written) => " · " ++ read ++ " read · " ++ written ++ " written"

/-- An integer, written out if it does not have too many digits. -/
def writeInt (n : Int) : Except Failure String :=
  if n.natAbs < Nat.pow 10 Decimal.integerLimit then .ok (toString n) else .error .tooLong

/-- The line about the statistics of one query. -/
def statisticsLine {α : Type} (s : Statistics α) : Except Failure String := do
  let changes ← writeInt s.changes
  match s.rowsRead with
  | none => .ok (line s.duration changes none)
  | some read =>
    let read ← writeInt read
    let written ← writeInt (s.rowsWritten.getD 0)
    .ok (line s.duration changes (some (read, written)))

/-- The line about all queries, with the duration of the whole in milliseconds. -/
def summaryLine (count : Nat) (duration : Option Binary64) : String :=
  "batch: " ++
    (match duration with
      | none => ""
      | some d => String.ofList (d.fixed 2) ++ "ms · ") ++
    toString count ++ " queries"

/-! ### Results of any make -/

/-- The number that a value is written as, in the format of this letter. -/
def numberOf (format : Char) : Value → Except Failure Binary64
  | .primitive (.float x) => .ok x
  | .primitive (.bool b) => .ok (.ofInt b.toInt)
  | .primitive (.int n) =>
    if (Binary64.ofInt n).isFinite then .ok (.ofInt n) else .error .tooLarge
  | .primitive (.text _) => .error (.textAsNumber format)
  | v => .error (.notFormattable v.fullTypeName)

/-- A value as it stands in a line. -/
def shown : Value → Except Failure String
  | .primitive (.int n) => writeInt n
  | v => .ok v.shown

/-- The line about one query, from whatever holds its statistics. -/
def partsLine (statistics : Value) : Except Failure String := do
  let duration ← statistics.part "duration"
  let duration ← numberOf 'g' duration
  let changes ← statistics.part "changes"
  let changes ← shown changes
  let read ← statistics.part "rows_read"
  match read with
  | .primitive .null => .ok (line duration changes none)
  | read =>
    let read ← shown read
    let written ← statistics.part "rows_written"
    let written ← shown (if written.isVoid then .int 0 else written)
    .ok (line duration changes (some (read, written)))

/-- The line about one result. -/
def resultLine (result : Value) : Except Failure String := do
  let statistics ← result.part "meta"
  match statistics with
  | .statistics s => statisticsLine s
  | v => partsLine v

/-- The text of a query, which can only be cleaned up if it is one. -/
def queryText : Value → Except Failure String
  | .primitive (.text q) => .ok q
  | v => .error (v.lacking "replace")

/-- The duration of the whole, if there is one. -/
def durationOf : Value → Except Failure (Option Binary64)
  | .primitive .null => .ok none
  | v => (numberOf 'f' v).map some

/-! ### Records -/

/-- Whether records of a level of any make are logged. -/
def isLogged (threshold : Threshold) (level : Value) : Except Failure Bool :=
  match level with
  | .primitive (.float x) => .ok (x.exact.isPositive && threshold.any (· ≤ x.floor))
  | .primitive p =>
    match p.integer? with
    | some n => .ok (threshold.admits n)
    | none => .error (.notComparable ">=" (Value.int 0).typeName p.typeName)
  | v => do
    let _ ← v.hash
    .error (.notComparable ">=" (Value.int 0).typeName v.fullTypeName)

/-- The level of a record, which has to be an integer and is named after its digits. -/
def recordLevel (level : Value) : Except Failure Int :=
  match level with
  | .primitive p =>
    match p.integer? with
    | some n => (writeInt n).map fun _ => n
    | none => .error .levelNotInteger
  | _ => .error .levelNotInteger

/-- Records a message. -/
def note (level : Int) (logger message : String) : Effect (List LogRecord) Unit :=
  Effect.update (· ++ [⟨level, logger, message⟩])

/-- Records queries, numbered from `position`: the text of each, and the line about its result.
A query without a result is not looked at, nor is a result without a query. -/
def noteEach (level : Int) (logger : String) (position : Nat) :
    List Value → List Value → Effect (List LogRecord) Unit
  | query :: queries, result :: results => do
    let text ← Effect.ofExcept (queryText query)
    note level logger (toString position ++ ": " ++ cleanup text)
    let line ← Effect.ofExcept (resultLine result)
    note level logger line
    noteEach level logger (position + 1) queries results
  | _, _ => pure ()

/-- Records queries, their results and the duration of the whole at a level, if that level is
logged. -/
def report (threshold : Threshold) (level : Value) (logger : String) (queries results : List Value)
    (duration : Value) : Effect (List LogRecord) Unit := do
  if ← Effect.ofExcept (isLogged threshold level) then
    let duration ← Effect.ofExcept (durationOf duration)
    let level ← Effect.ofExcept (recordLevel level)
    note level logger (summaryLine queries.length duration)
    noteEach level logger 1 queries results

end QueryLog

end SqlWeave
