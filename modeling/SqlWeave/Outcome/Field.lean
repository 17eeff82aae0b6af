import SqlWeave.Number.Decimal
import SqlWeave.Outcome.Issue
import SqlWeave.Value.Equality
import SqlWeave.Value.Parts

/-!
# Reading the fields of a report

A store may report a field in several spellings: an integer as a text, as a
binary64 number without a fraction or as a truth value, and so on. For each type
of field, one function says which values are taken and what is wrong with the
others. Byte strings count as the text that they encode.
-/

namespace SqlWeave.ReportField

/-- The text of a text or of a byte string; `unreadable` complains of a byte
string that encodes none. -/
def spelling? (unreadable : Complaint) : Primitive → Option (Except Complaint (List Char))
  | .text s => some (.ok s.toList)
  | .bytes bs =>
    match String.fromUTF8? ⟨bs.toArray⟩ with
    | some s => some (.ok s.toList)
    | none => some (.error unreadable)
  | _ => none

/-- Reads a spelling by `read?`; `unreadable` complains of any other text. -/
def fromSpelling {α : Type} (read? : List Char → Option α) (unreadable : Complaint)
    (spelling : Except Complaint (List Char)) : Except Complaint α :=
  match spelling with
  | .error e => .error e
  | .ok cs =>
    match read? cs with
    | some a => .ok a
    | none => .error unreadable

/-- The first number that is too large for 64 bits with a sign. -/
def wordLimit : Nat := Nat.pow 2 63

/-- Whether an integer fits into 64 bits. -/
def isWord (n : Int) : Bool := -(wordLimit : Int) ≤ n ∧ n < wordLimit

/-- The integer that a binary64 number is; its magnitude has to be below
`2 ^ 63`. -/
def integerOfFloat (x : Binary64) : Except Complaint Int :=
  if x.isFinite then
    match x.toInt? with
    | some n => if n.natAbs < wordLimit then .ok n else .error .integerTooLarge
    | none => .error .fractional
  else .error .notFinite

/-- Reads the spelling of an integer; one that is too long is not looked at. -/
def integerOfText (cs : List Char) : Except Complaint Int :=
  if Decimal.isOversized cs then .error .integerTooLarge
  else fromSpelling Decimal.readInt? .integerText (.ok cs)

/-- Reads an integer. -/
def integer : Value → Except Complaint Int
  | .primitive (.bool b) => .ok b.toInt
  | .primitive (.int n) => .ok n
  | .primitive (.float x) => integerOfFloat x
  | .primitive p =>
    match spelling? .integerText p with
    | some spelling => spelling.bind integerOfText
    | none => .error .notAnInteger
  | _ => .error .notAnInteger

/-- Reads a binary64 number. An integer goes to the nearest one, and has to be
within the range. -/
def number : Value → Except Complaint Binary64
  | .primitive (.bool b) => .ok (.ofInt b.toInt)
  | .primitive (.int n) =>
    if (Binary64.ofInt n).isFinite then .ok (.ofInt n) else .error .notANumber
  | .primitive (.float x) => .ok x
  | .primitive p =>
    match spelling? .numberText p with
    | some s => fromSpelling Binary64.read? .numberText s
    | none => .error .notANumber
  | _ => .error .notANumber

/-- The spellings of true. -/
def trueWords : List String := ["1", "true", "t", "yes", "y", "on"]

/-- The spellings of false. -/
def falseWords : List String := ["0", "false", "f", "no", "n", "off"]

/-- The truth value that a text spells, in upper or lower case. -/
def readTruth? (cs : List Char) : Option Bool :=
  let word := String.ofList (cs.map Char.toLower)
  if trueWords.contains word then some true
  else if falseWords.contains word then some false
  else none

/-- The truth value of an integer: one and zero stand for one. -/
def truthOfInteger (n : Int) : Except Complaint Bool :=
  if n = 1 then .ok true
  else if n = 0 then .ok false
  else if isWord n then .error .truthValueText
  else .error .notATruthValue

/-- Reads a truth value. -/
def truth : Value → Except Complaint Bool
  | .primitive (.bool b) => .ok b
  | .primitive (.int n) => truthOfInteger n
  | .primitive (.float x) =>
    match integerOfFloat x with
    | .ok n => truthOfInteger n
    | .error _ => .error .notATruthValue
  | .primitive p =>
    match spelling? .truthValueText p with
    | some s => fromSpelling readTruth? .truthValueText s
    | none => .error .notATruthValue
  | _ => .error .notATruthValue

/-- Reads an integer that may be missing. -/
def optionalInteger : Value → Except Complaint (Option Int)
  | .primitive .null => .ok none
  | v => (integer v).map some

/-- Reads rows: the items of a list or a tuple, whatever they are, or the fields of an
outcome with their names. -/
def rows (v : Value) : Except Complaint (List Value) :=
  match v with
  | .list _ items => .ok items
  | .tuple items => .ok items
  | v =>
    match v.outcomeFields? with
    | some fields => .ok (Value.pairs fields)
    | none => .error .notAList

end SqlWeave.ReportField
