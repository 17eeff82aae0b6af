import SqlWeave.Number.Binary64
import SqlWeave.Text.Blank
import SqlWeave.Text.Digit

/-!
# Decimal texts

Reading numbers from text. Both readings allow single underscores inside of a number.

* An integer is a sign, digits, and possibly a point with zeros after it, with white
  space around it (`readInt?`). In the zeros at its start underscores may stand freely,
  and the sign of a negative integer may also come after those zeros. There is a limit
  on its digits; a text that starts with more is not looked at any further
  (`isOversized`).
* A binary64 number is a sign and `inf`, `infinity`, `nan` in any case, or
  digits with a point somewhere, before, between or after them, and possibly an
  exponent (`Binary64.read?`). The result is the nearest number, a tie to the
  even one. There may be white space around it or underscores inside of it, but not
  both.
-/

namespace SqlWeave

namespace Decimal

/-- Whether two underscores stand side by side. -/
def hasUnderscorePair : List Char → Bool
  | '_' :: '_' :: _ => true
  | _ :: cs => hasUnderscorePair cs
  | [] => false

/-- Takes out the underscores: none may stand at an end or beside another one. -/
def dropUnderscores? (cs : List Char) : Option (List Char) :=
  if cs.head? = some '_' ∨ cs.getLast? = some '_' ∨ hasUnderscorePair cs then none
  else some (cs.filter (· ≠ '_'))

/-- The number that decimal digits denote, none for a character that has no value. -/
def readNatBy? (value? : Char → Option Nat) (cs : List Char) : Option Nat :=
  cs.foldl (fun n? c => n?.bind fun n => (value? c).map (10 * n + ·)) (some 0)

/-- The number that ASCII digits denote. -/
def readNat? (cs : List Char) : Option Nat := readNatBy? Text.asciiDigit? cs

/-- Takes off a sign; true stands for minus. -/
def takeSign : List Char → Bool × List Char
  | '-' :: cs => (true, cs)
  | '+' :: cs => (false, cs)
  | cs => (false, cs)

/-- A point and one or more zeros, or nothing. -/
def isWholeTail : List Char → Bool
  | [] => true
  | '.' :: zeros => !zeros.isEmpty && zeros.all (· = '0')
  | _ :: _ => false

/-- What comes after a run of zeros and underscores: a digit or a minus and all behind
it. Before a point and at the end of the text, the last character of the run is kept. -/
def afterZeros? (last : Char) : List Char → Option (List Char)
  | [] => some [last]
  | c :: cs =>
    if c = '0' ∨ c = '_' then afterZeros? c cs
    else if c = '.' then some (last :: c :: cs)
    else if c.isDigit ∨ c = '-' then some (c :: cs)
    else none

/-- Takes off the zeros at the start of a text that starts with a digit or a minus. -/
def dropZeros? : List Char → Option (List Char)
  | [] => none
  | c :: cs =>
    if c = '0' then afterZeros? c cs
    else if c.isDigit ∨ c = '-' then some (c :: cs)
    else none

/-- How many digits an integer may have. -/
def integerLimit : Nat := 4300

/-- Whether digits are those of a number: at least one, and no zero before others. -/
def isPlain : List Char → Bool
  | [] => false
  | d :: ds => d ≠ '0' || ds.isEmpty

/-- The number that plain digits denote, if there are not too many. -/
def readPlain? (ds : List Char) : Option Nat :=
  if isPlain ds && ds.length ≤ integerLimit then readNat? ds else none

/-- The negative of the number that plain digits denote. -/
def readNegative? (ds : List Char) : Option Int := (readPlain? ds).map fun n => -(n : Int)

/-- Takes off zeros after a point, and underscores between digits. -/
def dropFiller? (cs : List Char) : Option (List Char) :=
  if isWholeTail (cs.dropWhile (· ≠ '.')) then dropUnderscores? (cs.takeWhile (· ≠ '.')) else none

/-- Reads digits with filler in between; a minus may stand in front. -/
def readWhole? (cs : List Char) : Option Int :=
  match dropFiller? cs with
  | none => none
  | some ('-' :: ds) => readNegative? ds
  | some ds => (readPlain? ds).map Int.ofNat

/-- Reads an integer. -/
def readInt? (text : List Char) : Option Int :=
  match Text.trim text with
  | '+' :: '-' :: _ => none
  | '+' :: cs => (dropZeros? cs).bind readWhole?
  | '-' :: cs =>
    match dropZeros? cs with
    | none | some ('-' :: _) => none
    | some ds => (dropFiller? ds).bind readNegative?
  | cs => (dropZeros? cs).bind readWhole?

/-- Whether a text starts with more digits than an integer may have, none of them a zero
at the start; a minus may stand in front. -/
def isOversized : List Char → Bool
  | '-' :: cs => isOversizedNat cs
  | cs => isOversizedNat cs
where
  /-- The same without a minus. -/
  isOversizedNat (cs : List Char) : Bool :=
    let ds := cs.takeWhile Char.isDigit
    isPlain ds && integerLimit < ds.length

/-- An exponent: `e` in either case, a sign, digits; nothing at all is zero. -/
def readExponent? : List Char → Option Int
  | [] => some 0
  | e :: cs =>
    let (negative, ds) := takeSign cs
    if e.toLower ≠ 'e' || ds.isEmpty then none
    else (readNat? ds).map fun n => if negative then -(n : Int) else n

/-- The number nearest to `digits * 10 ^ exponent`. Beyond `10 ^ 400` it is
infinity and below `10 ^ -400` zero, so that no large power is ever formed. -/
def nearest (negative : Bool) (digits : Nat) (exponent : Int) : Binary64 :=
  let size : Int := (Nat.toDigits 10 digits).length + exponent
  if digits = 0 ∨ size < -400 then Binary64.ofCode negative 0
  else if 400 < size then Binary64.infinity negative
  else if 0 ≤ exponent then
    Binary64.ofUnits negative (digits * Nat.pow 10 exponent.toNat * Extended.unitsPerOne) 1
  else Binary64.ofUnits negative (digits * Extended.unitsPerOne) (Nat.pow 10 (-exponent).toNat)

end Decimal

open Decimal

/-- Reads digits with a point and an exponent. -/
def Decimal.readPointed? (negative : Bool) (body : List Char) : Option Binary64 :=
  let whole := body.takeWhile Char.isDigit
  let rest := body.dropWhile Char.isDigit
  let (places, tail) :=
    match rest with
    | '.' :: after => (after.takeWhile Char.isDigit, after.dropWhile Char.isDigit)
    | _ => ([], rest)
  if whole.isEmpty && places.isEmpty then none
  else do
    let n ← readNat? (whole ++ places)
    let e ← readExponent? tail
    some (nearest negative n (e - places.length))

/-- Reads a sign and a name or digits, with nothing around them. -/
def Decimal.readFloat? (cs : List Char) : Option Binary64 :=
  let (negative, body) := takeSign cs
  let word := String.ofList (body.map Char.toLower)
  if word = "inf" ∨ word = "infinity" then some (Binary64.infinity negative)
  else if word = "nan" then some Binary64.nan
  else readPointed? negative body

/-- Reads a binary64 number: without the white space around it, else without its
underscores. -/
def Binary64.read? (text : List Char) : Option Binary64 :=
  match readFloat? (Text.trim text) with
  | some x => some x
  | none => (dropUnderscores? text).bind readFloat?

end SqlWeave
