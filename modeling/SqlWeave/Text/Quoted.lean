import SqlWeave.Text.Printable

/-!
# Quoted text

A text between quotes, as messages show names: the quotes are single ones,
except that a text with a single quote and no double one gets double ones. The
quote in use and the backslash get a backslash before them; tab, line feed and
carriage return are `\t`, `\n`, `\r`; other characters that do not print are
`\x`, `\u` or `\U` and their code point in two, four or eight hexadecimal
digits.
-/

namespace SqlWeave.Text.Quoted

/-- The quote that goes around the text. -/
def quoteFor (cs : List Char) : Char :=
  if cs.contains '\'' && !cs.contains '"' then '"' else '\''

/-- The number in hexadecimal, in at least `width` lower-case digits. -/
def hexadecimal (width n : Nat) : List Char := (Nat.toDigits 16 n).leftpad width '0'

/-- One character between quotes `q`. -/
def escape (q c : Char) : List Char :=
  if c = q || c = '\\' then ['\\', c]
  else if c = '\t' then ['\\', 't']
  else if c = '\n' then ['\\', 'n']
  else if c = '\r' then ['\\', 'r']
  else if isPrintable c then [c]
  else if c.toNat < 0x100 then '\\' :: 'x' :: hexadecimal 2 c.toNat
  else if c.toNat < 0x10000 then '\\' :: 'u' :: hexadecimal 4 c.toNat
  else '\\' :: 'U' :: hexadecimal 8 c.toNat

/-- The text between its quotes. -/
def encode (s : String) : String :=
  let cs := s.toList
  let q := quoteFor cs
  String.ofList (q :: cs.flatMap (escape q) ++ [q])

/-- One byte between quotes `q`: as the character of its ASCII code, except that all
that is not a printable one is `\x` and two digits. -/
def escapeByte (q : Char) (b : UInt8) : List Char :=
  if b.toNat < 0x80 then escape q (Char.ofNat b.toNat)
  else '\\' :: 'x' :: hexadecimal 2 b.toNat

/-- The bytes between their quotes, with a `b` before. -/
def encodeBytes (bs : List UInt8) : String :=
  let q := quoteFor (bs.map fun b => Char.ofNat b.toNat)
  String.ofList ('b' :: q :: bs.flatMap (escapeByte q) ++ [q])

/-- The texts between their quotes, as a bracketed list. -/
def encodeList (names : List String) : String :=
  "[" ++ ", ".intercalate (names.map encode) ++ "]"

end SqlWeave.Text.Quoted
