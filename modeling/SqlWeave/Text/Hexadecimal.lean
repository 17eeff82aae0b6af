/-!
# Hexadecimal text

Bytes as pairs of hexadecimal digits. Written, the digits are in lower case and nothing
stands between them (`Hexadecimal.encode`); read, they can be in either case, and blanks can
stand between the pairs (`Hexadecimal.decode`). A text that cannot be read has a position
where that shows: its first character beyond ASCII, else the first one that is no digit where
one is due.
-/

namespace SqlWeave.Text.Hexadecimal

/-- The digits. -/
def digits : List Char :=
  ['0', '1', '2', '3', '4', '5', '6', '7', '8', '9', 'a', 'b', 'c', 'd', 'e', 'f']

/-- The digit of a value. -/
def digit (n : Nat) : Char := digits.getD n '0'

/-- The value of a digit. -/
def value? (c : Char) : Option Nat := digits.findIdx? (· == c.toLower)

/-- Bytes, written. -/
def encode : List UInt8 → List Char
  | [] => []
  | b :: bs => digit (b.toNat / 16) :: digit (b.toNat % 16) :: encode bs

/-- The blanks of ASCII. -/
def isGap (c : Char) : Bool := c = ' ' || '\t' ≤ c && c ≤ '\r'

/-- Bytes, read from ASCII text that begins at a position. -/
def read (position : Nat) : List Char → Except Nat (List UInt8)
  | [] => .ok []
  | [a] => if isGap a then .ok [] else .error (if (value? a).isSome then position + 1 else position)
  | a :: b :: rest =>
    if isGap a then read (position + 1) (b :: rest)
    else
      match value? a, value? b with
      | some high, some low => (read (position + 2) rest).map (UInt8.ofNat (16 * high + low) :: ·)
      | some _, none => .error (position + 1)
      | none, _ => .error position

/-- Bytes, read, or the position where that fails. -/
def decode (cs : List Char) : Except Nat (List UInt8) :=
  match cs.findIdx? (127 < ·.toNat) with
  | some position => .error position
  | none => read 0 cs

end SqlWeave.Text.Hexadecimal
