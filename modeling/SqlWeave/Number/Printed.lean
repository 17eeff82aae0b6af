import SqlWeave.Number.Binary64

/-!
# Printed numbers

Two decimal notations of a binary64 number: with a fixed count of places
(`fixed`), and with a count of significant digits, positional or with an
exponent, whichever suits the size (`general`). Both round the exact value, a
tie to the even digit. The sign of a zero is shown, and so is the sign that a
rounded-off number had.
-/

namespace SqlWeave.Binary64

/-- The decimal digits of a natural number. -/
def decimalDigits (n : Nat) : List Char := Nat.toDigits 10 n

/-- The digits without the zeros at their end. -/
def dropTrailingZeros (ds : List Char) : List Char := (ds.reverse.dropWhile (· = '0')).reverse

/-- A point and the digits after it, nothing at all when there are none. -/
def withPoint (ds : List Char) : List Char := if ds.isEmpty then [] else '.' :: ds

/-- A sign, the text of the absolute value of a finite number, and the texts of
the rest. -/
def signed (x : Binary64) (magnitudeText : List Char) : List Char :=
  match x.exact with
  | .nan => ['n', 'a', 'n']
  | .infinite negative => if negative then ['-', 'i', 'n', 'f'] else ['i', 'n', 'f']
  | .finite _ => if x.isNegative then '-' :: magnitudeText else magnitudeText

/-- The notation with `places` digits after the point. -/
def fixed (places : Nat) (x : Binary64) : List Char :=
  let n := halfEven (x.magnitude * Nat.pow 10 places) Extended.unitsPerOne
  signed x (decimalDigits (n / Nat.pow 10 places) ++
    withPoint ((decimalDigits (n % Nat.pow 10 places)).leftpad places '0' |>.take places))

/-- The exponent `e` with `10 ^ e ≤ num / den < 10 ^ (e + 1)`, for a positive
quotient. -/
def decimalExponent (num den : Nat) : Int :=
  if den ≤ num then ((decimalDigits (num / den)).length : Int) - 1
  else
    let m := (den + num - 1) / num
    if m = 1 then 0 else -((decimalDigits (m - 1)).length : Int)

/-- The quotient over `10 ^ e`, to the nearest natural number. -/
def scaled (num den : Nat) (e : Int) : Nat :=
  if 0 ≤ e then halfEven num (den * Nat.pow 10 e.toNat)
  else halfEven (num * Nat.pow 10 (-e).toNat) den

/-- The first `precision` significant digits of a positive quotient, rounded, and
the exponent of the first one. -/
def significant (precision num den : Nat) : List Char × Int :=
  let e := decimalExponent num den
  let d := scaled num den (e - (precision - 1 : Nat))
  if d = Nat.pow 10 precision then (decimalDigits (Nat.pow 10 (precision - 1)), e + 1)
  else (decimalDigits d, e)

/-- Digits `ds`, the first one standing for `10 ^ e`, in positional notation. -/
def positional (ds : List Char) (e : Int) : List Char :=
  if 0 ≤ e then
    ds.take (e.toNat + 1) ++ withPoint (dropTrailingZeros (ds.drop (e.toNat + 1)))
  else '0' :: withPoint (dropTrailingZeros (List.replicate ((-e).toNat - 1) '0' ++ ds))

/-- Digits `ds` with an exponent of at least two digits. -/
def scientific (ds : List Char) (e : Int) : List Char :=
  ds.take 1 ++ withPoint (dropTrailingZeros (ds.drop 1)) ++
    'e' :: (if e < 0 then '-' else '+') :: (decimalDigits e.natAbs).leftpad 2 '0'

/-- The notation with at most `precision` significant digits and no zeros at the
end: positional from `10 ^ -4` to below `10 ^ precision`. -/
def general (precision : Nat) (x : Binary64) : List Char :=
  signed x <|
    if x.magnitude = 0 then ['0']
    else
      let (ds, e) := significant precision x.magnitude Extended.unitsPerOne
      if -4 ≤ e ∧ e < precision then positional ds e else scientific ds e

end SqlWeave.Binary64
