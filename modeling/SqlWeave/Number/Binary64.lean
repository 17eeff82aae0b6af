/-!
# Binary64 numbers

A 64-bit binary floating-point number, given by its bit pattern. Every finite
one is a whole number of units of `2 ^ -1074`, so its exact value is an integer
(`Binary64.units`), and comparing it with an integer `n` is comparing two
integers: `n` is `n * 2 ^ 1074` units (`Extended.ofInt`). Nothing is rounded on
the way.

Arithmetic is "exact, then rounded": a result is first a quotient of natural
numbers in units and then goes to the nearest number of the format, a tie to
the even neighbour (`Binary64.ofUnits`).
-/

namespace SqlWeave

/-- A number of the binary64 format, by its bits: sign, eleven exponent bits,
fifty-two fraction bits. -/
structure Binary64 where
  /-- The bit pattern, the sign at the top. -/
  bits : UInt64
  deriving DecidableEq, Inhabited

/-- The exact value of a number: a count of units of `2 ^ -1074`, an infinity,
or not a number. -/
inductive Extended where
  /-- So many units of `2 ^ -1074`. -/
  | finite (units : Int)
  /-- Infinity, with its sign. -/
  | infinite (negative : Bool)
  /-- Not a number. -/
  | nan
  deriving DecidableEq

namespace Extended

/-- The number of units in one. -/
def unitsPerOne : Nat := Nat.pow 2 1074

/-- The exact value of an integer. -/
def ofInt (n : Int) : Extended := .finite (n * unitsPerOne)

/-- Whether a number is below zero. -/
def isNegative : Extended → Bool
  | finite units => units < 0
  | infinite negative => negative
  | nan => false

/-- Whether a number is above zero. -/
def isPositive : Extended → Bool
  | finite units => 0 < units
  | infinite negative => !negative
  | nan => false

/-- Equality of values: not-a-number equals nothing, itself included. -/
def equal (a b : Extended) : Bool := a != .nan && a == b

theorem equal_iff {a b : Extended} : a.equal b = true ↔ a ≠ .nan ∧ a = b := by
  simp [equal]

end Extended

namespace Binary64

/-! ### Fields and exact value -/

/-- What the sign bit counts in the bit pattern. -/
def signCode : Nat := Nat.pow 2 63

/-- How many fractions there are, so what one exponent counts in the bit pattern. -/
def fractions : Nat := Nat.pow 2 52

/-- The sign bit. -/
def isNegative (x : Binary64) : Bool := signCode ≤ x.bits.toNat

/-- The biased exponent. -/
def exponentField (x : Binary64) : Nat := x.bits.toNat / fractions % 2048

/-- The fraction bits. -/
def fraction (x : Binary64) : Nat := x.bits.toNat % fractions

/-- The exponent `2047` is kept for infinities and not-a-numbers. -/
def isFinite (x : Binary64) : Bool := x.exponentField != 2047

/-- Not-a-numbers have the greatest exponent and a fraction. -/
def isNaN (x : Binary64) : Bool := x.exponentField == 2047 && x.fraction != 0

/-- The absolute value of a finite number in units of `2 ^ -1074`. -/
def magnitude (x : Binary64) : Nat :=
  if x.exponentField = 0 then x.fraction
  else (fractions + x.fraction) * Nat.pow 2 (x.exponentField - 1)

/-- The value of a finite number in units of `2 ^ -1074`. -/
def units (x : Binary64) : Int :=
  if x.isNegative then -(x.magnitude : Int) else x.magnitude

/-- The exact value of any number of the format. -/
def exact (x : Binary64) : Extended :=
  if x.isFinite then .finite x.units
  else if x.fraction = 0 then .infinite x.isNegative
  else .nan

theorem exact_eq_nan_iff {x : Binary64} : x.exact = .nan ↔ x.isNaN = true := by
  unfold exact isNaN isFinite
  by_cases h : x.exponentField = 2047 <;> by_cases f : x.fraction = 0 <;> simp [h, f]

/-- The integer that a number is, if it is one. -/
def toInt? (x : Binary64) : Option Int :=
  if x.isFinite && x.units % Extended.unitsPerOne == 0 then
    some (x.units / Extended.unitsPerOne)
  else none

/-- The greatest integer that is not above a finite number. -/
def floor (x : Binary64) : Int := x.units / Extended.unitsPerOne

/-- The integer next to a finite number on the side of zero. -/
def truncate (x : Binary64) : Int := x.units.tdiv Extended.unitsPerOne

/-! ### Rounding -/

/-- The quotient of two natural numbers to the nearest natural number, a tie to
the even one. -/
def halfEven (num den : Nat) : Nat :=
  let q := num / den
  let r := num % den
  if 2 * r < den then q
  else if den < 2 * r then q + 1
  else q + q % 2

/-- The place of the exponent field's greatest value, where infinity stands. -/
def infinityCode : Nat := 2047 * fractions

/-- Puts a sign before an exponent and fraction. -/
def ofCode (negative : Bool) (code : Nat) : Binary64 :=
  ⟨UInt64.ofNat ((if negative then signCode else 0) + code)⟩

/-- The number nearest to `num / den` units of `2 ^ -1074`, a tie to the even
neighbour; beyond the range it is infinity. The grid at that size has steps of
`2 ^ s` units, and the bit pattern counts them: `s` full binades and the steps
in the last one. -/
def ofUnits (negative : Bool) (num den : Nat) : Binary64 :=
  let s := Nat.log2 (num / den) - 52
  ofCode negative (min infinityCode (s * fractions + halfEven num (den * Nat.pow 2 s)))

/-- Positive zero. -/
def zero : Binary64 := ⟨0⟩

/-- One half. -/
def half : Binary64 := ⟨0x3fe0000000000000⟩

/-- The one not-a-number that operations make. -/
def nan : Binary64 := ⟨0x7ff8000000000000⟩

/-- What the top fraction bit counts; not-a-numbers have it. -/
def quietCode : Nat := Nat.pow 2 51

/-- A not-a-number with a tag. Tags tell not-a-numbers apart that are kept; they count
for nothing else. -/
def taggedNaN (tag : Nat) : Binary64 := ofCode false (infinityCode + quietCode + tag % quietCode)

/-- The tag of a not-a-number; zero is none. -/
def tag? (x : Binary64) : Option Nat :=
  let tag := x.fraction % quietCode
  if x.isNaN && tag != 0 then some tag else none

/-- Whether two numbers are one and the same not-a-number. -/
def sameNaN (x y : Binary64) : Bool := x.tag?.isSome && x.tag? == y.tag?

/-- The number of a bit pattern. A not-a-number has no tag. -/
def ofBits (bits : UInt64) : Binary64 := if (mk bits).isNaN then nan else ⟨bits⟩

/-- Infinity, with its sign. -/
def infinity (negative : Bool) : Binary64 := ofCode negative infinityCode

/-- The number nearest to an integer, infinity when it is out of range. -/
def ofInt (n : Int) : Binary64 := ofUnits (n < 0) (n.natAbs * Extended.unitsPerOne) 1

/-- The bit pattern, with one pattern for all not-a-numbers. -/
def canonicalBits (x : Binary64) : UInt64 := if x.isNaN then nan.bits else x.bits

/-! ### Arithmetic -/

/-- The difference: exact, then rounded. An exact difference of zero is
positive, except for `-0.0 - 0.0`. -/
def sub (x y : Binary64) : Binary64 :=
  match x.exact, y.exact with
  | .nan, _ | _, .nan => nan
  | .infinite a, .infinite b => if a = b then nan else x
  | .infinite _, .finite _ => x
  | .finite _, .infinite b => infinity !b
  | .finite a, .finite b =>
    let d := a - b
    let negative := if d = 0 then x.isNegative && !y.isNegative else d < 0
    ofUnits negative d.natAbs 1

/-- The product: exact, then rounded; its sign is that of the factors, also for
zeros. -/
def mul (x y : Binary64) : Binary64 :=
  let negative := x.isNegative != y.isNegative
  match x.exact, y.exact with
  | .nan, _ | _, .nan => nan
  | .infinite _, .infinite _ => infinity negative
  | .infinite _, .finite b => if b = 0 then nan else infinity negative
  | .finite a, .infinite _ => if a = 0 then nan else infinity negative
  | .finite a, .finite b => ofUnits negative (a * b).natAbs Extended.unitsPerOne

/-- The milliseconds between two readings of a clock that counts seconds. -/
def millisecondsSince (now start : Binary64) : Binary64 := (now.sub start).mul (ofInt 1000)

end Binary64

end SqlWeave
