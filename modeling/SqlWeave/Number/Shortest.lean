import SqlWeave.Number.Decimal
import SqlWeave.Number.Printed

/-!
# Shortest decimals

The decimal with the fewest significant digits that reads back as a binary64
number (`Binary64.shortestDigits`). Of two such decimals with equally many digits
it is the nearer one, a tie to the even digit. On each decimal grid only the two
neighbours of the number are tried: whatever else reads back lies behind one of
them. Seventeen digits always suffice.
-/

namespace SqlWeave.Binary64

/-- The two neighbours of a quotient among the natural numbers, the nearer one
first. -/
def neighbours (num den : Nat) : List Nat :=
  let q := num / den
  if halfEven num den = q then [q, q + 1] else [q + 1, q]

/-- The neighbours of a quotient over `10 ^ k`. -/
def scaledNeighbours (num den : Nat) (k : Int) : List Nat :=
  if 0 ≤ k then neighbours num (den * Nat.pow 10 k.toNat)
  else neighbours (num * Nat.pow 10 (-k).toNat) den

/-- A decimal `d * 10 ^ k` on the grid `10 ^ k` that reads back as the absolute
value of `x`. -/
def onGrid? (x : Binary64) (k : Int) : Option (Nat × Int) :=
  ((scaledNeighbours x.magnitude Extended.unitsPerOne k).find? fun d =>
    (Decimal.nearest false d k).magnitude = x.magnitude).map (·, k)

/-- The digits of the shortest decimal of the absolute value of a finite number
other than zero, and the exponent of the first digit. -/
def shortestDigits (x : Binary64) : List Char × Int :=
  let e := decimalExponent x.magnitude Extended.unitsPerOne
  match (List.range 17).findSome? fun (p : Nat) => x.onGrid? (e - p) with
  | some (d, k) =>
    let ds := decimalDigits d
    (dropTrailingZeros ds, k + (ds.length - 1 : Nat))
  | none => significant 17 x.magnitude Extended.unitsPerOne

/-- Digits `ds`, the first one standing for `10 ^ e`, in positional notation with at
least one place after the point. -/
def positionalWithPlace (ds : List Char) (e : Int) : List Char :=
  if 0 ≤ e then
    let padded := ds.rightpad (e.toNat + 2) '0'
    padded.take (e.toNat + 1) ++ '.' :: padded.drop (e.toNat + 1)
  else '0' :: '.' :: (List.replicate ((-e).toNat - 1) '0' ++ ds)

/-- The shortest notation: positional from `10 ^ -4` to below `10 ^ 16`, with an
exponent beyond. -/
def shortest (x : Binary64) : List Char :=
  signed x <|
    if x.magnitude = 0 then ['0', '.', '0']
    else
      let (ds, e) := x.shortestDigits
      if -4 ≤ e ∧ e < 16 then positionalWithPlace ds e else scientific ds e

end SqlWeave.Binary64
