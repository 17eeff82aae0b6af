import SqlWeave.Failure

/-!
# Hashes

What the hash of a value is computed from. Numbers of all kinds hash by their value,
modulo a prime, so that equal numbers have equal hashes; texts and byte strings by the
bytes they are stored as; tuples by the hashes of their items. Fragments, join lists and
statements hash like tuples of what counts for them: the parameters of a statement can
change, so they do not count. Values that can change altogether have no hash.

Two hashes are equal if they are computed from the same (`HashCode.equal`); that
different ones happen to agree is not considered. What hashes by its place in memory,
has a place of its own once it is held. Before that, not-a-numbers come one after the
other to the same place, but handles do not.
-/

namespace SqlWeave

/-- What a hash is computed from. -/
inductive HashCode where
  /-- The missing value. -/
  | null
  /-- A number, by its residue. -/
  | residue (n : Int)
  /-- Bytes, at least one. -/
  | bytes (bs : List UInt8)
  /-- Several hashes. -/
  | sequence (codes : List HashCode)
  /-- A function, by its name. -/
  | function (name : String)
  /-- The place of a not-a-number. -/
  | notANumber (tag : Option Nat)
  /-- The place of a handle. -/
  | object (label : Label)

namespace HashCode

mutual

/-- Whether two hashes are computed from the same. -/
def equal : HashCode → HashCode → Bool
  | null, null => true
  | residue m, residue n => m == n
  | bytes bs, bytes cs => bs == cs
  | sequence xs, sequence ys => equalEach xs ys
  | function f, function g => f == g
  | notANumber t, notANumber u => t == u
  | object k, object l => k.isSome && k == l
  | _, _ => false
termination_by structural c => c

/-- Whether hashes are computed from the same, one by one. -/
def equalEach : List HashCode → List HashCode → Bool
  | [], [] => true
  | x :: xs, y :: ys => equal x y && equalEach xs ys
  | _, _ => false
termination_by structural cs => cs

end

/-- The prime modulo which numbers hash. -/
def modulus : Nat := Nat.pow 2 61 - 1

/-- The residue of a unit of `2 ^ -1074`: modulo the prime, `2 ^ 61` is one, and so is
`2 ^ 1098`. -/
def unitResidue : Nat := Nat.pow 2 24

/-- The hash of a number. The one that stands for a failure is left out, and infinity
has one of its own. A not-a-number has no value to hash by. -/
def ofNumber : Extended → HashCode
  | .finite units =>
    let r : Nat := units.natAbs * unitResidue % modulus
    if units < 0 then (if r = 1 then residue (-2) else residue (-(r : Int))) else residue r
  | .infinite negative => if negative then residue (-314159) else residue 314159
  | .nan => notANumber none

/-- A number in so many bytes, the lowest first. -/
def lowBytesFirst : Nat → Nat → List UInt8
  | 0, _ => []
  | width + 1, n => UInt8.ofNat (n % 256) :: lowBytesFirst width (n / 256)

/-- How many bytes each character of a text is stored in: one, two or four, as few as the
greatest code point needs. -/
def storageWidth (cs : List Char) : Nat :=
  if cs.all fun c => c.toNat < 0x100 then 1
  else if cs.all fun c => c.toNat < 0x10000 then 2
  else 4

/-- The hash of bytes; no bytes at all hash like zero. -/
def ofBytes (bs : List UInt8) : HashCode := if bs.isEmpty then residue 0 else bytes bs

/-- The hash of a text. -/
def ofText (s : String) : HashCode :=
  let cs := s.toList
  ofBytes (cs.flatMap fun c => lowBytesFirst (storageWidth cs) c.toNat)

/-- The hash of a primitive. -/
def ofPrimitive : Primitive → HashCode
  | .null => null
  | .text s => ofText s
  | .bytes bs => ofBytes bs
  | .float x => if x.isNaN then notANumber x.tag? else ofNumber x.exact
  | .bool b => ofNumber (.ofInt b.toInt)
  | .int n => ofNumber (.ofInt n)

end HashCode

namespace Value

open HashCode

mutual

/-- The hash of a value. The first part that has none is the failure. -/
def hash : Value → Except Failure HashCode
  | primitive p => .ok (ofPrimitive p)
  | tuple items => (hashItems items).map sequence
  | handle label .. => .ok (object label)
  | fragment ⟨opening, parts, _⟩ =>
    (hashParts parts).map fun codes =>
      sequence [sequence ((opening :: parts.map (·.2)).map ofText), sequence codes]
  | join members => (hashItems members).map fun codes => sequence [sequence codes]
  | statement _ s => .ok (sequence (ofText s.query :: s.mapper.toList.map function))
  | v => .error (.unhashable v.fullTypeName)
termination_by structural v => v

/-- The hashes of values, one after the other. -/
def hashItems : List Value → Except Failure (List HashCode)
  | [] => .ok []
  | v :: vs =>
    match hash v with
    | .error e => .error e
    | .ok code => (hashItems vs).map (code :: ·)
termination_by structural vs => vs

/-- The hashes of the values of a fragment's parts, one after the other. -/
def hashParts : List (Value × String) → Except Failure (List HashCode)
  | [] => .ok []
  | (v, _) :: ps =>
    match hash v with
    | .error e => .error e
    | .ok code => (hashParts ps).map (code :: ·)
termination_by structural ps => ps

end

end Value

end SqlWeave
