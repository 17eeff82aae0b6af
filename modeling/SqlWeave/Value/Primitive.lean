import SqlWeave.Number.Binary64

/-!
# Primitives

The values a database driver can bind to one parameter. Main definitions:

* `Primitive.equal`: equality by value. Integers, binary64 numbers and booleans
  compare as exact numbers, so `1`, `1.0` and `true` are equal;
* `Primitive.sameValue`: the finer relation under which two primitives may share
  one parameter. It keeps booleans apart from numbers.

Neither holds between a not-a-number and anything.

A text is a sequence of Unicode scalar values: texts with lone surrogates are left out.
-/

namespace SqlWeave

/-- A value that is bound as a single parameter. -/
inductive Primitive where
  /-- The missing value. -/
  | null
  /-- A truth value. -/
  | bool (b : Bool)
  /-- An integer of any size. -/
  | int (n : Int)
  /-- A binary64 number. -/
  | float (x : Binary64)
  /-- A text. -/
  | text (s : String)
  /-- A string of bytes. -/
  | bytes (bs : List UInt8)
  deriving DecidableEq, Inhabited

namespace Primitive

/-- The kinds that parameters never share: integers and binary64 numbers are of
one kind. -/
inductive Kind where
  /-- The missing value. -/
  | null
  /-- Truth values. -/
  | bool
  /-- Integers and binary64 numbers. -/
  | number
  /-- Texts. -/
  | text
  /-- Byte strings, and whatever is no primitive. -/
  | other
  deriving DecidableEq

/-- The kind of a primitive. -/
def kind : Primitive → Kind
  | null => .null
  | bool _ => .bool
  | int _ => .number
  | float _ => .number
  | text _ => .text
  | bytes _ => .other

/-- A number that may be missing. -/
def ofOption : Option Int → Primitive
  | some n => int n
  | none => null

/-- The integer that a primitive stands for, if it stands for one: true is one and
false is zero. -/
def integer? : Primitive → Option Int
  | bool b => some b.toInt
  | int n => some n
  | _ => none

/-- The exact number that a primitive stands for, if it stands for one. -/
def number? : Primitive → Option Extended
  | float x => some x.exact
  | p => p.integer?.map .ofInt

/-- Equality by value. Two integers are compared as they are; a binary64 number
is compared by its exact value. -/
def equal : Primitive → Primitive → Bool
  | float x, float y => x.exact.equal y.exact
  | float x, p => p.integer?.any fun n => x.exact.equal (.ofInt n)
  | p, float y => p.integer?.any fun n => (Extended.ofInt n).equal y.exact
  | p, q =>
    match p.integer?, q.integer? with
    | some m, some n => m == n
    | none, none => p == q
    | _, _ => false

/-- Whether two primitives may share one parameter. -/
def sameValue (a b : Primitive) : Bool :=
  a.kind == b.kind && (a.kind == .null || a.equal b)

/-- The name of a primitive's type in messages. -/
def typeName : Primitive → String
  | null => "NoneType"
  | bool _ => "bool"
  | int _ => "int"
  | float _ => "float"
  | text _ => "str"
  | bytes _ => "bytes"

end Primitive

end SqlWeave
