import SqlWeave.Value.Primitive

/-!
# When primitives share a parameter

`Primitive.sameValue` is given by cases over two kinds of numbers and four other kinds. Here it
is reduced to one comparison: each primitive but a not-a-number has an *identity*
(`Primitive.identity?`), in which an integer and a binary64 number are told apart by their exact
values alone, and two primitives share a parameter if they have the same identity
(`Primitive.sameValue_iff`). So the relation is symmetric and transitive, and it is reflexive on
everything but the not-a-numbers.
-/

namespace SqlWeave

theorem Extended.unitsPerOne_pos : 0 < unitsPerOne := by
  have h : ∀ n, 0 < Nat.pow 2 n := Nat.two_pow_pos
  unfold unitsPerOne
  exact h 1074

theorem Extended.ofInt_inj {m n : Int} : Extended.ofInt m = Extended.ofInt n ↔ m = n := by
  have hne : (unitsPerOne : Int) ≠ 0 := Int.natCast_ne_zero.mpr (Nat.ne_of_gt unitsPerOne_pos)
  simp only [ofInt, finite.injEq]
  exact ⟨fun h => Int.eq_of_mul_eq_mul_right hne h, fun h => h ▸ rfl⟩

theorem Extended.finite_ne_nan (units : Int) : Extended.finite units ≠ .nan := nofun

theorem Extended.ofInt_ne_nan (n : Int) : Extended.ofInt n ≠ .nan := finite_ne_nan _

namespace Primitive

/-- What tells a value of one parameter apart from every other. -/
inductive Identity where
  /-- The missing value. -/
  | null
  /-- A truth value. -/
  | bool (b : Bool)
  /-- An exact number. -/
  | number (x : Extended)
  /-- A text. -/
  | text (s : String)
  /-- A string of bytes. -/
  | bytes (bs : List UInt8)
  deriving DecidableEq

/-- Whether a primitive is not a number. -/
def isNaN : Primitive → Bool
  | float x => x.isNaN
  | _ => false

/-- The identity of a number, if it is one. -/
def identityOf? : Extended → Option Identity
  | .nan => none
  | x => some (.number x)

/-- The identity of a primitive; a not-a-number has none. -/
def identity? : Primitive → Option Identity
  | null => some .null
  | bool b => some (.bool b)
  | int n => identityOf? (.ofInt n)
  | float x => identityOf? x.exact
  | text s => some (.text s)
  | bytes bs => some (.bytes bs)

theorem identityOf?_ofInt (n : Int) : identityOf? (.ofInt n) = some (.number (.ofInt n)) := rfl

theorem identityOf?_eq_none_iff {x : Extended} : identityOf? x = none ↔ x = .nan := by
  cases x <;> simp [identityOf?]

theorem identity?_eq_none_iff {p : Primitive} : p.identity? = none ↔ p.isNaN = true := by
  cases p with
  | float x => rw [identity?, identityOf?_eq_none_iff, Binary64.exact_eq_nan_iff, isNaN]
  | int n => simp [identity?, identityOf?_eq_none_iff, Extended.ofInt_ne_nan, isNaN]
  | null | bool _ | text _ | bytes _ => simp [identity?, isNaN]

/-- Numbers are equal if they have the same identity. -/
theorem equal_iff_identityOf? {x y : Extended} :
    x.equal y = true ↔ identityOf? x = identityOf? y ∧ identityOf? x ≠ none := by
  rw [Extended.equal_iff, ne_eq, ne_eq, identityOf?_eq_none_iff]
  cases x <;> cases y <;> simp [identityOf?]

/-- The kind of what has an identity. -/
def Identity.kind : Identity → Kind
  | null => .null
  | bool _ => .bool
  | number _ => .number
  | text _ => .text
  | bytes _ => .other

/-- An identity tells the kind. -/
theorem kind_eq_of_identity? {p : Primitive} {k : Identity} (h : p.identity? = some k) :
    p.kind = k.kind := by
  cases p with
  | int n => cases h; rfl
  | float x =>
    cases hx : x.exact <;> simp only [identity?, identityOf?, hx, reduceCtorEq] at h <;> cases h <;> rfl
  | null | bool _ | text _ | bytes _ => cases h; rfl

theorem equal_int (m n : Int) : (int m).equal (int n) = (m == n) := rfl

/-- Numbers share a parameter if their exact values are equal. -/
theorem equal_iff_of_number {a b : Primitive} (ha : a.kind = .number) (hb : b.kind = .number) :
    a.equal b = true ↔ a.identity? = b.identity? ∧ a.identity? ≠ none := by
  cases a <;> simp only [kind, reduceCtorEq] at ha <;> cases b <;>
    simp only [kind, reduceCtorEq] at hb
  · rw [identity?, identity?, identityOf?_ofInt, identityOf?_ofInt, Option.some_inj,
      Identity.number.injEq, Extended.ofInt_inj, equal_int, beq_iff_eq]
    exact ⟨fun h => ⟨h, Option.some_ne_none _⟩, fun h => h.1⟩
  · simp [equal, integer?, identity?, equal_iff_identityOf?]
  · simp [equal, integer?, identity?, equal_iff_identityOf?]
  · simp [equal, identity?, equal_iff_identityOf?]

/-- **Two primitives share a parameter** if they have the same identity. -/
theorem sameValue_iff {a b : Primitive} :
    a.sameValue b = true ↔ a.identity? = b.identity? ∧ a.identity? ≠ none := by
  by_cases hk : a.kind = b.kind
  · -- Of one kind: only numbers are compared otherwise than by their constructors.
    cases a <;> cases b <;> simp only [kind, reduceCtorEq] at hk
    case null.null => decide
    case bool.bool b c => cases b <;> cases c <;> decide
    case text.text s t => simp [sameValue, kind, equal, integer?, identity?]
    case bytes.bytes bs cs => simp [sameValue, kind, equal, integer?, identity?]
    all_goals
      rw [← equal_iff_of_number rfl rfl]
      simp [sameValue, kind]
  · have hs : a.sameValue b = false := by simp [sameValue, hk]
    rw [hs]
    constructor
    · intro h
      cases h
    · rintro ⟨he, hn⟩
      obtain ⟨k, ha⟩ := Option.ne_none_iff_exists'.mp hn
      exact absurd ((kind_eq_of_identity? ha).trans (kind_eq_of_identity? (he ▸ ha)).symm) hk

/-- Sharing a parameter is symmetric. -/
theorem sameValue_comm (a b : Primitive) : a.sameValue b = b.sameValue a := by
  have h : ∀ p q : Primitive, p.sameValue q = true → q.sameValue p = true := by
    intro p q hpq
    obtain ⟨hk, hp⟩ := sameValue_iff.mp hpq
    exact sameValue_iff.mpr ⟨hk.symm, hk ▸ hp⟩
  rw [Bool.eq_iff_iff]
  exact ⟨h a b, h b a⟩

/-- Sharing a parameter is transitive. -/
theorem sameValue_trans {a b c : Primitive} (hab : a.sameValue b = true)
    (hbc : b.sameValue c = true) : a.sameValue c = true := by
  obtain ⟨hk, ha⟩ := sameValue_iff.mp hab
  obtain ⟨hl, -⟩ := sameValue_iff.mp hbc
  exact sameValue_iff.mpr ⟨hk.trans hl, ha⟩

/-- All primitives but the not-a-numbers share a parameter with themselves. -/
theorem sameValue_self_iff {a : Primitive} : a.sameValue a = true ↔ a.isNaN = false := by
  rw [sameValue_iff, ne_eq, identity?_eq_none_iff]
  simp

/-- A not-a-number shares its parameter with nothing. -/
theorem sameValue_of_isNaN {a : Primitive} (h : a.isNaN = true) (b : Primitive) :
    a.sameValue b = false := by
  rw [← Bool.not_eq_true, sameValue_iff, ne_eq, identity?_eq_none_iff]
  simp [h]

end Primitive

end SqlWeave
