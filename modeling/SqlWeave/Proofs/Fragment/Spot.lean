import SqlWeave.Proofs.Fragment.Outline

/-!
# Spots in a tree

A spot is where a value stands in a tree of fragments and join lists: at the top, among the
values of a fragment, or among the members of a join list, at any depth (`Spot`). Putting a value
there gives a tree (`Spot.fill`), and the walk over that tree is the walk up to the spot, then
over the value, then over the rest: **`Spot.expand_fill`**. What comes before the spot and what
comes after it do not depend on the value (`Spot.outline_fill`). So two values that expand alike
can take each other's place in every tree.
-/

namespace SqlWeave

open Expansion

/-- A spot in a tree: all of the tree but the value that stands there. -/
inductive Spot where
  /-- The whole tree. -/
  | top
  /-- Within one of the values of a fragment, `text` being the literal text after that value. -/
  | part (opening : String) (before : List (Value × String)) (inner : Spot) (text : String)
      (after : List (Value × String)) (origin : Option Origin)
  /-- Within one of the members of a join list. -/
  | member (before : List Value) (inner : Spot) (after : List Value)

namespace Spot

/-- The tree with a value at the spot. -/
def fill : Spot → Value → Value
  | top, v => v
  | part opening before inner text after origin, v =>
    .fragment ⟨opening, before ++ (inner.fill v, text) :: after, origin⟩
  | member before inner after, v => .join (before ++ inner.fill v :: after)

/-- The tokens before the spot. -/
def before : Spot → List (Token Value)
  | top => []
  | part opening before inner _ _ _ => .literal opening :: (outlineOfParts before ++ inner.before)
  | member before inner _ =>
    .literal "" ::
      (before.flatMap (fun v => v.outline ++ [.literal Fragment.separator]) ++ inner.before)

/-- The tokens after the spot. -/
def after : Spot → List (Token Value)
  | top => []
  | part _ _ inner text after _ => inner.after ++ .literal text :: outlineOfParts after
  | member _ inner after =>
    inner.after ++
      .literal (if after.isEmpty then "" else Fragment.separator) :: outlineOfMembers after

end Spot

theorem outlineOfParts_append (ps qs : List (Value × String)) :
    outlineOfParts (ps ++ qs) = outlineOfParts ps ++ outlineOfParts qs := by
  induction ps with
  | nil => rfl
  | cons p ps ih => simp [outlineOfParts, ih]

/-- Members that others follow have a separator after each of them. -/
theorem outlineOfMembers_append_cons (vs : List Value) (w : Value) (ws : List Value) :
    outlineOfMembers (vs ++ w :: ws) =
      vs.flatMap (fun v => v.outline ++ [.literal Fragment.separator]) ++
        outlineOfMembers (w :: ws) := by
  induction vs with
  | nil => rfl
  | cons v vs ih =>
    rw [List.cons_append, outlineOfMembers, ih]
    simp

/-- A join list that is not empty begins with an empty text. -/
theorem outline_join_append_cons (vs : List Value) (w : Value) (ws : List Value) :
    (Value.join (vs ++ w :: ws)).outline = .literal "" :: outlineOfMembers (vs ++ w :: ws) := by
  cases vs <;> rfl

namespace Spot

/-- The tokens of a tree are those before the spot, those of the value, and those after it. -/
theorem outline_fill (spot : Spot) (v : Value) :
    (spot.fill v).outline = spot.before ++ (v.outline ++ spot.after) := by
  induction spot with
  | top => simp [fill, before, after]
  | part opening ps inner text qs origin ih =>
    simp [fill, before, after, Value.outline, outlineOfParts_append, outlineOfParts, ih]
  | member vs inner ws ih =>
    rw [fill, outline_join_append_cons, outlineOfMembers_append_cons, outlineOfMembers, ih]
    simp [before, after]

/-- What the walk has made when it comes to the spot. -/
def reach (style : Style) (spot : Spot) (x : Expansion) : Except Failure Expansion :=
  spot.before.foldlM (Token.add style) x

/-- What the walk makes of the rest after the spot. -/
def leave (style : Style) (spot : Spot) (x : Expansion) : Except Failure Expansion :=
  spot.after.foldlM (Token.add style) x

/-- **The walk passes a spot**: it comes there, expands the value, and goes on. -/
theorem expand_fill (style : Style) (spot : Spot) (v : Value) (x : Expansion) :
    (spot.fill v).expand style x = (do
      let y ← spot.reach style x
      let z ← v.expand style y
      spot.leave style z) := by
  simp only [Value.expand_eq_foldlM, outline_fill, List.foldlM_append]
  rfl

/-- Values that expand alike can take each other's place. -/
theorem expand_fill_congr {style : Style} {v w : Value} (h : v.expand style = w.expand style)
    (spot : Spot) : (spot.fill v).expand style = (spot.fill w).expand style := by
  funext x
  rw [expand_fill, expand_fill, h]

end Spot

end SqlWeave
