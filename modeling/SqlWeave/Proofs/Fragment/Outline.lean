import SqlWeave.Proofs.Parameter.Numbering
import SqlWeave.Proofs.Value.SameValue

/-!
# The outline of a fragment

Depth first and left to right, a tree of fragments and join lists is a list of tokens: literal
texts, empty join lists and leaves (`Value.outline`). The outline knows neither styles nor
numbers. Expanding the tree is adding its tokens one after the other (`Value.expand_eq_foldlM`),
and if all leaves are primitives, this always succeeds: the query is the outline with the numbers
of the leaves' parameters written out in the style (`spell`), and the parameters are those that
the numbering of the leaves gives (`Fragment.expand_eq`). The recursion over trees is left behind
here; what is said about queries and parameters elsewhere is said about lists.
-/

namespace SqlWeave

open Expansion

/-- A token of what a value expands to. -/
inductive Token (α : Type) where
  /-- A literal text. -/
  | literal (text : String)
  /-- An empty join list. -/
  | empty
  /-- A leaf of the tree. -/
  | leaf (v : α)

namespace Token

variable {α : Type}

/-- The leaf that a token is, if it is one. -/
def leaf? : Token α → Option α
  | leaf v => some v
  | _ => none

/-- The leaves among tokens. -/
def leaves (tokens : List (Token α)) : List α := tokens.filterMap leaf?

/-- The query text of tokens, each leaf written as the placeholder of the next number. -/
def spell (style : Style) : List (Token α) → List Nat → String
  | literal text :: tokens, numbers => style.escapeLiteral text ++ spell style tokens numbers
  | empty :: tokens, numbers => emptyJoin ++ spell style tokens numbers
  | leaf _ :: tokens, n :: numbers => style.placeholder n ++ spell style tokens numbers
  | leaf _ :: _, [] => ""
  | [], _ => ""

end Token

mutual

/-- The tokens of a value, depth first and left to right. A join list that is not empty has a
text before its first member, between any two, and after the last one. -/
def Value.outline : Value → List (Token Value)
  | .fragment ⟨opening, parts, _⟩ => .literal opening :: outlineOfParts parts
  | .join [] => [.empty]
  | .join (v :: vs) => .literal "" :: outlineOfMembers (v :: vs)
  | v => [.leaf v]
termination_by structural v => v

/-- The tokens of values and of the literal texts after them. -/
def outlineOfParts : List (Value × String) → List (Token Value)
  | [] => []
  | (v, text) :: rest => v.outline ++ .literal text :: outlineOfParts rest
termination_by structural ps => ps

/-- The tokens of the members of a join list and of the texts after them. -/
def outlineOfMembers : List Value → List (Token Value)
  | [] => []
  | v :: rest =>
    v.outline ++ .literal (if rest.isEmpty then "" else Fragment.separator) :: outlineOfMembers rest
termination_by structural vs => vs

end

/-- The primitive that a value is, if it is one. -/
def Value.primitive? : Value → Option Primitive
  | .primitive p => some p
  | _ => none

namespace Fragment

/-- The tokens of a fragment. -/
def outline (f : Fragment Value) : List (Token Value) := (Value.fragment f).outline

/-- The leaves of a fragment: all that stands in it and in what is nested in it, and is neither a
fragment nor a join list. -/
def leaves (f : Fragment Value) : List Value := Token.leaves f.outline

/-- The leaves that can be bound. -/
def primitives (f : Fragment Value) : List Primitive := f.leaves.filterMap Value.primitive?

/-- The numbers that the leaves get, in their order. -/
def numbers (f : Fragment Value) : List Nat := (addAllBy Primitive.sameValue [] f.primitives).1

/-- The parameters that the leaves get. -/
def parameters (f : Fragment Value) : List Primitive :=
  (addAllBy Primitive.sameValue [] f.primitives).2

theorem primitives_of_leaves {f : Fragment Value} {ps : List Primitive}
    (h : f.leaves = ps.map .primitive) : f.primitives = ps := by
  rw [primitives, h, List.filterMap_map]
  exact List.filterMap_some

end Fragment

/-! ### Expanding token by token -/

/-- Adds a token at the end of what was made so far. -/
def Token.add (style : Style) (x : Expansion) : Token Value → Except Failure Expansion
  | .literal text => .ok (x.write (style.escapeLiteral text))
  | .empty => .ok (x.write emptyJoin)
  | .leaf (.primitive p) => .ok (x.leaf style p)
  | .leaf v => .error (.unsupported v)

mutual

/-- **Expanding a value is adding its tokens.** -/
theorem Value.expand_eq_foldlM (style : Style) :
    ∀ (v : Value) (x : Expansion), v.expand style x = v.outline.foldlM (Token.add style) x
  | .fragment ⟨opening, parts, _⟩, x => by
    simp only [Value.expand, Value.outline, List.foldlM_cons, Token.add]
    exact expandParts_eq_foldlM style parts _
  | .join [], x => rfl
  | .join (v :: vs), x => by
    simp only [Value.expand, Value.outline, List.foldlM_cons, Token.add]
    exact expandMembers_eq_foldlM style (v :: vs) _
  | .primitive _, x | .list .., x | .tuple _, x | .dict _, x | .record _, x | .handle .., x
  | .statistics _, x | .run _, x | .query .., x | .statement .., x => rfl
termination_by structural v => v

theorem expandParts_eq_foldlM (style : Style) : ∀ (parts : List (Value × String)) (x : Expansion),
    expandParts style parts x = (outlineOfParts parts).foldlM (Token.add style) x
  | [], x => rfl
  | (v, text) :: rest, x => by
    simp only [expandParts, outlineOfParts, List.foldlM_append, List.foldlM_cons, Token.add,
      Value.expand_eq_foldlM style v x]
    cases v.outline.foldlM (Token.add style) x with
    | error e => rfl
    | ok y => exact expandParts_eq_foldlM style rest _
termination_by structural parts => parts

theorem expandMembers_eq_foldlM (style : Style) : ∀ (members : List Value) (x : Expansion),
    expandMembers style members x = (outlineOfMembers members).foldlM (Token.add style) x
  | [], x => rfl
  | v :: rest, x => by
    simp only [expandMembers, outlineOfMembers, List.foldlM_append, List.foldlM_cons, Token.add,
      Value.expand_eq_foldlM style v x]
    cases v.outline.foldlM (Token.add style) x with
    | error e => rfl
    | ok y => exact expandMembers_eq_foldlM style rest _
termination_by structural members => members

end

/-- Tokens whose leaves are primitives can always be added: the text grows by the tokens, with
the numbers of the leaves, and the parameters are those of the numbering. -/
theorem Token.foldlM_add (style : Style) (tokens : List (Token Value)) {ps : List Primitive}
    (h : Token.leaves tokens = ps.map .primitive) (x : Expansion) :
    tokens.foldlM (Token.add style) x =
      .ok ⟨x.query ++ Token.spell style tokens (addAllBy Primitive.sameValue x.values ps).1,
        (addAllBy Primitive.sameValue x.values ps).2⟩ := by
  induction tokens generalizing ps x with
  | nil =>
    obtain rfl : ps = [] := by simpa [Token.leaves] using h.symm
    simp [Token.spell, addAllBy, pure, Except.pure]
  | cons token tokens ih =>
    cases token with
    | literal text =>
      rw [List.foldlM_cons]
      exact (ih h _).trans (by simp [Token.spell, Expansion.write, String.append_assoc])
    | empty =>
      rw [List.foldlM_cons]
      exact (ih h _).trans (by simp [Token.spell, Expansion.write, String.append_assoc])
    | leaf v =>
      cases ps with
      | nil => simp [Token.leaves, Token.leaf?] at h
      | cons p ps =>
        obtain ⟨rfl, hrest⟩ : v = .primitive p ∧ Token.leaves tokens = ps.map .primitive := by
          simpa [Token.leaves, Token.leaf?] using h
        rw [List.foldlM_cons, addAllBy_cons]
        exact (ih hrest _).trans (by
          simp [Token.spell, Expansion.leaf, Expansion.addValue, String.append_assoc])

/-- **Expansion of a fragment**: if all leaves are primitives, it succeeds. -/
theorem Fragment.expand_eq (style : Style) {f : Fragment Value} {ps : List Primitive}
    (h : f.leaves = ps.map .primitive) :
    f.expand style = .ok ⟨Token.spell style f.outline f.numbers, f.parameters⟩ := by
  rw [Fragment.expand, Value.expand_eq_foldlM]
  refine (Token.foldlM_add style f.outline h {}).trans ?_
  simp [Fragment.numbers, Fragment.parameters, primitives_of_leaves h]

end SqlWeave
