import SqlWeave.Proofs.Fragment.Parameters

/-!
# No value reaches the query

Two fragments have the same shape if they have the same literal texts at every node, the same
nesting, join lists of the same lengths, and a primitive wherever the other one has a primitive
(`Fragment.SameShape`). **`Fragment.expand_noninterference`**: two fragments of the same shape
get the same numbers in the same order if and only if their leaves repeat each other at the same
places (`RepeatAlike`), and then their queries are the same text in every style. All that a query
tells about the values is which of them are the same.

The two expansions are compared through the outlines of the two trees, which differ in nothing
but the leaves (`Token.Alike`), and through the numberings of the two lists of leaves.
-/

namespace SqlWeave

open Expansion

mutual

/-- Two values that differ in nothing but the primitives in them. -/
def Value.SameShape : Value → Value → Prop
  | .primitive _, .primitive _ => True
  | .fragment ⟨s, ps, _⟩, .fragment ⟨t, qs, _⟩ => s = t ∧ SameShapeParts ps qs
  | .join vs, .join ws => SameShapeMembers vs ws
  | _, _ => False
termination_by structural v => v

/-- The same for values with the literal texts after them. -/
def SameShapeParts : List (Value × String) → List (Value × String) → Prop
  | [], [] => True
  | (v, s) :: ps, (w, t) :: qs => v.SameShape w ∧ s = t ∧ SameShapeParts ps qs
  | _, _ => False
termination_by structural ps => ps

/-- The same for the members of join lists. -/
def SameShapeMembers : List Value → List Value → Prop
  | [], [] => True
  | v :: vs, w :: ws => v.SameShape w ∧ SameShapeMembers vs ws
  | _, _ => False
termination_by structural vs => vs

end

/-- Two fragments that differ in nothing but the primitives in them. -/
def Fragment.SameShape (f g : Fragment Value) : Prop :=
  (Value.fragment f).SameShape (Value.fragment g)

/-- The leaves repeat each other at the same places. -/
def RepeatAlike (ps qs : List Primitive) : Prop :=
  ∀ (i j : Nat) (_ : i < j) (_ : j < ps.length) (_ : j < qs.length),
    ps[i].sameValue ps[j] = qs[i].sameValue qs[j]

/-! ### Outlines of the same shape -/

/-- Two tokens that are the same, or two primitive leaves. -/
inductive Token.Alike : Token Value → Token Value → Prop where
  /-- The same literal text. -/
  | literal (text : String) : Alike (.literal text) (.literal text)
  /-- Two empty join lists. -/
  | empty : Alike .empty .empty
  /-- Two primitives. -/
  | leaf (p q : Primitive) : Alike (.leaf (.primitive p)) (.leaf (.primitive q))

theorem SameShapeMembers.isEmpty_eq {vs ws : List Value} (h : SameShapeMembers vs ws) :
    vs.isEmpty = ws.isEmpty := by
  cases vs <;> cases ws <;> first | rfl | exact h.elim

theorem Value.SameShape.of_primitive {p : Primitive} {w : Value}
    (h : (Value.primitive p).SameShape w) : ∃ q, w = .primitive q := by
  cases w with
  | primitive q => exact ⟨q, rfl⟩
  | _ => exact h.elim

theorem Value.SameShape.of_fragment {f : Fragment Value} {w : Value}
    (h : (Value.fragment f).SameShape w) :
    ∃ g, w = .fragment g ∧ f.opening = g.opening ∧ SameShapeParts f.parts g.parts := by
  cases w with
  | fragment g => exact ⟨g, rfl, h⟩
  | _ => exact h.elim

theorem Value.SameShape.of_join {vs : List Value} {w : Value} (h : (Value.join vs).SameShape w) :
    ∃ ws, w = .join ws ∧ SameShapeMembers vs ws := by
  cases w with
  | join ws => exact ⟨ws, rfl, h⟩
  | _ => exact h.elim

mutual

/-- Values of the same shape have the same outline but for the leaves. -/
theorem Value.SameShape.outline : ∀ {v w : Value}, v.SameShape w →
    List.Forall₂ Token.Alike v.outline w.outline
  | .primitive p, w, h => by
    obtain ⟨q, rfl⟩ := h.of_primitive
    exact .cons (.leaf p q) .nil
  | .fragment ⟨s, ps, _⟩, w, h => by
    obtain ⟨⟨t, qs, _⟩, rfl, rfl, hps⟩ := h.of_fragment
    exact .cons (.literal s) (SameShapeParts.outline hps)
  | .join [], w, h => by
    obtain ⟨ws, rfl, hws⟩ := h.of_join
    cases ws with
    | nil => exact .cons .empty .nil
    | cons _ _ => exact hws.elim
  | .join (v :: vs), w, h => by
    obtain ⟨ws, rfl, hws⟩ := h.of_join
    cases ws with
    | nil => exact hws.elim
    | cons w ws => exact .cons (.literal "") (SameShapeMembers.outline hws)
  | .list .., w, h | .tuple _, w, h | .dict _, w, h | .record _, w, h | .handle .., w, h
  | .statistics _, w, h | .run _, w, h | .query .., w, h | .statement .., w, h => by
    cases w <;> exact h.elim
termination_by structural v => v

theorem SameShapeParts.outline : ∀ {ps qs : List (Value × String)}, SameShapeParts ps qs →
    List.Forall₂ Token.Alike (outlineOfParts ps) (outlineOfParts qs)
  | [], qs, h => by
    cases qs with
    | nil => exact .nil
    | cons _ _ => exact h.elim
  | (v, s) :: ps, qs, h => by
    cases qs with
    | nil => exact h.elim
    | cons q qs =>
      obtain ⟨hv, rfl, hps⟩ := h
      exact List.rel_append hv.outline (.cons (.literal _) (SameShapeParts.outline hps))
termination_by structural ps => ps

theorem SameShapeMembers.outline : ∀ {vs ws : List Value}, SameShapeMembers vs ws →
    List.Forall₂ Token.Alike (outlineOfMembers vs) (outlineOfMembers ws)
  | [], ws, h => by
    cases ws with
    | nil => exact .nil
    | cons _ _ => exact h.elim
  | v :: vs, ws, h => by
    cases ws with
    | nil => exact h.elim
    | cons w ws =>
      obtain ⟨hv, hvs⟩ := h
      rw [outlineOfMembers, outlineOfMembers, hvs.isEmpty_eq]
      exact List.rel_append hv.outline (.cons (.literal _) (SameShapeMembers.outline hvs))
termination_by structural vs => vs

end

/-- Outlines that are the same but for the leaves have as many leaves, all of them primitives. -/
theorem Token.Alike.leaves {tokens others : List (Token Value)}
    (h : List.Forall₂ Token.Alike tokens others) :
    ∃ ps qs : List Primitive, ps.length = qs.length ∧ Token.leaves tokens = ps.map .primitive ∧
      Token.leaves others = qs.map .primitive := by
  induction h with
  | nil => exact ⟨[], [], rfl, rfl, rfl⟩
  | cons hd _ ih =>
    obtain ⟨ps, qs, hlen, hp, hq⟩ := ih
    cases hd with
    | literal text => exact ⟨ps, qs, hlen, hp, hq⟩
    | empty => exact ⟨ps, qs, hlen, hp, hq⟩
    | leaf p q =>
      refine ⟨p :: ps, q :: qs, by simp [hlen], ?_, ?_⟩
      · rw [List.map_cons, ← hp]
        rfl
      · rw [List.map_cons, ← hq]
        rfl

/-- Such outlines are written as the same text with the same numbers. -/
theorem Token.Alike.spell (style : Style) {tokens others : List (Token Value)}
    (h : List.Forall₂ Token.Alike tokens others) (numbers : List Nat) :
    Token.spell style tokens numbers = Token.spell style others numbers := by
  induction h generalizing numbers with
  | nil => rfl
  | cons hd _ ih =>
    cases hd with
    | literal text => simp only [Token.spell, ih]
    | empty => simp only [Token.spell, ih]
    | leaf p q => cases numbers <;> simp only [Token.spell, ih]

/-! ### Two numberings -/

/-- Two lists of leaves, as many in one as in the other, get the same numbers if and only if they
repeat each other at the same places. -/
theorem addAllBy_eq_iff_repeatAlike {ps qs : List Primitive} (hlen : ps.length = qs.length) :
    (addAllBy Primitive.sameValue [] ps).1 = (addAllBy Primitive.sameValue [] qs).1 ↔
      RepeatAlike ps qs := by
  constructor
  · -- A number tells which leaves are the same, and the numbers are equal.
    intro h i j hij hp hq
    have hps := addAllBy_length Primitive.sameValue [] ps
    have hqs := addAllBy_length Primitive.sameValue [] qs
    have h1 := List.pairwise_iff_getElem.mp (addAllBy_pairwise Primitive.sharing .nil ps) i j
      (by simp; omega) (by simp; omega) hij
    have h2 := List.pairwise_iff_getElem.mp (addAllBy_pairwise Primitive.sharing .nil qs) i j
      (by simp; omega) (by simp; omega) hij
    simp only [List.getElem_zip] at h1 h2
    rw [Bool.eq_iff_iff, ← h1, ← h2]
    simp only [h]
  · intro h
    have hpair : (ps.zip qs).Pairwise fun a b => a.1.sameValue b.1 = a.2.sameValue b.2 := by
      rw [List.pairwise_iff_getElem]
      intro i j hi hj hij
      simp only [List.length_zip] at hi hj
      simp only [List.getElem_zip]
      exact h i j hij (by omega) (by omega)
    have hcongr := addAllBy_congr Primitive.sameValue [] (ps.zip qs) hpair
    rwa [List.map_fst_zip (by omega), List.map_snd_zip (by omega)] at hcongr

/-- **No value reaches the query.** Two fragments of the same shape, whose leaves are therefore all
primitives, can both be expanded in every style. Their leaves get the same numbers in the same
order if and only if they repeat each other at the same places, and then the two queries are the
same. -/
theorem Fragment.expand_noninterference (style : Style) (f g : Fragment Value)
    (h : f.SameShape g) :
    ∃ x y, f.expand style = .ok x ∧ g.expand style = .ok y ∧
      f.leaves = f.primitives.map .primitive ∧ g.leaves = g.primitives.map .primitive ∧
      x.query = Token.spell style f.outline f.numbers ∧
      y.query = Token.spell style g.outline g.numbers ∧
      (f.numbers = g.numbers ↔ RepeatAlike f.primitives g.primitives) ∧
      (f.numbers = g.numbers → x.query = y.query) := by
  have hout := Value.SameShape.outline h
  obtain ⟨ps, qs, hlen, hp, hq⟩ := Token.Alike.leaves hout
  have hfp : f.leaves = ps.map .primitive := hp
  have hgq : g.leaves = qs.map .primitive := hq
  refine ⟨_, _, expand_eq style hp, expand_eq style hq, by rw [primitives_of_leaves hp, hfp],
    by rw [primitives_of_leaves hq, hgq], rfl, rfl, ?_, fun hn => ?_⟩
  · rw [numbers_eq hp, numbers_eq hq, primitives_of_leaves hp, primitives_of_leaves hq]
    exact addAllBy_eq_iff_repeatAlike hlen
  · rw [hn]
    exact Token.Alike.spell style hout g.numbers

/-- A fragment of the same shape as `Fragment.mixed` with other values, one of them a text that
looks like a statement. -/
def Fragment.mixedOther : Fragment Value :=
  ⟨"a::int = ",
    [(.fragment ⟨"", [(.text "'; DROP TABLE t; --", " + "), (.int 7, "")], none⟩, " AND b IN ("),
      (.join [.text "'; DROP TABLE t; --", .join [], .primitive (.bytes [0])], ") OR c = "),
      (.null, "")], none⟩

theorem Fragment.expand_noninterference_mixed :
    mixed.SameShape mixedOther ∧ ∃ x y, mixed.expand .numbered = .ok x ∧
      mixedOther.expand .numbered = .ok y ∧ RepeatAlike mixed.primitives mixedOther.primitives ∧
      x.query = y.query := by
  have hshape : mixed.SameShape mixedOther :=
    ⟨rfl, ⟨rfl, trivial, rfl, trivial, rfl, trivial⟩, rfl, ⟨trivial, trivial, trivial, trivial⟩, rfl,
      trivial, rfl, trivial⟩
  obtain ⟨x, y, hx, hy, -, -, -, -, hrepeat, hquery⟩ :=
    expand_noninterference .numbered mixed mixedOther hshape
  have hnumbers : mixed.numbers = mixedOther.numbers := by decide +kernel
  exact ⟨hshape, x, y, hx, hy, hrepeat.mp hnumbers, hquery hnumbers⟩

end SqlWeave
