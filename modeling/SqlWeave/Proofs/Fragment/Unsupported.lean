import SqlWeave.Proofs.Fragment.Flat
import SqlWeave.Proofs.Fragment.Spot

/-!
# Leaves that cannot be bound

A leaf that is no primitive cannot be bound (`Value.isUnsupported`). Every leaf of a tree stands at a
spot of it, behind the leaves that come before it in the walk (`Value.exists_spot`), and adding
tokens stops at the first leaf that cannot be bound (`Token.foldlM_add_eq_error_iff`).

**`Fragment.expand_unsupported`**: a fragment fails to expand if and only if such a leaf stands
somewhere in it, at whatever depth, and the failure names the first one. Neither the style nor
anything behind that leaf matters.
-/

namespace SqlWeave

open Expansion

/-- Whether a value is neither expanded further nor bound. -/
def Value.isUnsupported : Value → Bool
  | .primitive _ => false
  | .fragment _ => false
  | .join _ => false
  | _ => true

/-! ### Adding tokens -/

namespace Token

@[simp] theorem leaves_nil {α : Type} : leaves ([] : List (Token α)) = [] := rfl

@[simp] theorem leaves_literal {α : Type} (text : String) (tokens : List (Token α)) :
    leaves (.literal text :: tokens) = leaves tokens := rfl

@[simp] theorem leaves_empty {α : Type} (tokens : List (Token α)) :
    leaves (.empty :: tokens) = leaves tokens := rfl

@[simp] theorem leaves_leaf {α : Type} (v : α) (tokens : List (Token α)) :
    leaves (.leaf v :: tokens) = v :: leaves tokens := rfl

@[simp] theorem leaves_append {α : Type} (tokens tokens' : List (Token α)) :
    leaves (tokens ++ tokens') = leaves tokens ++ leaves tokens' := List.filterMap_append

theorem add_of_unsupported (style : Style) (x : Expansion) {v : Value}
    (h : v.primitive? = none) : add style x (.leaf v) = .error (.unsupported v) := by
  cases v with
  | primitive p => cases h
  | _ => rfl

/-- **Adding tokens fails** exactly at the first leaf that is no primitive. -/
theorem foldlM_add_eq_error_iff (style : Style) {tokens : List (Token Value)} (x : Expansion)
    {e : Failure} :
    tokens.foldlM (add style) x = .error e ↔
      ∃ v, (leaves tokens).find? (·.primitive?.isNone) = some v ∧ e = .unsupported v := by
  induction tokens generalizing x with
  | nil => simp [pure, Except.pure]
  | cons token tokens ih =>
    rw [List.foldlM_cons]
    cases token with
    | literal text => exact ih _
    | empty => exact ih _
    | leaf v =>
      cases hv : v.primitive? with
      | none =>
        rw [add_of_unsupported style x hv, leaves_leaf, List.find?_cons_of_pos (by simp [hv])]
        constructor
        · intro h
          exact ⟨v, rfl, (Except.error.inj h).symm⟩
        · rintro ⟨w, hw, rfl⟩
          rw [Option.some.inj hw]
          rfl
      | some p =>
        obtain rfl : v = .primitive p := by
          cases v <;> simp_all [Value.primitive?]
        rw [leaves_leaf, List.find?_cons_of_neg (by simp [hv])]
        exact ih _

end Token

/-! ### Leaves and spots -/

/-- An entry of a list that is put together of two is in the first or in the second. -/
theorem append_eq_append_cons {α : Type} {xs ys before after : List α} {v : α}
    (h : xs ++ ys = before ++ v :: after) :
    (∃ rest, xs = before ++ v :: rest) ∨
      ∃ first, before = xs ++ first ∧ ys = first ++ v :: after := by
  rcases List.append_eq_append_iff.mp h with ⟨first, rfl, rfl⟩ | ⟨rest, rfl, hrest⟩
  · exact .inr ⟨first, rfl, rfl⟩
  · cases rest with
    | nil => exact .inr ⟨[], by simp, by simpa using hrest.symm⟩
    | cons w rest =>
      obtain ⟨rfl, -⟩ := List.cons.inj hrest
      exact .inl ⟨rest, rfl⟩

mutual

/-- **Every leaf stands at a spot**, behind the leaves that come before it. -/
theorem Value.exists_spot : ∀ (w : Value) {before after : List Value} {v : Value},
    Token.leaves w.outline = before ++ v :: after →
      ∃ spot : Spot, spot.fill v = w ∧ Token.leaves spot.before = before
  | .fragment ⟨opening, parts, origin⟩, before, after, v, h => by
    obtain ⟨ps, inner, text, qs, rfl, hbefore⟩ := exists_spot_parts parts h
    exact ⟨.part opening ps inner text qs origin, rfl, hbefore⟩
  | .join [], before, after, v, h => by
    simp [Value.outline] at h
  | .join (w :: ws), before, after, v, h => by
    obtain ⟨vs, inner, us, hmembers, hbefore⟩ := exists_spot_members (w :: ws) h
    exact ⟨.member vs inner us, congrArg _ hmembers.symm, hbefore⟩
  | .primitive _, before, after, v, h | .list .., before, after, v, h | .tuple _, before, after, v, h
  | .dict _, before, after, v, h | .record _, before, after, v, h | .handle .., before, after, v, h
  | .statistics _, before, after, v, h | .run _, before, after, v, h | .query .., before, after, v, h
  | .statement .., before, after, v, h => by
    obtain ⟨rfl, hv⟩ | ⟨-, hv⟩ := List.append_eq_singleton_iff.mp h.symm
    · exact ⟨.top, (List.cons.inj hv).1, rfl⟩
    · cases hv
termination_by structural w => w

theorem exists_spot_parts : ∀ (parts : List (Value × String)) {before after : List Value} {v : Value},
    Token.leaves (outlineOfParts parts) = before ++ v :: after →
      ∃ (ps : List (Value × String)) (inner : Spot) (text : String) (qs : List (Value × String)),
        parts = ps ++ (inner.fill v, text) :: qs ∧
          Token.leaves (outlineOfParts ps ++ inner.before) = before
  | [], before, after, v, h => by simp [outlineOfParts] at h
  | (w, text) :: rest, before, after, v, h => by
    rw [outlineOfParts, Token.leaves_append, Token.leaves_literal] at h
    obtain ⟨_, hw⟩ | ⟨first, rfl, hrest⟩ := append_eq_append_cons h
    · obtain ⟨inner, rfl, hbefore⟩ := Value.exists_spot w hw
      exact ⟨[], inner, text, rest, rfl, hbefore⟩
    · obtain ⟨ps, inner, text', qs, rfl, rfl⟩ := exists_spot_parts rest hrest
      exact ⟨(w, text) :: ps, inner, text', qs, rfl, by simp [outlineOfParts]⟩
termination_by structural parts => parts

theorem exists_spot_members : ∀ (members : List Value) {before after : List Value} {v : Value},
    Token.leaves (outlineOfMembers members) = before ++ v :: after →
      ∃ (vs : List Value) (inner : Spot) (us : List Value),
        members = vs ++ inner.fill v :: us ∧
          Token.leaves (vs.flatMap (fun v => v.outline ++ [.literal Fragment.separator]) ++
            inner.before) = before
  | [], before, after, v, h => by simp [outlineOfMembers] at h
  | w :: rest, before, after, v, h => by
    rw [outlineOfMembers, Token.leaves_append, Token.leaves_literal] at h
    obtain ⟨_, hw⟩ | ⟨first, rfl, hrest⟩ := append_eq_append_cons h
    · obtain ⟨inner, rfl, hbefore⟩ := Value.exists_spot w hw
      exact ⟨[], inner, rest, rfl, hbefore⟩
    · obtain ⟨vs, inner, us, rfl, rfl⟩ := exists_spot_members rest hrest
      exact ⟨w :: vs, inner, us, rfl, by simp⟩
termination_by structural members => members

end

/-- A value that cannot be bound is a leaf. -/
theorem Value.isUnsupported_iff {v : Value} :
    v.isUnsupported = true ↔ v.outline = [.leaf v] ∧ v.primitive? = none := by
  cases v with
  | primitive p => simp [isUnsupported, primitive?]
  | fragment f => simp [isUnsupported, outline]
  | join members => cases members <;> simp [isUnsupported, outline]
  | _ => exact ⟨fun _ => ⟨rfl, rfl⟩, fun _ => rfl⟩

namespace Fragment

/-- A leaf that cannot be bound stands at a spot of a fragment, and no such leaf comes before it. -/
structure FirstUnsupported (f : Fragment Value) (spot : Spot) (v : Value) : Prop where
  /-- The leaf stands at the spot. -/
  fill : spot.fill v = .fragment f
  /-- It cannot be bound. -/
  unsupported : v.isUnsupported = true
  /-- All leaves before the spot can be bound. -/
  first : ∀ w ∈ Token.leaves spot.before, w.isUnsupported = false

theorem expand_eq_error_iff (style : Style) {f : Fragment Value} {e : Failure} :
    f.expand style = .error e ↔
      ∃ v, f.leaves.find? (·.primitive?.isNone) = some v ∧ e = .unsupported v := by
  rw [expand, Value.expand_eq_foldlM, Token.foldlM_add_eq_error_iff, leaves, outline]

/-- A fragment with a leaf that is no primitive, at whatever depth, cannot be expanded in any
style. -/
theorem expand_of_leaf (style : Style) {f : Fragment Value} {v : Value} (hv : v ∈ f.leaves)
    (hprimitive : v.primitive? = none) :
    ∃ u ∈ f.leaves, f.expand style = .error (.unsupported u) := by
  obtain ⟨u, hu⟩ : ∃ u, f.leaves.find? (·.primitive?.isNone) = some u :=
    Option.isSome_iff_exists.mp (List.find?_isSome.mpr ⟨v, hv, by simp [hprimitive]⟩)
  exact ⟨u, List.mem_of_find?_eq_some hu, (expand_eq_error_iff style).mpr ⟨u, hu, rfl⟩⟩

/-- The leaves of a fragment that cannot be bound are those that are no primitives. -/
theorem isUnsupported_of_mem_leaves {f : Fragment Value} {v : Value} (hv : v ∈ f.leaves) :
    v.isUnsupported = v.primitive?.isNone := by
  have houtline : v.outline = [.leaf v] := Value.outline_of_mem_leaves (.fragment f) v hv
  rw [Bool.eq_iff_iff, Value.isUnsupported_iff, Option.isNone_iff_eq_none]
  exact and_iff_right houtline

/-- The leaf at a spot comes between those before the spot and those after it. -/
theorem leaves_of_fill {f : Fragment Value} {spot : Spot} {v : Value} (hv : v.isUnsupported = true)
    (hfill : spot.fill v = .fragment f) :
    f.leaves = Token.leaves spot.before ++ v :: Token.leaves spot.after := by
  rw [leaves, outline, ← hfill, Spot.outline_fill, (Value.isUnsupported_iff.mp hv).1]
  simp

/-- The first leaf that is no primitive is the first one that cannot be bound. -/
theorem find?_leaves_iff {f : Fragment Value} {v : Value} :
    f.leaves.find? (·.primitive?.isNone) = some v ↔ ∃ spot, f.FirstUnsupported spot v := by
  rw [List.find?_eq_some_iff_append]
  constructor
  · rintro ⟨hv, before, after, hleaves, hbefore⟩
    obtain ⟨spot, hfill, rfl⟩ := Value.exists_spot (.fragment f) hleaves
    refine ⟨spot, hfill, ?_, fun w hw => ?_⟩
    · rw [isUnsupported_of_mem_leaves (f := f) (by simp [hleaves])]
      exact hv
    · rw [isUnsupported_of_mem_leaves (f := f) (by simp [hleaves, hw])]
      simpa using hbefore w hw
  · rintro ⟨spot, hspot⟩
    have hleaves := leaves_of_fill hspot.unsupported hspot.fill
    refine ⟨?_, _, _, hleaves, fun w hw => ?_⟩
    · rw [← isUnsupported_of_mem_leaves (f := f) (by simp [hleaves])]
      exact hspot.unsupported
    · rw [← isUnsupported_of_mem_leaves (f := f) (by simp [hleaves, hw]), hspot.first w hw]
      rfl

/-- A leaf that cannot be bound decides how the expansion ends, together with the leaves before it. -/
theorem expand_congr {f g : Fragment Value} {spot spot' : Spot} {v : Value}
    (hv : v.isUnsupported = true) (hf : spot.fill v = .fragment f) (hg : spot'.fill v = .fragment g)
    (hbefore : Token.leaves spot.before = Token.leaves spot'.before) (style style' : Style) :
    f.expand style = g.expand style' := by
  have hnone : v.primitive?.isNone = true := by simp [(Value.isUnsupported_iff.mp hv).2]
  have hstop : ∀ after : List Value, (v :: after).find? (·.primitive?.isNone) = some v :=
    fun _ => List.find?_cons_of_pos hnone
  have hfind : f.leaves.find? (·.primitive?.isNone) = g.leaves.find? (·.primitive?.isNone) := by
    rw [leaves_of_fill hv hf, leaves_of_fill hv hg, hbefore, List.find?_append, List.find?_append,
      hstop, hstop]
  obtain ⟨u, hu⟩ : ∃ u, f.leaves.find? (·.primitive?.isNone) = some u :=
    Option.isSome_iff_exists.mp
      (List.find?_isSome.mpr ⟨v, by simp [leaves_of_fill hv hf], hnone⟩)
  rw [(expand_eq_error_iff style).mpr ⟨u, hu, rfl⟩,
    (expand_eq_error_iff style').mpr ⟨u, hfind ▸ hu, rfl⟩]

/-- **Expanding a fragment fails** if and only if somewhere in it, among the values of a fragment or
the members of a join list at any depth, there stands a leaf that cannot be bound. The failure names
the first such leaf. It depends on the leaves up to such a one alone, not on the style nor on anything
that comes behind. A list, a tuple and a mapping cannot be bound, whatever is in them. -/
theorem expand_unsupported (f : Fragment Value) :
    (∀ style, (∃ v, f.expand style = .error (.unsupported v)) ↔
      ∃ (spot : Spot) (v : Value), spot.fill v = .fragment f ∧ v.isUnsupported = true) ∧
    (∀ style v, f.expand style = .error (.unsupported v) ↔ ∃ spot, f.FirstUnsupported spot v) ∧
    (∀ style e, f.expand style = .error e → ∃ v, e = .unsupported v) ∧
    (∀ (g : Fragment Value) (spot spot' : Spot) (v : Value), v.isUnsupported = true →
      spot.fill v = .fragment f → spot'.fill v = .fragment g →
      Token.leaves spot.before = Token.leaves spot'.before →
      ∀ style style', f.expand style = g.expand style') ∧
    (∀ label items, (Value.list label items).isUnsupported = true) ∧
    (∀ items, (Value.tuple items).isUnsupported = true) ∧
    ∀ entries, (Value.dict entries).isUnsupported = true := by
  have hfirst : ∀ style v,
      f.expand style = .error (.unsupported v) ↔ ∃ spot, f.FirstUnsupported spot v := by
    intro style v
    rw [expand_eq_error_iff, ← find?_leaves_iff]
    constructor
    · rintro ⟨u, hu, huv⟩
      rw [Failure.unsupported.inj huv]
      exact hu
    · intro hv
      exact ⟨v, hv, rfl⟩
  refine ⟨fun style => ⟨?_, ?_⟩, hfirst, fun style e h => ?_, ?_, fun _ _ => rfl, fun _ => rfl,
    fun _ => rfl⟩
  · rintro ⟨v, hv⟩
    obtain ⟨spot, hspot⟩ := (hfirst style v).mp hv
    exact ⟨spot, v, hspot.fill, hspot.unsupported⟩
  · rintro ⟨spot, v, hfill, hv⟩
    have hmem : v ∈ f.leaves := by simp [leaves_of_fill hv hfill]
    obtain ⟨u, -, hu⟩ := expand_of_leaf style hmem (Value.isUnsupported_iff.mp hv).2
    exact ⟨u, hu⟩
  · obtain ⟨v, -, rfl⟩ := (expand_eq_error_iff style).mp h
    exact ⟨v, rfl⟩
  · intro g spot spot' v hv hf hg hbefore style style'
    exact expand_congr hv hf hg hbefore style style'

/-- The first leaf that cannot be bound stands in a fragment among the members of a join list. -/
example :
    (⟨"", [(.join [.int 1, .fragment ⟨"", [(.tuple [], "")], none⟩], ""), (.dict [], "")], none⟩ :
      Fragment Value).expand .named = .error (.unsupported (.tuple [])) := rfl

end Fragment

end SqlWeave
