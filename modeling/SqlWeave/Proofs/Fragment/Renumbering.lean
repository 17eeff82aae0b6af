import SqlWeave.Proofs.Fragment.Parameters
import SqlWeave.Proofs.Fragment.Spot

/-!
# Nested fragments are renumbered

A fragment that stands in a larger one finds parameters there that were made before it. Its leaves
still repeat each other at the same places, and numbers tell no more than that; so the text that it
contributes is its text alone with other numbers: **`Fragment.expand_renumbered`**. No two numbers
become one, and the parameter of the new number stands for the parameter of the old one
(`Renumbered`).

Which numbers these are depends on the spot only by the leaves that are not numbers: each of them
gets a parameter of its own at each spot. A fragment without such leaves has the same numbers
wherever it stands, since no two parameters are the same value.
-/

namespace SqlWeave

open Expansion

/-! ### Numbers of the same values beside other parameters -/

namespace Expansion

variable {α : Type} {same : α → α → Bool}

/-- Pairs of numbers whose first entries repeat where their second entries do are a renaming. -/
theorem exists_renaming {pairs : List (Nat × Nat)}
    (h : pairs.Pairwise fun a b => a.1 = b.1 ↔ a.2 = b.2) :
    ∃ s : Nat → Nat, (∀ e ∈ pairs, e.2 = s e.1) ∧
      ∀ a ∈ pairs, ∀ b ∈ pairs, s a.1 = s b.1 → a.1 = b.1 := by
  induction pairs with
  | nil => exact ⟨id, by simp, by simp⟩
  | cons p pairs ih =>
    obtain ⟨hp, hpairs⟩ := List.pairwise_cons.mp h
    obtain ⟨s, hs, hinj⟩ := ih hpairs
    have hupdate : ∀ e ∈ p :: pairs, e.2 = Function.update s p.1 p.2 e.1 := by
      intro e he
      by_cases hep : e.1 = p.1
      · rcases List.mem_cons.mp he with rfl | he
        · simp
        · simp [hep, (hp e he).mp hep.symm]
      · rcases List.mem_cons.mp he with rfl | he
        · exact absurd rfl hep
        · simp [hep, hs e he]
    refine ⟨Function.update s p.1 p.2, hupdate, fun a ha b hb hab => ?_⟩
    rw [← hupdate a ha, ← hupdate b hb] at hab
    rcases List.mem_cons.mp ha with rfl | ha'
    · rcases List.mem_cons.mp hb with rfl | hb'
      · rfl
      · exact (hp b hb').mpr hab
    · rcases List.mem_cons.mp hb with rfl | hb'
      · exact ((hp a ha').mpr hab.symm).symm
      · exact hinj a ha' b hb' (by rw [← hs a ha', ← hs b hb', hab])

/-- Beside any two lists of parameters, values repeat their numbers at the same places. -/
theorem addAllBy_repeat_alike (hs : Sharing same) {values others : List α}
    (hv : Distinct same values) (ho : Distinct same others) (vs : List α) :
    ((addAllBy same values vs).1.zip (addAllBy same others vs).1).Pairwise
      fun a b => a.1 = b.1 ↔ a.2 = b.2 := by
  have hleft := List.pairwise_iff_getElem.mp (addAllBy_pairwise hs hv vs)
  have hright := List.pairwise_iff_getElem.mp (addAllBy_pairwise hs ho vs)
  rw [List.pairwise_iff_getElem]
  intro i j hi hj hij
  simp only [List.length_zip, addAllBy_length, Nat.min_self, List.getElem_zip] at hi hj hleft hright ⊢
  exact (hleft i j hi hj hij).trans (hright i j hi hj hij).symm

/-- A value that is the same as nothing gets a number that was not there before. -/
theorem addAllBy_fresh (values vs : List α) :
    ∀ e ∈ (addAllBy same values vs).1.zip vs, (∀ w, same w e.2 = false) → values.length < e.1 := by
  induction vs generalizing values with
  | nil => simp [addAllBy]
  | cons v vs ih =>
    rw [addAllBy_cons, List.zip_cons_cons, List.forall_mem_cons]
    refine ⟨fun halone => ?_, fun e he halone => ?_⟩
    · rcases addBy_cases same values v with ⟨i, w, -, hsame, -⟩ | ⟨-, h⟩
      · rw [halone w] at hsame
        cases hsame
      · rw [h]
        exact Nat.lt_succ_self _
    · obtain ⟨extra, h⟩ := addBy_append same values v
      have hlt := ih _ e he halone
      rw [h, List.length_append] at hlt
      omega

/-- The numbers of all parameters that are added come up. -/
theorem mem_addAllBy_of_lt (values vs : List α) {n : Nat} (hlt : values.length < n)
    (hle : n ≤ (addAllBy same values vs).2.length) : n ∈ (addAllBy same values vs).1 := by
  induction vs generalizing values with
  | nil =>
    simp only [addAllBy] at hle
    omega
  | cons v vs ih =>
    rw [addAllBy_cons] at hle ⊢
    rcases addBy_cases same values v with ⟨i, w, -, -, h⟩ | ⟨-, h⟩
    · rw [h] at hle ⊢
      exact List.mem_cons_of_mem _ (ih values hlt hle)
    · rw [h] at hle ⊢
      by_cases hn : n = values.length + 1
      · simp [hn]
      · exact List.mem_cons_of_mem _ (ih _ (by simp; omega) hle)

/-- Every parameter was there or is one of the values. -/
theorem mem_or_mem_of_mem_addAllBy (values vs : List α) {w : α}
    (h : w ∈ (addAllBy same values vs).2) : w ∈ values ∨ w ∈ vs := by
  induction vs generalizing values with
  | nil => exact Or.inl h
  | cons v vs ih =>
    rw [addAllBy_cons] at h
    rcases ih _ h with hw | hw
    · rcases addBy_cases same values v with ⟨i, u, -, -, he⟩ | ⟨-, he⟩
      · rw [he] at hw
        exact Or.inl hw
      · rw [he] at hw
        simp only [List.mem_append, List.mem_singleton] at hw
        rcases hw with hw | rfl
        · exact Or.inl hw
        · exact Or.inr (List.mem_cons_self ..)
    · exact Or.inr (List.mem_cons_of_mem _ hw)

/-- **Beside other parameters values have other numbers, and nothing else changes**: the numbers
are those alone, renamed, and no two become one. -/
theorem addAllBy_renaming (hs : Sharing same) {values : List α} (hd : Distinct same values)
    (vs : List α) :
    ∃ s : Nat → Nat, (addAllBy same values vs).1 = (addAllBy same [] vs).1.map s ∧
      (∀ i ∈ (addAllBy same [] vs).1, ∀ j ∈ (addAllBy same [] vs).1, s i = s j → i = j) ∧
      ∀ e ∈ (addAllBy same [] vs).1.zip vs, (s e.1, e.2) ∈ (addAllBy same values vs).1.zip vs := by
  obtain ⟨s, hs, hinj⟩ := exists_renaming (addAllBy_repeat_alike hs .nil hd vs)
  have hlen : (addAllBy same [] vs).1.length = (addAllBy same values vs).1.length := by
    simp [addAllBy_length]
  have hmap : (addAllBy same values vs).1 = (addAllBy same [] vs).1.map s := by
    rw [← List.map_snd_zip (Nat.le_of_eq hlen.symm), List.map_congr_left hs, ← Function.comp_def s Prod.fst,
      ← List.map_map, List.map_fst_zip (Nat.le_of_eq hlen)]
  refine ⟨s, hmap, fun i hi j hj hij => ?_, fun e he => ?_⟩
  · rw [← List.map_fst_zip (Nat.le_of_eq hlen)] at hi hj
    obtain ⟨a, ha, rfl⟩ := List.mem_map.mp hi
    obtain ⟨b, hb, rfl⟩ := List.mem_map.mp hj
    exact hinj a ha b hb hij
  · rw [hmap, List.zip_map_left]
    exact List.mem_map.mpr ⟨e, he, rfl⟩

theorem addAllBy_append_right (same : α → α → Bool) (values vs ws : List α) :
    (addAllBy same values (vs ++ ws)).2 = (addAllBy same (addAllBy same values vs).2 ws).2 := by
  induction vs generalizing values with
  | nil => rfl
  | cons v vs ih => rw [List.cons_append, addAllBy_cons, addAllBy_cons, ih]

/-- What stands for a value stands for all that are the same. -/
theorem Stands.of_same (hs : Sharing same) {values : List α} {n : Nat} {v w : α}
    (h : Stands same values n v) (hw : same w v = true ∨ w = v) : Stands same values n w := by
  obtain ⟨i, u, hi, hu, huv⟩ := h
  refine ⟨i, u, hi, hu, ?_⟩
  rcases hw with hw | rfl
  · rcases huv with huv | rfl
    · exact Or.inl (hs.trans huv (hs.symm hw))
    · exact Or.inl (hs.symm hw)
  · exact huv

end Expansion

/-! ### The text that a nested fragment contributes -/

/-- At a spot of the tree `g`, the fragment `f` contributes its text alone with other numbers:
those that `s` gives. -/
structure Renumbered (style : Style) (f g : Fragment Value) (spot : Spot) (s : Nat → Nat) : Prop where
  /-- The text of `f` alone. -/
  alone : f.expand style = .ok ⟨Token.spell style f.outline f.numbers, f.parameters⟩
  /-- The walk over `g` comes to the spot, writes the text of `f` with the new numbers, and goes
  on. A leaf of `f` that is not a number has a parameter that was made at this spot. -/
  text : ∃ x y rest, spot.reach style {} = .ok x ∧ (Value.fragment f).expand style x = .ok y ∧
    y.query = x.query ++ Token.spell style f.outline (f.numbers.map s) ∧
    g.expand style = .ok ⟨y.query ++ rest, g.parameters⟩ ∧
    ∀ (i : Nat) (p : Primitive), f.parameters[i]? = some p → p.isNaN = true →
      x.values.length < s (i + 1) ∧ s (i + 1) ≤ y.values.length
  /-- No two numbers of `f` become one. -/
  injective : ∀ i j, 1 ≤ i → i ≤ f.parameters.length → 1 ≤ j → j ≤ f.parameters.length →
    s i = s j → i = j
  /-- The parameter of the new number stands for the parameter of the old one. -/
  refers : ∀ (i : Nat) (p : Primitive), f.parameters[i]? = some p →
    Primitive.Refers g.parameters (s (i + 1)) p

namespace Renumbered

variable {style : Style} {f g : Fragment Value} {spot other : Spot} {s t : Nat → Nat}

/-- The numbers beside others are determined, but for those of leaves that are not numbers. -/
theorem unique {ps : List Primitive} (h : g.leaves = ps.map .primitive)
    (hs : Renumbered style f g spot s) (ht : Renumbered style f g other t) {i : Nat} {p : Primitive}
    (hp : f.parameters[i]? = some p) (hn : p.isNaN = false) : s (i + 1) = t (i + 1) := by
  have hdistinct : Distinct Primitive.sameValue g.parameters := by
    rw [Fragment.parameters_eq h]
    exact addAllBy_distinct .nil ps
  have hsame : ∀ {w : Primitive}, w.Denotes p → w.sameValue p = true := by
    rintro w (hw | ⟨hnan, -⟩)
    · exact hw
    · rw [hn] at hnan
      cases hnan
  obtain ⟨hpos, -, w, hw, hwp⟩ := hs.refers i p hp
  obtain ⟨hpos', -, u, hu, hup⟩ := ht.refers i p hp
  have hindex := hdistinct.index_unique Primitive.sharing hw hu (hsame hwp) (hsame hup)
  omega

/-- Nothing but the numbers that the fragment has matters. -/
theorem congr (hs : Renumbered style f g spot s)
    (hst : ∀ i < f.parameters.length, s (i + 1) = t (i + 1)) : Renumbered style f g spot t := by
  have hlt : ∀ {i : Nat} {p : Primitive}, f.parameters[i]? = some p → s (i + 1) = t (i + 1) :=
    fun hp => hst _ (List.getElem?_eq_some_iff.mp hp).1
  have hnumbers : f.numbers.map s = f.numbers.map t := List.map_congr_left fun n hn => by
    obtain ⟨j, hj, rfl⟩ := List.getElem_of_mem hn
    have hstands := addAllBy_stands Primitive.sameValue [] f.primitives
    obtain ⟨i, w, hi, hw, -⟩ := hstands.get hj (hstands.length_eq ▸ hj)
    have hnumber : f.numbers[j] = i + 1 := hi
    rw [hnumber]
    exact hlt hw
  obtain ⟨x, y, rest, hreach, hinner, hquery, hexpand, hnan⟩ := hs.text
  refine ⟨hs.alone, ⟨x, y, rest, hreach, hinner, hnumbers ▸ hquery, hexpand, ?_⟩, ?_, ?_⟩
  · intro i p hp hn
    rw [← hlt hp]
    exact hnan i p hp hn
  · intro i j hi hi' hj hj' hij
    refine hs.injective i j hi hi' hj hj' ?_
    obtain ⟨i, rfl⟩ : ∃ k, i = k + 1 := ⟨i - 1, by omega⟩
    obtain ⟨j, rfl⟩ : ∃ k, j = k + 1 := ⟨j - 1, by omega⟩
    rw [hst i hi', hst j hj', hij]
  · intro i p hp
    rw [← hlt hp]
    exact hs.refers i p hp

end Renumbered

/-- The leaves of a tree are those before a spot, those of the value there, and those after it. -/
theorem Spot.leaves_fill {spot : Spot} {f g : Fragment Value} {ps : List Primitive}
    (hfill : spot.fill (.fragment f) = .fragment g) (h : g.leaves = ps.map .primitive) :
    ∃ earlier inner later : List Primitive, ps = earlier ++ (inner ++ later) ∧
      Token.leaves spot.before = earlier.map .primitive ∧ f.leaves = inner.map .primitive ∧
      Token.leaves spot.after = later.map .primitive := by
  have houtline : g.outline = spot.before ++ (f.outline ++ spot.after) := by
    rw [Fragment.outline, ← hfill, Spot.outline_fill]
    rfl
  rw [Fragment.leaves, houtline, Token.leaves, List.filterMap_append, List.filterMap_append,
    eq_comm, List.map_eq_append_iff] at h
  obtain ⟨earlier, rest, rfl, hbefore, hrest⟩ := h
  obtain ⟨inner, later, rfl, hinner, hafter⟩ := List.map_eq_append_iff.mp hrest
  exact ⟨earlier, inner, later, rfl, hbefore.symm, hinner.symm, hafter.symm⟩

namespace Fragment

/-- Each parameter stands for a leaf that has its number. -/
theorem exists_leaf_of_parameter {f : Fragment Value} {ps : List Primitive}
    (h : f.leaves = ps.map .primitive) {i : Nat} {p : Primitive} (hp : f.parameters[i]? = some p) :
    ∃ q, (i + 1, q) ∈ f.numbers.zip ps ∧ (p.sameValue q = true ∨ p = q) := by
  rw [parameters_eq h] at hp
  rw [numbers_eq h]
  have hlt := (List.getElem?_eq_some_iff.mp hp).1
  have hmem : i + 1 ∈ (addAllBy Primitive.sameValue [] ps).1 :=
    mem_addAllBy_of_lt [] ps (by simp) (by omega)
  obtain ⟨j, hj, hji⟩ := List.getElem_of_mem hmem
  have hlen := addAllBy_length Primitive.sameValue [] ps
  have hzip : (i + 1, ps[j]) ∈ (addAllBy Primitive.sameValue [] ps).1.zip ps := by
    rw [← hji, ← List.getElem_zip (h := by simp; omega)]
    exact List.getElem_mem _
  refine ⟨ps[j], hzip, ?_⟩
  obtain ⟨k, w, hk, hw, hsame⟩ := (addAllBy_stands Primitive.sameValue [] ps).get hj (by omega)
  obtain rfl : i = k := by
    rw [List.get_eq_getElem, hji] at hk
    omega
  rw [hp, Option.some.injEq] at hw
  subst hw
  exact hsame

/-- At every spot a fragment is renumbered. -/
theorem exists_renumbered (style : Style) {f g : Fragment Value} {ps : List Primitive}
    (h : g.leaves = ps.map .primitive) {spot : Spot}
    (hfill : spot.fill (.fragment f) = .fragment g) : ∃ s, Renumbered style f g spot s := by
  obtain ⟨earlier, inner, later, rfl, hbefore, hf, hafter⟩ := Spot.leaves_fill hfill h
  obtain ⟨x, hreach, hx⟩ : ∃ x, spot.reach style {} = .ok x ∧
      x.values = (addAllBy Primitive.sameValue [] earlier).2 :=
    ⟨_, Token.foldlM_add style spot.before hbefore {}, rfl⟩
  have hdistinct : Distinct Primitive.sameValue x.values := hx ▸ addAllBy_distinct .nil earlier
  obtain ⟨s, hmap, hinj, hzip⟩ := addAllBy_renaming Primitive.sharing hdistinct inner
  rw [← numbers_eq hf] at hmap hinj hzip
  obtain ⟨y, hinner, hquery, hy⟩ : ∃ y, (Value.fragment f).expand style x = .ok y ∧
      y.query = x.query ++ Token.spell style f.outline (f.numbers.map s) ∧
      y.values = (addAllBy Primitive.sameValue x.values inner).2 := by
    refine ⟨⟨_, _⟩, ?_, rfl, rfl⟩
    rw [Value.expand_eq_foldlM, ← hmap]
    exact Token.foldlM_add style f.outline hf x
  obtain ⟨rest, hleave⟩ : ∃ rest, spot.leave style y =
      .ok ⟨y.query ++ rest, (addAllBy Primitive.sameValue y.values later).2⟩ :=
    ⟨_, Token.foldlM_add style spot.after hafter y⟩
  have hgrown : g.parameters = (addAllBy Primitive.sameValue y.values later).2 := by
    rw [parameters_eq h, addAllBy_append_right, addAllBy_append_right, hy, hx]
  have hexpand : g.expand style = .ok ⟨y.query ++ rest, g.parameters⟩ := by
    rw [Fragment.expand, ← hfill, Spot.expand_fill, hreach, hgrown, ← hleave]
    show ((Value.fragment f).expand style x >>= spot.leave style) = _
    rw [hinner]
    rfl
  -- Each parameter of `f` alone stands for a leaf, and the leaf has a number beside the others.
  have hstands : ∀ (i : Nat) (p : Primitive), f.parameters[i]? = some p →
      Stands Primitive.sameValue y.values (s (i + 1)) p ∧
        (p.isNaN = true → x.values.length < s (i + 1)) := by
    intro i p hp
    obtain ⟨q, hq, hpq⟩ := exists_leaf_of_parameter hf hp
    have hstand : Stands Primitive.sameValue y.values (s (i + 1)) q := by
      rw [hy]
      exact (List.forall₂_iff_zip.mp (addAllBy_stands Primitive.sameValue x.values inner)).2
        (hzip _ hq)
    refine ⟨hstand.of_same Primitive.sharing hpq, fun hn => ?_⟩
    have halone : ∀ w : Primitive, w.sameValue p = false := fun w => by
      rw [Primitive.sameValue_comm]
      exact Primitive.sameValue_of_isNaN hn w
    rcases hpq with hpq | rfl
    · rw [Primitive.sameValue_of_isNaN hn] at hpq
      cases hpq
    · exact addAllBy_fresh x.values inner _ (hzip _ hq) halone
  refine ⟨s, expand_eq style hf, ⟨x, y, rest, hreach, hinner, hquery, hexpand, ?_⟩, ?_, ?_⟩
  · intro i p hp hn
    exact ⟨(hstands i p hp).2 hn, (Primitive.refers_of_stands (hstands i p hp).1).le⟩
  · have hmem : ∀ {i : Nat}, 1 ≤ i → i ≤ f.parameters.length → i ∈ f.numbers := fun h₁ h₂ => by
      rw [numbers_eq hf]
      exact mem_addAllBy_of_lt [] inner h₁ (parameters_eq hf ▸ h₂)
    exact fun i j hi hi' hj hj' => hinj i (hmem hi hi') j (hmem hj hj')
  · intro i p hp
    obtain ⟨extra, hextra⟩ := addAllBy_append Primitive.sameValue y.values later
    rw [hgrown, hextra]
    exact Primitive.refers_of_stands (hstands i p hp).1.mono

/-- **Renumbering of a nested fragment**: wherever a fragment stands in a tree whose leaves are
primitives, at any depth and in every style, it contributes its text alone with each number
replaced by another. No two numbers become one, and the parameter of the new number is the same
value as the parameter of the old one; for a leaf that is not a number it is the leaf, under a
number of its own at each spot. A fragment that has no such leaf has the same numbers at all
spots where it stands. -/
theorem expand_renumbered (style : Style) (f g : Fragment Value) (ps : List Primitive)
    (h : g.leaves = ps.map .primitive) :
    (∀ spot : Spot, spot.fill (.fragment f) = .fragment g → ∃ s, Renumbered style f g spot s) ∧
    ((∀ p ∈ f.primitives, p.isNaN = false) → ∃ s, ∀ spot : Spot,
      spot.fill (.fragment f) = .fragment g → Renumbered style f g spot s) := by
  refine ⟨fun spot hfill => exists_renumbered style h hfill, fun hnan => ?_⟩
  by_cases hsome : ∃ spot : Spot, spot.fill (.fragment f) = .fragment g
  · obtain ⟨first, hfirst⟩ := hsome
    obtain ⟨s, hs⟩ := exists_renumbered style h hfirst
    refine ⟨s, fun spot hfill => ?_⟩
    obtain ⟨t, ht⟩ := exists_renumbered style h hfill
    refine ht.congr fun i hi => ht.unique h hs (List.getElem?_eq_getElem hi) ?_
    have hmem : f.parameters[i] ∈ f.parameters := List.getElem_mem hi
    exact hnan _ ((mem_or_mem_of_mem_addAllBy [] f.primitives hmem).resolve_left (by simp))
  · exact ⟨id, fun spot hfill => absurd ⟨spot, hfill⟩ hsome⟩

/-- A fragment of an integer and a text. -/
def pair : Fragment Value := ⟨"a = ", [(.int 1, " OR b = "), (.text "x", "")], none⟩

/-- A fragment that has the pair in it twice, once among the members of a join list. -/
def twice : Fragment Value :=
  ⟨"c = ", [(.text "x", " OR d IN ("), (.join [.int 7, .fragment pair], ") OR "),
    (.fragment pair, "")], none⟩

/-- Where the pair stands first. -/
def firstSpot : Spot :=
  .part "c = " [(.text "x", " OR d IN (")] (.member [.int 7] .top []) ") OR " [(.fragment pair, "")]
    none

/-- Where it stands again. -/
def secondSpot : Spot :=
  .part "c = " [(.text "x", " OR d IN ("), (.join [.int 7, .fragment pair], ") OR ")] .top "" [] none

theorem expand_renumbered_twice :
    twice.leaves = [.text "x", .int 7, .int 1, .text "x", .int 1, .text "x"].map .primitive ∧
      (∀ p ∈ pair.primitives, p.isNaN = false) ∧
      firstSpot.fill (.fragment pair) = .fragment twice ∧
      secondSpot.fill (.fragment pair) = .fragment twice ∧
      (∃ s, Renumbered .named pair twice firstSpot s) ∧
      ∃ s, Renumbered .named pair twice firstSpot s ∧ Renumbered .named pair twice secondSpot s := by
  have hnan : ∀ p ∈ pair.primitives, p.isNaN = false := by decide +kernel
  obtain ⟨hany, hall⟩ := expand_renumbered .named pair twice
    [.text "x", .int 7, .int 1, .text "x", .int 1, .text "x"] rfl
  obtain ⟨s, hs⟩ := hall hnan
  exact ⟨rfl, hnan, rfl, rfl, hany firstSpot rfl, s, hs firstSpot rfl, hs secondSpot rfl⟩

end Fragment

end SqlWeave
