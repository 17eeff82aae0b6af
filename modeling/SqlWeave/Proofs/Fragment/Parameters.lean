import SqlWeave.Proofs.Fragment.Outline
import SqlWeave.Proofs.Placeholder.Binding

/-!
# The parameters of a fragment

A fragment whose leaves are primitives expands to a query and a list of parameters that belong
together:

* **`Fragment.expand_faithful`**: the query is the outline of the fragment, each leaf written as
  the placeholder of a number, and the parameter of that number is the same value as the leaf.
  A driver that looks the placeholder up finds that parameter;
* **`Fragment.expand_minimal`**: the parameters are the leaves without those that are the same
  value as an earlier leaf, whatever the style, and the numbers come in the order of first use
  without a gap.

A not-a-number is the same value as nothing. It is kept as a parameter each time.
-/

namespace SqlWeave

open Expansion

namespace Primitive

theorem sharing : Sharing sameValue where
  symm h := by rwa [sameValue_comm]
  trans := sameValue_trans

/-- What a parameter is to a leaf that it stands for: the same value, or the very leaf, if that is
not a number. -/
def Denotes (w p : Primitive) : Prop := w.sameValue p = true ∨ (p.isNaN = true ∧ w = p)

/-- The parameter of a number stands for a leaf. -/
structure Refers (values : List Primitive) (n : Nat) (p : Primitive) : Prop where
  pos : 1 ≤ n
  le : n ≤ values.length
  denotes : ∃ w, values[n - 1]? = some w ∧ w.Denotes p

theorem refers_of_stands {values : List Primitive} {n : Nat} {p : Primitive}
    (h : Stands sameValue values n p) : Refers values n p := by
  obtain ⟨i, w, rfl, hw, hp⟩ := h
  have hlt : i < values.length := (List.getElem?_eq_some_iff.mp hw).1
  refine ⟨by omega, by omega, w, by simpa using hw, ?_⟩
  rcases hp with hp | rfl
  · exact Or.inl hp
  · -- The leaf itself is the same value, unless it is not a number.
    cases hn : w.isNaN with
    | false => exact Or.inl (sameValue_self_iff.mpr hn)
    | true => exact Or.inr ⟨hn, rfl⟩

end Primitive

namespace Fragment

theorem numbers_eq {f : Fragment Value} {ps : List Primitive} (h : f.leaves = ps.map .primitive) :
    f.numbers = (addAllBy Primitive.sameValue [] ps).1 := by
  rw [numbers, primitives_of_leaves h]

theorem parameters_eq {f : Fragment Value} {ps : List Primitive}
    (h : f.leaves = ps.map .primitive) :
    f.parameters = (addAllBy Primitive.sameValue [] ps).2 := by
  rw [parameters, primitives_of_leaves h]

/-- The number of each leaf refers to the leaf. -/
theorem numbers_refer {f : Fragment Value} {ps : List Primitive}
    (h : f.leaves = ps.map .primitive) :
    List.Forall₂ (Primitive.Refers f.parameters) f.numbers ps := by
  rw [numbers_eq h, parameters_eq h]
  exact (addAllBy_stands Primitive.sameValue [] ps).imp fun _ _ => Primitive.refers_of_stands

/-- Two leaves at different places have one number if and only if they are the same value. -/
theorem numbers_getElem?_eq_iff {f : Fragment Value} {ps : List Primitive}
    (h : f.leaves = ps.map .primitive) {i j : Nat} (hij : i ≠ j) {p q : Primitive}
    (hp : ps[i]? = some p) (hq : ps[j]? = some q) :
    f.numbers[i]? = f.numbers[j]? ↔ p.sameValue q = true := by
  obtain ⟨hi, rfl⟩ := List.getElem?_eq_some_iff.mp hp
  obtain ⟨hj, rfl⟩ := List.getElem?_eq_some_iff.mp hq
  have hlen : f.numbers.length = ps.length := by rw [numbers_eq h, addAllBy_length]
  have hpair : (f.numbers.zip ps).Pairwise fun a b => a.1 = b.1 ↔ a.2.sameValue b.2 = true := by
    rw [numbers_eq h]
    exact addAllBy_pairwise Primitive.sharing .nil ps
  have hlt : ∀ i j (hi : i < ps.length) (hj : j < ps.length), i < j →
      (f.numbers[i]? = f.numbers[j]? ↔ ps[i].sameValue ps[j] = true) := by
    intro i j hi hj hij
    have hz := List.pairwise_iff_getElem.mp hpair i j (by simp; omega) (by simp; omega) hij
    rw [List.getElem_zip, List.getElem_zip] at hz
    rw [List.getElem?_eq_getElem (by omega), List.getElem?_eq_getElem (by omega),
      Option.some.injEq]
    exact hz
  rcases Nat.lt_or_gt_of_ne hij with hij | hij
  · exact hlt i j hi hj hij
  · rw [eq_comm, Primitive.sameValue_comm]
    exact hlt j i hj hi hij

/-- No other leaf has the number of a leaf that is not a number. -/
theorem numbers_unique_of_isNaN {f : Fragment Value} {ps : List Primitive}
    (h : f.leaves = ps.map .primitive) {i j : Nat} {p : Primitive} (hp : ps[i]? = some p)
    (hn : p.isNaN = true) (he : f.numbers[i]? = f.numbers[j]?) : i = j := by
  by_contra hij
  have hlen : f.numbers.length = ps.length := by rw [numbers_eq h, addAllBy_length]
  have hi := (List.getElem?_eq_some_iff.mp hp).1
  rw [List.getElem?_eq_getElem (by omega), eq_comm] at he
  have hj := (List.getElem?_eq_some_iff.mp he).1
  have hq : ps[j]? = some ps[j] := List.getElem?_eq_getElem (by omega)
  have hsame := (numbers_getElem?_eq_iff h hij hp hq).mp (by
    rw [he, List.getElem?_eq_getElem (by omega)])
  rw [Primitive.sameValue_of_isNaN hn] at hsame
  cases hsame

/-- **Faithful expansion**: if all leaves of a fragment are primitives, it can be expanded in
every style. The query is made of the literal texts, made safe for the style, of `NULL` for the
empty join lists, and of placeholders for the leaves, each in its place, and the placeholder of
each leaf has a number whose parameter stands for the leaf; if the leaf is not a number, then for
no other leaf. In the two styles that are known from the start a driver finds the parameter of a
number under its placeholder; the names are as many as the parameters, and all different. -/
theorem expand_faithful (style : Style) (f : Fragment Value) (ps : List Primitive)
    (h : f.leaves = ps.map .primitive) :
    ∃ x, f.expand style = .ok x ∧
      x.query = Token.spell style f.outline f.numbers ∧
      List.Forall₂ (Primitive.Refers x.values) f.numbers ps ∧
      (∀ (i j : Nat) (p : Primitive), ps[i]? = some p → p.isNaN = true →
        f.numbers[i]? = f.numbers[j]? → i = j) ∧
      (style = .numbered ∨ style = .named → ∀ n ∈ f.numbers,
        (style.bind x.values).find? (style.placeholder n).toList = x.values[n - 1]?) ∧
      (style = .named → ∃ entries, style.bind x.values = .named entries ∧
        (entries.map (·.1)).Nodup ∧ entries.length = x.values.length) := by
  refine ⟨_, expand_eq style h, rfl, numbers_refer h,
    fun _ _ _ hp hn he => numbers_unique_of_isNaN h hp hn he, fun hs n hn => ?_, fun hs => ?_⟩
  · obtain ⟨p, hp⟩ : ∃ p, Primitive.Refers f.parameters n p := by
      obtain ⟨i, hi, rfl⟩ := List.getElem_of_mem hn
      have hlen := (numbers_refer h).length_eq
      exact ⟨ps[i], (numbers_refer h).get hi (hlen ▸ hi)⟩
    have hpos := hp.pos
    obtain ⟨i, rfl⟩ : ∃ i, n = i + 1 := ⟨n - 1, by omega⟩
    exact Style.find?_bind hs f.parameters i
  · subst hs
    exact ⟨_, rfl, Style.nameParameters_nodup _, Style.nameParameters_length _⟩

/-- A fragment with another one and join lists in it, and with an integer, a binary64 number of the
same value and a not-a-number among its leaves. -/
def mixed : Fragment Value :=
  ⟨"a::int = ",
    [(.fragment ⟨"", [(.int 1, " + "), (.primitive (.float .nan), "")], none⟩, " AND b IN ("),
      (.join [.primitive (.float ⟨0x3ff0000000000000⟩), .join [], .text "x"], ") OR c = "),
      (.primitive (.bool true), "")], none⟩

/-- Its leaves. -/
def mixedLeaves : List Primitive :=
  [.int 1, .float .nan, .float ⟨0x3ff0000000000000⟩, .text "x", .bool true]

theorem expand_faithful_mixed :
    mixed.leaves = mixedLeaves.map .primitive ∧ ∃ x, mixed.expand .named = .ok x ∧
      x.query = "a\\:\\:int = :p1 + :p2 AND b IN (:p1, NULL, :p3) OR c = :p4" ∧
      List.Forall₂ (Primitive.Refers x.values) [1, 2, 1, 3, 4] mixedLeaves ∧
      (∀ n ∈ [1, 2, 1, 3, 4],
        (Style.named.bind x.values).find? (Style.named.placeholder n).toList = x.values[n - 1]?) ∧
      ∃ entries, Style.named.bind x.values = .named entries ∧ (entries.map (·.1)).Nodup ∧
        entries.length = x.values.length := by
  obtain ⟨x, hx, hquery, hrefers, -, hfind, hnames⟩ := expand_faithful .named mixed mixedLeaves rfl
  have hnumbers : mixed.numbers = [1, 2, 1, 3, 4] := by decide +kernel
  rw [hnumbers] at hrefers hfind
  exact ⟨rfl, x, hx, hquery.trans (by decide +kernel), hrefers, hfind (Or.inr rfl), hnames rfl⟩

/-! ### The parameters are as few as can be -/

/-- **The parameters are minimal**: in every style they are the leaves, depth first and left to
right, without each leaf that is the same value as an earlier one; every not-a-number is kept, and
no two parameters are the same value. Read from left to right, the numbers in the query come new
as 1, 2, 3, … up to the number of the parameters. Two leaves other than not-a-numbers have one
number if and only if they are the same value. -/
theorem expand_minimal (f : Fragment Value) (ps : List Primitive)
    (h : f.leaves = ps.map .primitive) :
    ∃ values, (∀ style, f.expand style = .ok ⟨Token.spell style f.outline f.numbers, values⟩) ∧
      values = firsts Primitive.sameValue ps ∧
      values.filter Primitive.isNaN = ps.filter Primitive.isNaN ∧
      Distinct Primitive.sameValue values ∧
      firsts (· == ·) f.numbers = List.range' 1 values.length ∧
      ∀ (i j : Nat) (p q : Primitive), ps[i]? = some p → ps[j]? = some q → p.isNaN = false →
        q.isNaN = false → (f.numbers[i]? = f.numbers[j]? ↔ p.sameValue q = true) := by
  have hvalues : f.parameters = firsts Primitive.sameValue ps := by
    have hcovers : Covers Primitive.sameValue [] [] := fun _ => rfl
    rw [parameters_eq h, addAllBy_values Primitive.sharing hcovers]
    rfl
  refine ⟨f.parameters, fun style => expand_eq style h, hvalues, ?_, ?_, ?_, ?_⟩
  · rw [hvalues]
    refine firstsAfter_filter (fun v w hv => ?_) [] ps
    rw [Primitive.sameValue_comm]
    exact Primitive.sameValue_of_isNaN hv w
  · rw [parameters_eq h]
    exact addAllBy_distinct .nil ps
  · rw [parameters_eq h, numbers_eq h]
    exact addAllBy_numbers Primitive.sameValue [] ps (by simp; omega)
  · intro i j p q hp hq hn _
    by_cases hij : i = j
    · subst hij
      obtain rfl : p = q := Option.some.inj (hp.symm.trans hq)
      exact iff_of_true rfl (Primitive.sameValue_self_iff.mpr hn)
    · exact numbers_getElem?_eq_iff h hij hp hq

theorem expand_minimal_mixed :
    mixed.leaves = mixedLeaves.map .primitive ∧ ∃ values,
      (∀ style, mixed.expand style = .ok ⟨Token.spell style mixed.outline [1, 2, 1, 3, 4], values⟩) ∧
      values = [.int 1, .float .nan, .text "x", .bool true] ∧
      firsts (· == ·) [1, 2, 1, 3, 4] = List.range' 1 values.length ∧
      (Primitive.int 1).sameValue (.float ⟨0x3ff0000000000000⟩) = true := by
  obtain ⟨values, hexpand, hvalues, -, -, hfirsts, hsame⟩ :=
    expand_minimal mixed mixedLeaves rfl
  have hnumbers : mixed.numbers = [1, 2, 1, 3, 4] := by decide +kernel
  rw [hnumbers] at hexpand hfirsts hsame
  exact ⟨rfl, values, hexpand, hvalues.trans (by decide +kernel), hfirsts,
    (hsame 0 2 _ _ rfl rfl rfl (by decide +kernel)).mp rfl⟩

end Fragment

end SqlWeave
