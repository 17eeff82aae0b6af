import Mathlib.Data.List.Basic
import Mathlib.Data.List.Forall2
import SqlWeave.Fragment.Expansion

/-!
# Numbering parameters

`Expansion.addAllBy` gives a list of values the numbers of their parameters, one value after the
other. What it does depends on nothing but which values are the same as which, and that relation
only has to be symmetric and transitive (`Sharing`): a value that is not the same as itself gets
a parameter of its own.

* `addAllBy_stands`: the parameter of a number stands for its value, whatever is added later;
* `addAllBy_values`: the parameters are the values without an earlier one that is the same
  (`firsts`), although a value is only compared with the parameters there are;
* `addAllBy_distinct`: no two parameters are the same;
* `addAllBy_numbers`: read from left to right, new numbers come as 1, 2, 3, …;
* `addAllBy_pairwise`: two values have one number if and only if they are the same;
* `addAllBy_congr`: two lists of values whose entries are the same at the same places get the
  same numbers.
-/

namespace SqlWeave.Expansion

variable {α : Type} {same : α → α → Bool}

/-- What the numbering assumes of being the same. -/
structure Sharing (same : α → α → Bool) : Prop where
  symm : ∀ {a b : α}, same a b = true → same b a = true
  trans : ∀ {a b c : α}, same a b = true → same b c = true → same a c = true

/-- The values that are not the same as an earlier one, if those of `earlier` came before. -/
def firstsAfter (same : α → α → Bool) (earlier : List α) : List α → List α
  | [] => []
  | v :: vs =>
    if earlier.any (same · v) then firstsAfter same (earlier ++ [v]) vs
    else v :: firstsAfter same (earlier ++ [v]) vs

/-- The values that are not the same as an earlier one. -/
def firsts (same : α → α → Bool) (vs : List α) : List α := firstsAfter same [] vs

/-- No value that is the same as nothing is ever left out. -/
theorem firstsAfter_filter {alone : α → Bool}
    (ha : ∀ v w, alone v = true → same w v = false) (earlier vs : List α) :
    (firstsAfter same earlier vs).filter alone = vs.filter alone := by
  induction vs generalizing earlier with
  | nil => rfl
  | cons v vs ih =>
    rw [firstsAfter]
    cases hv : alone v with
    | false =>
      split
      · rw [ih, List.filter_cons, hv, if_neg Bool.false_ne_true]
      · rw [List.filter_cons, List.filter_cons, hv, ih]
    | true =>
      have hany : earlier.any (same · v) = false := by
        rw [List.any_eq_false]
        intro w _
        simp [ha v w hv]
      rw [hany, if_neg Bool.false_ne_true, List.filter_cons, List.filter_cons, hv, ih]

/-- No two values are the same. -/
def Distinct (same : α → α → Bool) (vs : List α) : Prop := vs.Pairwise fun a b => same a b = false

/-- The parameter of a number stands for a value: it is the same as the value, or it is the value
itself. -/
def Stands (same : α → α → Bool) (values : List α) (index : Nat) (v : α) : Prop :=
  ∃ i w, index = i + 1 ∧ values[i]? = some w ∧ (same w v = true ∨ w = v)

theorem Stands.mono {values extra : List α} {index : Nat} {v : α} (h : Stands same values index v) :
    Stands same (values ++ extra) index v := by
  obtain ⟨i, w, hi, hw, hv⟩ := h
  have hlt : i < values.length := (List.getElem?_eq_some_iff.mp hw).1
  exact ⟨i, w, hi, by rw [List.getElem?_append_left hlt, hw], hv⟩

/-! ### One value -/

/-- All that adding a value can do: it shares a parameter, or it is the same as none of them and
becomes a new one. -/
theorem addBy_cases (same : α → α → Bool) (values : List α) (v : α) :
    (∃ i w, values[i]? = some w ∧ same w v = true ∧ addBy same values v = (i + 1, values)) ∨
      ((∀ w ∈ values, same w v = false) ∧
        addBy same values v = (values.length + 1, values ++ [v])) := by
  unfold addBy
  cases h : values.findIdx? (same · v) with
  | some i =>
    obtain ⟨hlt, hsame, -⟩ := List.findIdx?_eq_some_iff_getElem.mp h
    exact Or.inl ⟨i, values[i], List.getElem?_eq_getElem hlt, hsame, rfl⟩
  | none => exact Or.inr ⟨List.findIdx?_eq_none_iff.mp h, rfl⟩

theorem addBy_append (same : α → α → Bool) (values : List α) (v : α) :
    ∃ extra, (addBy same values v).2 = values ++ extra := by
  rcases addBy_cases same values v with ⟨i, w, -, -, h⟩ | ⟨-, h⟩
  · exact ⟨[], by rw [h, List.append_nil]⟩
  · exact ⟨[v], by rw [h]⟩

theorem addBy_stands (same : α → α → Bool) (values : List α) (v : α) :
    Stands same (addBy same values v).2 (addBy same values v).1 v := by
  rcases addBy_cases same values v with ⟨i, w, hw, hsame, h⟩ | ⟨-, h⟩
  · rw [h]
    exact ⟨i, w, rfl, hw, Or.inl hsame⟩
  · rw [h]
    exact ⟨values.length, v, rfl, by simp, Or.inr rfl⟩

theorem addBy_distinct {values : List α} (hd : Distinct same values) (v : α) :
    Distinct same (addBy same values v).2 := by
  rcases addBy_cases same values v with ⟨i, w, -, -, h⟩ | ⟨hnone, h⟩
  · rw [h]
    exact hd
  · rw [h]
    refine List.pairwise_append.mpr ⟨hd, List.pairwise_singleton _ _, fun w hw u hu => ?_⟩
    rw [List.mem_singleton.mp hu]
    exact hnone w hw

/-- Among distinct parameters a value is the same as one at most. -/
theorem Distinct.index_unique (hs : Sharing same) {values : List α} (hd : Distinct same values)
    {i j : Nat} {a b v : α} (ha : values[i]? = some a) (hb : values[j]? = some b)
    (hav : same a v = true) (hbv : same b v = true) : i = j := by
  have hlt : ∀ {i j : Nat} {a b : α}, values[i]? = some a → values[j]? = some b →
      same a v = true → same b v = true → ¬ i < j := by
    intro i j a b ha hb hav hbv hij
    obtain ⟨hi, rfl⟩ := List.getElem?_eq_some_iff.mp ha
    obtain ⟨hj, rfl⟩ := List.getElem?_eq_some_iff.mp hb
    have hfalse := List.pairwise_iff_getElem.mp hd i j hi hj hij
    rw [hs.trans hav (hs.symm hbv)] at hfalse
    cases hfalse
  have h1 := hlt ha hb hav hbv
  have h2 := hlt hb ha hbv hav
  omega

/-- A value gets the number of a parameter that was there if and only if it is the same. -/
theorem addBy_eq_iff (hs : Sharing same) {values : List α} (hd : Distinct same values) {i : Nat}
    {w : α} (hw : values[i]? = some w) (v : α) :
    (addBy same values v).1 = i + 1 ↔ same w v = true := by
  rcases addBy_cases same values v with ⟨j, u, hu, hsame, h⟩ | ⟨hnone, h⟩
  · rw [h]
    constructor
    · intro hij
      obtain rfl : j = i := Nat.succ.inj hij
      rw [hu, Option.some.injEq] at hw
      exact hw ▸ hsame
    · intro hwv
      rw [hd.index_unique hs hu hw hsame hwv]
  · rw [h, hnone w (List.mem_of_getElem? hw)]
    have hlt : i < values.length := (List.getElem?_eq_some_iff.mp hw).1
    simp only [Nat.add_right_cancel_iff, Bool.false_eq_true, iff_false]
    omega

/-! ### Values one after the other -/

theorem addAllBy_cons (same : α → α → Bool) (values : List α) (v : α) (vs : List α) :
    addAllBy same values (v :: vs) =
      ((addBy same values v).1 :: (addAllBy same (addBy same values v).2 vs).1,
        (addAllBy same (addBy same values v).2 vs).2) := rfl

theorem addAllBy_append (same : α → α → Bool) (values vs : List α) :
    ∃ extra, (addAllBy same values vs).2 = values ++ extra := by
  induction vs generalizing values with
  | nil => exact ⟨[], (List.append_nil _).symm⟩
  | cons v vs ih =>
    obtain ⟨e₁, h₁⟩ := addBy_append same values v
    obtain ⟨e₂, h₂⟩ := ih (addBy same values v).2
    exact ⟨e₁ ++ e₂, by rw [addAllBy_cons, h₂, h₁, List.append_assoc]⟩

theorem addAllBy_length (same : α → α → Bool) (values vs : List α) :
    (addAllBy same values vs).1.length = vs.length := by
  induction vs generalizing values with
  | nil => rfl
  | cons v vs ih => rw [addAllBy_cons, List.length_cons, List.length_cons, ih]

/-- The number of each value stands for it among all parameters. -/
theorem addAllBy_stands (same : α → α → Bool) (values vs : List α) :
    List.Forall₂ (Stands same (addAllBy same values vs).2) (addAllBy same values vs).1 vs := by
  induction vs generalizing values with
  | nil => exact .nil
  | cons v vs ih =>
    rw [addAllBy_cons]
    refine .cons ?_ (ih _)
    obtain ⟨extra, h⟩ := addAllBy_append same (addBy same values v).2 vs
    rw [h]
    exact (addBy_stands same values v).mono

/-- The parameters stay distinct. -/
theorem addAllBy_distinct {values : List α} (hd : Distinct same values) (vs : List α) :
    Distinct same (addAllBy same values vs).2 := by
  induction vs generalizing values with
  | nil => exact hd
  | cons v vs ih => exact ih (addBy_distinct hd v)

/-- What the parameters have to do with the values that came before: they are some of them, and
what is the same as one of the values is the same as one of the parameters. -/
def Covers (same : α → α → Bool) (values earlier : List α) : Prop :=
  ∀ v, earlier.any (same · v) = values.any (same · v)

theorem Covers.addBy (hs : Sharing same) {values earlier : List α} (hc : Covers same values earlier)
    (v : α) : Covers same (addBy same values v).2 (earlier ++ [v]) := by
  intro u
  rcases addBy_cases same values v with ⟨i, w, hw, hsame, h⟩ | ⟨-, h⟩
  · -- What is the same as the shared value is the same as its parameter.
    rw [h, List.any_append, hc u]
    cases hv : same v u with
    | false => simp [hv]
    | true =>
      have hwu : values.any (same · u) = true :=
        List.any_eq_true.mpr ⟨w, List.mem_of_getElem? hw, hs.trans hsame hv⟩
      simp [hwu]
  · rw [h, List.any_append, List.any_append, hc u]

/-- **The parameters are the first values**: a value is compared with the parameters there are,
and that decides whether any earlier value is the same. -/
theorem addAllBy_values (hs : Sharing same) {values earlier : List α}
    (hc : Covers same values earlier) (vs : List α) :
    (addAllBy same values vs).2 = values ++ firstsAfter same earlier vs := by
  induction vs generalizing values earlier with
  | nil => exact (List.append_nil _).symm
  | cons v vs ih =>
    rw [addAllBy_cons, ih (hc.addBy hs v), firstsAfter, hc v]
    rcases addBy_cases same values v with ⟨i, w, hw, hsame, h⟩ | ⟨hnone, h⟩
    · have hany : values.any (same · v) = true :=
        List.any_eq_true.mpr ⟨w, List.mem_of_getElem? hw, hsame⟩
      rw [h, hany, if_pos rfl]
    · have hany : values.any (same · v) = false := by
        simpa [List.any_eq_false] using hnone
      rw [h, hany, if_neg Bool.false_ne_true, List.append_assoc, List.singleton_append]

/-- **Numbers come in order**: if those up to the number of the parameters have been read, then
the new ones among the rest are the following, one after the other. -/
theorem addAllBy_numbers (same : α → α → Bool) (values vs : List α) {read : List Nat}
    (hr : ∀ n, n ∈ read ↔ 1 ≤ n ∧ n ≤ values.length) :
    firstsAfter (· == ·) read (addAllBy same values vs).1 =
      List.range' (values.length + 1) ((addAllBy same values vs).2.length - values.length) := by
  induction vs generalizing values read with
  | nil => simp [addAllBy, firstsAfter]
  | cons v vs ih =>
    rw [addAllBy_cons, firstsAfter]
    rcases addBy_cases same values v with ⟨i, w, hw, -, h⟩ | ⟨-, h⟩
    · have hlt : i < values.length := (List.getElem?_eq_some_iff.mp hw).1
      have hmem : i + 1 ∈ read := (hr _).mpr ⟨by omega, by omega⟩
      have hany : read.any (· == i + 1) = true :=
        List.any_eq_true.mpr ⟨i + 1, hmem, beq_self_eq_true _⟩
      rw [h, hany, if_pos rfl]
      refine ih values fun n => ?_
      rw [List.mem_append, hr n, List.mem_singleton]
      omega
    · have hnot : values.length + 1 ∉ read := fun hmem => by
        have := (hr _).mp hmem
        omega
      have hany : read.any (· == values.length + 1) = false := by
        rw [List.any_eq_false]
        intro n hn
        rw [beq_iff_eq]
        rintro rfl
        exact hnot hn
      obtain ⟨extra, he⟩ := addAllBy_append same (values ++ [v]) vs
      rw [h, hany, if_neg Bool.false_ne_true, ih (values ++ [v]) (fun n => ?_), he]
      · have hlen : (values ++ [v] ++ extra).length - values.length =
            (values ++ [v] ++ extra).length - (values ++ [v]).length + 1 := by
          simp only [List.length_append, List.length_singleton]
          omega
        rw [hlen, List.range'_succ, List.length_append, List.length_singleton]
      · rw [List.mem_append, hr n, List.mem_singleton, List.length_append, List.length_singleton]
        omega

/-! ### Which numbers are equal -/

/-- A later value gets the number of a parameter if and only if it is the same. -/
theorem addAllBy_eq_iff (hs : Sharing same) {values : List α} (hd : Distinct same values) {i : Nat}
    {w : α} (hw : values[i]? = some w) (vs : List α) :
    ∀ e ∈ (addAllBy same values vs).1.zip vs, e.1 = i + 1 ↔ same w e.2 = true := by
  induction vs generalizing values with
  | nil => simp [addAllBy]
  | cons v vs ih =>
    rw [addAllBy_cons, List.zip_cons_cons, List.forall_mem_cons]
    refine ⟨addBy_eq_iff hs hd hw v, ih (addBy_distinct hd v) ?_⟩
    obtain ⟨extra, h⟩ := addBy_append same values v
    rw [h, List.getElem?_append_left (List.getElem?_eq_some_iff.mp hw).1, hw]

/-- **Two values have one number if and only if they are the same**, the one that comes first
being either the parameter or the same as it. -/
theorem addAllBy_pairwise (hs : Sharing same) {values : List α} (hd : Distinct same values)
    (vs : List α) :
    ((addAllBy same values vs).1.zip vs).Pairwise fun a b => a.1 = b.1 ↔ same a.2 b.2 = true := by
  induction vs generalizing values with
  | nil => simp [addAllBy]
  | cons v vs ih =>
    rw [addAllBy_cons, List.zip_cons_cons, List.pairwise_cons]
    refine ⟨fun e he => ?_, ih (addBy_distinct hd v)⟩
    obtain ⟨i, w, hi, hw, hv⟩ := addBy_stands same values v
    have hiff := addAllBy_eq_iff hs (addBy_distinct hd v) hw vs e he
    rw [hi, eq_comm, hiff]
    rcases hv with hv | rfl
    · exact ⟨fun h => hs.trans (hs.symm hv) h, fun h => hs.trans hv h⟩
    · exact Iff.rfl

theorem findIdx?_congr {p q : α → Bool} {l : List α} (h : ∀ a ∈ l, p a = q a) :
    l.findIdx? p = l.findIdx? q := by
  induction l with
  | nil => rfl
  | cons a l ih =>
    obtain ⟨ha, hl⟩ := List.forall_mem_cons.mp h
    rw [List.findIdx?_cons, List.findIdx?_cons, ha, ih hl]

/-- **Numbers tell no more than which values are the same**: if the entries of two lists are the
same at the same places, also in view of the parameters, then they get the same numbers. The two
lists are one list of pairs here, and so are the two lists of parameters. -/
theorem addAllBy_congr (same : α → α → Bool) (values vs : List (α × α))
    (h : (values ++ vs).Pairwise fun a b => same a.1 b.1 = same a.2 b.2) :
    (addAllBy same (values.map (·.1)) (vs.map (·.1))).1 =
      (addAllBy same (values.map (·.2)) (vs.map (·.2))).1 := by
  induction vs generalizing values with
  | nil => rfl
  | cons v vs ih =>
    obtain ⟨-, -, h₃⟩ := List.pairwise_append.mp h
    have hfind :
        (values.map (·.1)).findIdx? (same · v.1) = (values.map (·.2)).findIdx? (same · v.2) := by
      rw [List.findIdx?_map, List.findIdx?_map]
      exact findIdx?_congr fun w hw => h₃ w hw v (List.mem_cons_self ..)
    rw [List.map_cons, List.map_cons, addAllBy_cons, addAllBy_cons, addBy, addBy, hfind]
    cases (values.map (·.2)).findIdx? (same · v.2) with
    | some i =>
      -- A shared value is dropped from the lists, which leaves them alike.
      have hdrop := h.sublist ((List.sublist_cons_self v vs).append_left values)
      simp only [ih values hdrop]
    | none =>
      have hkeep : (values ++ [v] ++ vs).Pairwise fun a b => same a.1 b.1 = same a.2 b.2 := by
        rwa [List.append_assoc, List.singleton_append]
      simpa using ih (values ++ [v]) hkeep

end SqlWeave.Expansion
