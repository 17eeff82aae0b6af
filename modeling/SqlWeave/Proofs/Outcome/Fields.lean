import Mathlib.Data.List.Nodup
import Mathlib.Data.List.Perm.Basic
import SqlWeave.Proofs.Outcome.Checked

/-!
# Reports as named fields

The keys of an accepted report are texts. So it is a list of named fields, and its further fields are
those that are not declared, in their order (`further_eq_ok_iff`).

In what order the fields stand makes no difference to what is read under a name, as their names are
distinct (`named?_perm`).
-/

namespace SqlWeave.ReportField

open Value

/-- Named fields as the entries of a mapping. -/
def entriesOf (fields : List (String × Value)) : List (Value × Value) :=
  fields.map fun f => (.text f.1, f.2)

/-- The fields that have none of these names. -/
def beside (names : List String) (fields : List (String × Value)) : List (String × Value) :=
  fields.filter fun f => !names.contains f.1

theorem entryOf_injective :
    Function.Injective fun f : String × Value => (Value.text f.1, f.2) := by
  rintro ⟨name, v⟩ ⟨name', v'⟩ h
  simpa [text] using h

theorem nodup_of_entriesOf {fields : List (String × Value)}
    (h : ((entriesOf fields).map Prod.fst).Nodup) : (fields.map Prod.fst).Nodup := by
  have hkeys : (entriesOf fields).map Prod.fst = (fields.map Prod.fst).map text := by
    simp [entriesOf]
  rw [hkeys] at h
  exact List.Nodup.of_map text h

/-! ### What is read under a name -/

theorem named?_cons (name : String) (f : String × Value) (fields : List (String × Value)) :
    named? name (f :: fields) = if f.1 = name then some f.2 else named? name fields := by
  by_cases h : f.1 = name
  · simp [named?, h]
  · simp [named?, h]

theorem lookupText?_entriesOf (name : String) (fields : List (String × Value)) :
    lookupText? name (entriesOf fields) = named? name fields := by
  induction fields with
  | nil => rfl
  | cons f fields ih =>
    obtain ⟨key, v⟩ := f
    rw [named?_cons, ← ih]
    exact lookupText?_cons name key v (entriesOf fields)

/-- Fields with distinct names have the same values under their names in any order. -/
theorem named?_perm {fields fields' : List (String × Value)} (h : fields.Perm fields')
    (hnodup : (fields.map Prod.fst).Nodup) (name : String) :
    named? name fields = named? name fields' := by
  induction h with
  | nil => rfl
  | cons f h ih =>
    rw [List.map_cons, List.nodup_cons] at hnodup
    rw [named?_cons, named?_cons, ih hnodup.2]
  | swap f g fields =>
    have hne : g.1 ≠ f.1 := by
      intro heq
      simp [heq] at hnodup
    simp only [named?_cons]
    by_cases hf : f.1 = name
    · have hg : ¬ g.1 = name := fun hg => hne (hg.trans hf.symm)
      simp only [if_pos hf, if_neg hg]
    · simp only [if_neg hf]
  | trans h h' ih ih' => rw [ih hnodup, ih' ((h.map Prod.fst).nodup_iff.mp hnodup)]

/-! ### What is not declared -/

theorem further_entriesOf (names : List String) (fields : List (String × Value)) :
    further names (entriesOf fields) = .ok (beside names fields) := by
  induction fields with
  | nil => rfl
  | cons f fields ih =>
    obtain ⟨name, v⟩ := f
    have hentries : entriesOf ((name, v) :: fields) = (.text name, v) :: entriesOf fields := rfl
    rw [hentries, further_text]
    by_cases hname : names.contains name = true
    · rw [if_pos hname, ih, beside, beside, List.filter_cons_of_neg (by simpa using hname)]
    · rw [if_neg hname, beside, List.filter_cons_of_pos (by simpa using hname)]
      exact Checked.map_eq_ok_iff.mpr ⟨_, ih, rfl⟩

theorem exists_entriesOf {entries : List (Value × Value)}
    (h : ∀ e ∈ entries, ∃ name, e.1 = .text name) : ∃ fields, entries = entriesOf fields := by
  induction entries with
  | nil => exact ⟨[], rfl⟩
  | cons e entries ih =>
    obtain ⟨hkey, hrest⟩ := List.forall_mem_cons.mp h
    obtain ⟨key, v⟩ := e
    obtain ⟨name, rfl⟩ := hkey
    obtain ⟨fields, rfl⟩ := ih hrest
    exact ⟨(name, v) :: fields, rfl⟩

theorem text_of_mem_entriesOf {fields : List (String × Value)} {e : Value × Value}
    (he : e ∈ entriesOf fields) : ∃ name, e.1 = .text name := by
  obtain ⟨f, -, rfl⟩ := List.mem_map.mp he
  exact ⟨f.1, rfl⟩

/-- An accepted report has only texts as keys. -/
theorem text_of_further {names : List String} {entries : List (Value × Value)}
    {extra : List (String × Value)} (h : further names entries = .ok extra) :
    ∀ e ∈ entries, ∃ name, e.1 = .text name := by
  induction entries generalizing extra with
  | nil => exact fun e he => absurd he List.not_mem_nil
  | cons e entries ih =>
    obtain ⟨key, v⟩ := e
    by_cases hkey : ∃ name, key = .text name
    · obtain ⟨name, rfl⟩ := hkey
      refine List.forall_mem_cons.mpr ⟨⟨name, rfl⟩, ?_⟩
      rw [further_text] at h
      split at h
      · exact ih h
      · obtain ⟨extra', hrest, -⟩ := Checked.map_eq_ok_iff.mp h
        exact ih hrest
    · exact absurd h (further_of_not_text (fun name hname => hkey ⟨name, hname⟩) _ _ _ _)

/-- The further fields of a report are those of its fields that are not declared. -/
theorem further_eq_ok_iff {names : List String} {entries : List (Value × Value)}
    {extra : List (String × Value)} :
    further names entries = .ok extra ↔
      ∃ fields, entries = entriesOf fields ∧ extra = beside names fields := by
  constructor
  · intro h
    obtain ⟨fields, rfl⟩ := exists_entriesOf (text_of_further h)
    rw [further_entriesOf] at h
    exact ⟨fields, rfl, (Except.ok.inj h).symm⟩
  · rintro ⟨fields, rfl, rfl⟩
    exact further_entriesOf names fields

/-- What is declared, and then what is not, has the latter as its further fields. -/
theorem beside_append {names : List String} {own extra : List (String × Value)}
    (hown : ∀ f ∈ own, f.1 ∈ names) (hextra : ∀ f ∈ extra, f.1 ∉ names) :
    beside names (own ++ extra) = extra := by
  have hnone : own.filter (fun f => !names.contains f.1) = [] :=
    List.filter_eq_nil_iff.mpr fun f hf => by simp [hown f hf]
  have hall : extra.filter (fun f => !names.contains f.1) = extra :=
    List.filter_eq_self.mpr fun f hf => by simp [hextra f hf]
  rw [beside, List.filter_append, hnone, hall, List.nil_append]

theorem not_mem_of_mem_beside {names : List String} {fields : List (String × Value)}
    {f : String × Value} (hf : f ∈ beside names fields) : f.1 ∉ names := by
  simpa using (List.mem_filter.mp hf).2

/-! ### Fields in another order -/

/-- In another order, the entries of named fields are those of the fields in another order. -/
theorem perm_entriesOf {fields : List (String × Value)} {entries : List (Value × Value)}
    (h : (entriesOf fields).Perm entries) :
    ∃ fields', entries = entriesOf fields' ∧ fields.Perm fields' := by
  obtain ⟨fields', rfl⟩ := exists_entriesOf fun e he => text_of_mem_entriesOf (h.symm.subset he)
  exact ⟨fields', rfl, (List.map_perm_map_iff entryOf_injective).mp h⟩

end SqlWeave.ReportField
