import SqlWeave.Execution.Executor
import SqlWeave.Proofs.Outcome.Checked
import SqlWeave.Proofs.Value.Avoids

/-!
# Coercing brings in nothing

What an answer is coerced to holds only what the answer held: a number that the answer avoids is
avoided by its coercion (`Executor.coerceQuery_avoids`).
-/

namespace SqlWeave

open Value

variable {n : Nat}

/-- Under a name, a mapping has the value of one of its entries. -/
theorem Value.mem_of_lookupText? {name : String} {entries : List (Value × Value)} {v : Value}
    (h : lookupText? name entries = some v) : ∃ e ∈ entries, e.2 = v := by
  rw [lookupText?, lookupEntry?, Option.map_eq_some_iff] at h
  obtain ⟨e, hfind, rfl⟩ := h
  exact ⟨e, List.mem_of_find?_eq_some hfind, rfl⟩

theorem ReportField.further_avoids {names : List String} {entries : List (Value × Value)}
    {fields : List (String × Value)} (hentries : ∀ e ∈ entries, Avoids n e.2)
    (h : further names entries = .ok fields) : ∀ f ∈ fields, Avoids n f.2 := by
  rintro ⟨name, v⟩ hf
  exact hentries _ (mem_of_further h hf)

theorem Value.avoids_primitive (p : Primitive) : Avoids n (.primitive p) := fun _ => rfl

/-- Named parts avoid what each of them avoids. -/
theorem Value.avoids_pairs {fields : List (String × Value)} (h : ∀ f ∈ fields, Avoids n f.2) :
    ∀ v ∈ pairs fields, Avoids n v := by
  intro v hv
  obtain ⟨⟨name, w⟩, hf, rfl⟩ := List.mem_map.mp hv
  intro contents
  rw [refresh, refreshItems_eq_self_iff.mpr]
  intro u hu
  rcases List.mem_cons.mp hu with rfl | hu
  · exact avoids_primitive _
  · rw [List.mem_singleton.mp hu]
    exact h _ hf

theorem Statistics.ownFields_avoids (s : Statistics Value) : ∀ f ∈ s.ownFields, Avoids n f.2 := by
  simp only [ownFields, List.forall_mem_cons]
  exact ⟨avoids_primitive _, avoids_primitive _, avoids_primitive _, avoids_primitive _,
    avoids_primitive _, avoids_primitive _, fun f hf => absurd hf List.not_mem_nil⟩

theorem RunOutcome.ownFields_avoids {o : RunOutcome Value}
    (h : ∀ f ∈ o.statistics.extra, Avoids n f.2) : ∀ f ∈ o.ownFields, Avoids n f.2 := by
  simp only [ownFields, List.forall_mem_cons]
  exact ⟨avoids_primitive _, avoids_statistics_iff.mpr h, fun f hf => absurd hf List.not_mem_nil⟩

theorem QueryOutcome.ownFields_avoids {o : QueryOutcome Value}
    (hstatistics : ∀ f ∈ o.statistics.extra, Avoids n f.2) (hrows : ∀ v ∈ o.rows, Avoids n v) :
    ∀ f ∈ o.ownFields, Avoids n f.2 := by
  have hlist : Avoids n (.ofList o.rows) := by
    intro contents
    rw [ofList, refresh, if_neg (Option.some_ne_none n).symm, refreshItems_eq_self_iff.mpr hrows]
  simp only [ownFields, List.forall_mem_cons]
  exact ⟨avoids_primitive _, avoids_statistics_iff.mpr hstatistics, hlist,
    fun f hf => absurd hf List.not_mem_nil⟩

/-- What an outcome tells of its fields holds nothing that is not in the outcome. -/
theorem Value.outcomeFields?_avoids {v : Value} {fields : List (String × Value)} (hv : Avoids n v)
    (h : v.outcomeFields? = some fields) : ∀ f ∈ fields, Avoids n f.2 := by
  cases v with
  | statistics s =>
    obtain rfl := Option.some.inj h
    exact List.forall_mem_append.mpr ⟨s.ownFields_avoids, avoids_statistics_iff.mp hv⟩
  | run o =>
    obtain rfl := Option.some.inj h
    obtain ⟨hstatistics, hextra⟩ := avoids_run_iff.mp hv
    exact List.forall_mem_append.mpr ⟨RunOutcome.ownFields_avoids hstatistics, hextra⟩
  | query label o =>
    obtain rfl := Option.some.inj h
    obtain ⟨-, hstatistics, hrows, hextra⟩ := avoids_query_iff.mp hv
    exact List.forall_mem_append.mpr ⟨QueryOutcome.ownFields_avoids hstatistics hrows, hextra⟩
  | _ => cases h

/-- The rows of a report hold nothing that is not in the value reported as them. -/
theorem ReportField.rows_avoids {v : Value} {vs : List Value} (hv : Avoids n v)
    (h : rows v = .ok vs) : ∀ u ∈ vs, Avoids n u := by
  unfold rows at h
  split at h
  · obtain rfl := Except.ok.inj h
    exact hv.of_list
  · obtain rfl := Except.ok.inj h
    exact hv.of_tuple
  · split at h
    · next fields hfields =>
      obtain rfl := Except.ok.inj h
      exact avoids_pairs (outcomeFields?_avoids hv hfields)
    · cases h

theorem Statistics.coerce_avoids {v : Value} {s : Statistics Value} (hv : Avoids n v)
    (h : coerce v = .ok s) : ∀ f ∈ s.extra, Avoids n f.2 := by
  cases v with
  | statistics s' =>
    obtain rfl := Except.ok.inj h
    exact avoids_statistics_iff.mp hv
  | dict entries =>
    obtain ⟨-, -, -, -, -, -, hextra⟩ := check_eq_ok_iff.mp h
    exact ReportField.further_avoids hv.of_dict hextra
  | _ => cases h

theorem QueryOutcome.check_avoids {entries : List (Value × Value)} {o : QueryOutcome Value}
    (hentries : ∀ e ∈ entries, Avoids n e.2) (h : check entries = .ok o) :
    Avoids n (.query none o) := by
  obtain ⟨-, hstatistics, hrows, hextra⟩ := check_eq_ok_iff.mp h
  refine avoids_query_iff.mpr ⟨(Option.some_ne_none n).symm, ?_, ?_, ?_⟩
  · obtain ⟨-, hdefault⟩ | ⟨v, hlookup, hv⟩ := ReportField.declared_eq_ok_iff.mp hstatistics
    · rw [hdefault]
      exact fun f hf => absurd hf List.not_mem_nil
    · obtain ⟨e, he, rfl⟩ := mem_of_lookupText? hlookup
      exact Statistics.coerce_avoids (hentries e he) hv
  · obtain ⟨-, hdefault⟩ | ⟨v, hlookup, hv⟩ := ReportField.declared_eq_ok_iff.mp hrows
    · rw [hdefault]
      exact fun u hu => absurd hu List.not_mem_nil
    · obtain ⟨e, he, rfl⟩ := mem_of_lookupText? hlookup
      exact ReportField.rows_avoids (hentries e he) (ReportField.plain_eq_ok_iff.mp hv)
  · exact ReportField.further_avoids hentries hextra

theorem Outcome.asQuery_avoids {v r : Value} (hv : Avoids n v) (h : asQuery v = .ok r) :
    Avoids n r := by
  cases v with
  | query label o =>
    obtain rfl := Except.ok.inj h
    exact hv
  | dict entries =>
    rw [asQuery] at h
    rcases hcheck : QueryOutcome.check entries with issues | o
    · rw [hcheck] at h
      cases h
    · rw [hcheck] at h
      obtain rfl := Except.ok.inj h
      exact QueryOutcome.check_avoids hv.of_dict hcheck
  | _ => cases h

/-- The coercion of an answer avoids what the answer avoids. -/
theorem Executor.coerceQuery_avoids {x : Executor} {v r : Value} (hv : Avoids n v)
    (h : x.coerceQuery v = .ok r) : Avoids n r := by
  unfold coerceQuery at h
  split at h
  · exact Outcome.asQuery_avoids hv h
  · exact Outcome.asQuery_avoids hv h
  · obtain rfl := Except.ok.inj h
    exact hv

end SqlWeave
