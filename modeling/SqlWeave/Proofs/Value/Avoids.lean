import SqlWeave.Value.Sharing

/-!
# Values that do not hold something

A value *avoids* a number if nothing in it has that number, so that new contents for the number leave
the value as it is (`Value.Avoids`). Numbering what is in a value gives new numbers only: a number
from before is avoided as before (`avoids_shareItems`).
-/

namespace SqlWeave

theorem Binary64.le_share (x : Binary64) (next : Nat) : next ≤ (x.share next).2 := by
  rw [share]
  split
  · exact Nat.le_succ next
  · exact Nat.le_refl next

namespace Value

/-- New contents for the number leave the value as it is. -/
def Avoids (n : Nat) (v : Value) : Prop := ∀ contents, v.refresh n contents = v

variable {n : Nat} {contents : List Value}

/-! ### Numbering -/

mutual

/-- Numbering goes on from where it began. -/
theorem le_share : ∀ (v : Value) (next : Nat), next ≤ (v.share next).2
  | .primitive p, next => by
    cases p with
    | float x => exact x.le_share next
    | _ => exact Nat.le_refl next
  | .list none items, next => Nat.le_of_succ_le (le_shareItems items (next + 1))
  | .tuple items, next => le_shareItems items next
  | .dict entries, next => le_shareEntries entries next
  | .record fields, next => le_shareFields fields next
  | .handle none _ parts, next => Nat.le_of_succ_le (le_shareFields parts (next + 1))
  | .fragment ⟨_, parts, _⟩, next => le_shareParts parts next
  | .join members, next => le_shareItems members next
  | .statistics s, next => le_shareStatistics s next
  | .run ⟨_, s, extra⟩, next => Nat.le_trans (le_shareStatistics s next) (le_shareFields extra _)
  | .query none ⟨_, s, rows, extra⟩, next =>
    Nat.le_trans (Nat.le_of_succ_le (le_shareStatistics s (next + 1)))
      (Nat.le_trans (le_shareItems rows _) (le_shareFields extra _))
  | .list (some _) _, next | .handle (some _) _ _, next | .query (some _) _, next
  | .statement _ _, next => Nat.le_refl next
termination_by structural v => v

theorem le_shareItems : ∀ (vs : List Value) (next : Nat), next ≤ (shareItems vs next).2
  | [], next => Nat.le_refl next
  | v :: vs, next => Nat.le_trans (le_share v next) (le_shareItems vs _)
termination_by structural vs => vs

theorem le_shareEntries : ∀ (es : List (Value × Value)) (next : Nat),
    next ≤ (shareEntries es next).2
  | [], next => Nat.le_refl next
  | (k, v) :: es, next =>
    Nat.le_trans (le_share k next) (Nat.le_trans (le_share v _) (le_shareEntries es _))
termination_by structural es => es

theorem le_shareFields : ∀ (fs : List (String × Value)) (next : Nat),
    next ≤ (shareFields fs next).2
  | [], next => Nat.le_refl next
  | (_, v) :: fs, next => Nat.le_trans (le_share v next) (le_shareFields fs _)
termination_by structural fs => fs

theorem le_shareParts : ∀ (ps : List (Value × String)) (next : Nat), next ≤ (shareParts ps next).2
  | [], next => Nat.le_refl next
  | (v, _) :: ps, next => Nat.le_trans (le_share v next) (le_shareParts ps _)
termination_by structural ps => ps

theorem le_shareStatistics : ∀ (s : Statistics Value) (next : Nat),
    next ≤ (shareStatistics s next).2
  | ⟨duration, _, _, _, _, _, extra⟩, next =>
    Nat.le_trans (duration.le_share next) (le_shareFields extra _)
termination_by structural s => s

end

mutual

/-- Numbering from beyond a number gives a value that avoids it, if the value did. -/
theorem refresh_share : ∀ (v : Value) {next : Nat}, n < next → v.refresh n contents = v →
    (v.share next).1.refresh n contents = (v.share next).1
  | .primitive p, next, _, _ => by
    cases p with
    | float x => rfl
    | _ => rfl
  | .list none items, next, hn, h => by
    rw [refresh, if_neg (Option.some_ne_none n).symm, list.injEq] at h
    have hitems := refresh_shareItems items (Nat.lt_succ_of_lt hn) h.2
    simp only [share]
    rw [refresh, if_neg (fun heq => Nat.ne_of_gt hn (Option.some.inj heq)), hitems]
  | .tuple items, next, hn, h => by
    rw [refresh, tuple.injEq] at h
    simp only [share, refresh, refresh_shareItems items hn h]
  | .dict entries, next, hn, h => by
    rw [refresh, dict.injEq] at h
    simp only [share, refresh, refresh_shareEntries entries hn h]
  | .record fields, next, hn, h => by
    rw [refresh, record.injEq] at h
    simp only [share, refresh, refresh_shareFields fields hn h]
  | .fragment ⟨opening, parts, origin⟩, next, hn, h => by
    rw [refresh, fragment.injEq, Fragment.mk.injEq] at h
    simp only [share, refresh, refresh_shareParts parts hn h.2.1]
  | .join members, next, hn, h => by
    rw [refresh, join.injEq] at h
    simp only [share, refresh, refresh_shareItems members hn h]
  | .statistics s, next, hn, h => by
    rw [refresh, statistics.injEq] at h
    simp only [share, refresh, refresh_shareStatistics s hn h]
  | .run ⟨success, s, extra⟩, next, hn, h => by
    rw [refresh, run.injEq, RunOutcome.mk.injEq] at h
    have hs := refresh_shareStatistics s hn h.2.1
    have hextra := refresh_shareFields extra (Nat.lt_of_lt_of_le hn (le_shareStatistics s next)) h.2.2
    simp only [share, refresh, hs, hextra]
  | .query none ⟨success, s, rows, extra⟩, next, hn, h => by
    rw [refresh, if_neg (Option.some_ne_none n).symm, query.injEq, QueryOutcome.mk.injEq] at h
    have hn' := Nat.lt_of_lt_of_le (Nat.lt_succ_of_lt hn) (le_shareStatistics s (next + 1))
    have hs := refresh_shareStatistics s (Nat.lt_succ_of_lt hn) h.2.2.1
    have hrows := refresh_shareItems rows hn' h.2.2.2.1
    have hextra := refresh_shareFields extra (Nat.lt_of_lt_of_le hn' (le_shareItems rows _)) h.2.2.2.2
    simp only [share]
    rw [refresh, if_neg (fun heq => Nat.ne_of_gt hn (Option.some.inj heq)), hs, hrows, hextra]
  | .handle none _ _, _, _, _ => rfl
  | .list (some _) _, _, _, h | .handle (some _) _ _, _, _, h | .query (some _) _, _, _, h
  | .statement _ _, _, _, h => h
termination_by structural v => v

theorem refresh_shareItems : ∀ (vs : List Value) {next : Nat}, n < next →
    refreshItems n contents vs = vs →
    refreshItems n contents (shareItems vs next).1 = (shareItems vs next).1
  | [], next, _, _ => rfl
  | v :: vs, next, hn, h => by
    rw [refreshItems, List.cons.injEq] at h
    have hvs := refresh_shareItems vs (Nat.lt_of_lt_of_le hn (le_share v next)) h.2
    simp only [shareItems, refreshItems, refresh_share v hn h.1, hvs]
termination_by structural vs => vs

theorem refresh_shareEntries : ∀ (es : List (Value × Value)) {next : Nat}, n < next →
    refreshEntries n contents es = es →
    refreshEntries n contents (shareEntries es next).1 = (shareEntries es next).1
  | [], next, _, _ => rfl
  | (k, v) :: es, next, hn, h => by
    rw [refreshEntries, List.cons.injEq, Prod.mk.injEq] at h
    have hn' := Nat.lt_of_lt_of_le hn (le_share k next)
    have hv := refresh_share v hn' h.1.2
    have hes := refresh_shareEntries es (Nat.lt_of_lt_of_le hn' (le_share v _)) h.2
    simp only [shareEntries, refreshEntries, refresh_share k hn h.1.1, hv, hes]
termination_by structural es => es

theorem refresh_shareFields : ∀ (fs : List (String × Value)) {next : Nat}, n < next →
    refreshFields n contents fs = fs →
    refreshFields n contents (shareFields fs next).1 = (shareFields fs next).1
  | [], next, _, _ => rfl
  | (name, v) :: fs, next, hn, h => by
    rw [refreshFields, List.cons.injEq, Prod.mk.injEq] at h
    have hfs := refresh_shareFields fs (Nat.lt_of_lt_of_le hn (le_share v next)) h.2
    simp only [shareFields, refreshFields, refresh_share v hn h.1.2, hfs]
termination_by structural fs => fs

theorem refresh_shareParts : ∀ (ps : List (Value × String)) {next : Nat}, n < next →
    refreshParts n contents ps = ps →
    refreshParts n contents (shareParts ps next).1 = (shareParts ps next).1
  | [], next, _, _ => rfl
  | (v, text) :: ps, next, hn, h => by
    rw [refreshParts, List.cons.injEq, Prod.mk.injEq] at h
    have hps := refresh_shareParts ps (Nat.lt_of_lt_of_le hn (le_share v next)) h.2
    simp only [shareParts, refreshParts, refresh_share v hn h.1.1, hps]
termination_by structural ps => ps

theorem refresh_shareStatistics : ∀ (s : Statistics Value) {next : Nat}, n < next →
    refreshStatistics n contents s = s →
    refreshStatistics n contents (shareStatistics s next).1 = (shareStatistics s next).1
  | ⟨duration, changes, lastRowId, changedDb, rowsRead, rowsWritten, extra⟩, next, hn, h => by
    rw [refreshStatistics, Statistics.mk.injEq] at h
    have hextra := refresh_shareFields extra (Nat.lt_of_lt_of_le hn (duration.le_share next))
      h.2.2.2.2.2.2
    simp only [shareStatistics, refreshStatistics, hextra]
termination_by structural s => s

end

/-! ### Parts -/

theorem refreshItems_eq_self_iff {vs : List Value} :
    (∀ contents, refreshItems n contents vs = vs) ↔ ∀ v ∈ vs, Avoids n v := by
  constructor
  · intro h
    induction vs with
    | nil => exact fun v hv => absurd hv List.not_mem_nil
    | cons u vs ih =>
      intro v hv
      rcases List.mem_cons.mp hv with rfl | hv
      · exact fun contents => (List.cons.inj (h contents)).1
      · exact ih (fun contents => (List.cons.inj (h contents)).2) v hv
  · intro h contents
    rw [refreshItems_eq_map]
    exact (List.map_congr_left fun v hv => h v hv contents).trans (List.map_id vs)

theorem refreshFields_eq_self_iff {fs : List (String × Value)} :
    (∀ contents, refreshFields n contents fs = fs) ↔ ∀ f ∈ fs, Avoids n f.2 := by
  induction fs with
  | nil => exact ⟨fun _ f hf => absurd hf List.not_mem_nil, fun _ _ => rfl⟩
  | cons f fs ih =>
    obtain ⟨name, v⟩ := f
    simp only [refreshFields, List.cons.injEq, Prod.mk.injEq, true_and, forall_and, ih,
      List.forall_mem_cons]
    exact Iff.rfl

theorem refreshStatistics_eq_self_iff {s : Statistics Value} :
    (∀ contents, refreshStatistics n contents s = s) ↔ ∀ f ∈ s.extra, Avoids n f.2 := by
  obtain ⟨duration, changes, lastRowId, changedDb, rowsRead, rowsWritten, extra⟩ := s
  simp only [refreshStatistics, Statistics.mk.injEq, true_and]
  exact refreshFields_eq_self_iff

theorem Avoids.of_list {label : Label} {items : List Value} (h : Avoids n (list label items)) :
    ∀ v ∈ items, Avoids n v := by
  by_cases hlabel : label = some n
  · -- a list of the number would take over any contents
    have hnil := h []
    rw [refresh, if_pos hlabel] at hnil
    rw [← (list.inj hnil).2]
    exact fun v hv => absurd hv List.not_mem_nil
  · refine refreshItems_eq_self_iff.mp fun contents => ?_
    have hcontents := h contents
    rw [refresh, if_neg hlabel] at hcontents
    exact (list.inj hcontents).2

theorem Avoids.of_tuple {items : List Value} (h : Avoids n (tuple items)) :
    ∀ v ∈ items, Avoids n v :=
  refreshItems_eq_self_iff.mp fun contents => tuple.inj (h contents)

theorem Avoids.of_dict {entries : List (Value × Value)} (h : Avoids n (dict entries)) :
    ∀ e ∈ entries, Avoids n e.2 := by
  have hentries : ∀ contents, refreshEntries n contents entries = entries :=
    fun contents => dict.inj (h contents)
  clear h
  induction entries with
  | nil => exact fun e he => absurd he List.not_mem_nil
  | cons e entries ih =>
    have hcons := fun contents => List.cons.inj (hentries contents)
    intro e' he
    rcases List.mem_cons.mp he with rfl | he
    · exact fun contents => (Prod.mk.inj (hcons contents).1).2
    · exact ih (fun contents => (hcons contents).2) e' he

theorem avoids_statistics_iff {s : Statistics Value} :
    Avoids n (statistics s) ↔ ∀ f ∈ s.extra, Avoids n f.2 := by
  rw [← refreshStatistics_eq_self_iff]
  exact forall_congr' fun contents => by rw [refresh, statistics.injEq]

theorem avoids_run_iff {o : RunOutcome Value} :
    Avoids n (run o) ↔ (∀ f ∈ o.statistics.extra, Avoids n f.2) ∧ ∀ f ∈ o.extra, Avoids n f.2 := by
  obtain ⟨success, s, extra⟩ := o
  rw [← refreshStatistics_eq_self_iff, ← refreshFields_eq_self_iff, ← forall_and]
  refine forall_congr' fun contents => ?_
  rw [refresh, run.injEq, RunOutcome.mk.injEq, eq_self success, true_and]

/-- An outcome avoids a number if it has another one and all that is in it avoids the number. -/
theorem avoids_query_iff {label : Label} {o : QueryOutcome Value} :
    Avoids n (query label o) ↔ label ≠ some n ∧ (∀ f ∈ o.statistics.extra, Avoids n f.2) ∧
      (∀ v ∈ o.rows, Avoids n v) ∧ ∀ f ∈ o.extra, Avoids n f.2 := by
  obtain ⟨success, s, rows, extra⟩ := o
  by_cases hlabel : label = some n
  · refine iff_of_false (fun h => ?_) fun h => h.1 hlabel
    have hnil := h []
    have hnull := h [null]
    rw [refresh, if_pos hlabel, query.injEq, QueryOutcome.mk.injEq] at hnil hnull
    exact absurd (hnil.2.2.2.1.trans hnull.2.2.2.1.symm) (List.cons_ne_nil _ _).symm
  · rw [← refreshStatistics_eq_self_iff, ← refreshItems_eq_self_iff, ← refreshFields_eq_self_iff]
    simp only [Avoids, refresh, hlabel, if_false, query.injEq, QueryOutcome.mk.injEq, true_and, ne_eq,
      not_false_eq_true, forall_and]

/-- Numbered from beyond a number, values avoid it as before. -/
theorem avoids_shareItems {vs : List Value} {next : Nat} (hn : n < next)
    (h : ∀ v ∈ vs, Avoids n v) : ∀ v ∈ (shareItems vs next).1, Avoids n v :=
  refreshItems_eq_self_iff.mp fun contents =>
    refresh_shareItems vs hn (refreshItems_eq_self_iff.mpr h contents)

end Value

end SqlWeave
