import SqlWeave.Proofs.Execution.Pointwise
import SqlWeave.Proofs.Execution.StandIn

/-!
# Answers that are left alone

A direct executor takes only mappings and outcomes with rows for outcomes. Any other answer to a
statement, alone or among others, passes through it as it is, and no row mapper is called with it:
whatever mapper the statement has, the dispatch goes on in the same way (`Executor.finish_remapped`),
and the answer is given in its place (`Executor.finish_untouched`). What the answer holds can be
shared with other answers, whose rows are mapped in place; it shows their mapped rows then
(`Value.Renewed`).
-/

namespace SqlWeave

/-! ### Changes in place -/

/-- What a value can be after outcomes of these numbers have been given new rows in place. -/
inductive Value.Renewed (N : Nat → Prop) (u : Value) : Value → Prop where
  /-- Nothing has changed. -/
  | refl : Renewed N u u
  /-- An outcome has new rows. -/
  | renew {v : Value} {n : Nat} (rows : List Value) :
    Renewed N u v → N n → Renewed N u (v.refresh n rows)

namespace Value

variable {N : Nat → Prop} {u v w : Value}

theorem Renewed.trans (h : Renewed N u v) (h' : Renewed N v w) : Renewed N u w := by
  induction h' with
  | refl => exact h
  | renew rows _ hn ih => exact .renew rows ih hn

/-- What holds none of the outcomes stays as it is. -/
theorem Renewed.eq_self (h : Renewed N u v) (hu : ∀ n, N n → u.Avoids n) : v = u := by
  induction h with
  | refl => rfl
  | renew rows _ hn ih => rw [ih, hu _ hn rows]

theorem reportsRows_refresh (n : Nat) (contents : List Value) (v : Value) :
    (v.refresh n contents).ReportsRows ↔ v.ReportsRows := by
  cases v with
  | list label items =>
    rw [refresh]
    split
    · exact Iff.rfl
    · exact Iff.rfl
  | _ => exact Iff.rfl

theorem outcomeNumber?_refresh (n : Nat) (contents : List Value) (v : Value) :
    (v.refresh n contents).outcomeNumber? = v.outcomeNumber? := by
  cases v with
  | list label items =>
    rw [refresh]
    split
    · rfl
    · rfl
  | _ => rfl

end Value

/-! ### Mapping the other answers -/

/-- The answers to the statements of a call for rows. -/
def Call.slots (v : Value) : Call → Except Failure (List Value)
  | .all _ => .ok [v]
  | .run _ => .ok []
  | .batch _ => v.items

/-- The job with another mapper for the statement at a place. -/
def Job.remapped (i : Nat) (m : Option String) (job : Job) : Job :=
  { job with mappers := job.mappers.set i m }

namespace Executor

variable {E : Environment} {N : Nat → Prop} {x : Executor}

/-- Mapping one result renews another one, or leaves it as it is. -/
theorem renewed_renewal {v : Value} (hv : ∀ n, v.outcomeNumber? = some n → N n) (u : Value) :
    u.Renewed N (renewal v u) ∧ ((renewal v u).ReportsRows ↔ u.ReportsRows) ∧
      (renewal v u).outcomeNumber? = u.outcomeNumber? := by
  have hsame : renewal v = id → u.Renewed N (renewal v u) ∧
      ((renewal v u).ReportsRows ↔ u.ReportsRows) ∧
      (renewal v u).outcomeNumber? = u.outcomeNumber? := by
    intro h
    rw [h]
    exact ⟨.refl, Iff.rfl, rfl⟩
  cases v with
  | query label o =>
    rcases label with _ | n
    · exact hsame rfl
    · exact ⟨.renew o.rows .refl (hv n rfl), Value.reportsRows_refresh n o.rows u,
        Value.outcomeNumber?_refresh n o.rows u⟩
  | _ => exact hsame rfl

/-- No mapper is called with what is no outcome with rows. -/
theorem mapResult_of_not_reportsRows {v : Value} (hv : ¬v.ReportsRows) (m : Option String) :
    (mapResult m v : Act E Value) = pure v := by
  rcases m with _ | m
  · rfl
  · cases v with
    | query label o => exact absurd trivial hv
    | _ => rfl

/-- A result that is mapped stays the same outcome. -/
theorem outcomeNumber?_of_mapResult {m : Option String} {v v' : Value} {w : World E}
    (h : (mapResult m v w).1 = .ok v') : v'.outcomeNumber? = v.outcomeNumber? := by
  rcases m with _ | m
  · rw [Except.ok.inj h]
  · cases v with
    | query label o =>
      rcases label with _ | n
      · rw [mapResult, Effect.bind_apply] at h
        rcases hrows : mapRows m o.rows w with ⟨e | rows, w₁⟩
        · rw [hrows] at h
          cases h
        · rw [hrows] at h
          rw [← Except.ok.inj h]
          rfl
      · rw [mapResult, Effect.bind_apply] at h
        rcases hrows : mapRows m o.rows w with ⟨e | rows, w₁⟩
        · rw [hrows] at h
          cases h
        · rw [hrows] at h
          rw [← Except.ok.inj h]
          rfl
    | _ => rw [← Except.ok.inj h]

/-- The mapper of what is no outcome with rows makes no difference. -/
theorem mapEach_set (m : Option String) {ms : List (Option String)} {done vs : List Value} {i : Nat}
    {u : Value} (hi : vs[i]? = some u) (hu : ¬u.ReportsRows) :
    (mapEach done (ms.set i m) vs : Act E (List Value)) = mapEach done ms vs := by
  induction ms generalizing done vs i u with
  | nil => rfl
  | cons m' ms ih =>
    cases vs with
    | nil => cases hi
    | cons v vs =>
      cases i with
      | zero =>
        obtain rfl := Option.some.inj hi
        rw [List.set_cons_zero, mapEach, mapEach, mapResult_of_not_reportsRows hu,
          mapResult_of_not_reportsRows hu]
      | succ i =>
        rw [List.set_cons_succ, mapEach, mapEach]
        refine congrArg _ (funext fun v' => ih (u := renewal v' u) ?_ ?_)
        · rw [List.getElem?_map, (List.getElem?_cons_succ ▸ hi : vs[i]? = some u)]
          rfl
        · obtain ⟨-, hreports, -⟩ := renewed_renewal (N := fun _ => True) (fun _ _ => trivial) (v := v') u
          exact mt hreports.mp hu

/-- Where all results are mapped, what is done and what is no outcome with rows is only renewed. -/
theorem mapEach_renewed {done vs rs : List Value} {ms : List (Option String)} {w : World E}
    (hN : ∀ v ∈ vs, ∀ n, v.outcomeNumber? = some n → N n) (h : (mapEach done ms vs w).1 = .ok rs) :
    (∀ (j : Nat) (u : Value), done[j]? = some u → ∃ r, rs[j]? = some r ∧ u.Renewed N r) ∧
      ∀ (i : Nat) (u : Value), vs[i]? = some u → ¬u.ReportsRows →
        ∃ r, rs[done.length + i]? = some r ∧ u.Renewed N r := by
  induction ms generalizing done vs w with
  | nil =>
    obtain rfl := Except.ok.inj h
    refine ⟨fun j u hj => ⟨u, ?_, .refl⟩, fun i u hi _ => ⟨u, ?_, .refl⟩⟩
    · rw [List.getElem?_append_left (List.getElem?_eq_some_iff.mp hj).1, hj]
    · rw [List.getElem?_append_right (Nat.le_add_right _ i), Nat.add_sub_cancel_left, hi]
  | cons m ms ih =>
    cases vs with
    | nil =>
      obtain rfl := Except.ok.inj h
      refine ⟨fun j u hj => ⟨u, ?_, .refl⟩, fun i u hi => nomatch hi⟩
      rw [List.append_nil, hj]
    | cons v vs =>
      rw [mapEach, Effect.bind_apply] at h
      rcases hv : mapResult m v w with ⟨e | v', w₁⟩
      · rw [hv] at h
        cases h
      rw [hv] at h
      have hnumber : v'.outcomeNumber? = v.outcomeNumber? :=
        outcomeNumber?_of_mapResult (congrArg Prod.fst hv)
      have hrenewal := fun u => renewed_renewal (v := v')
        (fun n hn => hN v List.mem_cons_self n (hnumber ▸ hn)) u
      obtain ⟨hdone, hrest⟩ := ih (fun u hu n hn => by
        obtain ⟨u, hmem, rfl⟩ := List.mem_map.mp hu
        rw [(hrenewal u).2.2] at hn
        exact hN u (List.mem_cons_of_mem _ hmem) n hn) h
      have hlength : (done.map (renewal v')).length = done.length := List.length_map _
      constructor
      · intro j u hj
        have hlt := (List.getElem?_eq_some_iff.mp hj).1
        obtain ⟨r, hr, hrenewed⟩ := hdone j (renewal v' u) (by
          rw [List.getElem?_append_left (hlength ▸ hlt), List.getElem?_map, hj]
          rfl)
        exact ⟨r, hr, (hrenewal u).1.trans hrenewed⟩
      · intro i u hi hu
        cases i with
        | zero =>
          obtain rfl := Option.some.inj hi
          rw [mapResult_of_not_reportsRows hu] at hv
          obtain rfl := Except.ok.inj (congrArg Prod.fst hv)
          exact hdone done.length v (by
            rw [List.getElem?_append_right (Nat.le_of_eq hlength), hlength, Nat.sub_self]
            rfl)
        | succ i =>
          obtain ⟨r, hr, hrenewed⟩ := hrest i (renewal v' u) (by
            rw [List.getElem?_map, (List.getElem?_cons_succ ▸ hi : vs[i]? = some u)]
            rfl) (mt (hrenewal u).2.1.mp hu)
          refine ⟨r, ?_, (hrenewal u).1.trans hrenewed⟩
          rw [← hr, List.length_append, hlength, List.length_singleton, Nat.add_assoc, Nat.add_comm 1 i]

/-! ### The second half of a dispatch -/

theorem coerceQuery_of_not_reportsRows (hx : x.direct = true) {v : Value} (hv : ¬v.ReportsRows) :
    x.coerceQuery v = .ok v := by
  unfold coerceQuery
  rw [hx]
  cases v with
  | dict entries => exact absurd trivial hv
  | _ => rfl

/-- Answers are coerced in their places. -/
theorem coerce_slots {call : Call} {v : Value} {items results : List Value}
    (hitems : call.slots v = .ok items) (h : x.coerce v call = .ok results)
    (hcall : ∀ b, call ≠ .run b) :
    List.Forall₂ (fun item r => x.coerceQuery item = .ok r) items results := by
  cases call with
  | all b =>
    obtain rfl := Except.ok.inj hitems
    rw [coerce] at h
    rcases hr : x.coerceQuery v with e | r
    · rw [hr] at h
      cases h
    · rw [hr] at h
      obtain rfl := Except.ok.inj h
      exact .cons hr .nil
  | run b => exact absurd rfl (hcall b)
  | batch bs => exact mapM_eq_ok_iff.mp (mapM_of_coerceBatch hitems h).1

/-- What a result of a call is coerced from, in the answer. -/
inductive Coerces (x : Executor) (v : Value) : Call → Value → Prop where
  /-- The answer is coerced to an outcome with rows. -/
  | all {b : Bound} {r : Value} : x.coerceQuery v = .ok r → Coerces x v (.all b) r
  /-- The answer is coerced to an outcome without rows. -/
  | run {b : Bound} {r : Value} : x.coerceRun v = .ok r → Coerces x v (.run b) r
  /-- An item of the answer is coerced to an outcome with rows. -/
  | batch {bs : List Bound} {items : List Value} {u r : Value} :
    v.items = .ok items → u ∈ items → x.coerceQuery u = .ok r → Coerces x v (.batch bs) r

/-- Every result of a call is coerced from the answer, or from an item of it. -/
theorem coerces_of_mem {v : Value} {call : Call} {results : List Value}
    (h : x.coerce v call = .ok results) {r : Value} (hr : r ∈ results) : x.Coerces v call r := by
  have hsingle : ∀ q : Except Failure Value, q.map ([·]) = .ok results → q = .ok r := by
    intro q hq
    cases q with
    | error e => cases hq
    | ok r' =>
      obtain rfl := Except.ok.inj hq
      rw [List.mem_singleton.mp hr]
  cases call with
  | all b => exact .all (hsingle _ h)
  | run b => exact .run (hsingle _ h)
  | batch bs =>
    rcases hitems : v.items with e | items
    · rw [coerce, coerceBatch, hitems] at h
      cases h
    · obtain ⟨u, hu, hcoerce⟩ := exists_of_mem_mapM (mapM_of_coerceBatch hitems h).1 hr
      exact .batch hitems hu hcoerce

/-- What a direct executor makes of answers before it maps rows: what is no outcome with rows is in
its place, and no outcome is new. -/
theorem coerce_untouched (hx : x.direct = true) {call : Call} {v : Value} {items results : List Value}
    (hitems : call.slots v = .ok items) (h : x.coerce v call = .ok results) {i : Nat} {u : Value}
    (hi : items[i]? = some u) (hu : ¬u.ReportsRows) :
    results[i]? = some u ∧ ∀ r ∈ results, ∀ n, r.outcomeNumber? = some n →
      ∃ item ∈ items, item.outcomeNumber? = some n := by
  have hcall : ∀ b, call ≠ .run b := by
    rintro b rfl
    obtain rfl := Except.ok.inj hitems
    cases hi
  have hall := coerce_slots hitems h hcall
  constructor
  · obtain ⟨hlt, hget⟩ := List.getElem?_eq_some_iff.mp hi
    have hlt' : i < results.length := hall.length_eq ▸ hlt
    have hcoerce := (List.forall₂_iff_get.mp hall).2 i hlt hlt'
    rw [List.get_eq_getElem, hget, coerceQuery_of_not_reportsRows hx hu] at hcoerce
    rw [List.getElem?_eq_getElem hlt', Except.ok.inj hcoerce]
    rfl
  · intro r hr n hn
    obtain ⟨item, hmem, hcoerce⟩ := exists_of_mem_mapM (mapM_eq_ok_iff.mpr hall) hr
    exact ⟨item, hmem, outcomeNumber?_of_coerceQuery hcoerce hn⟩

variable {t : Ticket} {w : World E} {v u : Value} {items : List Value} {i : Nat}

/-- A direct executor maps what it has coerced, and does nothing else. -/
theorem settle_of_unstamped (ht : t.stamp = none) (v : Value) :
    (x.settle t (.ok v) : Act E (List Value)) =
      Effect.ofExcept (x.coerce v t.job.call) >>= mapResults t.job.mappers := by
  rw [settle, Effect.ok_bind]
  simp only [report_of_no_stamp ht, pure_bind]

/-- **No mapper is called** with an answer that is no outcome with rows: the second half of the
dispatch is the same with any other mapper in its place. -/
theorem finish_remapped (hx : x.direct = true) (ht : t.stamp = none)
    (hv : (x.backend.collect t.job.call w).1 = .ok v) (hitems : t.job.call.slots v = .ok items)
    (hi : items[i]? = some u) (hu : ¬u.ReportsRows) (m : Option String) :
    x.finish { t with job := t.job.remapped i m } w = x.finish t w := by
  rw [finish_eq_settle, finish_eq_settle]
  show x.settle { t with job := t.job.remapped i m } (x.backend.collect t.job.call w).1
    (x.backend.collect t.job.call w).2 = _
  rw [hv, settle_of_unstamped ht, settle_of_unstamped (t := { t with job := t.job.remapped i m }) ht]
  show (Effect.ofExcept (x.coerce v t.job.call) >>= mapResults (t.job.mappers.set i m)) _ = _
  rcases hresults : x.coerce v t.job.call with e | results
  · rfl
  · rw [Effect.ok_bind, Effect.ok_bind, mapResults, mapResults,
      mapEach_set m (coerce_untouched hx hitems hresults hi hu).1 hu]

/-- **An answer that is no outcome with rows is given in its place**, as it is after the other answers
have been mapped. -/
theorem finish_untouched (hx : x.direct = true) (ht : t.stamp = none)
    (hv : (x.backend.collect t.job.call w).1 = .ok v) (hitems : t.job.call.slots v = .ok items)
    (hi : items[i]? = some u) (hu : ¬u.ReportsRows) {rs : List Value}
    (hrs : (x.finish t w).1 = .ok rs) :
    ∃ r, rs[i]? = some r ∧ u.Renewed (fun n => ∃ item ∈ items, item.outcomeNumber? = some n) r := by
  rw [finish_eq_settle, hv] at hrs
  rw [settle_of_unstamped ht] at hrs
  rcases hresults : x.coerce v t.job.call with e | results
  · rw [hresults] at hrs
    cases hrs
  · rw [hresults, Effect.ok_bind] at hrs
    obtain ⟨hplace, hnumbers⟩ := coerce_untouched hx hitems hresults hi hu
    obtain ⟨-, hrest⟩ := mapEach_renewed hnumbers hrs
    obtain ⟨r, hr, hrenewed⟩ := hrest i u hplace hu
    exact ⟨r, by rw [← hr, List.length_nil, Nat.zero_add], hrenewed⟩

/-- The answer to a single statement is given as it is. -/
theorem finish_all_untouched (hx : x.direct = true) (ht : t.stamp = none) {b : Bound}
    (hcall : t.job.call = .all b) (hv : (x.backend.collect t.job.call w).1 = .ok v)
    (hu : ¬v.ReportsRows) : (x.finish t w).1 = .ok [v] := by
  have hmap : ∀ (F : Environment) (ms : List (Option String)),
      (mapResults ms [v] : Act F (List Value)) = pure [v] := by
    intro F ms
    rcases ms with _ | ⟨m, ms⟩
    · rfl
    · rw [mapResults, mapEach, mapResult_of_not_reportsRows hu, pure_bind]
      cases ms with
      | nil => rfl
      | cons m ms => rfl
  rw [finish_eq_settle, hv, settle_of_unstamped ht, hcall, coerce,
    coerceQuery_of_not_reportsRows hx hu]
  show ((mapResults t.job.mappers [v] : Act E (List Value)) _).1 = _
  rw [hmap]
  rfl

end Executor

end SqlWeave
