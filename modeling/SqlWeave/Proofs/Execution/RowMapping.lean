import SqlWeave.Proofs.Effect.FirstFailure
import SqlWeave.Proofs.Execution.Recorded
import SqlWeave.Proofs.Value.Avoids

/-!
# Row mappers that are functions

What becomes of results whose rows are mapped by functions of the row. A result that is mapped alone
becomes its `Executor.slot`. Results that do not hold each other (`Value.Separate`) become theirs
whatever is mapped before and after them, and the mappers are called slot by slot and row by row, up
to the first failure (`Executor.mapEach_run`).
-/

namespace SqlWeave

open Value

/-! ### Results that do not hold each other -/

/-- The number of an outcome with rows, if it has one. -/
def Value.outcomeNumber? : Value → Option Nat
  | .query label _ => label
  | _ => none

/-- Two values of which neither is an outcome that the other one holds or is. -/
def Value.Apart (u v : Value) : Prop :=
  (∀ n, u.outcomeNumber? = some n → v.Avoids n) ∧ ∀ n, v.outcomeNumber? = some n → u.Avoids n

/-- The behaviour of row mappers: what each makes of a row. -/
abbrev Mapping : Type := String → Value → Except Failure Value

/-- No mapper brings in what has the number: what it makes of a row holds that only if the row does. -/
def Mapping.Local (f : Mapping) (n : Nat) : Prop :=
  ∀ mapper row v, f mapper row = .ok v → row.Avoids n → v.Avoids n

/-- Values of which no one holds another one, and which no mapper brings in. -/
structure Value.Separate (f : Mapping) (minted : Nat) (vs : List Value) : Prop where
  /-- The numbers of the values have been given. -/
  given : ∀ v ∈ vs, ∀ n, v.outcomeNumber? = some n → n < minted
  /-- Each value is apart from those after it. -/
  apart : vs.Pairwise Apart
  /-- No mapper brings in a value. -/
  mapped : ∀ v ∈ vs, ∀ n, v.outcomeNumber? = some n → f.Local n

/-- In a behaviour the row mappers are these functions of the row. -/
def Environment.Maps (E : Environment) (f : Mapping) : Prop :=
  ∀ mapper row s, (E.answer (.mapRow mapper row) s).1 = f mapper row

namespace Executor

variable {E : Environment} {f : Mapping}

/-- The call of a mapper with a row, and its answer. -/
def called (f : Mapping) (c : String × Value) : Exchange := ⟨.mapRow c.1 c.2, f c.1 c.2⟩

/-- The calls that are due for a result: its mapper with each of its rows. -/
def dueRows : Option String → Value → List (String × Value)
  | some mapper, .query _ o => o.rows.map (mapper, ·)
  | _, _ => []

/-- The calls that are due for results, slot by slot. -/
def due (ms : List (Option String)) (vs : List Value) : List (String × Value) :=
  (ms.zip vs).flatMap fun p => dueRows p.1 p.2

/-- What a result becomes that is mapped alone: its rows are mapped, and numbered from `next` if the
outcome is held elsewhere too. -/
def slot (f : Mapping) (next : Nat) : Option String → Value → Except Failure Value
  | some mapper, .query none o =>
    (o.rows.mapM (f mapper)).map fun rows => .query none { o with rows }
  | some mapper, .query (some n) o =>
    (o.rows.mapM (f mapper)).map fun rows =>
      .query (some n) { o with rows := (shareItems rows next).1 }
  | _, v => .ok v

/-- The answers of the calls that are made. -/
abbrev applied (f : Mapping) (c : String × Value) : Except Failure Value := f c.1 c.2

/-! ### One result -/

/-- Rows are mapped up to the first failure. -/
theorem mapRows_run (hf : E.Maps f) (mapper : String) (rows : List Value) (w : World E.recorded) :
    (mapRows mapper rows w).1 = rows.mapM (f mapper) ∧
      (mapRows mapper rows w).2.past =
        w.past ++ (untilFailure (applied f) (rows.map (mapper, ·))).map (called f) ∧
      (mapRows mapper rows w).2.minted = w.minted := by
  induction rows generalizing w with
  | nil => exact ⟨rfl, (List.append_nil _).symm, rfl⟩
  | cons row rows ih =>
    have hask : Act.ask (.mapRow mapper row) w =
        (.ok (f mapper row), (Act.ask (.mapRow mapper row) w).2) :=
      Prod.ext (congrArg Except.ok (hf mapper row w.outside.1)) rfl
    have hpast : (Act.ask (.mapRow mapper row) w).2.past = w.past ++ [called f (mapper, row)] := by
      rw [(World.Extends.ask (.mapRow mapper row) w).past, hf mapper row w.outside.1]
      rfl
    have hminted : (Act.ask (.mapRow mapper row) w).2.minted = w.minted := rfl
    rw [mapRows, Effect.bind_of_ok hask, List.mapM_cons, List.map_cons]
    generalize (Act.ask (.mapRow mapper row) w).2 = w₁ at hpast hminted
    rcases hrow : f mapper row with e | v
    · rw [untilFailure_cons_of_error (show applied f (mapper, row) = .error e from hrow)]
      exact ⟨rfl, hpast, hminted⟩
    · obtain ⟨hresult, hrows, hcount⟩ := ih w₁
      rw [untilFailure_cons_of_ok (show applied f (mapper, row) = .ok v from hrow), List.map_cons,
        List.append_cons, ← hpast]
      have hok : Effect.ofExcept (.ok v) w₁ = (.ok v, w₁) := rfl
      rw [Effect.bind_of_ok hok]
      rcases hmap : mapRows mapper rows w₁ with ⟨e | vs, w₂⟩
      · rw [hmap] at hresult hrows hcount
        rw [Effect.bind_of_error hmap, ← hresult]
        exact ⟨rfl, hrows, hcount.trans hminted⟩
      · rw [hmap] at hresult hrows hcount
        rw [Effect.bind_of_ok hmap, ← hresult]
        exact ⟨rfl, hrows, hcount.trans hminted⟩

/-- A result becomes its slot. -/
theorem mapResult_run (hf : E.Maps f) (m : Option String) (v : Value) (w : World E.recorded) :
    (mapResult m v w).1 = slot f w.minted m v ∧
      (mapResult m v w).2.past =
        w.past ++ (untilFailure (applied f) (dueRows m v)).map (called f) ∧
      w.minted ≤ (mapResult m v w).2.minted := by
  have hnone : mapResult m v w = (.ok v, w) → slot f w.minted m v = .ok v → dueRows m v = [] →
      (mapResult m v w).1 = slot f w.minted m v ∧
        (mapResult m v w).2.past =
          w.past ++ (untilFailure (applied f) (dueRows m v)).map (called f) ∧
        w.minted ≤ (mapResult m v w).2.minted := by
    intro hresult hslot hdue
    rw [hresult, hslot, hdue]
    exact ⟨rfl, (List.append_nil _).symm, Nat.le_refl _⟩
  cases m with
  | none => exact hnone rfl rfl rfl
  | some mapper =>
    cases v with
    | query label o =>
      obtain ⟨hresult, hpast, hminted⟩ := mapRows_run hf mapper o.rows w
      cases label with
      | none =>
        rw [mapResult, slot, dueRows, ← hresult, ← hpast]
        rcases hrows : mapRows mapper o.rows w with ⟨e | rows, w₁⟩
        · rw [hrows] at hminted
          rw [Effect.bind_of_error hrows]
          exact ⟨rfl, rfl, Nat.le_of_eq hminted.symm⟩
        · rw [hrows] at hminted
          rw [Effect.bind_of_ok hrows]
          exact ⟨rfl, rfl, Nat.le_of_eq hminted.symm⟩
      | some n =>
        rw [mapResult, slot, dueRows, ← hresult, ← hpast]
        rcases hrows : mapRows mapper o.rows w with ⟨e | rows, w₁⟩
        · rw [hrows] at hminted
          rw [Effect.bind_of_error hrows]
          exact ⟨rfl, rfl, Nat.le_of_eq hminted.symm⟩
        · rw [hrows] at hminted
          rw [Effect.bind_of_ok hrows, ← hminted]
          exact ⟨rfl, rfl, le_shareItems rows w₁.minted⟩
    | _ => exact hnone rfl rfl rfl

/-- A slot fails with the first failure of its mapper. -/
theorem slot_eq_error_iff {next : Nat} {m : Option String} {v : Value} {e : Failure} :
    slot f next m v = .error e ↔ firstFailure (applied f) (dueRows m v) = some e := by
  have hquery : ∀ (mapper : String) (o : QueryOutcome Value) (g : List Value → Value),
      (o.rows.mapM (f mapper)).map g = .error e ↔
        firstFailure (applied f) (o.rows.map (mapper, ·)) = some e := by
    intro mapper o g
    rw [firstFailure_map, ← mapM_eq_error_iff]
    cases o.rows.mapM (f mapper) with
    | ok rows => simp [Except.map]
    | error e' =>
      exact ⟨fun h => congrArg _ (Except.error.inj h), fun h => congrArg _ (Except.error.inj h)⟩
  cases m with
  | none => simp [slot, dueRows]
  | some mapper =>
    cases v with
    | query label o =>
      cases label with
      | none => exact hquery mapper o _
      | some n => exact hquery mapper o _
    | _ => simp [slot, dueRows]

/-- A slot is the result as it was, or an outcome of the same number with other rows. -/
theorem slot_eq_ok {next : Nat} {m : Option String} {v u : Value} (h : slot f next m v = .ok u) :
    u = v ∨ ∃ mapper label o rows, v = .query label o ∧ o.rows.mapM (f mapper) = .ok rows ∧
      (u = .query label { o with rows } ∨
        u = .query label { o with rows := (shareItems rows next).1 }) := by
  cases m with
  | none => exact .inl (Except.ok.inj h).symm
  | some mapper =>
    cases v with
    | query label o =>
      cases label with
      | none =>
        rw [slot] at h
        rcases hrows : o.rows.mapM (f mapper) with e | rows
        · rw [hrows] at h
          cases h
        · rw [hrows] at h
          exact .inr ⟨mapper, none, o, rows, rfl, hrows, .inl (Except.ok.inj h).symm⟩
      | some n =>
        rw [slot] at h
        rcases hrows : o.rows.mapM (f mapper) with e | rows
        · rw [hrows] at h
          cases h
        · rw [hrows] at h
          exact .inr ⟨mapper, some n, o, rows, rfl, hrows, .inr (Except.ok.inj h).symm⟩
    | _ => exact .inl (Except.ok.inj h).symm

theorem slot_outcomeNumber? {next : Nat} {m : Option String} {v u : Value}
    (h : slot f next m v = .ok u) : u.outcomeNumber? = v.outcomeNumber? := by
  obtain rfl | ⟨mapper, label, o, rows, rfl, -, rfl | rfl⟩ := slot_eq_ok h
  · rfl
  · rfl
  · rfl

/-- What a result avoids is avoided by its slot. -/
theorem slot_avoids {n next : Nat} (hf : f.Local n) (hn : n < next) {m : Option String}
    {v u : Value} (hv : v.Avoids n) (h : slot f next m v = .ok u) : u.Avoids n := by
  obtain rfl | ⟨mapper, label, o, rows, rfl, hrows, hu⟩ := slot_eq_ok h
  · exact hv
  · obtain ⟨hlabel, hstatistics, horows, hextra⟩ := avoids_query_iff.mp hv
    have hmapped : ∀ u ∈ rows, u.Avoids n := by
      intro u hu
      obtain ⟨row, hrow, happly⟩ := exists_of_mem_mapM hrows hu
      exact hf mapper row u happly (horows row hrow)
    obtain rfl | rfl := hu
    · exact avoids_query_iff.mpr ⟨hlabel, hstatistics, hmapped, hextra⟩
    · exact avoids_query_iff.mpr ⟨hlabel, hstatistics, avoids_shareItems hn hmapped, hextra⟩

/-! ### All results -/

/-- An outcome that a value does not hold leaves the value as it is. -/
theorem renewal_eq_self {u v : Value} (h : ∀ n, u.outcomeNumber? = some n → v.Avoids n) :
    renewal u v = v := by
  cases u with
  | query label o =>
    cases label with
    | none => rfl
    | some n => exact h n rfl o.rows
  | _ => rfl

/-- Separate results become their slots. Their mappers are called slot by slot and row by row, up to the
first failure. -/
theorem mapEach_run (hE : E.Maps f) {done vs : List Value} {ms : List (Option String)}
    {w : World E.recorded} (hlen : ms.length = vs.length) (hvs : Value.Separate f w.minted vs)
    (hdone : ∀ d ∈ done, ∀ v ∈ vs, ∀ n, v.outcomeNumber? = some n → d.Avoids n) :
    (mapEach done ms vs w).2.past =
        w.past ++ (untilFailure (applied f) (due ms vs)).map (called f) ∧
      ((∃ e, firstFailure (applied f) (due ms vs) = some e ∧ (mapEach done ms vs w).1 = .error e) ∨
        firstFailure (applied f) (due ms vs) = none ∧
          ∃ slots, (mapEach done ms vs w).1 = .ok (done ++ slots) ∧
            List.Forall₂ (fun p u => ∃ next, slot f next p.1 p.2 = .ok u) (ms.zip vs) slots) := by
  induction ms generalizing done vs w with
  | nil =>
    obtain rfl := List.length_eq_zero_iff.mp hlen.symm
    exact ⟨(List.append_nil _).symm, .inr ⟨rfl, [], rfl, .nil⟩⟩
  | cons m ms ih =>
    cases vs with
    | nil => cases hlen
    | cons v vs =>
      obtain ⟨hgiven, hgivens⟩ := List.forall_mem_cons.mp hvs.given
      obtain ⟨hapart, haparts⟩ := List.pairwise_cons.mp hvs.apart
      obtain ⟨-, hmappeds⟩ := List.forall_mem_cons.mp hvs.mapped
      obtain ⟨hresult, hpast, hminted⟩ := mapResult_run hE m v w
      have hdue : due (m :: ms) (v :: vs) = dueRows m v ++ due ms vs := rfl
      rw [hdue, mapEach]
      rcases hslot : slot f w.minted m v with e | u
      · have hfirst := slot_eq_error_iff.mp hslot
        obtain ⟨hsome, huntil⟩ := firstFailure_append_of_some hfirst
        have hfail : mapResult m v w = (.error e, (mapResult m v w).2) :=
          Prod.ext (hresult.trans hslot) rfl
        rw [Effect.bind_of_error hfail, hsome, huntil]
        exact ⟨hpast, .inl ⟨e, rfl, rfl⟩⟩
      · have hfirst : firstFailure (applied f) (dueRows m v) = none := by
          rcases h : firstFailure (applied f) (dueRows m v) with _ | e
          · rfl
          · rw [slot_eq_error_iff.mpr h] at hslot
            cases hslot
        have hok : mapResult m v w = (.ok u, (mapResult m v w).2) :=
          Prod.ext (hresult.trans hslot) rfl
        have hnumber : u.outcomeNumber? = v.outcomeNumber? := slot_outcomeNumber? hslot
        have hrenewDone : done.map (renewal u) = done :=
          (List.map_congr_left fun d hd => renewal_eq_self fun n hn =>
            hdone d hd v List.mem_cons_self n (hnumber ▸ hn)).trans (List.map_id done)
        have hrenewRest : vs.map (renewal u) = vs :=
          (List.map_congr_left fun v' hv' => renewal_eq_self fun n hn =>
            (hapart v' hv').1 n (hnumber ▸ hn)).trans (List.map_id vs)
        rw [Effect.bind_of_ok hok, hrenewDone, hrenewRest]
        obtain ⟨hnone, huntil⟩ := firstFailure_append_of_none hfirst
        rw [hnone, huntil]
        have hlen' : ms.length = vs.length := Nat.succ.inj hlen
        have hvs' : Value.Separate f (mapResult m v w).2.minted vs :=
          ⟨fun v' hv' n hn => Nat.lt_of_lt_of_le (hgivens v' hv' n hn) hminted, haparts, hmappeds⟩
        have hdone' : ∀ d ∈ done ++ [u], ∀ v' ∈ vs, ∀ n, v'.outcomeNumber? = some n → d.Avoids n := by
          intro d hd v' hv' n hn
          rcases List.mem_append.mp hd with hd | hd
          · exact hdone d hd v' (List.mem_cons_of_mem _ hv') n hn
          · rw [List.mem_singleton.mp hd]
            exact slot_avoids (hmappeds v' hv' n hn) (hgivens v' hv' n hn) ((hapart v' hv').2 n hn)
              hslot
        obtain ⟨hpast', hrest⟩ := ih hlen' hvs' hdone'
        rw [hpast', hpast, untilFailure_of_none hfirst, List.map_append, List.append_assoc]
        refine ⟨rfl, ?_⟩
        rcases hrest with hfailed | ⟨hrestNone, slots, hslots, hall⟩
        · exact .inl hfailed
        · refine .inr ⟨hrestNone, u :: slots, ?_, .cons ⟨w.minted, hslot⟩ hall⟩
          rw [hslots, List.append_assoc, List.singleton_append]

end Executor

end SqlWeave
