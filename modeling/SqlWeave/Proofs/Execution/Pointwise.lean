import SqlWeave.Proofs.Execution.Alone
import SqlWeave.Proofs.Outcome.Kept

/-!
# A batch is one statement at a time

How a batch goes whose hooks return, with nothing altered, and whose row mappers are functions of the
row (`Executor.Undisturbed`). Its backend is called once, with the statements in their order. The
items of the answer are coerced before they are counted, and both before the hook after and the
mappers; and each result that the batch gives is what its statement alone gives when the backend
answers it with the item of the same place.

**`batch_pointwise`**: every batch goes like this, whatever its backend answers (`Executor.BatchMet`),
if no item of the answer is held by another one or brought in by a mapper. Rows are mapped in place, so
an item that is held elsewhere is mapped there too (`different_not_pointwise`).
-/

namespace SqlWeave

variable {f : Mapping}

/-! ### Coercing items -/

/-- What is coerced to an outcome with a number is that outcome. -/
theorem Outcome.outcomeNumber?_of_asQuery {v r : Value} (h : asQuery v = .ok r) {n : Nat}
    (hr : r.outcomeNumber? = some n) : v.outcomeNumber? = some n := by
  cases v with
  | query label o =>
    obtain rfl := Except.ok.inj h
    exact hr
  | dict entries =>
    rw [asQuery] at h
    rcases hcheck : QueryOutcome.check entries with issues | o
    · rw [hcheck] at h
      cases h
    · rw [hcheck] at h
      obtain rfl := Except.ok.inj h
      cases hr
  | _ => cases h

theorem Executor.outcomeNumber?_of_coerceQuery {x : Executor} {v r : Value}
    (h : x.coerceQuery v = .ok r) {n : Nat} (hr : r.outcomeNumber? = some n) :
    v.outcomeNumber? = some n := by
  unfold coerceQuery at h
  split at h
  · exact Outcome.outcomeNumber?_of_asQuery h hr
  · exact Outcome.outcomeNumber?_of_asQuery h hr
  · obtain rfl := Except.ok.inj h
    exact hr

/-- Items that are apart are coerced to results that are apart. -/
theorem Value.Apart.coerced {x : Executor} {u v r s : Value} (h : u.Apart v)
    (hr : x.coerceQuery u = .ok r) (hs : x.coerceQuery v = .ok s) : r.Apart s :=
  ⟨fun n hn => Executor.coerceQuery_avoids (h.1 n (Executor.outcomeNumber?_of_coerceQuery hr hn)) hs,
    fun n hn => Executor.coerceQuery_avoids (h.2 n (Executor.outcomeNumber?_of_coerceQuery hs hn)) hr⟩

/-- Separate items are coerced to separate results. -/
theorem Value.Separate.coerced {x : Executor} {minted : Nat} {items results : List Value}
    (h : Value.Separate f minted items) (hresults : items.mapM x.coerceQuery = .ok results) :
    Value.Separate f minted results where
  given r hr n hn := by
    obtain ⟨item, hitem, hcoerce⟩ := exists_of_mem_mapM hresults hr
    exact h.given item hitem n (Executor.outcomeNumber?_of_coerceQuery hcoerce hn)
  mapped r hr n hn := by
    obtain ⟨item, hitem, hcoerce⟩ := exists_of_mem_mapM hresults hr
    exact h.mapped item hitem n (Executor.outcomeNumber?_of_coerceQuery hcoerce hn)
  apart := by
    have hapart := h.apart
    clear h
    induction items generalizing results with
    | nil =>
      obtain rfl := Except.ok.inj hresults
      exact .nil
    | cons item items ih =>
      obtain ⟨hhead, htail⟩ := List.pairwise_cons.mp hapart
      cases mapM_eq_ok_iff.mp hresults with
      | cons hr hrs =>
        have hrest := mapM_eq_ok_iff.mpr hrs
        refine List.pairwise_cons.mpr ⟨fun s hs => ?_, ih hrest htail⟩
        obtain ⟨item', hitem', hs⟩ := exists_of_mem_mapM hrest hs
        exact (hhead item' hitem').coerced hr hs

namespace Executor

variable {x : Executor} {E : Environment} {P : Value → Prop}

/-! ### A batch -/

/-- What stands in the slot of a statement and the item that answers it. -/
structure Fills (x : Executor) (f : Mapping) (P : Value → Prop) (p : Statement Value × Value)
    (v : Value) : Prop where
  /-- It is what the statement gives alone. -/
  alone : x.GivesAlone f P p.1 p.2 v
  /-- Without a row mapper it is the item as it has been coerced. -/
  coerced : p.1.mapper = none → x.coerceQuery p.2 = .ok v

/-- What comes of the items with which a batch of statements is answered: what is asked after the
answer, and how the batch ends. -/
inductive BatchMet (x : Executor) (f : Mapping) (P : Value → Prop) (th : Threshold)
    (ss : List (Statement Value)) (stamp : Option (Nat × Binary64)) (items : List Value) :
    List Exchange → Except Failure (List Value) → Prop where
  /-- The first item that is no outcome is the failure. -/
  | uncoerced {e : Failure} :
    firstFailure x.coerceQuery items = some e → BatchMet x f P th ss stamp items [] (.error e)
  /-- All items are outcomes, but not as many as statements. -/
  | mismatched {results : List Value} :
    items.mapM x.coerceQuery = .ok results → items.length ≠ ss.length →
      BatchMet x f P th ss stamp items []
        (.error (.structural (.resultMismatch ss.length items.length)))
  /-- The hook has got the results, and then a mapper fails at a row. -/
  | unmapped {results : List Value} {reported : List Exchange} {e : Failure} :
    items.mapM x.coerceQuery = .ok results → items.length = ss.length →
      x.Reported th (ss.map (·.query)) results stamp reported (.ok results) →
      firstFailure (applied f) (due (ss.map (·.mapper)) results) = some e →
      BatchMet x f P th ss stamp items
        (reported ++ (untilFailure (applied f) (due (ss.map (·.mapper)) results)).map (called f))
        (.error e)
  /-- The hook has got the results, and all their rows are mapped. -/
  | mapped {results slots : List Value} {reported : List Exchange} :
    items.mapM x.coerceQuery = .ok results → items.length = ss.length →
      x.Reported th (ss.map (·.query)) results stamp reported (.ok results) →
      firstFailure (applied f) (due (ss.map (·.mapper)) results) = none →
      List.Forall₂ (x.Fills f P) (ss.zip items) slots →
      BatchMet x f P th ss stamp items
        (reported ++ (due (ss.map (·.mapper)) results).map (called f)) (.ok slots)

theorem fills_of_slot {s : Statement Value} {item r v : Value} {next : Nat}
    (hcoerce : x.coerceQuery item = .ok r) (hr : P r) (hslot : slot f next s.mapper r = .ok v) :
    x.Fills f P (s, item) v where
  alone := by
    refine ⟨next, fun E w hx hminted hanswer => ?_⟩
    rw [all_run hx hanswer hcoerce hr, hminted, hslot]
    rfl
  coerced hmapper := by
    rw [show s.mapper = none from hmapper] at hslot
    exact hcoerce.trans hslot

theorem fills_of_slots {ss : List (Statement Value)} {items results slots : List Value}
    (hcoerce : List.Forall₂ (fun item r => x.coerceQuery item = .ok r) items results)
    (hresults : ∀ r ∈ results, P r)
    (hslots : List.Forall₂ (fun p v => ∃ next, slot f next p.1 p.2 = .ok v)
      ((ss.map (·.mapper)).zip results) slots) :
    List.Forall₂ (x.Fills f P) (ss.zip items) slots := by
  induction ss generalizing items results slots with
  | nil =>
    cases hslots
    exact .nil
  | cons s ss ih =>
    cases hcoerce with
    | nil =>
      cases hslots
      exact .nil
    | cons hr hrs =>
      cases hslots with
      | cons hslot hslots =>
        obtain ⟨next, hslot⟩ := hslot
        obtain ⟨hP, hresults⟩ := List.forall_mem_cons.mp hresults
        exact .cons (fills_of_slot hr hP hslot) (ih hrs hresults hslots)

theorem queries_batch (ss : List (Statement Value)) :
    (Job.batch ss).call.queries = ss.map (·.query) := by
  rw [Job.batch, Call.queries, List.map_map]
  rfl

/-- An answer to a batch that is refused has an item that is no outcome, or a wrong number of
outcomes. -/
theorem batchMet_of_refused {th : Threshold} {ss : List (Statement Value)}
    {stamp : Option (Nat × Binary64)} {v : Value} {items : List Value} {e : Failure}
    (hitems : v.items = .ok items) (h : x.coerce v (Job.batch ss).call = .error e) :
    x.BatchMet f P th ss stamp items [] (.error e) := by
  have hbatch : x.coerceBatch (ss.map (·.bound)).length v = .error e := h
  rw [coerceBatch, hitems, List.length_map] at hbatch
  rcases hmap : items.mapM x.coerceQuery with e' | results
  · simp only [coerceEach_eq_mapM, hmap] at hbatch
    obtain rfl := Except.error.inj hbatch
    exact .uncoerced (mapM_eq_error_iff.mp hmap)
  · have hlength : items.length = results.length := (mapM_eq_ok_iff.mp hmap).length_eq
    simp only [coerceEach_eq_mapM, hmap, ← hlength] at hbatch
    by_cases hcount : items.length = ss.length
    · rw [if_pos hcount] at hbatch
      cases hbatch
    · rw [if_neg hcount] at hbatch
      obtain rfl := Except.error.inj hbatch
      exact .mismatched hmap hcount

/-- An answer to so many statements that is taken has an item for each of them, and all items are
coerced. -/
theorem mapM_of_coerceBatch {n : Nat} {v : Value} {items results : List Value}
    (hitems : v.items = .ok items) (h : x.coerceBatch n v = .ok results) :
    items.mapM x.coerceQuery = .ok results ∧ items.length = n := by
  rw [coerceBatch, hitems] at h
  rcases hmap : items.mapM x.coerceQuery with e' | results'
  · simp only [coerceEach_eq_mapM, hmap] at h
    cases h
  · have hlength : items.length = results'.length := (mapM_eq_ok_iff.mp hmap).length_eq
    simp only [coerceEach_eq_mapM, hmap, ← hlength] at h
    by_cases hcount : items.length = n
    · rw [if_pos hcount] at h
      exact ⟨h, hcount⟩
    · rw [if_neg hcount] at h
      cases h

/-- An answer to a batch that is taken has as many outcomes as there are statements. -/
theorem coerceBatch_eq_ok {ss : List (Statement Value)} {v : Value} {items results : List Value}
    (hitems : v.items = .ok items) (h : x.coerce v (Job.batch ss).call = .ok results) :
    items.mapM x.coerceQuery = .ok results ∧ items.length = ss.length := by
  obtain ⟨hmapM, hcount⟩ := mapM_of_coerceBatch hitems h
  rw [List.length_map] at hcount
  exact ⟨hmapM, hcount⟩

/-- An answer to a batch that has been taken and reported is mapped slot by slot. -/
theorem batchMet_of_reported (hmaps : E.Maps f) {ss : List (Statement Value)} {th : Threshold}
    {stamp : Option (Nat × Binary64)} {items results : List Value} {reported mapping : List Exchange}
    {w : World E.recorded} (hmapM : items.mapM x.coerceQuery = .ok results)
    (hcount : items.length = ss.length) (hresults : ∀ r ∈ results, P r)
    (hreported : x.Reported th (ss.map (·.query)) results stamp reported (.ok results))
    (hpast : (mapResults (Job.batch ss).mappers results w).2.past = w.past ++ mapping)
    (hseparate : Value.Separate f w.minted results) :
    x.BatchMet f P th ss stamp items (reported ++ mapping)
      (mapResults (Job.batch ss).mappers results w).1 := by
  have hlen : (Job.batch ss).mappers.length = results.length := by
    rw [← (mapM_eq_ok_iff.mp hmapM).length_eq, hcount]
    exact List.length_map _
  obtain ⟨hpast', hrun⟩ := mapEach_run hmaps hlen hseparate (fun d hd => absurd hd List.not_mem_nil)
  obtain rfl := List.append_cancel_left (hpast.symm.trans hpast')
  obtain ⟨e, hfirst, hfailed⟩ | ⟨hnone, slots, hslots, hall⟩ := hrun
  · have hresult : (mapResults (Job.batch ss).mappers results w).1 = .error e := hfailed
    rw [hresult]
    exact .unmapped hmapM hcount hreported hfirst
  · have hresult : (mapResults (Job.batch ss).mappers results w).1 = .ok slots := hslots
    rw [hresult, untilFailure_of_none hnone]
    exact .mapped hmapM hcount hreported hnone
      (fills_of_slots (mapM_eq_ok_iff.mp hmapM) hresults hall)

/-- **A batch is one statement at a time.** Its call is handed to the backend once, and what comes of
the items of the answer is what `BatchMet` says, if the hook after returns on the results. -/
theorem batch_pointwise (hx : x.Undisturbed E f P) (ss : List (Statement Value))
    (w : World E.recorded) :
    ∃ opening served closing stamp answer,
      x.Leads w (x.dispatch (Job.batch ss) w).2 (opening ++ served ++ closing) ∧
      x.Opened w.threshold (ss.map (·.query)) (w.drawn x.number + 1) opening stamp none ∧
      Backend.Called E (.batch (ss.map (·.bound))) x.backend served answer ∧
      ∀ v items, answer = .ok v → v.items = .ok items → Value.Separate f w.minted items →
        (∀ results, items.mapM x.coerceQuery = .ok results → ∀ r ∈ results, P r) →
        x.BatchMet f P w.threshold ss stamp items closing (x.dispatch (Job.batch ss) w).1 := by
  obtain ⟨es, hleads, hes, -, hkeeps⟩ := perform_concluded x (Job.batch ss) w
  rw [dispatch_eq]
  rcases hperform : x.perform (Job.batch ss) w with ⟨r, w'⟩
  rw [hperform] at hleads hes hkeeps
  cases hes with
  | refused _ hcalled => cases hx.before_ok w hleads.given hcalled
  | @unanswered opening served stamp a e hopened hserved =>
    obtain rfl := hx.opened_none w (List.forall_mem_append.mp hleads.given).1 hopened
    rw [plan, queries_batch] at hopened
    rw [Effect.bind_of_error hperform]
    refine ⟨opening, served, [], stamp, .error e, ?_, hopened, hserved, ?_⟩
    · rwa [List.append_nil]
    · rintro v items ⟨⟩
  | @uncoerced opening served stamp a v e hopened hserved hrefused =>
    obtain rfl := hx.opened_none w (List.forall_mem_append.mp hleads.given).1 hopened
    rw [plan, queries_batch] at hopened
    rw [Effect.bind_of_error hperform]
    refine ⟨opening, served, [], stamp, .ok v, ?_, hopened, hserved, ?_⟩
    · rwa [List.append_nil]
    · rintro v' items hv hitems - -
      obtain rfl := Except.ok.inj hv
      exact batchMet_of_refused hitems hrefused
  | @reported opening served reported stamp a v results r hopened hserved htake hreported =>
    have hgiven := List.forall_mem_append.mp hleads.given
    obtain rfl := hx.opened_none w (List.forall_mem_append.mp hgiven.1).1 hopened
    rw [plan, queries_batch] at hopened hreported
    rcases r with e | left
    · rw [Effect.bind_of_error hperform]
      refine ⟨opening, served, reported, stamp, .ok v, hleads, hopened, hserved, ?_⟩
      rintro v' items hv hitems - hP
      obtain rfl := Except.ok.inj hv
      cases hx.reported_ok w hgiven.2 (hP _ (coerceBatch_eq_ok hitems htake).1) hreported
    · rw [Effect.bind_of_ok hperform]
      obtain ⟨mapping, hext, -⟩ : ∃ mapping,
          w'.Extends (mapResults (Job.batch ss).mappers left w').2 mapping ∧ _ :=
        traces_mapEach [] (Job.batch ss).mappers left w' hleads.threshold
      refine ⟨opening, served, reported ++ mapping, stamp, .ok v, ?_, hopened, hserved, ?_⟩
      · rw [← List.append_assoc]
        exact hleads.extend hext
      rintro v' items hv hitems hseparate hP
      obtain rfl := Except.ok.inj hv
      obtain ⟨hmapM, hcount⟩ := coerceBatch_eq_ok hitems htake
      obtain rfl := Except.ok.inj (hx.reported_ok w hgiven.2 (hP _ hmapM) hreported)
      exact batchMet_of_reported hx.maps hmapM hcount (hP _ hmapM) hreported hext.past
        (by rw [hkeeps.minted]; exact hseparate.coerced hmapM)

end Executor

/-! ### A store that answers by a table -/

namespace Executor

theorem hooked_undisturbed (answers : Call → Value) (f : Mapping) (P : Value → Prop) :
    hooked.Undisturbed (.answering answers f) f P where
  before hook h id queries w := by
    obtain rfl := Option.some.inj h
    rfl
  after hook h id queries results duration w _ := by
    obtain rfl := Option.some.inj h
    rfl
  maps mapper row s := rfl

/-- Every item can be the answer to a statement alone. -/
theorem hooked_answers (f : Mapping) (P : Value → Prop) (s : Statement Value) (item : Value)
    (minted : Nat) :
    ∃ (E : Environment) (w : World E.recorded), hooked.Undisturbed E f P ∧ w.minted = minted ∧
      hooked.backend.Answers (.all s.bound) item w :=
  ⟨.answering (fun _ => item) f, ⟨fun _ => 0, minted, fun _ => {}, none, ((), [])⟩,
    hooked_undisturbed _ f P, rfl, fun _ _ => rfl⟩

/-- A world in which two outcomes have numbers, and the store answers with these items. -/
def itemsWorld (f : Mapping) (items : List Value) :
    World (Environment.answering (fun _ => .ofList items) f).recorded where
  drawn := fun _ => 0
  minted := 2
  recorders := fun _ => {}
  threshold := none
  outside := ((), [])

/-- A mapping that puts a row into a tuple. -/
def wrapping : Mapping := fun _ row => .ok (.tuple [row])

theorem wrapping_local (n : Nat) : wrapping.Local n := by
  intro mapper row v h hrow contents
  obtain rfl := Except.ok.inj h
  rw [Value.refresh, Value.refreshItems, hrow contents]
  rfl

/-- An outcome that is held elsewhere too, and a mapping. -/
def twoItems : List Value :=
  [.query (some 0) { rows := [.int 1, .int 2] }, .dict [(.text "results", .ofList [.int 3])]]

theorem twoItems_separate : Value.Separate wrapping 2 twoItems where
  given := by
    refine List.forall_mem_cons.mpr ⟨fun n hn => ?_, List.forall_mem_singleton.mpr fun n hn => ?_⟩
    · obtain rfl := Option.some.inj hn
      exact Nat.zero_lt_two
    · cases hn
  apart := by
    refine List.pairwise_pair.mpr ⟨fun n hn => ?_, fun n hn => ?_⟩
    · obtain rfl := Option.some.inj hn
      exact fun contents => rfl
    · cases hn
  mapped v _ n _ := wrapping_local n

theorem batch_pointwise_two :
    (hooked.dispatch (Job.batch [selecting (some "wrap"), selecting none])
        (itemsWorld wrapping twoItems)).1.isOk = true ∧
      (∃ stamp closing, hooked.BatchMet wrapping (fun _ => True) none
        [selecting (some "wrap"), selecting none] stamp twoItems closing
        (hooked.dispatch (Job.batch [selecting (some "wrap"), selecting none])
          (itemsWorld wrapping twoItems)).1) ∧
      ∀ s item minted, ∃ (E : Environment) (w : World E.recorded),
        hooked.Undisturbed E wrapping (fun _ => True) ∧ w.minted = minted ∧
          hooked.backend.Answers (.all (Statement.bound s)) item w := by
  obtain ⟨opening, served, closing, stamp, answer, hleads, -, hserved, hmet⟩ :=
    batch_pointwise (hooked_undisturbed _ wrapping fun _ => True)
      [selecting (some "wrap"), selecting none] (itemsWorld wrapping twoItems)
  have hanswer : answer = .ok (.ofList twoItems) := by
    have hgiven := (List.forall_mem_append.mp (List.forall_mem_append.mp hleads.given).1).2
    cases hserved with
    | store =>
      obtain ⟨s, hs⟩ := (List.forall_mem_cons.mp (List.forall_mem_cons.mp hgiven).2).1
      exact hs.symm
  exact ⟨by decide +kernel, ⟨stamp, closing, hmet _ twoItems hanswer rfl twoItems_separate
    fun _ _ _ _ => trivial⟩, hooked_answers wrapping _⟩

/-! ### Items that are held elsewhere -/

/-- No two of the values are the same outcome. One of them can hold another one. -/
def Different (vs : List Value) : Prop :=
  vs.Pairwise fun u v => ∀ n, u.outcomeNumber? = some n → v.outcomeNumber? ≠ some n

/-- Each slot of a batch is what its statement gives alone, if the mappers and the items are so, and
hooks always return. -/
def PointwiseIf (C : Mapping → List Value → Prop) : Prop :=
  ∀ (x : Executor) (E : Environment) (f : Mapping) (ss : List (Statement Value))
    (w : World E.recorded) (v : Value) (items slots : List Value),
    x.Undisturbed E f (fun _ => True) → x.backend.Answers (.batch (ss.map (·.bound))) v w →
    v.items = .ok items →
    (∀ item ∈ items, ∀ n, item.outcomeNumber? = some n → n < w.minted) → C f items →
    (x.dispatch (Job.batch ss) w).1 = .ok slots →
    List.Forall₂ (fun p u => x.GivesAlone f (fun _ => True) p.1 p.2 u) (ss.zip items) slots

/-- A store can answer a statement with any item, so what the statement gives alone is its slot. -/
theorem slot_of_givesAlone {s : Statement Value} {item r v : Value}
    (hcoerce : hooked.coerceQuery item = .ok r) (h : hooked.GivesAlone f (fun _ => True) s item v) :
    ∃ next, slot f next s.mapper r = .ok v := by
  obtain ⟨minted, halone⟩ := h
  obtain ⟨E, w, hx, hminted, hanswer⟩ := hooked_answers f (fun _ => True) s item minted
  have hrun := halone E w hx hminted hanswer
  rw [all_run hx hanswer hcoerce trivial] at hrun
  refine ⟨w.minted, ?_⟩
  rcases hslot : slot f w.minted s.mapper r with e | u
  · rw [hslot] at hrun
    cases hrun
  · rw [hslot] at hrun
    rw [List.singleton_inj.mp (Except.ok.inj hrun)]

/-- An outcome of the number with one row. -/
def single (n : Nat) (row : Value) : Value := .query (some n) { rows := [row] }

theorem single_given (row row' : Value) :
    ∀ item ∈ [single 0 row, single 1 row'], ∀ n, item.outcomeNumber? = some n → n < 2 := by
  refine List.forall_mem_cons.mpr ⟨fun n hn => ?_, List.forall_mem_singleton.mpr fun n hn => ?_⟩
  · obtain rfl := Option.some.inj hn
    exact Nat.zero_lt_two
  · obtain rfl := Option.some.inj hn
    exact Nat.one_lt_two

theorem single_different (row row' : Value) : Different [single 0 row, single 1 row'] := by
  refine List.pairwise_pair.mpr fun n hn hn' => ?_
  obtain rfl := Option.some.inj hn
  cases hn'

/-- Whether a batch gives two values that do not compare with two others as those do themselves. -/
def differs (u v : Value) : Except Failure (List Value) → Bool
  | .ok [u', v'] => (u'.equal u, v'.equal v) != (u.equal u, v.equal v)
  | _ => false

/-- A condition is not enough if a batch meets it whose slots are not what its statements give
alone. -/
theorem not_pointwiseIf {C : Mapping → List Value → Prop} (row row' : Value)
    (m m' : Option String) (u v : Value) (hC : C f [single 0 row, single 1 row'])
    (hu : ∀ next, slot f next m (single 0 row) = .ok u)
    (hv : ∀ next, slot f next m' (single 1 row') = .ok v)
    (h : differs u v (hooked.dispatch (Job.batch [selecting m, selecting m'])
      (itemsWorld f [single 0 row, single 1 row'])).1) : ¬ PointwiseIf C := by
  intro hpointwise
  rcases hrun : (hooked.dispatch (Job.batch [selecting m, selecting m'])
    (itemsWorld f [single 0 row, single 1 row'])).1 with e | slots
  · rw [hrun] at h
    cases h
  have hslots := hpointwise hooked _ f [selecting m, selecting m'] (itemsWorld f _) (.ofList _) _ slots
    (hooked_undisturbed _ f _) (fun _ _ => rfl) rfl (single_given row row') hC hrun
  cases hslots with
  | cons halone hrest =>
    cases hrest with
    | cons halone' hnil =>
      cases hnil
      obtain ⟨next, hslot⟩ := slot_of_givesAlone (r := single 0 row) rfl halone
      obtain ⟨next', hslot'⟩ := slot_of_givesAlone (r := single 1 row') rfl halone'
      obtain rfl := Except.ok.inj ((hu next).symm.trans hslot)
      obtain rfl := Except.ok.inj ((hv next').symm.trans hslot')
      rw [hrun, differs, bne_self_eq_false] at h
      cases h

/-- A mapping to the number nine. -/
def nine : Mapping := fun _ _ => .ok (.int 9)

theorem nine_local (n : Nat) : nine.Local n := by
  intro mapper row v h _
  obtain rfl := Except.ok.inj h
  exact Value.avoids_primitive _

/-- A mapping that has one mapper to a value, and the others to the number nine. -/
def bringing (u : Value) : Mapping := fun mapper _ => .ok (if mapper = "bring" then u else .int 9)

/-- That the items are different is not enough. An item that another one holds is mapped there too,
and so is an item that a mapper has brought in. -/
theorem different_not_pointwise :
    ¬ PointwiseIf (fun _ items => Different items) ∧
      ¬ PointwiseIf (fun f items => Different items ∧ ∀ n, f.Local n) ∧
      ¬ PointwiseIf (fun _ items => items.Pairwise Value.Apart) := by
  have hheld : ¬ PointwiseIf (fun f items => Different items ∧ ∀ n, f.Local n) :=
    not_pointwiseIf (.int 1) (single 0 (.int 1)) (some "nine") none
      (single 0 (.int 9)) (single 1 (single 0 (.int 1)))
      ⟨single_different _ _, nine_local⟩ (fun _ => rfl) (fun _ => rfl) (by decide +kernel)
  refine ⟨fun h => hheld fun x E f ss w v items slots hx hanswer hitems hgiven hC =>
    h x E f ss w v items slots hx hanswer hitems hgiven hC.1, hheld, ?_⟩
  refine not_pointwiseIf (f := bringing (single 1 (.int 2))) (.int 1) (.int 2) (some "bring")
    (some "nine") (single 0 (single 1 (.int 2))) (single 1 (.int 9)) ?_ (fun _ => rfl)
    (fun _ => rfl) (by decide +kernel)
  refine List.pairwise_pair.mpr ⟨fun n hn => ?_, fun n hn => ?_⟩
  · obtain rfl := Option.some.inj hn
    exact fun contents => rfl
  · obtain rfl := Option.some.inj hn
    exact fun contents => rfl

end Executor

end SqlWeave
