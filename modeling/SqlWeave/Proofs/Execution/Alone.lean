import SqlWeave.Proofs.Execution.Protocol
import SqlWeave.Proofs.Execution.RowMapping

/-!
# A statement alone

What comes of one statement whose hooks return, with nothing altered, and whose row mapper is a
function of the row (`Executor.Undisturbed`): the `Executor.slot` of what its backend answers
(`Executor.all_run`).
-/

namespace SqlWeave

variable {f : Mapping}

/-- A backend answers a call with a value, whatever has been asked in the meantime. -/
def Backend.Answers {E : Environment} (b : Backend) (call : Call) (v : Value) (w : World E) : Prop :=
  ∀ w' : World E, w.Keeps w' → (b.collect call w').1 = .ok v

namespace Executor

/-! ### What is not disturbed -/

/-- The hooks of an executor return normally and alter nothing, the hook after at least on results
with `P`, and its row mappers are functions of the row. -/
structure Undisturbed (x : Executor) (E : Environment) (f : Mapping) (P : Value → Prop) : Prop where
  /-- The hook before returns. -/
  before : ∀ hook, x.before = some hook → ∀ id queries (w : World E.recorded),
    (hook.call id queries w).1 = .ok none
  /-- The hook after returns. -/
  after : ∀ hook, x.after = some hook → ∀ id queries results duration (w : World E.recorded),
    (∀ r ∈ results, P r) → (hook.call id queries results duration w).1 = .ok none
  /-- The row mappers are functions of the row. -/
  maps : E.Maps f

variable {x : Executor} {E : Environment} {P : Value → Prop}

theorem ofExcept_fst {σ α : Type} (r : Except Failure α) (s : σ) : (Effect.ofExcept r s).1 = r := by
  cases r with
  | ok a => rfl
  | error e => rfl

/-- The hook before returns and alters nothing. -/
theorem Undisturbed.before_ok (hx : x.Undisturbed E f P) (w : World E.recorded) {id : Nat}
    {queries : List String} {es : List Exchange} {r : Except Failure Alteration}
    (hes : ∀ y ∈ es, E.Gives y) (h : BeforeHook.Called id queries x.before es r) : r = .ok none := by
  generalize hbefore : x.before = before at h
  cases h with
  | absent => rfl
  | @callback n =>
    obtain ⟨s, hs⟩ := hes _ List.mem_cons_self
    let w' : World E.recorded := { w with outside := (s, []) }
    have hok : (Effect.ofExcept (E.answer (.before n id queries) s).1
        (Act.ask (.before n id queries) w').2).1 = .ok none := hx.before _ hbefore id queries w'
    rwa [ofExcept_fst, hs] at hok
  | inert => cases hx.before _ hbefore id queries w

/-- So what the backend gets is not altered. -/
theorem Undisturbed.opened_none (hx : x.Undisturbed E f P) (w : World E.recorded) {th : Threshold}
    {id : Nat} {queries : List String} {es : List Exchange} {stamp : Option (Nat × Binary64)}
    {a : Alteration} (hes : ∀ y ∈ es, E.Gives y) (h : x.Opened th queries id es stamp a) :
    a = none := by
  cases h with
  | direct _ => rfl
  | timed _ hcalled =>
    rw [List.forall_mem_append, List.forall_mem_append] at hes
    exact Except.ok.inj (hx.before_ok w hes.1.1 hcalled)

/-- The hook after returns and alters nothing. -/
theorem Undisturbed.after_ok (hx : x.Undisturbed E f P) (w : World E.recorded) {th : Threshold}
    {id : Nat} {queries : List String} {results : List Value} {duration : Binary64}
    {es : List Exchange} {r : Except Failure Alteration} (hes : ∀ y ∈ es, E.Gives y)
    (hresults : ∀ v ∈ results, P v)
    (h : AfterHook.Called th id queries results duration x.after es r) : r = .ok none := by
  generalize hafter : x.after = after at h
  cases h with
  | absent => rfl
  | @callback n =>
    obtain ⟨s, hs⟩ := hes _ List.mem_cons_self
    let w' : World E.recorded := { w with outside := (s, []) }
    have hok : (Effect.ofExcept (E.answer (.after n id queries results duration) s).1
        (Act.ask (.after n id queries results duration) w').2).1 = .ok none :=
      hx.after _ hafter id queries results duration w' hresults
    rwa [ofExcept_fst, hs] at hok
  | @logged logger level ending records _ hreport hr =>
    have hok := hx.after _ hafter id queries results duration { w with threshold := th } hresults
    rw [AfterHook.call_queryLog_fst] at hok
    have hending : ending = _ := congrArg Prod.fst hreport.symm
    rw [hr, hending]
    exact hok
  | inert => cases hx.after _ hafter id queries results duration w hresults

/-- So the results go on as they are. -/
theorem Undisturbed.reported_ok (hx : x.Undisturbed E f P) (w : World E.recorded) {th : Threshold}
    {queries : List String} {results : List Value} {stamp : Option (Nat × Binary64)}
    {es : List Exchange} {r : Except Failure (List Value)} (hes : ∀ y ∈ es, E.Gives y)
    (hresults : ∀ v ∈ results, P v) (h : x.Reported th queries results stamp es r) :
    r = .ok results := by
  cases h with
  | direct => rfl
  | heard _ hcalled =>
    rw [List.forall_mem_append] at hes
    obtain rfl := Except.ok.inj (hx.after_ok w hes.2 hresults hcalled)
    rfl
  | objected _ hcalled =>
    rw [List.forall_mem_append, List.forall_mem_append] at hes
    cases hx.after_ok w hes.1.2 hresults hcalled

/-! ### One statement alone -/

theorem conclude_of_answers (hx : x.Undisturbed E f P) {t : Ticket} {w : World E.recorded} {v : Value}
    {results : List Value} (hanswer : (x.backend.collect t.job.call w).1 = .ok v)
    (hcoerce : x.coerce v t.job.call = .ok results) (hresults : ∀ r ∈ results, P r) :
    (x.conclude t w).1 = .ok results := by
  have hcollect : x.backend.collect t.job.call w =
      (.ok v, (x.backend.collect t.job.call w).2) := Prod.ext hanswer rfl
  rw [conclude_eq, Effect.bind_of_ok hcollect, hcoerce, Effect.ok_bind]
  generalize (x.backend.collect t.job.call w).2 = w₁
  obtain ⟨es, hext, hes⟩ := traces_report x t results w₁ rfl
  exact hx.reported_ok w₁ hext.given hresults hes

/-- A backend that answers, and hooks that return, give the coerced answer. -/
theorem perform_of_answers (hx : x.Undisturbed E f P) {job : Job} {w : World E.recorded} {v : Value}
    {results : List Value} (hanswer : x.backend.Answers job.call v w)
    (hcoerce : x.coerce v job.call = .ok results) (hresults : ∀ r ∈ results, P r) :
    (x.perform job w).1 = .ok results := by
  rw [perform]
  cases h : x.direct with
  | true =>
    rw [start_of_direct h, bind_assoc]
    obtain ⟨es, hext, ⟨d, hd, -⟩, -, hkeeps⟩ :=
      (Backend.traces_submit x.backend job.call).and_asks (asks_submit x.backend job.call) (w := w) rfl
    have hsubmit : x.backend.submit job.call w = (.ok d, (x.backend.submit job.call w).2) :=
      Prod.ext hd rfl
    rw [Effect.bind_of_ok hsubmit, pure_bind]
    exact conclude_of_answers hx (hanswer _ hkeeps) hcoerce hresults
  | false =>
    rw [start_of_not_direct h, bind_assoc]
    have hdraw : Act.drawId x.number w =
        (.ok (w.drawn x.number + 1), (Act.drawId x.number w).2) := rfl
    have hdrawn : w.Keeps (Act.drawId x.number w).2 := ⟨rfl, fun _ => rfl⟩
    rw [Effect.bind_of_ok hdraw]
    generalize (Act.drawId x.number w).2 = w₁ at hdrawn
    obtain ⟨es, hext, hes, -, hkeeps⟩ := (traces_startAs h job (w.drawn x.number + 1)).and_asks
      (asks_startAs x job (w.drawn x.number + 1)) (w := w₁) rfl
    obtain ⟨e, -, hcalled⟩ | ⟨fs, stamp, a, d, ht, hopened, rfl⟩ := hes
    · cases hx.before_ok w₁ hext.given hcalled
    · obtain rfl := hx.opened_none w₁ (List.forall_mem_append.mp hext.given).1 hopened
      rw [Job.altered_none] at ht
      have hstart : x.startAs job (w.drawn x.number + 1) w₁ =
          (.ok ⟨job, stamp, d⟩, (x.startAs job (w.drawn x.number + 1) w₁).2) := Prod.ext ht rfl
      rw [Effect.bind_of_ok hstart]
      exact conclude_of_answers hx (hanswer _ (hdrawn.trans hkeeps)) hcoerce hresults

/-- A statement alone gives the slot of the coerced answer. -/
theorem all_run (hx : x.Undisturbed E f P) {s : Statement Value} {w : World E.recorded}
    {item r : Value} (hanswer : x.backend.Answers (.all s.bound) item w)
    (hcoerce : x.coerceQuery item = .ok r) (hr : P r) :
    (x.dispatch (Job.all s) w).1 = (slot f w.minted s.mapper r).map ([·]) := by
  have hresults : x.coerce item (Job.all s).call = .ok [r] :=
    congrArg (Except.map ([·])) hcoerce
  have hperform : x.perform (Job.all s) w = (.ok [r], (x.perform (Job.all s) w).2) :=
    Prod.ext (perform_of_answers hx hanswer hresults (List.forall_mem_singleton.mpr hr)) rfl
  obtain ⟨-, -, -, -, hkeeps⟩ := perform_concluded x (Job.all s) w
  rw [dispatch_eq, Effect.bind_of_ok hperform]
  generalize (x.perform (Job.all s) w).2 = w₁ at hkeeps
  obtain ⟨hresult, -⟩ := mapResult_run hx.maps s.mapper r w₁
  rw [hkeeps.minted] at hresult
  rw [← hresult]
  have hmap : mapResults (Job.all s).mappers [r] w₁ =
      (mapResult s.mapper r >>= fun v => pure [v] : Act E.recorded (List Value)) w₁ := rfl
  rw [hmap]
  rcases hrun : mapResult s.mapper r w₁ with ⟨e | v, w₂⟩
  · rw [Effect.bind_of_error hrun]
    rfl
  · rw [Effect.bind_of_ok hrun]
    rfl

/-- What a statement gives alone if the backend answers it with an item: in every undisturbed
environment with so many numbers it is this value. -/
def GivesAlone (x : Executor) (f : Mapping) (P : Value → Prop) (s : Statement Value)
    (item v : Value) : Prop :=
  ∃ minted, ∀ (E : Environment) (w : World E.recorded), x.Undisturbed E f P → w.minted = minted →
    x.backend.Answers (.all s.bound) item w → (x.dispatch (Job.all s) w).1 = .ok [v]

end Executor

end SqlWeave
