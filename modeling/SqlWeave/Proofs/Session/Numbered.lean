import SqlWeave.Proofs.Execution.Halves
import SqlWeave.Proofs.Session.Traffic

/-!
# The ids of calls in traffic

Each executor numbers the calls that reach it, in the order in which they begin, whatever becomes of
them and whatever other executors do (`Traffic.Ordered`, which every move preserves). A call keeps
its id while others go on: each half of it asks what half of a dispatch asks under that id, so that
the halves together are one dispatch (`Errand.Under`).
-/

namespace SqlWeave

variable {E : Environment} {th : Threshold}

/-! ### A call among others -/

namespace Errand

/-- What was asked in the first half. -/
def opening (c : Errand E.recorded) : List Exchange := c.start.2.past.drop c.began.past.length

/-- What was asked in the second half, if the call went on. -/
def closing (c : Errand E.recorded) : List Exchange :=
  match c.start.1, c.resumed with
  | .ok ticket, some w => (c.executor.finish ticket w).2.past.drop w.past.length
  | _, _ => []

/-- What was asked for a call. -/
def asked (c : Errand E.recorded) : List Exchange := c.opening ++ c.closing

/-- A call goes as a dispatch under an id does, as far as it has come. -/
inductive Under (c : Errand E.recorded) (th : Threshold) (id : Nat) : Prop where
  /-- It has ended. -/
  | ended {r : Except Failure (List Value)} :
    c.outcome? = some r →
      Executor.Dispatched E c.executor th (c.executor.plan c.job) id c.asked r → Under c th id
  /-- It waits for its backend. -/
  | waiting {ticket : Ticket} :
    c.ticket? = some ticket → c.executor.Begun th c.job id c.asked (.ok ticket) → Under c th id

theorem opening_eq {c : Errand E.recorded} {es : List Exchange}
    (h : c.start.2.past = c.began.past ++ es) : c.opening = es := by
  rw [opening, h, List.drop_left]

theorem closing_of_error {c : Errand E.recorded} {e : Failure} (h : c.start.1 = .error e) :
    c.closing = [] := by
  rw [closing, h]

theorem closing_of_waiting {c : Errand E.recorded} (h : c.resumed = none) : c.closing = [] := by
  rw [closing, h]
  cases c.start.1 with
  | error e => rfl
  | ok ticket => rfl

theorem closing_eq {c : Errand E.recorded} {ticket : Ticket} {w : World E.recorded}
    {es : List Exchange} (hstart : c.start.1 = .ok ticket) (hw : c.resumed = some w)
    (h : (c.executor.finish ticket w).2.past = w.past ++ es) : c.closing = es := by
  rw [closing, hstart, hw]
  show (c.executor.finish ticket w).2.past.drop w.past.length = es
  rw [h, List.drop_left]

theorem outcome?_of_error {c : Errand E} {e : Failure} (h : c.start.1 = .error e) :
    c.outcome? = some (.error e) := by
  rw [outcome?, h]

theorem outcome?_of_ok {c : Errand E} {ticket : Ticket} (h : c.start.1 = .ok ticket) :
    c.outcome? = c.resumed.map fun w => (c.executor.finish ticket w).1 := by
  rw [outcome?, h]

/-- A call goes under the id that was next when it began. -/
theorem under_next (c : Errand E.recorded)
    (h : ∀ w, c.resumed = some w → w.threshold = c.began.threshold) :
    c.Under c.began.threshold (c.began.drawn c.executor.number + 1) := by
  obtain ⟨es, hleads, hbegun⟩ := c.executor.start_begun c.job c.began
  have hopening : c.opening = es := opening_eq hleads.past
  rcases hstart : (c.executor.start c.job c.began).1 with e | ticket
  · rw [hstart] at hbegun
    refine .ended (outcome?_of_error hstart) ?_
    rw [asked, hopening, closing_of_error hstart, List.append_nil]
    cases hbegun with
    | refused hdirect hcalled => exact .failed (.refused hdirect hcalled)
  · rw [hstart] at hbegun
    rcases hresumed : c.resumed with _ | w
    · have hwaits : c.ticket? = some ticket := by
        rw [ticket?, start, hstart, hresumed]
      refine .waiting hwaits ?_
      rw [asked, hopening, closing_of_waiting hresumed, List.append_nil]
      exact hbegun
    · refine .ended (r := (c.executor.finish ticket w).1) ?_ ?_
      · rw [outcome?_of_ok hstart, hresumed]
        rfl
      · cases hbegun with
        | handed hopened =>
          obtain ⟨fs, hext, hfs⟩ := Executor.traces_finish hopened _ w (h w hresumed)
          rw [asked, hopening, closing_eq hstart hresumed hext.past]
          exact hfs

/-- The hooks of a call get its id and its queries. -/
theorem Under.carries {c : Errand E.recorded} {id : Nat} (h : c.Under th id) :
    ∀ y ∈ c.asked, y.request.Carries id c.job.call.queries := by
  cases h with
  | ended _ h => exact h.carries
  | waiting _ h =>
    intro y hy
    generalize hes : c.asked = es at h hy
    cases h with
    | handed hopened =>
      rcases List.mem_append.mp hy with hy | hy
      · exact (Executor.carries_opened hopened).1 y hy
      · exact Executor.carries_submission _ _ _ y hy

end Errand

/-! ### The order of ids -/

namespace Traffic

/-- What holds of the calls that were made in a session since it was `s`. -/
structure Ordered (s : Session E.recorded) (t : Traffic E.recorded) : Prop where
  /-- The threshold stays. -/
  threshold : t.session.world.threshold = s.world.threshold
  /-- So it was for every call. -/
  level : ∀ c ∈ t.errands, c.began.threshold = s.world.threshold ∧
    ∀ w, c.resumed = some w → w.threshold = s.world.threshold
  /-- Executors keep their numbers. -/
  found : ∀ c ∈ t.errands,
    t.session.executors.find? (·.number = c.executor.number) = some c.executor
  /-- An executor has drawn an id for each of its calls. -/
  drawn : ∀ n, t.session.world.drawn n = s.world.drawn n + (t.dispatches n).length
  /-- Each call began when the calls before it had their ids. -/
  numbered : ∀ n, (t.dispatches n).map (·.began.drawn n) =
    List.range' (s.world.drawn n) (t.dispatches n).length

theorem ordered_start (s : Session E.recorded) : Ordered s ⟨s, []⟩ where
  threshold := rfl
  level c hc := by cases hc
  found c hc := by cases hc
  drawn n := rfl
  numbered n := rfl

theorem dispatches_append (n : Nat) (s : Session E)
    (calls calls' : List (Nat × Except Failure (Errand E))) :
    dispatches n ⟨s, calls ++ calls'⟩ = dispatches n ⟨s, calls⟩ ++ dispatches n ⟨s, calls'⟩ := by
  rw [dispatches, errands_append, List.filter_append]
  rfl

/-- Going on with a call changes nothing about the executors of the calls. -/
theorem dispatches_goOn (n : Nat) (s s' : Session E)
    (calls : List (Nat × Except Failure (Errand E))) (key : Nat) (w : World E) :
    List.Forall₂ (fun c c' => c' = c ∨ c' = c.goOn w) (dispatches n ⟨s, calls⟩)
      (dispatches n ⟨s', calls.map fun e => if e.1 = key then (e.1, e.2.map (·.goOn w)) else e⟩) := by
  refine List.rel_filter (fun c c' h => ?_) (errands_goOn s calls key w)
  obtain rfl | rfl := h
  · exact Iff.rfl
  · exact Iff.rfl

/-- What is seen of the calls and does not change when one of them goes on. -/
theorem map_goOn {β : Type} {f : Errand E → β} {w : World E} (hf : ∀ c, f (c.goOn w) = f c)
    {cs cs' : List (Errand E)} (h : List.Forall₂ (fun c c' => c' = c ∨ c' = c.goOn w) cs cs') :
    cs'.map f = cs.map f := by
  induction h with
  | nil => rfl
  | cons hc _ ih =>
    obtain rfl | rfl := hc
    · rw [List.map_cons, List.map_cons, ih]
    · rw [List.map_cons, List.map_cons, ih, hf]

/-- A call after another one goes on is one from before, gone on or not. -/
theorem mem_goOn {w : World E} {cs cs' : List (Errand E)}
    (h : List.Forall₂ (fun c c' => c' = c ∨ c' = c.goOn w) cs cs') {c' : Errand E} (hc : c' ∈ cs') :
    ∃ c ∈ cs, c' = c ∨ c' = c.goOn w := by
  induction h with
  | nil => cases hc
  | cons hhead _ ih =>
    rcases List.mem_cons.mp hc with rfl | hc
    · exact ⟨_, List.mem_cons_self, hhead⟩
    · obtain ⟨c, hmem, h⟩ := ih hc
      exact ⟨c, List.mem_cons_of_mem _ hmem, h⟩

namespace Ordered

variable {s : Session E.recorded} {t : Traffic E.recorded}

theorem refused (h : Ordered s t) (key : Nat) (e : Failure) :
    Ordered s { t with calls := t.calls ++ [(key, .error e)] } := by
  have herrands : errands { t with calls := t.calls ++ [(key, .error e)] } = t.errands := by
    rw [errands_append]
    exact List.append_nil _
  have hdispatches : ∀ n, dispatches n { t with calls := t.calls ++ [(key, .error e)] } =
      t.dispatches n := by
    intro n
    rw [dispatches_append]
    exact List.append_nil _
  constructor
  · exact h.threshold
  · rw [herrands]
    exact h.level
  · rw [herrands]
    exact h.found
  · intro n
    rw [hdispatches]
    exact h.drawn n
  · intro n
    rw [hdispatches]
    exact h.numbered n

/-- A call that is accepted is the last one of its executor. -/
theorem accepted (h : Ordered s t) (key : Nat) {x : Executor} {job : Job}
    (hx : t.session.executors.find? (·.number = x.number) = some x) :
    Ordered s ⟨{ t.session with world := (x.start job t.session.world).2 },
      t.calls ++ [(key, .ok { executor := x, job, began := t.session.world })]⟩ := by
  obtain ⟨es, hleads, -⟩ := x.start_begun job t.session.world
  have hdispatches : ∀ n (s' : Session E.recorded),
      dispatches n ⟨s', t.calls ++ [(key, .ok { executor := x, job, began := t.session.world })]⟩ =
        t.dispatches n ++ if x.number = n && !x.direct then
          [{ executor := x, job, began := t.session.world }] else [] := by
    intro n s'
    rw [dispatches_append]
    refine congrArg (t.dispatches n ++ ·) ?_
    by_cases hn : (x.number = n && !x.direct) = true
    · rw [if_pos hn]
      exact List.filter_cons_of_pos hn
    · rw [if_neg hn]
      exact List.filter_cons_of_neg hn
  have hmem : ∀ c ∈ errands ⟨{ t.session with world := (x.start job t.session.world).2 },
      t.calls ++ [(key, .ok { executor := x, job, began := t.session.world })]⟩,
      c ∈ t.errands ∨ c = { executor := x, job, began := t.session.world } := by
    intro c hc
    rw [errands_append] at hc
    exact (List.mem_append.mp hc).imp_right List.mem_singleton.mp
  constructor
  · exact hleads.threshold.trans h.threshold
  · intro c hc
    obtain hc | rfl := hmem c hc
    · exact h.level c hc
    · exact ⟨h.threshold, fun _ h => nomatch h⟩
  · intro c hc
    obtain hc | rfl := hmem c hc
    · exact h.found c hc
    · exact hx
  · intro n
    rw [hdispatches]
    show (x.start job t.session.world).2.drawn n = _
    rw [hleads.drawn]
    cases hdirect : x.direct with
    | true => simpa using h.drawn n
    | false =>
      by_cases hn : n = x.number
      · subst hn
        simp [h.drawn, Nat.add_assoc]
      · simp [h.drawn, hn, Ne.symm hn]
  · intro n
    rw [hdispatches]
    by_cases hn : (x.number = n && !x.direct) = true
    · rw [if_pos hn, List.map_append, List.length_append, h.numbered, List.length_singleton,
        List.range'_concat, List.map_singleton, h.drawn, Nat.one_mul]
    · rw [if_neg hn, List.append_nil]
      exact h.numbered n

/-- A call that goes on draws no id. -/
theorem resumed (h : Ordered s t) (key : Nat) (x : Executor) (ticket : Ticket) :
    Ordered s ⟨{ t.session with world := (x.finish ticket t.session.world).2 },
      t.calls.map fun e => if e.1 = key then (e.1, e.2.map (·.goOn t.session.world)) else e⟩ := by
  obtain ⟨es, hext⟩ := x.finish_extends ticket t.session.world
  have hdispatches := fun n => dispatches_goOn n t.session
    { t.session with world := (x.finish ticket t.session.world).2 } t.calls key t.session.world
  constructor
  · exact hext.threshold.trans h.threshold
  · intro c' hc'
    obtain ⟨c, hc, rfl | rfl⟩ := mem_goOn (errands_goOn t.session t.calls key t.session.world) hc'
    · exact h.level _ hc
    · refine ⟨(h.level c hc).1, fun w hw => ?_⟩
      obtain rfl := Option.some.inj hw
      exact h.threshold
  · intro c' hc'
    obtain ⟨c, hc, rfl | rfl⟩ := mem_goOn (errands_goOn t.session t.calls key t.session.world) hc'
    · exact h.found _ hc
    · exact h.found c hc
  · intro n
    rw [← (hdispatches n).length_eq]
    exact (congrFun hext.drawn n).trans (h.drawn n)
  · intro n
    rw [← (hdispatches n).length_eq, map_goOn (fun _ => rfl) (hdispatches n)]
    exact h.numbered n

theorem aside (h : Ordered s t) (other : Interlude E.recorded) :
    Ordered s { t with session := other.act t.session } := by
  constructor
  · exact (other.threshold t.session).trans h.threshold
  · exact h.level
  · intro c hc
    obtain ⟨later, hlater⟩ := other.executors t.session
    show (other.act t.session).executors.find? _ = _
    rw [← hlater, List.find?_append, h.found c hc]
    rfl
  · intro n
    exact (congrFun (other.drawn t.session) n).trans (h.drawn n)
  · exact h.numbered

theorem step (h : Ordered s t) (m : Move E.recorded) : Ordered s (t.step m) := by
  cases m with
  | begin key call =>
    rw [Traffic.step]
    by_cases hkey : t.calls.any (·.1 = key) = true
    · rw [if_pos hkey]
      exact h
    · rw [if_neg hkey]
      rcases haccept : (accept call t.session).1 with e | ⟨x, job⟩
      · rw [begin_of_refused haccept]
        exact h.refused key e
      · obtain ⟨i, -, hi⟩ := accept_eq_ok_iff.mp haccept
        rw [begin_of_accepted haccept]
        exact h.accepted key (Session.prepares_of_ok hi).found
  | resume key =>
    show Ordered s (t.resume key)
    rcases hwaiting : t.waiting? key with _ | ⟨c, ticket⟩
    · rw [resume_of_not_waiting hwaiting]
      exact h
    · rw [resume_of_waiting hwaiting]
      exact h.resumed key c.executor ticket
  | aside other => exact h.aside other

end Ordered

/-- Whatever moves are made, the calls are in order. -/
theorem ordered_run (s : Session E.recorded) (moves : List (Move E.recorded)) :
    Ordered s (run ⟨s, []⟩ moves) :=
  run_induction (fun _ m h => h.step m) (ordered_start s) moves

/-- A call of an executor goes under the id that comes after those of the calls before it. -/
theorem Ordered.under {s : Session E.recorded} {t : Traffic E.recorded} (h : Ordered s t)
    {n k : Nat} {c : Errand E.recorded} (hc : (t.dispatches n)[k]? = some c) :
    c.Under s.world.threshold (s.world.drawn n + k + 1) := by
  obtain ⟨herrand, rfl, -⟩ := mem_dispatches.mp (List.mem_of_getElem? hc)
  obtain ⟨hbegan, hresumed⟩ := h.level c herrand
  have hdrawn : c.began.drawn c.executor.number = s.world.drawn c.executor.number + k := by
    have hk := congrArg (·[k]?) (h.numbered c.executor.number)
    obtain ⟨hlt, heq⟩ := List.getElem?_eq_some_iff.mp hc
    simpa [heq, List.getElem?_range', hlt] using hk
  have hunder := c.under_next fun w hw => (hresumed w hw).trans hbegan.symm
  rw [hbegan, hdrawn] at hunder
  exact hunder

end Traffic

end SqlWeave
