import SqlWeave.Proofs.Execution.Pointwise
import SqlWeave.Proofs.Execution.Repeated
import SqlWeave.Proofs.Session.Numbered

/-!
# Interleaved calls

Calls that are on their way at the same time do not mix, in whatever order their halves are executed.

**`Traffic.interleaved_as_alone`**: the calls of an executor get ids one after the other, in the order
of their first halves; both hooks of a call get its id and its queries; and each call ends as it does
alone on the same answer of its backend, unless a hook or a row mapper of the caller behaves
differently then.
-/

namespace SqlWeave

variable {E E' : Environment}

namespace Errand

/-- A world in which a call can be executed alone on the answer that its backend gave it in the
traffic: its hooks and mappers are called in any state, at any time, and under any id. -/
structure Alone (c : Errand E.recorded) (w' : World E'.recorded) : Prop where
  /-- The log has the same threshold. -/
  threshold : c.began.threshold = w'.threshold
  /-- Mapped rows get the same numbers. -/
  minted : ∀ w, c.resumed = some w → w.minted = w'.minted
  /-- If the backend is handed the same, it gives the same answer. -/
  answered : ∀ w, c.resumed = some w → ∀ t t' v', c.start.1 = .ok t →
    c.executor.start c.job w' = (.ok t', v') → t'.job = t.job →
    (c.executor.backend.collect t.job.call w).1 = (c.executor.backend.collect t.job.call v').1

/-- What is asked for a call that is executed alone. -/
def askedAlone (c : Errand E) (w' : World E'.recorded) : List Exchange :=
  (c.executor.dispatch c.job w').2.past.drop w'.past.length

/-- What a first half is followed by only adds to what was asked. -/
theorem askedAlone_eq (c : Errand E) {w' : World E'.recorded} {es : List Exchange}
    (hes : (c.executor.start c.job w').2.past = w'.past ++ es) : ∃ fs, c.askedAlone w' = es ++ fs := by
  rw [askedAlone, Executor.dispatch, Effect.bind_apply]
  rcases h : c.executor.start c.job w' with ⟨e | t, v⟩
  · rw [h] at hes
    exact ⟨[], by rw [hes, List.drop_left, List.append_nil]⟩
  · rw [h] at hes
    obtain ⟨fs, hext⟩ := c.executor.finish_extends t v
    exact ⟨fs, by rw [hext.past, hes, List.append_assoc, List.drop_left]⟩

/-- A call that has ended has ended as it does alone. -/
theorem ends_alike {c : Errand E.recorded} {r : Except Failure (List Value)}
    (hr : c.outcome? = some r) (hlevel : ∀ w, c.resumed = some w → w.threshold = c.began.threshold)
    {w' : World E'.recorded} (h : c.Alone w') :
    Differ (heard c.asked) (heard (c.askedAlone w')) ∨
      heard c.asked = heard (c.askedAlone w') ∧ (c.executor.dispatch c.job w').1 = r := by
  obtain ⟨es, es', hes, hes', hcase⟩ := Executor.parallel_start (N := fun _ _ => True) c.executor c.job
    c.began w' ⟨h.threshold, trivial⟩
  obtain ⟨fs', hfs'⟩ := c.askedAlone_eq hes'
  rw [asked, opening_eq hes]
  obtain hdiffer | ⟨hheard, hbeside, hagree⟩ := hcase
  · rw [hfs', heard_append, heard_append]
    exact .inl (hdiffer.append _ _)
  · have hminted := c.executor.start_minted c.job w'
    rcases hstart : (c.executor.start c.job c.began).1 with e | t
    · rcases hstart' : c.executor.start c.job w' with ⟨e' | t', v'⟩
      · rw [hstart, hstart'] at hagree
        rw [hstart'] at hes'
        cases hagree with
        | error =>
          have hdispatch : c.executor.dispatch c.job w' = (.error e, v') := by
            rw [Executor.dispatch, Effect.bind_of_error hstart']
          rw [outcome?_of_error hstart] at hr
          rw [closing_of_error hstart, List.append_nil, hheard, askedAlone, hdispatch, hes',
            List.drop_left]
          exact .inr ⟨rfl, Option.some.inj hr⟩
      · rw [hstart, hstart'] at hagree
        cases hagree
    · rcases hstart' : c.executor.start c.job w' with ⟨e' | t', v'⟩
      · rw [hstart, hstart'] at hagree
        cases hagree
      · rw [hstart, hstart'] at hagree
        rw [hstart'] at hbeside hes' hminted
        cases hagree with
        | ok hhanded =>
          rw [outcome?_of_ok hstart] at hr
          obtain ⟨w, hw, hr⟩ := Option.map_eq_some_iff.mp hr
          have hw' : w.Beside Eq v' := by
            obtain ⟨_, hleads, -⟩ := c.executor.start_begun c.job c.began
            constructor
            · rw [hlevel w hw, ← hleads.threshold, hbeside.threshold]
            · rw [h.minted w hw, hminted]
          obtain ⟨gs, gs', hgs, hgs', hcase⟩ :=
            c.executor.finish_alike hhanded hw'
              (h.answered w hw t t' v' hstart hstart' hhanded.right)
          have hdispatch : c.executor.dispatch c.job w' = c.executor.finish t' v' := by
            rw [Executor.dispatch, Effect.bind_of_ok hstart']
          have halone : c.askedAlone w' = es' ++ gs' := by
            rw [askedAlone, hdispatch, hgs', hes', List.append_assoc, List.drop_left]
          rw [closing_eq hstart hw hgs, halone, heard_append, heard_append, hheard, hdispatch]
          obtain hdiffer | ⟨hheard', hresult⟩ := hcase
          · exact .inl (hdiffer.prepend _)
          · exact .inr ⟨by rw [hheard'], hresult.symm.trans hr⟩

/-- A call that goes on ends. -/
theorem isSome_outcome? {c : Errand E} (h : c.resumed.isSome) : c.outcome?.isSome := by
  rcases hstart : c.start.1 with e | ticket
  · rw [outcome?_of_error hstart]
    rfl
  · rw [outcome?_of_ok hstart, Option.isSome_map]
    exact h

end Errand

namespace Traffic

/-- **Interleaved calls end as they do alone.** Whatever is called in a session, in whatever order the
halves of the calls are executed, and whatever the environment answers, the calls of an executor go
under the ids that come one after the other, in the order of their first halves, and their hooks get
these ids and their own queries. A call that goes on ends. If it is executed alone then, in any
environment in which its backend gives it the same answer, either a hook or a mapper of the caller
answers something differently, or the call ends alike, and the hooks and mappers are asked the same up
to the id and the duration. -/
theorem interleaved_as_alone (s : Session E.recorded) (moves : List (Move E.recorded)) (n k : Nat)
    (c : Errand E.recorded) (hc : ((run ⟨s, []⟩ moves).dispatches n)[k]? = some c) :
    c.Under s.world.threshold (s.world.drawn n + k + 1) ∧
      (∀ y ∈ c.asked, y.request.Carries (s.world.drawn n + k + 1) c.job.call.queries) ∧
      (c.resumed.isSome → c.outcome?.isSome) ∧
      ∀ (r : Except Failure (List Value)), c.outcome? = some r →
        ∀ (E' : Environment) (w' : World E'.recorded), c.Alone w' →
          Differ (heard c.asked) (heard (c.askedAlone w')) ∨
            heard c.asked = heard (c.askedAlone w') ∧ (c.executor.dispatch c.job w').1 = r := by
  have hunder := (ordered_run s moves).under hc
  refine ⟨hunder, hunder.carries, Errand.isSome_outcome?, fun r hr E' w' halone => ?_⟩
  obtain ⟨herrand, -⟩ := mem_dispatches.mp (List.mem_of_getElem? hc)
  obtain ⟨hbegan, hresumed⟩ := (ordered_run s moves).level c herrand
  exact Errand.ends_alike hr (fun w hw => (hresumed w hw).trans hbegan.symm) halone

/-- The behaviour of stores that answer with the same outcome, of hooks that return and of mappers
that give back their rows. -/
abbrev steady : Environment := .answering (fun _ => .query none {}) fun _ row => .ok row

/-- A session with an executor that has hooks. -/
def quiet : Session steady.recorded where
  registry := .standard
  executors := [Executor.hooked]
  world := ⟨fun _ => 0, 0, fun _ => {}, none, ((), [])⟩

/-- Executing a statement without parameters on that executor. -/
def selectingHere : Value :=
  .statement 0 { query := "select a", values := [], executor := some ⟨0, "Executor", []⟩ }

/-- Two calls, of which the later one goes on first. -/
def overtaking : List (Move steady.recorded) :=
  [.begin 0 fun _ => .ok (.all selectingHere), .begin 1 fun _ => .ok (.run selectingHere),
    .resume 1, .resume 0]

/-- The second call has the second id, and ends as it does alone, where it has the first one. -/
theorem interleaved_as_alone_overtaking :
    ∃ c, ((run ⟨quiet, []⟩ overtaking).dispatches 0)[1]? = some c ∧ c.Under none 2 ∧
      c.outcome? = some (.ok [.query none {}]) ∧ c.Alone quiet.world ∧
      (Differ (heard c.asked) (heard (c.askedAlone quiet.world)) ∨
        heard c.asked = heard (c.askedAlone quiet.world) ∧
          (c.executor.dispatch c.job quiet.world).1 = .ok [.query none {}]) := by
  have hfinish : ∀ (b : Bound) (started : Binary64) (d : Nat) (w : World steady.recorded),
      w.threshold = none →
      (Executor.hooked.finish ⟨⟨.run b, [none]⟩, some (2, started), d⟩ w).1 = .ok [.query none {}] := by
    intro b started d w hw
    obtain ⟨drawn, minted, recorders, threshold, outside⟩ := w
    subst hw
    rfl
  have hends : ∀ c : Errand steady.recorded,
      ((run ⟨quiet, []⟩ overtaking).dispatches 0)[1]? = some c →
        c.outcome? = some (.ok [.query none {}]) ∧ c.Alone quiet.world := by
    intro c hc
    obtain rfl := Option.some.inj hc
    refine ⟨(Errand.outcome?_of_ok rfl).trans (congrArg some (hfinish _ _ _ _ rfl)), rfl, ?_, ?_⟩
    · intro w hw
      obtain rfl := Option.some.inj hw
      rfl
    · intro w hw t t' v' _ _ _
      rfl
  obtain ⟨c, hc⟩ : ∃ c, ((run ⟨quiet, []⟩ overtaking).dispatches 0)[1]? = some c := ⟨_, rfl⟩
  obtain ⟨houtcome, hworld⟩ := hends c hc
  obtain ⟨hunder, -, -, halone⟩ := interleaved_as_alone quiet overtaking 0 1 c hc
  exact ⟨c, hc, hunder, houtcome, hworld, halone _ houtcome steady quiet.world hworld⟩

end Traffic

end SqlWeave
