import SqlWeave.Proofs.Session.Traffic
import SqlWeave.Session.Scenario

/-!
# In which style queries are spelled

A statement is spelled once, when its fragment is built: in the style of the executor for whose tag
the outermost fragment was made, and in the numbered style if there is none. A `Workshop` is a
session in which statements are built, given mappers, and executed by themselves or in batches; it
keeps the fragment of every statement.

**`Workshop.queries_spelled`**: every query that is executed is spelled in the style of its own
fragment. A call on a single value goes to the executor of the fragment, so that this is the style of
the executor that sends the query. A batch goes to the executor that is asked, and the styles of its
members are not compared with that one's: `unbound_batch_misspelled`.
-/

namespace SqlWeave

variable {E : Environment}

/-! ### Statements and their fragments -/

/-- A query is what a fragment expands to in a style. -/
def Fragment.Written (style : Style) (f : Fragment Value) (query : String) : Prop :=
  ∃ x, f.expand style = .ok x ∧ query = x.query

namespace Session

/-- A query is what a fragment expands to in the style of its own executor. -/
def Spells (s : Session E) (f : Fragment Value) (query : String) : Prop :=
  ∃ style, (styleOf (f.origin.map (·.number)) s).1 = .ok style ∧ f.Written style query

/-- A statement was built of a fragment; it can have got a mapper and parameters since. -/
structure Compiled (s : Session E) (f : Fragment Value) (st : Statement Value) : Prop where
  /-- The query is that of the fragment. -/
  spelled : s.Spells f st.query
  /-- The executor is that of the fragment. -/
  executor : st.executor = f.origin

theorem styleOf_eq_ok_iff {number : Nat} {s : Session E} {style : Style} :
    (styleOf (some number) s).1 = .ok style ↔
      ∃ x, s.executors.find? (·.number = number) = some x ∧ x.style = style := by
  rw [styleOf, (executor_reads number).bind_eq_ok_iff]
  constructor
  · rintro ⟨x, hx, hstyle⟩
    exact ⟨x, executor_eq_ok_iff.mp hx, Except.ok.inj hstyle⟩
  · rintro ⟨x, hx, rfl⟩
    exact ⟨x, executor_eq_ok_iff.mpr hx, rfl⟩

/-- Executors that come later change no style. -/
theorem styleOf_of_grown {s s' : Session E} (h : s.executors <+: s'.executors) {number : Option Nat}
    {style : Style} (hstyle : (styleOf number s).1 = .ok style) :
    (styleOf number s').1 = .ok style := by
  cases number with
  | none => exact hstyle
  | some n =>
    obtain ⟨x, hx, rfl⟩ := styleOf_eq_ok_iff.mp hstyle
    obtain ⟨later, hlater⟩ := h
    refine styleOf_eq_ok_iff.mpr ⟨x, ?_, rfl⟩
    rw [← hlater, List.find?_append, hx]
    rfl

theorem Spells.of_grown {s s' : Session E} (h : s.executors <+: s'.executors) {f : Fragment Value}
    {query : String} (hspells : s.Spells f query) : s'.Spells f query := by
  obtain ⟨style, hstyle, hwritten⟩ := hspells
  exact ⟨style, styleOf_of_grown h hstyle, hwritten⟩

theorem Compiled.of_grown {s s' : Session E} (h : s.executors <+: s'.executors) {f : Fragment Value}
    {st : Statement Value} (hcompiled : s.Compiled f st) : s'.Compiled f st :=
  ⟨hcompiled.spelled.of_grown h, hcompiled.executor⟩

/-- Building a fragment compiles it. -/
theorem compiled_of_build {s : Session E} {f : Fragment Value} {st : Statement Value}
    (h : (build (.fragment f) s).1 = .ok st) : s.Compiled f st := by
  obtain ⟨style, hstyle, hcompile⟩ := (styleOf_reads _).bind_eq_ok_iff.mp h
  rw [Effect.ofExcept_apply, Statement.compile] at hcompile
  split at hcompile
  · next x hx =>
    obtain rfl := Except.ok.inj hcompile
    exact ⟨⟨style, hstyle, x, hx, rfl⟩, rfl⟩
  · cases hcompile

/-- A mapper changes neither the query nor the executor. -/
theorem compiled_of_withMapper {s : Session E} {f : Fragment Value} {st st' : Statement Value}
    {mapper : String} {n : Nat} (h : withMapper mapper (.statement n st) = .ok st')
    (hcompiled : s.Compiled f st) : s.Compiled f st' := by
  rw [withMapper] at h
  split at h
  · cases h
  · obtain rfl := Except.ok.inj h
    exact ⟨hcompiled.spelled, hcompiled.executor⟩

/-- Nothing but a fragment can be built. -/
theorem build_of_not_fragment {v : Value} (hv : ∀ f, v ≠ .fragment f) (s : Session E)
    (st : Statement Value) : (build v s).1 ≠ .ok st := by
  have hother : ∀ (w : Value), ((do
      if Lookalike.isMade w then
        let style ← styleOf (Lookalike.executorNumber? w)
        let _ ← Effect.ofExcept (w.expandAsFragment style)
      Effect.fail (w.lacking buildName) : Sess E (Statement Value)) s).1 ≠ .ok st := by
    intro w h
    cases hmade : Lookalike.isMade w with
    | false =>
      rw [hmade] at h
      cases h
    | true =>
      rw [hmade] at h
      obtain ⟨style, -, h⟩ := (styleOf_reads _).bind_eq_ok_iff.mp h
      obtain ⟨_, -, h⟩ := (Effect.Reads.ofExcept _).bind_eq_ok_iff.mp h
      cases h
  cases v with
  | fragment f => exact absurd rfl (hv f)
  | _ => exact hother _

/-- What is neither a fragment nor a statement has no statement. -/
theorem executable_of_other {v : Value} (hfragment : ∀ f, v ≠ .fragment f)
    (hstatement : ∀ n st, v ≠ .statement n st) (operation : String) (s : Session E)
    (st : Statement Value) : (executable operation v s).1 ≠ .ok st := by
  have hother : ((if Lookalike.isMade v then build v else Effect.fail (v.lacking operation) :
      Sess E (Statement Value)) s).1 ≠ .ok st := by
    intro h
    cases hmade : Lookalike.isMade v with
    | false =>
      rw [hmade] at h
      cases h
    | true =>
      rw [hmade] at h
      exact build_of_not_fragment hfragment s st h
  cases v with
  | fragment f => exact absurd rfl (hfragment f)
  | statement n st => exact absurd rfl (hstatement n st)
  | _ => exact hother

end Session

/-! ### Workshops -/

/-- What is executed: a fragment, a statement that was made, or anything else. -/
inductive Subject where
  /-- A fragment, with whatever is nested in it. -/
  | fragment (f : Fragment Value)
  /-- The statement that was made at this place, and the parameters that it has by now. -/
  | made (place number : Nat) (values : List Value)
  /-- Something that is neither. -/
  | other (v : Value) (hfragment : ∀ f, v ≠ .fragment f) (hstatement : ∀ n st, v ≠ .statement n st)

/-- A call on what there is in a workshop. -/
inductive Order where
  /-- Execute for the rows. -/
  | all (on : Subject)
  /-- Execute for the effect. -/
  | run (on : Subject)
  /-- Execute all or none, on the executor of this number. -/
  | batch (executor : Nat) (members : List Subject)

/-- What can be done in a workshop. -/
inductive Deed (E : Environment) where
  /-- A fragment is built. -/
  | build (f : Fragment Value)
  /-- The statement at a place is given a mapper, which makes another statement. -/
  | map (place : Nat) (mapper : String)
  /-- A call begins, under a key. -/
  | call (key : Nat) (order : Order)
  /-- The call of a key goes on. -/
  | resume (key : Nat)
  /-- Something else is done. -/
  | aside (other : Interlude E)

/-- A session with the statements that were made in it. -/
structure Workshop (E : Environment) where
  /-- The session and its calls. -/
  traffic : Traffic E
  /-- The statements, each with its fragment. -/
  made : List (Fragment Value × Statement Value) := []
  /-- The fragments of what each call was made on. -/
  sources : List (Nat × List (Fragment Value)) := []

namespace Subject

/-- The value of a subject. -/
def value (made : List (Fragment Value × Statement Value)) : Subject → Value
  | fragment f => .fragment f
  | .made place number values =>
    match made[place]? with
    | some (_, st) => .statement number { st with values }
    | none => .null
  | other v _ _ => v

/-- The fragment of a subject, if it has one. -/
def source? (made : List (Fragment Value × Statement Value)) : Subject → Option (Fragment Value)
  | fragment f => some f
  | .made place _ _ => made[place]?.map (·.1)
  | other _ _ _ => none

end Subject

namespace Order

/-- The call of an order. -/
def invocation (made : List (Fragment Value × Statement Value)) : Order → Invocation
  | all on => .all (on.value made)
  | run on => .run (on.value made)
  | batch executor members => .batch executor (members.map (·.value made))

/-- The fragments of what is called. -/
def sources (made : List (Fragment Value × Statement Value)) : Order → List (Fragment Value)
  | all on => (on.source? made).toList
  | run on => (on.source? made).toList
  | batch _ members => members.filterMap (·.source? made)

end Order

namespace Workshop

/-- Does something. -/
def step (w : Workshop E) : Deed E → Workshop E
  | .build f =>
    match Session.build (.fragment f) w.traffic.session with
    | (.ok st, s) => { w with traffic := { w.traffic with session := s }, made := w.made ++ [(f, st)] }
    | (.error _, s) => { w with traffic := { w.traffic with session := s } }
  | .map place mapper =>
    match w.made[place]? with
    | some (f, st) =>
      match Session.withMapper mapper (.statement 0 st) with
      | .ok st => { w with made := w.made ++ [(f, st)] }
      | .error _ => w
    | none => w
  | .call key order =>
    if w.traffic.calls.any (·.1 = key) then w
    else
      { w with
        traffic := w.traffic.begin key fun _ => .ok (order.invocation w.made)
        sources := w.sources ++ [(key, order.sources w.made)] }
  | .resume key => { w with traffic := w.traffic.resume key }
  | .aside other => { w with traffic := w.traffic.step (.aside other) }

/-- Does things one after the other. -/
def run (w : Workshop E) (deeds : List (Deed E)) : Workshop E := deeds.foldl step w

/-! ### What is executed -/

/-- The queries of a job are those of fragments, each in the style of its own executor. -/
structure Carries (s : Session E) (fs : List (Fragment Value)) (x : Executor) (job : Job) : Prop where
  /-- Each query is what its fragment expands to. -/
  spelled : List.Forall₂ s.Spells fs job.call.queries
  /-- A single statement is executed by the executor of its fragment. -/
  own : (∀ bs, job.call ≠ .batch bs) →
    ∀ f ∈ fs, (Session.styleOf (f.origin.map (·.number)) s).1 = .ok x.style

theorem Carries.of_grown {s s' : Session E} (h : s.executors <+: s'.executors)
    {fs : List (Fragment Value)} {x : Executor} {job : Job} (hcarries : Carries s fs x job) :
    Carries s' fs x job where
  spelled := hcarries.spelled.imp fun _ _ hspells => hspells.of_grown h
  own hsingle f hf := Session.styleOf_of_grown h (hcarries.own hsingle f hf)

variable {s : Session E} {made : List (Fragment Value × Statement Value)}

/-- A statement that was made is still that of its fragment. -/
theorem compiled_of_made (hmade : ∀ p ∈ made, s.Compiled p.1 p.2) {place : Nat} {f : Fragment Value}
    {st : Statement Value} (h : made[place]? = some (f, st)) (n : Nat) (values : List Value) :
    (Subject.made place n values).value made = .statement n { st with values } ∧
      (Subject.made place n values).source? made = some f ∧ s.Compiled f { st with values } := by
  have hcompiled := hmade _ (List.mem_of_getElem? h)
  refine ⟨?_, ?_, hcompiled.spelled, hcompiled.executor⟩
  · rw [Subject.value, h]
  · rw [Subject.source?, h]
    rfl

/-- A call on a single value executes the statement of its fragment. -/
theorem compiled_of_sends (hmade : ∀ p ∈ made, s.Compiled p.1 p.2) {on : Subject} {operation : String}
    {x : Executor} {st : Statement Value} (h : s.Sends operation (on.value made) x st) :
    ∃ f, on.source? made = some f ∧ s.Compiled f st := by
  cases on with
  | fragment f => exact ⟨f, rfl, Session.compiled_of_build h.statement⟩
  | other v hfragment hstatement =>
    exact absurd h.statement (Session.executable_of_other hfragment hstatement operation s st)
  | made place n values =>
    rcases hplace : made[place]? with _ | ⟨f, st'⟩
    · have hvalue : (Subject.made place n values).value made = .null := by
        rw [Subject.value, hplace]
      have hst := h.statement
      rw [hvalue] at hst
      exact absurd hst (Session.executable_of_other (fun _ h => by cases h) (fun _ _ h => by cases h)
        operation s st)
    · obtain ⟨hvalue, hsource, hcompiled⟩ := compiled_of_made hmade hplace n values
      have hst := h.statement
      rw [hvalue] at hst
      obtain rfl := Except.ok.inj hst
      exact ⟨f, hsource, hcompiled⟩

/-- A single statement goes to the executor of its fragment. -/
theorem carries_of_sends (hmade : ∀ p ∈ made, s.Compiled p.1 p.2) {on : Subject} {operation : String}
    {x : Executor} {st : Statement Value} (h : s.Sends operation (on.value made) x st) {job : Job}
    (hjob : job.call.queries = [st.query]) : Carries s (on.source? made).toList x job := by
  obtain ⟨f, hsource, hcompiled⟩ := compiled_of_sends hmade h
  obtain ⟨origin, horigin, hx⟩ := h.executor
  rw [hsource]
  constructor
  · rw [hjob]
    exact .cons hcompiled.spelled .nil
  · intro _ g hg
    obtain rfl := List.mem_singleton.mp hg
    rw [← hcompiled.executor, horigin]
    exact Session.styleOf_eq_ok_iff.mpr ⟨x, hx, rfl⟩

/-- The members of a batch are statements that were made. -/
theorem spells_of_members (hmade : ∀ p ∈ made, s.Compiled p.1 p.2) {position : Nat}
    {subjects : List Subject} {ss : List (Statement Value)}
    (h : Session.members position (subjects.map (·.value made)) = .ok ss) :
    List.Forall₂ s.Spells (subjects.filterMap (·.source? made)) (ss.map (·.query)) := by
  induction subjects generalizing position ss with
  | nil =>
    obtain rfl := Except.ok.inj h
    exact .nil
  | cons on subjects ih =>
    rw [List.map_cons] at h
    cases on with
    | fragment f => cases h
    | other v hfragment hstatement =>
      cases v with
      | statement n st => exact absurd rfl (hstatement n st)
      | _ => cases h
    | made place n values =>
      rcases hplace : made[place]? with _ | ⟨f, st⟩
      · rw [Subject.value, hplace] at h
        cases h
      · obtain ⟨hvalue, hsource, hcompiled⟩ := compiled_of_made hmade hplace n values
        rw [hvalue, Session.members] at h
        rcases hrest : Session.members (position + 1) (subjects.map (·.value made)) with e | rest
        · rw [hrest] at h
          cases h
        · rw [hrest] at h
          obtain rfl := Except.ok.inj h
          rw [List.filterMap_cons_some hsource, List.map_cons]
          exact .cons hcompiled.spelled (ih hrest)

/-- An order that is accepted executes the statements of its fragments. -/
theorem carries_of_prepares (hmade : ∀ p ∈ made, s.Compiled p.1 p.2) {order : Order} {x : Executor}
    {job : Job} (h : s.Prepares (order.invocation made) x job) :
    Carries s (order.sources made) x job := by
  cases order with
  | all on =>
    cases h with
    | all hsends => exact carries_of_sends hmade hsends rfl
  | run on =>
    cases h with
    | run hsends => exact carries_of_sends hmade hsends rfl
  | batch n subjects =>
    cases h with
    | batch _ hmembers =>
      constructor
      · have hqueries : ∀ ss : List (Statement Value),
            (Job.batch ss).call.queries = ss.map (·.query) := by
          intro ss
          simp [Job.batch, Call.queries, Statement.bound]
        rw [hqueries]
        exact spells_of_members hmade hmembers
      · intro hsingle
        exact absurd rfl (hsingle _)

/-! ### What holds throughout -/

/-- The statements of a workshop are those of their fragments, and so is what is executed. -/
structure Faithful (w : Workshop E) : Prop where
  /-- Each statement is that of its fragment. -/
  made : ∀ p ∈ w.made, w.traffic.session.Compiled p.1 p.2
  /-- Each call executes the statements of its fragments. -/
  calls : ∀ (key : Nat) (c : Errand E), (key, .ok c) ∈ w.traffic.calls →
    ∃ fs, (key, fs) ∈ w.sources ∧ Carries w.traffic.session fs c.executor c.job

namespace Faithful

variable {w : Workshop E}

/-- What adds no call and takes no executor away keeps a workshop as it should be. -/
theorem of_grown (h : w.Faithful) {t : Traffic E}
    (hgrown : w.traffic.session.executors <+: t.session.executors)
    (hcalls : ∀ (key : Nat) (c' : Errand E), (key, .ok c') ∈ t.calls →
      ∃ c, (key, .ok c) ∈ w.traffic.calls ∧ c'.executor = c.executor ∧ c'.job = c.job) :
    Faithful { w with traffic := t } where
  made p hp := (h.made p hp).of_grown hgrown
  calls key c' hc' := by
    obtain ⟨c, hc, hexecutor, hjob⟩ := hcalls key c' hc'
    obtain ⟨fs, hfs, hcarries⟩ := h.calls key c hc
    refine ⟨fs, hfs, ?_⟩
    rw [hexecutor, hjob]
    exact hcarries.of_grown hgrown

theorem built (h : w.Faithful) {f : Fragment Value} {st : Statement Value}
    (hcompiled : w.traffic.session.Compiled f st) : Faithful { w with made := w.made ++ [(f, st)] } where
  made p hp := by
    rcases List.mem_append.mp hp with hp | hp
    · exact h.made p hp
    · obtain rfl := List.mem_singleton.mp hp
      exact hcompiled
  calls := h.calls

theorem called (h : w.Faithful) (key : Nat) (order : Order) :
    Faithful { w with
      traffic := w.traffic.begin key fun _ => .ok (order.invocation w.made)
      sources := w.sources ++ [(key, order.sources w.made)] } := by
  have hkept : ∀ (key' : Nat) (c : Errand E), (key', .ok c) ∈ w.traffic.calls →
      ∃ fs, (key', fs) ∈ w.sources ++ [(key, order.sources w.made)] ∧
        Carries w.traffic.session fs c.executor c.job := by
    intro key' c hc
    obtain ⟨fs, hfs, hcarries⟩ := h.calls key' c hc
    exact ⟨fs, List.mem_append_left _ hfs, hcarries⟩
  rcases haccept : (Traffic.accept (fun _ => .ok (order.invocation w.made)) w.traffic.session).1
    with e | ⟨x, job⟩
  · rw [Traffic.begin_of_refused haccept]
    refine ⟨h.made, fun key' c hc => ?_⟩
    rcases List.mem_append.mp hc with hc | hc
    · exact hkept key' c hc
    · cases List.mem_singleton.mp hc
  · have hgrown : ∀ world : World E, w.traffic.session.executors <+:
        ({ w.traffic.session with world } : Session E).executors := fun _ => List.prefix_rfl
    rw [Traffic.begin_of_accepted haccept]
    refine ⟨fun p hp => (h.made p hp).of_grown (hgrown _), fun key' c hc => ?_⟩
    rcases List.mem_append.mp hc with hc | hc
    · obtain ⟨fs, hfs, hcarries⟩ := hkept key' c hc
      exact ⟨fs, hfs, hcarries.of_grown (hgrown _)⟩
    · obtain ⟨i, hi, hprepare⟩ := Traffic.accept_eq_ok_iff.mp haccept
      obtain rfl := Except.ok.inj hi
      obtain ⟨rfl, hcall⟩ := Prod.mk.inj (List.mem_singleton.mp hc)
      obtain rfl := Except.ok.inj hcall
      refine ⟨_, List.mem_append_right _ (List.mem_singleton_self _), ?_⟩
      exact (carries_of_prepares h.made (Session.prepares_of_ok hprepare)).of_grown (hgrown _)

theorem step (h : w.Faithful) (d : Deed E) : (w.step d).Faithful := by
  cases d with
  | build f =>
    have hreads := Session.build_reads (.fragment f) w.traffic.session
    rw [Workshop.step]
    rcases hbuild : Session.build (.fragment f) w.traffic.session with ⟨e | st, s⟩
    · rw [hbuild] at hreads
      rw [show s = w.traffic.session from hreads]
      exact h
    · have hcompiled := Session.compiled_of_build (congrArg Prod.fst hbuild)
      rw [hbuild] at hreads
      rw [show s = w.traffic.session from hreads]
      exact h.built hcompiled
  | map place mapper =>
    rw [Workshop.step]
    rcases hplace : w.made[place]? with _ | ⟨f, st⟩
    · exact h
    · show Faithful (match Session.withMapper mapper (.statement 0 st) with
        | .ok st => { w with made := w.made ++ [(f, st)] }
        | .error _ => w)
      rcases hmap : Session.withMapper mapper (.statement 0 st) with e | st'
      · exact h
      · exact h.built (Session.compiled_of_withMapper hmap (h.made _ (List.mem_of_getElem? hplace)))
  | call key order =>
    rw [Workshop.step]
    by_cases hkey : w.traffic.calls.any (·.1 = key) = true
    · rw [if_pos hkey]
      exact h
    · rw [if_neg hkey]
      exact h.called key order
  | resume key =>
    refine h.of_grown (w.traffic.executors_step (.resume key)) fun key' c' hc' => ?_
    obtain ⟨c, hc, rfl | ⟨w', rfl⟩⟩ := Traffic.mem_resume hc'
    · exact ⟨_, hc, rfl, rfl⟩
    · exact ⟨c, hc, rfl, rfl⟩
  | aside other =>
    exact h.of_grown (w.traffic.executors_step (.aside other)) fun key' c' hc' => ⟨c', hc', rfl, rfl⟩

end Faithful

/-- Whatever is done in a workshop, its statements are those of their fragments. -/
theorem faithful_run (s : Session E) (deeds : List (Deed E)) :
    (run ⟨⟨s, []⟩, [], []⟩ deeds).Faithful := by
  have hrun : ∀ (deeds : List (Deed E)) (w : Workshop E), w.Faithful → (w.run deeds).Faithful := by
    intro deeds
    induction deeds with
    | nil => exact fun w h => h
    | cons d deeds ih => exact fun w h => ih (w.step d) (h.step d)
  exact hrun deeds _ ⟨fun p hp => absurd hp List.not_mem_nil, fun key c hc => absurd hc List.not_mem_nil⟩

/-- What is spelled in the style of its own fragment is written in it. -/
theorem written_of_spells {style : Style} {fs : List (Fragment Value)} {queries : List String}
    (h : List.Forall₂ s.Spells fs queries)
    (hstyle : ∀ f ∈ fs, (Session.styleOf (f.origin.map (·.number)) s).1 = .ok style) :
    List.Forall₂ (Fragment.Written style) fs queries := by
  induction h with
  | nil => exact .nil
  | cons hspells _ ih =>
    obtain ⟨style', hstyle', hwritten⟩ := hspells
    have hsame := hstyle'.symm.trans (hstyle _ List.mem_cons_self)
    obtain rfl := Except.ok.inj hsame
    exact .cons hwritten (ih fun f hf => hstyle f (List.mem_cons_of_mem _ hf))

/-- **In which style queries are spelled.** Whatever is built, mapped and executed in a session, and
whatever executors it has, each query that is executed is what its fragment expands to in the style of
the fragment's own executor. So a call on a single value executes what the fragment expands to in the
style of the executor that sends it; a batch does so if the executors of its fragments have the style
of the one that is asked. -/
theorem queries_spelled (s : Session E) (deeds : List (Deed E)) (key : Nat) (c : Errand E)
    (hc : (key, .ok c) ∈ (run ⟨⟨s, []⟩, [], []⟩ deeds).traffic.calls) :
    ∃ fs, (key, fs) ∈ (run ⟨⟨s, []⟩, [], []⟩ deeds).sources ∧
      List.Forall₂ (run ⟨⟨s, []⟩, [], []⟩ deeds).traffic.session.Spells fs c.job.call.queries ∧
      ((∀ bs, c.job.call ≠ .batch bs) →
        List.Forall₂ (Fragment.Written c.executor.style) fs c.job.call.queries) ∧
      ((∀ f ∈ fs, (Session.styleOf (f.origin.map (·.number))
          (run ⟨⟨s, []⟩, [], []⟩ deeds).traffic.session).1 = .ok c.executor.style) →
        List.Forall₂ (Fragment.Written c.executor.style) fs c.job.call.queries) := by
  obtain ⟨fs, hfs, hcarries⟩ := (faithful_run s deeds).calls key c hc
  refine ⟨fs, hfs, hcarries.spelled, fun hsingle => ?_, written_of_spells hcarries.spelled⟩
  exact written_of_spells hcarries.spelled (hcarries.own hsingle)

/-! ### A batch on another executor -/

/-- A session with one executor, on an engine. -/
def withEngine : Session Script.environment :=
  { Scenario.initial {} with executors := [{ number := 0, backend := .engine 0, style := .named }] }

/-- A fragment with one value. -/
def inserting (origin : Option Origin) : Fragment Value :=
  ⟨"INSERT INTO t VALUES (", [(.int 1, ")")], origin⟩

/-- The fragment is built, and executed in a batch on the executor. -/
def batching (origin : Option Origin) : List (Deed Script.environment) :=
  [.build (inserting origin), .call 0 (.batch 0 [.made 0 1 [.int 1]])]

/-- A fragment for the executor is sent in its style. -/
theorem queries_spelled_engine :
    ∃ c, (0, .ok c) ∈ (run ⟨⟨withEngine, []⟩, [], []⟩ (batching (some ⟨0, "Executor", []⟩))).traffic.calls ∧
      c.job.call.queries = ["INSERT INTO t VALUES (:p1)"] ∧
      List.Forall₂ (Fragment.Written .named) [inserting (some ⟨0, "Executor", []⟩)]
        c.job.call.queries := by
  obtain ⟨fs, hfs, -, -, hwritten⟩ :=
    queries_spelled withEngine (batching (some ⟨0, "Executor", []⟩)) 0 _ (.head _)
  obtain ⟨-, rfl⟩ := Prod.mk.inj (List.mem_singleton.mp hfs)
  refine ⟨_, .head _, rfl, hwritten fun f hf => ?_⟩
  obtain rfl := List.mem_singleton.mp hf
  rfl

/-- Every query that is executed is spelled in the style of the executor that sends it. -/
def SpelledForSender : Prop :=
  ∀ (E : Environment) (s : Session E) (deeds : List (Deed E)) (key : Nat) (c : Errand E)
    (fs : List (Fragment Value)), (key, .ok c) ∈ (run ⟨⟨s, []⟩, [], []⟩ deeds).traffic.calls →
      (key, fs) ∈ (run ⟨⟨s, []⟩, [], []⟩ deeds).sources →
        List.Forall₂ (Fragment.Written c.executor.style) fs c.job.call.queries

/-- A fragment without an executor is built in the numbered style, and a batch sends it in that style
on an executor with the named one. -/
theorem unbound_batch_misspelled : ¬ SpelledForSender := by
  intro h
  have hwritten := h _ withEngine (batching none) 0 _ [inserting none] (.head _) (.head _)
  have hexpand : (inserting none).expand .named = .ok ⟨"INSERT INTO t VALUES (:p1)", [.int 1]⟩ := rfl
  cases hwritten with
  | cons hquery _ =>
    obtain ⟨x, hx, hquery⟩ := hquery
    obtain rfl := Except.ok.inj (hexpand.symm.trans hx)
    have hsent : "INSERT INTO t VALUES (?1)" = "INSERT INTO t VALUES (:p1)" := hquery
    exact absurd hsent (by decide)

end Workshop

end SqlWeave
