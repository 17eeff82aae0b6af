import SqlWeave.Proofs.Execution.Protocol

/-!
# Runs side by side

The same computation in two environments. What it comes to can only depend on what it is told, and of
that only the answers of the caller's functions, the hooks and row mappers, differ from one
environment to another: the clock shows in durations, and ids in what the hooks get. So either some
function of the caller answers the same question differently at some point (`Differ`), or the two
runs hear the same and end alike (`Act.Parallel`, with one rule for each way of making a
computation). Questions are compared up to ids and durations (`Question`).
-/

namespace SqlWeave

/-! ### What is heard -/

/-- A question to a function of the caller, up to the id and the duration of the dispatch. -/
inductive Question where
  /-- A hook before a dispatch. -/
  | before (hook : Nat) (queries : List String)
  /-- A hook after a dispatch. -/
  | after (hook : Nat) (queries : List String) (results : List Value)
  /-- A row mapper. -/
  | mapRow (mapper : String) (row : Value)

/-- What a function of the caller answers: a hook with what it has altered, a row mapper with a
value. -/
abbrev Response := Except Failure (Alteration ⊕ Value)

/-- What a function of the caller was asked and answered, if it was one. -/
def Exchange.heard? : Exchange → Option (Question × Response)
  | ⟨.before hook _ queries, a⟩ => some (.before hook queries, a.map .inl)
  | ⟨.after hook _ queries results _, a⟩ => some (.after hook queries results, a.map .inl)
  | ⟨.mapRow mapper row, a⟩ => some (.mapRow mapper row, a.map .inr)
  | _ => none

/-- What the functions of the caller were asked and answered. -/
def heard (es : List Exchange) : List (Question × Response) :=
  es.filterMap Exchange.heard?

/-- After the same exchanges the same question is answered differently. -/
def Differ (hs hs' : List (Question × Response)) : Prop :=
  ∃ pre q a a' post post', a ≠ a' ∧ hs = pre ++ (q, a) :: post ∧ hs' = pre ++ (q, a') :: post'

theorem heard_append (es fs : List Exchange) : heard (es ++ fs) = heard es ++ heard fs :=
  List.filterMap_append

namespace Differ

variable {hs hs' : List (Question × Response)}

/-- A difference stays, whatever follows. -/
theorem append (h : Differ hs hs') (ks ks' : List (Question × Response)) :
    Differ (hs ++ ks) (hs' ++ ks') := by
  obtain ⟨pre, q, a, a', post, post', hne, rfl, rfl⟩ := h
  exact ⟨pre, q, a, a', post ++ ks, post' ++ ks', hne, by simp, by simp⟩

/-- A difference is one after the same exchanges as well. -/
theorem prepend (h : Differ hs hs') (ks : List (Question × Response)) :
    Differ (ks ++ hs) (ks ++ hs') := by
  obtain ⟨pre, q, a, a', post, post', hne, rfl, rfl⟩ := h
  exact ⟨ks ++ pre, q, a, a', post, post', hne, by simp, by simp⟩

end Differ

/-- Both succeed, with values that fit, or both fail alike. -/
inductive Effect.Agree {α β : Type} (Q : α → β → Prop) : Except Failure α → Except Failure β → Prop where
  /-- Both succeed. -/
  | ok {a : α} {b : β} : Q a b → Agree Q (.ok a) (.ok b)
  /-- Both fail. -/
  | error {e : Failure} : Agree Q (.error e) (.error e)

theorem Effect.Agree.mono {α β : Type} {Q Q' : α → β → Prop} {r : Except Failure α}
    {r' : Except Failure β} (h : Agree Q r r') (hQ : ∀ a b, Q a b → Q' a b) : Agree Q' r r' := by
  cases h with
  | ok h => exact .ok (hQ _ _ h)
  | error => exact .error

theorem Effect.Agree.eq {α : Type} {r r' : Except Failure α} (h : Agree Eq r r') : r = r' := by
  cases h with
  | ok h => rw [h]
  | error => rfl

theorem Effect.Agree.of_eq {α : Type} (r : Except Failure α) : Agree Eq r r := by
  cases r with
  | ok a => exact .ok rfl
  | error e => exact .error

variable {E E' : Environment} {α α' β β' : Type}

/-! ### Runs that only add to the record -/

/-- A computation that adds to the record. -/
def Act.Grows (p : Act E.recorded α) : Prop := ∀ w, ∃ es, (p w).2.past = w.past ++ es

namespace Act.Grows

theorem of_asks {Q : Request → Prop} {p : Act E.recorded α} (h : Act.Asks Q p) : p.Grows := by
  intro w
  obtain ⟨es, hext, -⟩ := h w
  exact ⟨es, hext.past⟩

theorem pure (a : α) : Grows (Pure.pure a : Act E.recorded α) :=
  of_asks (Q := fun _ => True) (.pure a)

theorem ofExcept (r : Except Failure α) : Grows (Effect.ofExcept r : Act E.recorded α) :=
  of_asks (Q := fun _ => True) (.ofExcept r)

theorem of_traces {T : Threshold → List Exchange → Except Failure α → Prop} {p : Act E.recorded α}
    (h : ∀ th, Act.Traces th p (T th)) : p.Grows := by
  intro w
  obtain ⟨es, hext, -⟩ := h _ w rfl
  exact ⟨es, hext.past⟩

theorem bind {p : Act E.recorded α} {k : α → Act E.recorded β} (hp : p.Grows)
    (hk : ∀ a, (k a).Grows) : Act.Grows (p >>= k) := by
  intro w
  obtain ⟨es, hes⟩ := hp w
  rw [Effect.bind_apply]
  rcases h : p w with ⟨e | a, w'⟩
  · rw [h] at hes
    exact ⟨es, hes⟩
  · rw [h] at hes
    obtain ⟨fs, hfs⟩ := hk a w'
    exact ⟨es ++ fs, by rw [hfs, hes, List.append_assoc]⟩

end Act.Grows

/-! ### Runs side by side -/

/-- Worlds with the same threshold, and with numbers for shared values that fit. -/
structure World.Beside (N : Nat → Nat → Prop) (w : World E.recorded) (w' : World E'.recorded) :
    Prop where
  /-- The thresholds are the same. -/
  threshold : w.threshold = w'.threshold
  /-- The next numbers fit. -/
  minted : N w.minted w'.minted

/-- Started side by side, the computations hear different answers, or hear the same, end side by
side, and agree. -/
def Act.Parallel (N : Nat → Nat → Prop) (p : Act E.recorded α) (p' : Act E'.recorded α')
    (Q : α → α' → Prop) : Prop :=
  ∀ w w', w.Beside N w' → ∃ es es', (p w).2.past = w.past ++ es ∧ (p' w').2.past = w'.past ++ es' ∧
    (Differ (heard es) (heard es') ∨
      heard es = heard es' ∧ (p w).2.Beside N (p' w').2 ∧ Effect.Agree Q (p w).1 (p' w').1)

/-- Whether a question is none to a function of the caller. -/
def Request.Unheard (q : Request) : Prop := ∀ a, (⟨q, a⟩ : Exchange).heard? = none

theorem heard_of_unheard {es : List Exchange} (h : ∀ y ∈ es, y.request.Unheard) : heard es = [] :=
  List.filterMap_eq_nil_iff.mpr fun y hy => h y hy y.answer

namespace Act.Parallel

variable {N : Nat → Nat → Prop} {Q : α → α' → Prop} {S : β → β' → Prop}

theorem mono {p : Act E.recorded α} {p' : Act E'.recorded α'} {Q' : α → α' → Prop}
    (h : Parallel N p p' Q) (hQ : ∀ a a', Q a a' → Q' a a') : Parallel N p p' Q' := by
  intro w w' hw
  obtain ⟨es, es', hes, hes', hdiffer | ⟨hheard, hbeside, hagree⟩⟩ := h w w' hw
  · exact ⟨es, es', hes, hes', .inl hdiffer⟩
  · exact ⟨es, es', hes, hes', .inr ⟨hheard, hbeside, hagree.mono hQ⟩⟩

/-- Nothing is heard where no function of the caller is asked. -/
theorem of_unheard {p : Act E.recorded α} {p' : Act E'.recorded α'} (hp : Act.Asks Request.Unheard p)
    (hp' : Act.Asks Request.Unheard p')
    (hQ : ∀ w w', w.Beside N w' → Effect.Agree Q (p w).1 (p' w').1) : Parallel N p p' Q := by
  intro w w' hw
  obtain ⟨es, hext, hes, hkeeps⟩ := hp w
  obtain ⟨es', hext', hes', hkeeps'⟩ := hp' w'
  refine ⟨es, es', hext.past, hext'.past, .inr ⟨?_, ?_, hQ w w' hw⟩⟩
  · rw [heard_of_unheard hes, heard_of_unheard hes']
  · constructor
    · rw [hext.threshold, hext'.threshold, hw.threshold]
    · rw [hkeeps.minted, hkeeps'.minted]
      exact hw.minted

theorem pure {a : α} {a' : α'} (h : Q a a') :
    Parallel N (Pure.pure a : Act E.recorded α) (Pure.pure a' : Act E'.recorded α') Q :=
  of_unheard (.pure a) (.pure a') fun _ _ _ => .ok h

theorem fail (e : Failure) :
    Parallel N (Effect.fail e : Act E.recorded α) (Effect.fail e : Act E'.recorded α') Q :=
  of_unheard (.fail e) (.fail e) fun _ _ _ => .error

theorem ofExcept {r : Except Failure α} {r' : Except Failure α'} (h : Effect.Agree Q r r') :
    Parallel N (Effect.ofExcept r : Act E.recorded α) (Effect.ofExcept r' : Act E'.recorded α') Q := by
  cases h with
  | ok h => exact pure h
  | error => exact fail _

/-- What is no question to a function of the caller can have any answers. -/
theorem ask_unheard {q : Request} (h : q.Unheard) :
    Parallel N (Act.ask q : Act E.recorded q.Answer) (Act.ask q : Act E'.recorded q.Answer)
      fun _ _ => True :=
  of_unheard (.ask h) (.ask h) fun _ _ _ => .ok trivial

theorem log (r r' : LogRecord) :
    Parallel N (Act.log r : Act E.recorded Unit) (Act.log r' : Act E'.recorded Unit)
      fun _ _ => True := by
  refine of_unheard (.log (fun _ _ => rfl) r) (.log (fun _ _ => rfl) r') fun w w' _ => ?_
  obtain ⟨_, _, _, h, -⟩ := Act.traces_log w.threshold r w rfl
  obtain ⟨_, _, _, h', -⟩ := Act.traces_log w'.threshold r' w' rfl
  rw [h, h']
  exact .ok trivial

/-- The same question is answered differently, or alike. -/
theorem ask_heard {q q' : Request} {g : Question} {f : q.Answer → Response}
    {f' : q'.Answer → Response} (h : ∀ a, (⟨q, a⟩ : Exchange).heard? = some (g, f a))
    (h' : ∀ a, (⟨q', a⟩ : Exchange).heard? = some (g, f' a)) :
    Parallel N (Act.ask q : Act E.recorded q.Answer) (Act.ask q' : Act E'.recorded q'.Answer)
      fun a a' => f a = f' a' := by
  intro w w' hw
  have hheard : heard [⟨q, (E.answer q w.outside.1).1⟩] = [(g, f (E.answer q w.outside.1).1)] := by
    rw [heard, List.filterMap_cons_some (h _), List.filterMap_nil]
  have hheard' : heard [⟨q', (E'.answer q' w'.outside.1).1⟩] =
      [(g, f' (E'.answer q' w'.outside.1).1)] := by
    rw [heard, List.filterMap_cons_some (h' _), List.filterMap_nil]
  refine ⟨_, _, (World.Extends.ask q w).past, (World.Extends.ask q' w').past, ?_⟩
  rw [hheard, hheard']
  by_cases heq : f (E.answer q w.outside.1).1 = f' (E'.answer q' w'.outside.1).1
  · exact .inr ⟨by rw [heq], ⟨hw.threshold, hw.minted⟩, .ok heq⟩
  · exact .inl ⟨[], g, _, _, [], [], heq, rfl, rfl⟩

/-- What follows is heard after what has been heard alike; after a difference anything can follow. -/
theorem bind {p : Act E.recorded α} {p' : Act E'.recorded α'} {k : α → Act E.recorded β}
    {k' : α' → Act E'.recorded β'} (hp : Parallel N p p' Q) (hgrows : ∀ a, (k a).Grows)
    (hgrows' : ∀ a, (k' a).Grows) (hk : ∀ a a', Q a a' → Parallel N (k a) (k' a') S) :
    Parallel N (p >>= k) (p' >>= k') S := by
  intro w w' hw
  obtain ⟨es, es', hes, hes', hcase⟩ := hp w w' hw
  obtain hdiffer | ⟨hheard, hbeside, hagree⟩ := hcase
  · obtain ⟨fs, hfs⟩ : ∃ fs, ((p >>= k) w).2.past = w.past ++ (es ++ fs) := by
      rw [Effect.bind_apply]
      rcases h : p w with ⟨e | a, v⟩
      · rw [h] at hes
        exact ⟨[], by rw [List.append_nil]; exact hes⟩
      · rw [h] at hes
        obtain ⟨fs, hfs⟩ := hgrows a v
        exact ⟨fs, by rw [hfs, hes, List.append_assoc]⟩
    obtain ⟨fs', hfs'⟩ : ∃ fs, ((p' >>= k') w').2.past = w'.past ++ (es' ++ fs) := by
      rw [Effect.bind_apply]
      rcases h : p' w' with ⟨e | a, v⟩
      · rw [h] at hes'
        exact ⟨[], by rw [List.append_nil]; exact hes'⟩
      · rw [h] at hes'
        obtain ⟨fs, hfs⟩ := hgrows' a v
        exact ⟨fs, by rw [hfs, hes', List.append_assoc]⟩
    refine ⟨_, _, hfs, hfs', .inl ?_⟩
    rw [heard_append, heard_append]
    exact hdiffer.append _ _
  · rw [Effect.bind_apply, Effect.bind_apply]
    rcases hr : p w with ⟨r, v⟩
    rcases hr' : p' w' with ⟨r', v'⟩
    rw [hr] at hes hbeside hagree
    rw [hr'] at hes' hbeside hagree
    cases hagree with
    | error => exact ⟨es, es', hes, hes', .inr ⟨hheard, hbeside, .error⟩⟩
    | ok hQ =>
      obtain ⟨fs, fs', hfs, hfs', hcase⟩ := hk _ _ hQ v v' hbeside
      refine ⟨es ++ fs, es' ++ fs', ?_, ?_, ?_⟩
      · rw [hfs, hes, List.append_assoc]
      · rw [hfs', hes', List.append_assoc]
      · rw [heard_append, heard_append, hheard]
        rcases hcase with hdiffer | ⟨hheard', hrest⟩
        · exact .inl (hdiffer.prepend _)
        · exact .inr ⟨by rw [hheard'], hrest⟩

theorem attempt {p : Act E.recorded α} {p' : Act E'.recorded α'} (hp : Parallel N p p' Q) :
    Parallel N (Effect.attempt p) (Effect.attempt p') (Effect.Agree Q) := by
  intro w w' hw
  obtain ⟨es, es', hes, hes', hdiffer | ⟨hheard, hbeside, hagree⟩⟩ := hp w w' hw
  · exact ⟨es, es', hes, hes', .inl hdiffer⟩
  · exact ⟨es, es', hes, hes', .inr ⟨hheard, hbeside, .ok hagree⟩⟩

end Act.Parallel

end SqlWeave
