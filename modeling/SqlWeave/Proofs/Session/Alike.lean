import SqlWeave.Proofs.Execution.StandIn
import SqlWeave.Proofs.Session.Prepared

/-!
# The same call on two executors

What the tags of two executors make is not the same: a fragment knows its executor. Calls are *alike*
if they are the same but for that (`Invocation.Like`): fragments have the same outline, statements
the same query, parameters and mapper, and the executors have the same numbers. Where the one session
has executors and the other one has their stand-ins, calls that are alike execute the same on them, or
are refused alike (`Session.prepare_like`).
-/

namespace SqlWeave

/-! ### Failures that read the same -/

/-- Failures with the same cause and the same wording. -/
inductive Failure.Like : Failure → Failure → Prop where
  /-- They are the same. -/
  | same (e : Failure) : Like e e
  /-- They are about values that cannot be bound, of types of the same name. -/
  | unsupported {u v : Value} : u.typeName = v.typeName → Like (.unsupported u) (.unsupported v)

theorem Failure.Like.message {e e' : Failure} (h : e.Like e') : e.message = e'.message := by
  cases h with
  | same e => rfl
  | unsupported h => exact congrArg (fun name => _ ++ Text.Quoted.encode name ++ _) h

variable {α α' β β' : Type}

/-- Both succeed, with values that fit, or the failures read the same. -/
inductive Matched (S : α → α' → Prop) : Except Failure α → Except Failure α' → Prop where
  /-- Both succeed. -/
  | ok {a : α} {a' : α'} : S a a' → Matched S (.ok a) (.ok a')
  /-- Both fail. -/
  | error {e e' : Failure} : e.Like e' → Matched S (.error e) (.error e')

namespace Matched

variable {S : α → α' → Prop} {T : β → β' → Prop}

theorem of_eq (r : Except Failure α) : Matched Eq r r := by
  cases r with
  | ok a => exact .ok rfl
  | error e => exact .error (.same e)

theorem map {r : Except Failure α} {r' : Except Failure α'} {f : α → β} {f' : α' → β'}
    (h : Matched S r r') (hf : ∀ a a', S a a' → T (f a) (f' a')) : Matched T (r.map f) (r'.map f') := by
  cases h with
  | ok h => exact .ok (hf _ _ h)
  | error h => exact .error h

/-- What follows a computation that only reads begins in the same state. -/
theorem bind {σ σ' : Type} {p : Effect σ α} {p' : Effect σ' α'} {k : α → Effect σ β}
    {k' : α' → Effect σ' β'} {s : σ} {s' : σ'} (hp : p.Reads) (hp' : p'.Reads)
    (h : Matched S (p s).1 (p' s').1) (hk : ∀ a a', S a a' → Matched T (k a s).1 (k' a' s').1) :
    Matched T ((p >>= k) s).1 ((p' >>= k') s').1 := by
  have hs := hp s
  have hs' := hp' s'
  rw [Effect.bind_apply, Effect.bind_apply]
  rcases hrun : p s with ⟨r, t⟩
  rcases hrun' : p' s' with ⟨r', t'⟩
  rw [hrun] at h hs
  rw [hrun'] at h hs'
  obtain rfl : t = s := hs
  obtain rfl : t' = s' := hs'
  cases h with
  | ok h => exact hk _ _ h
  | error h => exact .error h

end Matched

/-! ### Fragments and statements that are alike -/

/-- Tokens that are the same, or leaves that cannot be bound, of types of the same name. -/
inductive Token.Like : Token Value → Token Value → Prop where
  /-- They are the same. -/
  | same (token : Token Value) : Like token token
  /-- They cannot be bound. -/
  | unsupported {u v : Value} :
    u.primitive? = none → v.primitive? = none → u.typeName = v.typeName → Like (.leaf u) (.leaf v)

theorem Token.foldlM_add_like (style : Style) {tokens tokens' : List (Token Value)}
    (h : List.Forall₂ Token.Like tokens tokens') (x : Expansion) :
    Matched Eq (tokens.foldlM (Token.add style) x) (tokens'.foldlM (Token.add style) x) := by
  induction h generalizing x with
  | nil => exact .ok rfl
  | cons h _ ih =>
    rw [List.foldlM_cons, List.foldlM_cons]
    cases h with
    | same =>
      rcases Token.add style x _ with e | y
      · exact .error (.same e)
      · exact ih y
    | unsupported hu hv htype =>
      rw [add_of_unsupported style x hu, add_of_unsupported style x hv]
      exact .error (.unsupported htype)

/-- Fragments of the same outline, for executors of the same number. -/
structure Fragment.Like (f f' : Fragment Value) : Prop where
  /-- The outlines are the same, up to leaves that cannot be bound. -/
  outline : List.Forall₂ Token.Like f.outline f'.outline
  /-- The executors have the same number. -/
  origin : f.origin.map (·.number) = f'.origin.map (·.number)

theorem Fragment.Like.refl (f : Fragment Value) : f.Like f :=
  ⟨List.forall₂_same.mpr fun token _ => .same token, rfl⟩

/-- Statements that are the same but for what is known of their executor beside its number. -/
structure Statement.Like (s s' : Statement Value) : Prop where
  /-- The queries are the same. -/
  query : s.query = s'.query
  /-- The parameters are the same. -/
  values : s.values = s'.values
  /-- The mappers are the same. -/
  mapper : s.mapper = s'.mapper
  /-- The executors have the same number. -/
  executor : s.executor.map (·.number) = s'.executor.map (·.number)

namespace Statement

theorem Like.refl (s : Statement Value) : s.Like s := ⟨rfl, rfl, rfl, rfl⟩

theorem Like.bound {s s' : Statement Value} (h : s.Like s') : s.bound = s'.bound := by
  rw [Statement.bound, Statement.bound, h.query, h.values]

theorem Like.typeName {s s' : Statement Value} (h : s.Like s') (n n' : Nat) :
    (Value.statement n s).typeName = (Value.statement n' s').typeName := by
  rw [Value.typeName, Value.typeName, h.mapper]

/-- Fragments that are alike compile to statements that are. -/
theorem compile_like (style : Style) {f f' : Fragment Value} (h : f.Like f') :
    Matched Like (compile style f) (compile style f') := by
  have hexpand : Matched Eq (f.expand style) (f'.expand style) := by
    rw [Fragment.expand, Fragment.expand, Value.expand_eq_foldlM, Value.expand_eq_foldlM]
    exact Token.foldlM_add_like style h.outline {}
  rw [compile, compile]
  generalize f.expand style = r at hexpand
  generalize f'.expand style = r' at hexpand
  cases hexpand with
  | ok hx =>
    subst hx
    exact .ok ⟨rfl, rfl, rfl, h.origin⟩
  | error he => exact .error he

end Statement

/-! ### Calls that are alike -/

/-- Values that calls take for the same. -/
inductive Value.Like : Value → Value → Prop where
  /-- They are the same. -/
  | same (v : Value) : Like v v
  /-- They are fragments that are alike. -/
  | fragment {f f' : Fragment Value} : f.Like f' → Like (.fragment f) (.fragment f')
  /-- They are statements that are alike. -/
  | statement {n n' : Nat} {s s' : Statement Value} :
    s.Like s' → Like (.statement n s) (.statement n' s')
  /-- They are made like fragments, for executors of the same number, and fail alike. -/
  | made {v v' : Value} :
    Lookalike.isMade v = true → Lookalike.isMade v' = true →
    Lookalike.executorNumber? v = Lookalike.executorNumber? v' →
    (∀ style, Matched Eq (v.expandAsFragment style) (v'.expandAsFragment style)) →
    (v.lacking Session.buildName).Like (v'.lacking Session.buildName) → Like v v'

/-- Calls that are the same but for what is known of the executor beside its number. -/
inductive Invocation.Like : Invocation → Invocation → Prop where
  /-- Both execute for the rows. -/
  | all {v v' : Value} : v.Like v' → Like (.all v) (.all v')
  /-- Both execute for the effect. -/
  | run {v v' : Value} : v.Like v' → Like (.run v) (.run v')
  /-- Both execute all or none, on the executor of the number. -/
  | batch {number : Nat} {vs vs' : List Value} :
    List.Forall₂ Value.Like vs vs' → Like (.batch number vs) (.batch number vs')

theorem Lookalike.typeName_of_isMade {v : Value} (h : isMade v = true) :
    v.typeName = Fragment.typeName := by
  cases v with
  | handle label typeName parts => exact of_decide_eq_true (Bool.and_eq_true_iff.mp h).1
  | _ => cases h

theorem Value.Like.typeName {v v' : Value} (h : v.Like v') : v.typeName = v'.typeName := by
  cases h with
  | same v => rfl
  | fragment h => rfl
  | statement h => exact h.typeName _ _
  | made hv hv' =>
    rw [Lookalike.typeName_of_isMade hv, Lookalike.typeName_of_isMade hv']

namespace Session

variable {E E' : Environment} {s : Session E} {s' : Session E'}

/-- An executor and its stand-in stand under the same number. -/
theorem executor_like (hs : s'.executors = s.executors.map Executor.plain) (number : Nat) :
    Matched (fun x x' => x ∈ s.executors ∧ x' = x.plain) (executor number s).1
      (executor number s').1 := by
  have hmissing : ∀ (F : Environment) (t : Session F),
      t.executors.find? (·.number = number) = none →
      (executor number t).1 = .error (.undefined s!"executor {number}") := by
    intro F t h
    rw [executor, Effect.bind_of_ok (show (Effect.state : Sess F (Session F)) t = (.ok t, t) from rfl), h]
    rfl
  have hfind : s'.executors.find? (·.number = number) =
      (s.executors.find? (·.number = number)).map Executor.plain := by
    rw [hs, List.find?_map]
    rfl
  cases h : s.executors.find? (·.number = number) with
  | none =>
    rw [h] at hfind
    rw [hmissing E s h, hmissing E' s' hfind]
    exact .error (.same _)
  | some x =>
    rw [h] at hfind
    rw [executor_eq_ok_iff.mpr h, executor_eq_ok_iff.mpr hfind]
    exact .ok ⟨List.mem_of_find?_eq_some h, rfl⟩

theorem styleOf_like (hs : s'.executors = s.executors.map Executor.plain) (number : Option Nat) :
    Matched Eq (styleOf number s).1 (styleOf number s').1 := by
  cases number with
  | none => exact .ok rfl
  | some n =>
    refine .bind (executor_reads n) (executor_reads n) (executor_like hs n) fun x x' h => ?_
    obtain ⟨-, rfl⟩ := h
    exact .ok rfl

theorem build_fragment_like (hs : s'.executors = s.executors.map Executor.plain)
    {f f' : Fragment Value} (h : f.Like f') :
    Matched Statement.Like (build (.fragment f) s).1 (build (.fragment f') s').1 := by
  rw [build, build, h.origin]
  refine .bind (styleOf_reads _) (styleOf_reads _) (styleOf_like hs _) fun style style' hstyle => ?_
  obtain rfl := hstyle
  rw [Effect.ofExcept_apply, Effect.ofExcept_apply]
  exact Statement.compile_like style h

/-- What is made like a fragment fails like one when it is built. -/
theorem build_made_like (hs : s'.executors = s.executors.map Executor.plain) {v v' : Value}
    (hv : Lookalike.isMade v = true) (hv' : Lookalike.isMade v' = true)
    (hnumber : Lookalike.executorNumber? v = Lookalike.executorNumber? v')
    (hexpand : ∀ style, Matched Eq (v.expandAsFragment style) (v'.expandAsFragment style))
    (hlacking : (v.lacking buildName).Like (v'.lacking buildName)) :
    Matched Statement.Like (build v s).1 (build v' s').1 := by
  have hbuild : ∀ (F : Environment) (u : Value), Lookalike.isMade u = true →
      (build u : Sess F (Statement Value)) = styleOf (Lookalike.executorNumber? u) >>= fun style =>
        Effect.ofExcept (u.expandAsFragment style) >>= fun _ => Effect.fail (u.lacking buildName) := by
    intro F u hu
    cases u with
    | handle label typeName parts =>
      unfold build
      simp only [hu, if_true]
    | _ => cases hu
  rw [hbuild E v hv, hbuild E' v' hv', hnumber]
  refine .bind (styleOf_reads _) (styleOf_reads _) (styleOf_like hs _) fun style style' hstyle => ?_
  obtain rfl := hstyle
  refine .bind (S := Eq) (.ofExcept _) (.ofExcept _) ?_ fun _ _ _ => .error hlacking
  rw [Effect.ofExcept_apply, Effect.ofExcept_apply]
  exact hexpand style

theorem executable_of_made (operation : String) {v : Value} (hv : Lookalike.isMade v = true) :
    (executable operation v : Sess E (Statement Value)) = build v := by
  cases v with
  | handle label typeName parts => exact if_pos hv
  | _ => cases hv

theorem executable_same_like (hs : s'.executors = s.executors.map Executor.plain)
    (operation : String) (v : Value) :
    Matched Statement.Like (executable operation v s).1 (executable operation v s').1 := by
  by_cases hmade : Lookalike.isMade v = true
  · rw [executable_of_made operation hmade, executable_of_made operation hmade]
    exact build_made_like hs hmade hmade rfl (fun _ => .of_eq _) (.same _)
  · have hother : Matched Statement.Like
        ((Effect.fail (v.lacking operation) : Sess E (Statement Value)) s).1
        ((Effect.fail (v.lacking operation) : Sess E' (Statement Value)) s').1 := .error (.same _)
    cases v with
    | statement n st => exact .ok (.refl st)
    | fragment f => exact build_fragment_like hs (.refl f)
    | handle label typeName parts =>
      have hfail : ∀ F : Environment, (executable operation (.handle label typeName parts) :
          Sess F (Statement Value)) = Effect.fail ((Value.handle label typeName parts).lacking operation) :=
        fun _ => if_neg hmade
      rw [hfail, hfail]
      exact hother
    | _ => exact hother

/-- Values that are alike have statements that are. -/
theorem executable_like (hs : s'.executors = s.executors.map Executor.plain) (operation : String)
    {v v' : Value} (h : v.Like v') :
    Matched Statement.Like (executable operation v s).1 (executable operation v' s').1 := by
  cases h with
  | same v => exact executable_same_like hs operation v
  | fragment h => exact build_fragment_like hs h
  | statement h => exact .ok h
  | made hv hv' hnumber hexpand hlacking =>
    rw [executable_of_made operation hv, executable_of_made operation hv']
    exact build_made_like hs hv hv' hnumber hexpand hlacking

theorem executorOf_like (hs : s'.executors = s.executors.map Executor.plain)
    {st st' : Statement Value} (h : st.Like st') :
    Matched (fun x x' => x ∈ s.executors ∧ x' = x.plain) (executorOf st s).1 (executorOf st' s').1 := by
  have hexecutor := h.executor
  rw [executorOf, executorOf, h.query]
  rcases hst : st.executor with _ | origin
  · rcases hst' : st'.executor with _ | origin'
    · exact .error (.same _)
    · rw [hst, hst'] at hexecutor
      cases hexecutor
  · rcases hst' : st'.executor with _ | origin'
    · rw [hst, hst'] at hexecutor
      cases hexecutor
    · rw [hst, hst'] at hexecutor
      have hnumber : origin.number = origin'.number := Option.some.inj hexecutor
      show Matched _ (executor origin.number s).1 (executor origin'.number s').1
      rw [← hnumber]
      exact executor_like hs origin.number

theorem members_of_other {v : Value} (hv : ∀ n st, v ≠ .statement n st) (position : Nat)
    (vs : List Value) :
    members position (v :: vs) = .error (.structural (.uncompiledMember position v.typeName)) := by
  cases v with
  | statement n st => exact absurd rfl (hv n st)
  | _ => rfl

theorem members_like (position : Nat) {vs vs' : List Value} (h : List.Forall₂ Value.Like vs vs') :
    Matched (List.Forall₂ Statement.Like) (members position vs) (members position vs') := by
  induction h generalizing position with
  | nil => exact .ok .nil
  | @cons v v' vs vs' hv _ ih =>
    have hstatement : ∀ {n n' : Nat} {st st' : Statement Value}, st.Like st' →
        Matched (List.Forall₂ Statement.Like) (members position (.statement n st :: vs))
          (members position (.statement n' st' :: vs')) := fun hst =>
      (ih (position + 1)).map fun _ _ hss => .cons hst hss
    have hother : (∀ n st, v ≠ .statement n st) → (∀ n st, v' ≠ .statement n st) →
        Matched (List.Forall₂ Statement.Like) (members position (v :: vs))
          (members position (v' :: vs')) := by
      intro hne hne'
      rw [members_of_other hne, members_of_other hne', hv.typeName]
      exact .error (.same _)
    cases hv with
    | same v =>
      cases v with
      | statement n st => exact hstatement (.refl st)
      | _ => exact hother nofun nofun
    | fragment h => exact hother nofun nofun
    | statement h => exact hstatement h
    | made hmade hmade' =>
      refine hother ?_ ?_
      · rintro n st rfl
        cases hmade
      · rintro n st rfl
        cases hmade'

theorem batch_like {ss ss' : List (Statement Value)}
    (h : List.Forall₂ Statement.Like ss ss') : Job.batch ss' = Job.batch ss := by
  have hbound : ss'.map Statement.bound = ss.map Statement.bound := by
    induction h with
    | nil => rfl
    | cons h _ ih => rw [List.map_cons, List.map_cons, ih, h.bound]
  have hmappers : ss'.map (·.mapper) = ss.map (·.mapper) := by
    clear hbound
    induction h with
    | nil => rfl
    | cons h _ ih => rw [List.map_cons, List.map_cons, ih, h.mapper]
  rw [Job.batch, Job.batch, hbound, hmappers]

/-- Calls that are alike execute the same job, the one on an executor and the other one on its
stand-in, or are refused alike. -/
theorem prepare_like (hs : s'.executors = s.executors.map Executor.plain) {i i' : Invocation}
    (h : i.Like i') :
    Matched (fun p p' => p.1 ∈ s.executors ∧ p' = (p.1.plain, p.2)) (prepare i s).1
      (prepare i' s').1 := by
  have hsingle : ∀ (operation : String) {v v' : Value} {job : Statement Value → Job},
      v.Like v' → (∀ {st st' : Statement Value}, st.Like st' → job st' = job st) →
      Matched (fun p p' => p.1 ∈ s.executors ∧ p' = (p.1.plain, p.2))
        ((do
          let st ← executable operation v
          let x ← executorOf st
          pure (x, job st) : Sess E (Executor × Job)) s).1
        ((do
          let st ← executable operation v'
          let x ← executorOf st
          pure (x, job st) : Sess E' (Executor × Job)) s').1 := by
    intro operation v v' job hv hjob
    refine .bind (executable_reads _ _) (executable_reads _ _) (executable_like hs operation hv)
      fun st st' hst => ?_
    refine .bind (executorOf_reads st) (executorOf_reads st') (executorOf_like hs hst)
      fun x x' hx => ?_
    obtain ⟨hmem, rfl⟩ := hx
    refine .ok ⟨hmem, ?_⟩
    rw [hjob hst]
  cases h with
  | all hv =>
    refine hsingle "all" hv fun hst => ?_
    rw [Job.all, Job.all, hst.bound, hst.mapper]
  | run hv =>
    refine hsingle "run" hv fun hst => ?_
    rw [Job.run, Job.run, hst.bound]
  | batch hvs =>
    refine .bind (executor_reads _) (executor_reads _) (executor_like hs _) fun x x' hx => ?_
    obtain ⟨hmem, rfl⟩ := hx
    refine .bind (S := List.Forall₂ Statement.Like) (.ofExcept _) (.ofExcept _) ?_
      fun ss ss' hss => .ok ⟨hmem, ?_⟩
    · rw [Effect.ofExcept_apply, Effect.ofExcept_apply]
      exact members_like 0 hvs
    · rw [batch_like hss]

end Session

end SqlWeave
