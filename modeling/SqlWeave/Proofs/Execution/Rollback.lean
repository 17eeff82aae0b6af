import SqlWeave.Proofs.Execution.Planned
import SqlWeave.Proofs.Execution.Recorded
import SqlWeave.Session.Script

/-!
# When a failed batch is rolled back

A batch on a connection sets a savepoint, executes its statements, and then ends the transaction
(`Connection.endBatch`): it releases the savepoint, and commits if a transaction is still open. Each of
these commands can fail, whatever the connection answers.

**`rollback_sent_iff`**: a batch that fails after its savepoint has been set sends a rollback exactly
when it was a statement that failed and the connection still reports a transaction then. A
failure of the commands that end the transaction leaves at once, and the transaction open
(`refused_release_not_undone`).
-/

namespace SqlWeave.Connection

variable {E : Environment} {number : Nat} {bs : List Bound}

/-- Ends the transaction of a batch. -/
def endBatch (number : Nat) : Act E Unit := do
  control number ("RELEASE " ++ savepoint)
  let r ← tell number .inTransaction
  if ← Effect.ofExcept r then
    let r ← tell number .commit
    Effect.ofExcept r

theorem executeMany_eq (bs : List Bound) :
    (executeMany number bs : Act E (List (QueryOutcome Value))) = (do
      control number savepoint
      match ← Effect.attempt (executeEach number bs) with
      | .error e =>
        undo number
        Effect.fail e
      | .ok outcomes =>
        endBatch number
        pure outcomes) := by
  have hend : ∀ outcomes : List (QueryOutcome Value),
      (do
        control number ("RELEASE " ++ savepoint)
        let r ← tell number .inTransaction
        if ← Effect.ofExcept r then
          let r ← tell number .commit
          Effect.ofExcept r
        pure outcomes : Act E (List (QueryOutcome Value))) =
      (do
        endBatch number
        pure outcomes) := by
    intro outcomes
    simp only [endBatch, bind_assoc]
    refine congrArg _ (funext fun _ => congrArg _ (funext fun r => congrArg _ (funext fun isOpen => ?_)))
    cases isOpen with
    | true => simp only [if_true, bind_assoc]
    | false => rfl
  rw [executeMany]
  refine congrArg _ (funext fun _ => congrArg _ (funext fun r => ?_))
  cases r with
  | error e => rfl
  | ok outcomes => exact hend outcomes

/-! ### Where a batch fails -/

/-- The commands of a batch after its savepoint. -/
inductive Stage where
  /-- The statements. -/
  | statements
  /-- The commands that end the transaction. -/
  | closing
  deriving DecidableEq

/-- A batch whose savepoint has been set fails in a stage; the second world is the one in which the
failing command has failed. -/
inductive FailsIn (number : Nat) (bs : List Bound) (w : World E.recorded) :
    Stage → World E.recorded → Prop where
  /-- A statement fails. -/
  | statement {e : Failure} {m : World E.recorded} :
    executeEach number bs w = (.error e, m) → FailsIn number bs w .statements m
  /-- The statements succeed, and a command after them fails. -/
  | closing {os : List (QueryOutcome Value)} {w' m : World E.recorded} {e : Failure} :
    executeEach number bs w = (.ok os, w') → endBatch number w' = (.error e, m) →
      FailsIn number bs w .closing m

/-- A connection would report an open transaction. -/
def ReportsOpen (number : Nat) (w : World E.recorded) : Prop :=
  (E.answer (.connection number .inTransaction) w.outside.1).1 = .ok true

instance (w : World E.recorded) : Decidable (ReportsOpen number w) :=
  decidable_of_iff
    ((E.answer (.connection number .inTransaction) w.outside.1).1.toOption = some true) <| by
    rw [ReportsOpen]
    rcases (E.answer (.connection number .inTransaction) w.outside.1).1 with e | isOpen
    · simp [Except.toOption]
    · exact ⟨fun h => congrArg Except.ok (Option.some.inj h), fun h => by rw [h]; rfl⟩

/-- The command that rolls a batch back. -/
def rollback (number : Nat) : Request :=
  .connection number (.execute ("ROLLBACK TO " ++ savepoint) none)

/-! ### What is sent after the failure -/

/-- A control statement is one exchange. -/
theorem traces_control (th : Threshold) (sql : String) :
    Act.Traces (E := E) th (control number sql) fun es _ =>
      ∃ a, es = [⟨.connection number (.execute sql none), a⟩] := by
  refine .ask_bind fun a => ?_
  have hnone : Act.Traces (E := E) th (Effect.ofExcept a) fun es _ => es = [] := .ofExcept rfl
  refine hnone.bind (fun es e h => ⟨a, ?_⟩) fun es _ h => .pure ⟨a, ?_⟩
  · rw [h]
  · rw [h, List.append_nil]

/-- Undoing asks whether a transaction is open, and rolls back exactly if that is so. -/
theorem undo_past (number : Nat) (m : World E.recorded) :
    ∃ late, (undo number m).2.past = m.past ++ late ∧
      ((∃ x ∈ late, x.request = rollback number) ↔ ReportsOpen number m) := by
  have hask : undo number m = (do
      if ← Effect.ofExcept (E.answer (.connection number .inTransaction) m.outside.1).1 then
        control number ("ROLLBACK TO " ++ savepoint)
        control number ("RELEASE " ++ savepoint) : Act E.recorded Unit)
      (Act.ask (.connection number .inTransaction) m).2 := rfl
  have hext := World.Extends.ask (.connection number .inTransaction) m
  rw [hask, ReportsOpen]
  generalize (Act.ask (.connection number .inTransaction) m).2 = m' at hext ⊢
  rcases (E.answer (.connection number .inTransaction) m.outside.1).1 with e | isOpen
  · exact ⟨_, hext.past, by simp [rollback]⟩
  cases isOpen with
  | false => exact ⟨_, hext.past, by simp [rollback]⟩
  | true =>
    have hback : Act.Traces (E := E) m'.threshold
        (do
          control number ("ROLLBACK TO " ++ savepoint)
          control number ("RELEASE " ++ savepoint))
        fun es _ => ∃ x ∈ es, x.request = rollback number := by
      refine (traces_control m'.threshold _).bind (fun es e hes => ?_) fun es _ hes =>
        (traces_control m'.threshold _).mono fun fs r _ => ?_
      · obtain ⟨a, rfl⟩ := hes
        exact ⟨_, List.mem_cons_self, rfl⟩
      · obtain ⟨a, rfl⟩ := hes
        exact ⟨_, List.mem_cons_self, rfl⟩
    obtain ⟨es, hext', hsent⟩ := hback m' rfl
    obtain ⟨x, hx, hr⟩ := hsent
    exact ⟨_, (hext.trans hext').past,
      ⟨fun _ => rfl, fun _ => ⟨x, List.mem_append_right _ hx, hr⟩⟩⟩

/-- A batch that fails after its savepoint fails in one of its stages. After a failing statement it
undoes what it did, and after another failing command it does nothing more. -/
theorem executeMany_fails {w w₀ w' : World E.recorded} {e : Failure}
    (hopen : control number savepoint w = (.ok (), w₀))
    (h : executeMany number bs w = (.error e, w')) :
    ∃ stage m, FailsIn number bs w₀ stage m ∧
      w' = match stage with
        | .statements => (undo number m).2
        | .closing => m := by
  rw [executeMany_eq, Effect.bind_of_ok hopen] at h
  rcases heach : executeEach number bs w₀ with ⟨e₀ | os, w₁⟩
  · have hattempt : Effect.attempt (executeEach number bs) w₀ = (.ok (.error e₀), w₁) := by
      rw [Effect.attempt, heach]
    rw [Effect.bind_of_ok hattempt] at h
    have hrest : (undo number >>= fun _ => Effect.fail e₀ :
        Act E.recorded (List (QueryOutcome Value))) w₁ = (.error e, w') := h
    refine ⟨.statements, w₁, .statement heach, ?_⟩
    rcases hundo : undo number w₁ with ⟨e₁ | _, w₂⟩
    · rw [Effect.bind_of_error hundo] at hrest
      exact (congrArg Prod.snd hrest).symm
    · rw [Effect.bind_of_ok hundo, Effect.fail_apply] at hrest
      exact (congrArg Prod.snd hrest).symm
  · have hattempt : Effect.attempt (executeEach number bs) w₀ = (.ok (.ok os), w₁) := by
      rw [Effect.attempt, heach]
    rw [Effect.bind_of_ok hattempt] at h
    have hrest : (endBatch number >>= fun _ => pure os :
        Act E.recorded (List (QueryOutcome Value))) w₁ = (.error e, w') := h
    rcases hend : endBatch number w₁ with ⟨e₁ | _, w₂⟩
    · rw [Effect.bind_of_error hend] at hrest
      exact ⟨.closing, w₂, .closing heach hend, (congrArg Prod.snd hrest).symm⟩
    · rw [Effect.bind_of_ok hend, Effect.pure_apply] at hrest
      cases congrArg Prod.fst hrest

/-- **When a failed batch is rolled back.** Whatever fails in a batch whose savepoint has been set, a
rollback is sent after the failing command exactly if that belonged to a statement and the connection
reports an open transaction then. -/
theorem rollback_sent_iff {w w₀ w' : World E.recorded} {e : Failure}
    (hopen : control number savepoint w = (.ok (), w₀))
    (h : executeMany number bs w = (.error e, w')) :
    ∃ stage m late, FailsIn number bs w₀ stage m ∧ w'.past = m.past ++ late ∧
      ((∃ x ∈ late, x.request = rollback number) ↔ stage = .statements ∧ ReportsOpen number m) := by
  obtain ⟨stage, m, hfails, rfl⟩ := executeMany_fails hopen h
  cases stage with
  | statements =>
    obtain ⟨late, hpast, hsent⟩ := undo_past number m
    exact ⟨.statements, m, late, hfails, hpast, by simpa using hsent⟩
  | closing => exact ⟨.closing, m, [], hfails, (List.append_nil _).symm, by simp⟩

/-- A connection on which the first statement is refused, with the transaction left open. -/
def refusing : World (Planned.environment fun _ _ (table : List String) => table).recorded where
  drawn := fun _ => 0
  minted := 0
  recorders := fun _ => {}
  threshold := none
  outside := ({ database := ⟨[], none⟩, fates := [.refused .tooLarge] }, [])

theorem rollback_sent_refused :
    ∃ w₀ e w', control 0 savepoint refusing = (.ok (), w₀) ∧
      executeMany 0 [⟨"insert a", []⟩] refusing = (.error e, w') ∧
      ∃ stage m late, FailsIn 0 [⟨"insert a", []⟩] w₀ stage m ∧ w'.past = m.past ++ late ∧
        ((∃ x ∈ late, x.request = rollback 0) ↔ stage = .statements ∧ ReportsOpen 0 m) := by
  have hopen : (control 0 savepoint refusing).1.isOk = true := by decide +kernel
  have hfails : (executeMany 0 [⟨"insert a", []⟩] refusing).1.isOk = false := by decide +kernel
  rcases h₀ : control 0 savepoint refusing with ⟨_ | _, w₀⟩
  · rw [h₀] at hopen
    cases hopen
  · rcases h : executeMany 0 [⟨"insert a", []⟩] refusing with ⟨e | _, w'⟩
    · exact ⟨w₀, e, w', rfl, rfl, rollback_sent_iff h₀ h⟩
    · rw [h] at hfails
      cases hfails

/-! ### A refused release -/

/-- Every batch that fails after its savepoint, with its transaction still open, is rolled back. -/
def UndoesFailures (E : Environment) (number : Nat) : Prop :=
  ∀ (bs : List Bound) (w w₀ w' : World E.recorded) (e : Failure),
    control number savepoint w = (.ok (), w₀) → executeMany number bs w = (.error e, w') →
    ∀ stage m, FailsIn number bs w₀ stage m → ReportsOpen number m →
      ∃ late, w'.past = m.past ++ late ∧ ∃ x ∈ late, x.request = rollback number

/-- A connection that refuses to release the savepoint of a batch, as a locked database does. -/
def locked : World Script.environment.recorded where
  drawn := fun _ => 0
  minted := 0
  recorders := fun _ => {}
  threshold := none
  outside :=
    ({ drivers :=
        [{ transactions := [.primitive (.bool true)]
           controlErrors :=
            [("RELEASE " ++ savepoint,
              { kind := .text "OperationalError", message := .text "database is locked" })] }] },
      [])

/-- After a refused release nothing is undone, and the transaction is open. -/
theorem refused_release_not_undone : ¬ UndoesFailures Script.environment 0 := by
  intro hundoes
  have hopen : (control 0 savepoint locked).1.isOk = true := by decide +kernel
  have heach : (executeEach 0 [⟨"insert a", []⟩] (control 0 savepoint locked).2).1.isOk = true := by
    decide +kernel
  have hfails : (executeMany 0 [⟨"insert a", []⟩] locked).1.isOk = false := by decide +kernel
  have hreports : ReportsOpen 0 (executeMany 0 [⟨"insert a", []⟩] locked).2 := by decide +kernel
  rcases h₀ : control 0 savepoint locked with ⟨_ | _, w₀⟩
  · rw [h₀] at hopen
    cases hopen
  rcases h : executeMany 0 [⟨"insert a", []⟩] locked with ⟨e | _, w'⟩
  · rw [h₀] at heach
    rw [h] at hreports
    obtain ⟨stage, m, hfailsIn, hw'⟩ := executeMany_fails h₀ h
    cases hfailsIn with
    | statement hs =>
      rw [hs] at heach
      cases heach
    | closing hs hend =>
      subst hw'
      obtain ⟨late, hpast, x, hx, -⟩ := hundoes _ _ _ _ _ h₀ h _ _ (.closing hs hend) hreports
      rw [List.self_eq_append_right.mp hpast] at hx
      cases hx
  · rw [h] at hfails
    cases hfails

end SqlWeave.Connection
