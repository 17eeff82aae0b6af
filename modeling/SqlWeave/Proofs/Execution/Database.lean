import SqlWeave.Proofs.Execution.Cursor

/-!
# A database behind a connection

The documented behaviour of a database with transactions, as one connection sees
it: the committed contents and, while a transaction is open, its work and its
savepoints (`Database`). A savepoint outside of a transaction opens one; going
back to a savepoint keeps it; releasing the savepoint that opened the transaction
commits it.

`Executes` relates the database before a statement that controls no transaction, what
the driver answers, and the database after it. Outside of a transaction the driver opens
one before a statement that changes something. A statement fails when it is refused or
when its rows cannot be read; it then leaves whatever it got done in the open
transaction, or takes the transaction with it.

`Environment.Serves` says that a connection of an environment behaves so. An adapter
needs to know what its block makes of a statement (`Executes.commit_eq`,
`Executes.rollback_eq`) and what a statement within a transaction makes of the work
(`Executes.withWork_eq`, `Executes.withWork_or_rollback`).
-/

namespace SqlWeave

variable {D : Type}

/-- An open transaction on contents `D`. -/
structure Transaction (D : Type) where
  /-- The contents with the work done so far. -/
  work : D
  /-- The savepoints with the contents at each of them, the innermost first. -/
  savepoints : List (String × D) := []
  /-- Whether the outermost savepoint opened the transaction. -/
  bySavepoint : Bool := false

/-- A database as one connection sees it. -/
structure Database (D : Type) where
  /-- The committed contents. -/
  committed : D
  /-- The open transaction, if there is one. -/
  transaction : Option (Transaction D) := none

namespace Database

/-- A database without an open transaction. -/
def idle (d : D) : Database D := ⟨d, none⟩

/-- Whether a transaction is open. -/
def isOpen (s : Database D) : Bool := s.transaction.isSome

/-- Commits the open transaction, if there is one. -/
def commit (s : Database D) : Database D :=
  match s.transaction with
  | none => s
  | some t => idle t.work

/-- Rolls the open transaction back, if there is one. -/
def rollback (s : Database D) : Database D := idle s.committed

/-- Sets a savepoint; outside of a transaction it opens one. -/
def savepoint (name : String) (s : Database D) : Database D :=
  match s.transaction with
  | none => ⟨s.committed, some ⟨s.committed, [(name, s.committed)], true⟩⟩
  | some t => ⟨s.committed, some { t with savepoints := (name, t.work) :: t.savepoints }⟩

/-- Goes back to the innermost savepoint of that name, and keeps it; there may be none. -/
def rollbackTo (name : String) (s : Database D) : Option (Database D) :=
  match s.transaction with
  | none => none
  | some t =>
    match t.savepoints.dropWhile (·.1 != name) with
    | [] => none
    | (n, d) :: outer =>
      some ⟨s.committed, some { t with work := d, savepoints := (n, d) :: outer }⟩

/-- Releases the innermost savepoint of that name and those within it; there may be none. The
release of a savepoint that opened the transaction commits it. -/
def release (name : String) (s : Database D) : Option (Database D) :=
  match s.transaction with
  | none => none
  | some t =>
    match t.savepoints.dropWhile (·.1 != name) with
    | [] => none
    | _ :: outer =>
      if outer.isEmpty && t.bySavepoint then some s.commit
      else some ⟨s.committed, some { t with savepoints := outer }⟩

/-- The database with other work in the open transaction. -/
def withWork (x : D) (s : Database D) : Database D :=
  { s with transaction := s.transaction.map ({ · with work := x }) }

theorem exists_of_isOpen {s : Database D} (h : s.isOpen = true) : ∃ d t, s = ⟨d, some t⟩ := by
  rcases s with ⟨d, _ | t⟩
  · exact Bool.noConfusion h
  · exact ⟨d, t, rfl⟩

@[simp] theorem isOpen_idle (d : D) : (idle d).isOpen = false := rfl

theorem savepoint_idle (name : String) (d : D) :
    (idle d).savepoint name = ⟨d, some ⟨d, [(name, d)], true⟩⟩ := rfl

@[simp] theorem isOpen_savepoint (name : String) (s : Database D) :
    (s.savepoint name).isOpen = true := by
  rcases s with ⟨d, _ | t⟩
  · rfl
  · rfl

@[simp] theorem isOpen_withWork (x : D) (s : Database D) : (s.withWork x).isOpen = s.isOpen := by
  simp [withWork, isOpen]

/-- Whatever was done since a savepoint, going back to it restores what it was set on. -/
theorem rollbackTo_withWork_savepoint (name : String) (x : D) (s : Database D) :
    ((s.savepoint name).withWork x).rollbackTo name = some (s.savepoint name) := by
  rcases s with ⟨d, _ | t⟩
  · simp [savepoint, withWork, rollbackTo]
  · simp [savepoint, withWork, rollbackTo]

/-- A savepoint set outside of a transaction commits when it is released. -/
theorem release_withWork_savepoint_idle (name : String) (x d : D) :
    (((idle d).savepoint name).withWork x).release name = some (idle x) := by
  simp [savepoint_idle, withWork, release, commit]

end Database

/-! ### Statements -/

/-- The database before a statement that controls no transaction, the driver's answer, and the
database after it; the statement changes contents by `effect`. -/
inductive Executes (effect : D → D) :
    Database D → Except Failure Cursor → Database D → Prop where
  /-- Within a transaction a statement adds to its work. -/
  | within {d : D} {t : Transaction D} {c : Cursor} :
    Executes effect ⟨d, some t⟩ (.ok c) ⟨d, some { t with work := effect t.work }⟩
  /-- Else the driver opens a transaction first. -/
  | opened {d : D} {c : Cursor} :
    Executes effect (.idle d) (.ok c) ⟨d, some { work := effect d }⟩
  /-- A statement that changes nothing may do without. -/
  | unchanged {d : D} {c : Cursor} :
    effect d = d → Executes effect (.idle d) (.ok c) (.idle d)
  /-- So may a statement that is finished at once; its change is then committed at once. -/
  | atOnce {d : D} {c : Cursor} :
    Cursor.Finished (.ok c) → Executes effect (.idle d) (.ok c) (.idle (effect d))
  /-- A failing statement can leave the work that it got done in the open transaction. -/
  | spoiled {s : Database D} {r : Except Failure Cursor} (x : D) :
    Cursor.Failed r → s.isOpen = true → Executes effect s r (s.withWork x)
  /-- It can leave the transaction that the driver opened for it. -/
  | openedSpoiled {d : D} {r : Except Failure Cursor} (x : D) :
    Cursor.Failed r → Executes effect (.idle d) r ⟨d, some { work := x }⟩
  /-- It can do nothing. -/
  | refused {s : Database D} {r : Except Failure Cursor} :
    Cursor.Failed r → Executes effect s r s
  /-- The whole transaction can be abandoned. -/
  | abandoned {s : Database D} {r : Except Failure Cursor} :
    Cursor.Failed r → Executes effect s r s.rollback

namespace Executes

open Database

variable {effect : D → D} {d : D} {r : Except Failure Cursor} {s s' : Database D}

/-- A statement that does not fail is what a block of its own commits. -/
theorem commit_eq (h : Executes effect (.idle d) r s') (hr : ¬ Cursor.Failed r) :
    s'.commit = .idle (effect d) := by
  generalize hs : Database.idle d = s at h
  cases h with
  | within => simp [Database.idle] at hs
  | opened => cases hs; rfl
  | unchanged hd => cases hs; rw [hd]; rfl
  | atOnce => cases hs; rfl
  | spoiled x hf => exact absurd hf hr
  | openedSpoiled x hf => exact absurd hf hr
  | refused hf => exact absurd hf hr
  | abandoned hf => exact absurd hf hr

/-- A block of its own takes back what a statement did, but for one that was finished at once. -/
theorem rollback_eq (h : Executes effect (.idle d) r s') (hr : ¬ Cursor.Finished r) :
    s'.rollback = .idle d := by
  generalize hs : Database.idle d = s at h
  cases h with
  | within => simp [Database.idle] at hs
  | opened => cases hs; rfl
  | unchanged => cases hs; rfl
  | atOnce hc => exact absurd hc hr
  | spoiled x hf ho => subst hs; simp at ho
  | openedSpoiled x hf => cases hs; rfl
  | refused => subst hs; rfl
  | abandoned => subst hs; rfl

/-- Within a transaction a statement that does not fail adds to the work. -/
theorem withWork_eq {x : D} (hs : s.isOpen = true) (h : Executes effect (s.withWork x) r s')
    (hr : ¬ Cursor.Failed r) : s' = s.withWork (effect x) := by
  obtain ⟨d, t, rfl⟩ := exists_of_isOpen hs
  generalize hb : withWork x ⟨d, some t⟩ = b at h
  cases h with
  | within => cases hb; rfl
  | opened => cases hb
  | unchanged => cases hb
  | atOnce => cases hb
  | spoiled y hf => exact absurd hf hr
  | openedSpoiled y hf => exact absurd hf hr
  | refused hf => exact absurd hf hr
  | abandoned hf => exact absurd hf hr

/-- Within a transaction a statement only touches the work, unless the transaction is abandoned. -/
theorem withWork_or_rollback {x : D} (hs : s.isOpen = true)
    (h : Executes effect (s.withWork x) r s') : (∃ y, s' = s.withWork y) ∨ s' = s.rollback := by
  obtain ⟨d, t, rfl⟩ := exists_of_isOpen hs
  generalize hb : withWork x ⟨d, some t⟩ = b at h
  cases h with
  | within => cases hb; exact .inl ⟨_, rfl⟩
  | opened => cases hb
  | unchanged => cases hb
  | atOnce => cases hb
  | spoiled y => subst hb; exact .inl ⟨y, rfl⟩
  | openedSpoiled => cases hb
  | refused => exact .inl ⟨x, hb.symm⟩
  | abandoned => subst hb; exact .inr rfl

end Executes

/-! ### The connection of an environment -/

/-- The environment's answer to a command, and its state then. -/
def Environment.command (E : Environment) (number : Nat) (c : ConnectionCommand) (s : E.State) :
    c.Answer × E.State :=
  E.answer (.connection number c) s

/-- The name of the savepoint of a batch. -/
def batchName : String := "fragql_batch"

/-- A connection of the environment serves a database, which `view` sees in the environment's
state: it answers every command as documented. A statement's text may control transactions
(`controls`); another one changes the contents by its `effect`. Only a statement, the start of a
block or the setting of a savepoint can fail. -/
structure Environment.Serves (E : Environment) (number : Nat) (view : E.State → Database D)
    (controls : String → Bool) (effect : String → Option (List Value) → D → D) : Prop where
  /-- Reading the clock does not touch the database. -/
  clock (s : E.State) : view (E.answer .clock s).2 = view s
  /-- The start of a block opens no transaction. -/
  enter (s : E.State) : view (E.command number .enter s).2 = view s
  /-- The end of a block commits after a success, and else rolls back. -/
  leave (success : Bool) (s : E.State) :
    (E.command number (.leave success) s).1 = .ok () ∧
      view (E.command number (.leave success) s).2 =
        if success then (view s).commit else (view s).rollback
  /-- The connection knows whether a transaction is open. -/
  inTransaction (s : E.State) :
    (E.command number .inTransaction s).1 = .ok (view s).isOpen ∧
      view (E.command number .inTransaction s).2 = view s
  /-- Setting a savepoint either works or fails and does nothing. -/
  savepoint (s : E.State) :
    let a := E.command number (.execute ("SAVEPOINT " ++ batchName) none) s
    (∃ c, a.1 = .ok c ∧ view a.2 = (view s).savepoint batchName) ∨
      ∃ e, a.1 = .error e ∧ view a.2 = view s
  /-- Going back to a savepoint works if there is one. -/
  rollbackTo (s : E.State) (b : Database D) :
    let a := E.command number (.execute ("ROLLBACK TO SAVEPOINT " ++ batchName) none) s
    (view s).rollbackTo batchName = some b → (∃ c, a.1 = .ok c) ∧ view a.2 = b
  /-- Releasing a savepoint works if there is one. -/
  release (s : E.State) (b : Database D) :
    let a := E.command number (.execute ("RELEASE SAVEPOINT " ++ batchName) none) s
    (view s).release batchName = some b → (∃ c, a.1 = .ok c) ∧ view a.2 = b
  /-- Every statement that controls no transaction behaves as documented. -/
  execute (s : E.State) (sql : String) (parameters : Option (List Value)) :
    let a := E.command number (.execute sql parameters) s
    controls sql = false → Executes (effect sql parameters) (view s) a.1 (view a.2)

end SqlWeave
