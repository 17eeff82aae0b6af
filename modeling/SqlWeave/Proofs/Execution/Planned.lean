import SqlWeave.Proofs.Execution.Database

/-!
# Connections that follow a plan

An environment whose connections share one database and whose statements fare as a plan
lays down: one after the other, each is answered by a cursor, refused, or takes the
transaction with it (`Planned.environment`). Everything else in it answers as simply as it
can.

It serves the database whatever the plan and the effects of statements are
(`Planned.serves`), so that what is assumed of a connection by `Environment.Serves` is
met by connections on which any statement fails in any way.
-/

namespace SqlWeave

variable {D : Type}

/-- How a statement fares. -/
inductive Fate where
  /-- It is executed, and answered by a cursor. -/
  | answered (c : Cursor)
  /-- It is refused. -/
  | refused (e : Failure)
  /-- It is refused, and the transaction is abandoned. -/
  | abandoned (e : Failure)

/-- A database, and how the statements to come fare on it; from its end on they are all executed. -/
structure Planned (D : Type) where
  /-- The database. -/
  database : Database D
  /-- The fates of the statements to come. -/
  fates : List Fate := []

namespace Planned

/-- The database after a statement that is executed; one outside of a transaction opens one. -/
def worked (f : D → D) (s : Database D) : Database D :=
  match s.transaction with
  | none => ⟨s.committed, some { work := f s.committed }⟩
  | some t => ⟨s.committed, some { t with work := f t.work }⟩

/-- Executes a statement by its fate. -/
def meet (f : D → D) (s : Planned D) : Fate → Except Failure Cursor × Planned D
  | .answered c => (.ok c, { s with database := worked f s.database })
  | .refused e => (.error e, s)
  | .abandoned e => (.error e, { s with database := s.database.rollback })

/-- Executes a statement by the fate that is next. -/
def next (f : D → D) (s : Planned D) : Except Failure Cursor × Planned D :=
  match s.fates with
  | [] => meet f s (.answered {})
  | fate :: fates => meet f { s with fates } fate

/-- Acts on a savepoint if it is there. -/
def act (s : Planned D) : Option (Database D) → Except Failure Cursor × Planned D
  | none => (.error (.undefined batchName), s)
  | some database => (.ok {}, { s with database })

/-- Executes a text: a command on the savepoint of a batch, or a statement. -/
def execute (effect : String → Option (List Value) → D → D) (sql : String)
    (parameters : Option (List Value)) (s : Planned D) : Except Failure Cursor × Planned D :=
  if sql = "SAVEPOINT " ++ batchName then s.act (some (s.database.savepoint batchName))
  else if sql = "ROLLBACK TO SAVEPOINT " ++ batchName then
    s.act (s.database.rollbackTo batchName)
  else if sql = "RELEASE SAVEPOINT " ++ batchName then s.act (s.database.release batchName)
  else s.next (effect sql parameters)

/-- Whether a text is a command on the savepoint of a batch. -/
def controls (sql : String) : Bool :=
  sql = "SAVEPOINT " ++ batchName || sql = "ROLLBACK TO SAVEPOINT " ++ batchName ||
    sql = "RELEASE SAVEPOINT " ++ batchName

/-- The answer to a command. -/
def command (effect : String → Option (List Value) → D → D) :
    (c : ConnectionCommand) → Planned D → c.Answer × Planned D
  | .enter, s => (.ok (), s)
  | .leave true, s => (.ok (), { s with database := s.database.commit })
  | .leave false, s => (.ok (), { s with database := s.database.rollback })
  | .execute sql parameters, s => s.execute effect sql parameters
  | .inTransaction, s => (.ok s.database.isOpen, s)
  | .commit, s => (.ok (), { s with database := s.database.commit })
  | .close, s => (.ok (), s)

/-- The answer to a question. -/
def answer (effect : String → Option (List Value) → D → D) :
    (q : Request) → Planned D → q.Answer × Planned D
  | .clock, s => (.zero, s)
  | .before .., s => (.ok none, s)
  | .after .., s => (.ok none, s)
  | .submit .., s => ((0 : Nat), s)
  | .collect .., s => (.ok .null, s)
  | .connection _ c, s => command effect c s
  | .engine _ .begin, s => (.ok (), s)
  | .engine _ (.leave _), s => (.ok (), s)
  | .engine _ (.execute ..), s => (.ok {}, s)
  | .mapRow _ row, s => (.ok row, s)
  | .log _, s => ((), s)

/-- The environment in which statements fare by plan. -/
def environment (effect : String → Option (List Value) → D → D) : Environment :=
  ⟨Planned D, answer effect, fun _ s => s⟩

theorem executes_worked (f : D → D) (s : Database D) (c : Cursor) :
    Executes f s (.ok c) (worked f s) := by
  rcases s with ⟨d, _ | t⟩
  · exact .opened
  · exact .within

/-- Whatever its fate is, a statement does what a statement can do. -/
theorem executes_meet (f : D → D) (s : Planned D) (fate : Fate) :
    Executes f s.database (meet f s fate).1 (meet f s fate).2.database := by
  cases fate with
  | answered c => exact executes_worked f s.database c
  | refused e => exact .refused trivial
  | abandoned e => exact .abandoned trivial

theorem executes_next (f : D → D) (s : Planned D) :
    Executes f s.database (next f s).1 (next f s).2.database := by
  rcases s with ⟨database, _ | ⟨fate, fates⟩⟩
  · exact executes_worked f database {}
  · exact executes_meet f ⟨database, fates⟩ fate

section

variable (effect : String → Option (List Value) → D → D) (parameters : Option (List Value))
  (s : Planned D)

theorem execute_savepoint :
    execute effect ("SAVEPOINT " ++ batchName) parameters s =
      s.act (some (s.database.savepoint batchName)) := by
  rw [execute, if_pos rfl]

theorem execute_rollbackTo :
    execute effect ("ROLLBACK TO SAVEPOINT " ++ batchName) parameters s =
      s.act (s.database.rollbackTo batchName) := by
  rw [execute, if_neg (by decide), if_pos rfl]

theorem execute_release :
    execute effect ("RELEASE SAVEPOINT " ++ batchName) parameters s =
      s.act (s.database.release batchName) := by
  rw [execute, if_neg (by decide), if_neg (by decide), if_pos rfl]

theorem execute_of_not_controls {sql : String} (h : controls sql = false) :
    execute effect sql parameters s = s.next (effect sql parameters) := by
  simp only [controls, Bool.or_eq_false_iff, decide_eq_false_iff_not] at h
  rw [execute, if_neg h.1.1, if_neg h.1.2, if_neg h.2]

end

/-- **Every plan is one that a database can serve.** -/
theorem serves (effect : String → Option (List Value) → D → D) (number : Nat) :
    (environment effect).Serves number Planned.database controls effect where
  clock _ := rfl
  enter _ := rfl
  leave success _ := by
    cases success with
    | false => exact ⟨rfl, rfl⟩
    | true => exact ⟨rfl, rfl⟩
  inTransaction _ := ⟨rfl, rfl⟩
  savepoint s := by
    intro a
    have ha : a = s.act (some (s.database.savepoint batchName)) := execute_savepoint effect none s
    rw [ha]
    exact .inl ⟨{}, rfl, rfl⟩
  rollbackTo s b := by
    intro a h
    have ha : a = s.act (s.database.rollbackTo batchName) := execute_rollbackTo effect none s
    rw [ha, h]
    exact ⟨⟨{}, rfl⟩, rfl⟩
  release s b := by
    intro a h
    have ha : a = s.act (s.database.release batchName) := execute_release effect none s
    rw [ha, h]
    exact ⟨⟨{}, rfl⟩, rfl⟩
  execute s sql parameters := by
    intro a h
    have ha : a = s.next (effect sql parameters) := execute_of_not_controls effect parameters s h
    rw [ha]
    exact executes_next (effect sql parameters) s

end Planned

end SqlWeave
