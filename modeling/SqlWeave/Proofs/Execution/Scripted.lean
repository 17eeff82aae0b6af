import Mathlib.Algebra.Order.Ring.Int
import SqlWeave.Proofs.Effect.FirstFailure
import SqlWeave.Proofs.Execution.Atomicity
import SqlWeave.Proofs.Value.SameValue

/-!
# Drivers that follow a script

An environment whose drivers answer one statement after the other as it was laid down, and whose
clock has readings that were laid down (`Scripted.environment`). A driver refuses a statement, or
gives a reply to it (`Fetched`); what begins or ends a transaction is accepted. All commands are
kept in their order.

A way of executing statements *performs* scripts if it sends one command for each statement and
makes an outcome of the reply (`Scripted.Performs`). What a list of statements leads to then
follows from their answers (`Scripted.Performs.mapM`): the commands are sent up to the first
statement that fails (`Scripted.sent`), and all the rest are outcomes (`Scripted.outcomes`).
-/

namespace SqlWeave

/-- What a driver gives for a statement that it executed: rows under names, if the statement gives
rows, and integers for what it changed. -/
structure Fetched where
  /-- The names of the columns, if the statement gives rows. -/
  columns : Option (List String) := none
  /-- The rows, whose reading can fail. -/
  rows : Except Failure (List (List Value)) := .ok []
  /-- How many rows were changed, negative if that is not known. -/
  rowCount : Int := -1
  /-- The row id of the last inserted row. -/
  lastRowId : Option Int := none

namespace Fetched

/-- The reply as a driver gives it. -/
def cursor (r : Fetched) : Cursor where
  columns := r.columns.map fun names => names.map .text
  rows := r.rows
  rowCount := .int r.rowCount
  lastRowId := r.lastRowId.elim .null .int

/-- The rows of the reply as mappings from the names. -/
def mappings (r : Fetched) : Except Failure (List Value) :=
  match r.columns with
  | none => .ok []
  | some names => r.rows.map fun rows => rows.map fun row => .dictOf ((names.map .text).zip row)

/-- The rows that come of a statement: none if the driver refuses it, or if they cannot be read. -/
def read : Except Failure Fetched → Except Failure (List Value)
  | .ok r => r.mappings
  | .error e => .error e

/-- The outcome that reports so many changes. -/
def outcome (r : Fetched) (changes : Int) (rows : List Value) (duration : Binary64) :
    QueryOutcome Value :=
  { statistics :=
      { duration, changes, lastRowId := if changes = 0 then none else r.lastRowId,
        changedDb := decide (0 < changes) }
    rows }

end Fetched

/-! ### What an adapter makes of a reply -/

theorem Extended.isPositive_ofInt (n : Int) : (ofInt n).isPositive = decide (0 < n) := by
  have hunits : (0 : Int) < unitsPerOne := Int.natCast_pos.mpr unitsPerOne_pos
  rw [ofInt, isPositive, decide_eq_decide, mul_pos_iff_of_pos_right hunits]

theorem Extended.isNegative_ofInt (n : Int) : (ofInt n).isNegative = decide (n < 0) := by
  have hunits : (0 : Int) < unitsPerOne := Int.natCast_pos.mpr unitsPerOne_pos
  rw [ofInt, isNegative, decide_eq_decide, ← not_le, ← not_le, mul_nonneg_iff_of_pos_right hunits]

namespace Cursor

theorem changes_cursor (r : Fetched) : r.cursor.changes = .ok (.int (max r.rowCount 0)) := by
  have h : r.cursor.changes =
      .ok (if (Extended.ofInt r.rowCount).isNegative then .int 0 else .int r.rowCount) := rfl
  rw [h, Extended.isNegative_ofInt]
  by_cases hneg : r.rowCount < 0
  · rw [decide_eq_true hneg, if_pos rfl, Int.max_eq_right (Int.le_of_lt hneg)]
  · rw [decide_eq_false hneg, if_neg Bool.false_ne_true, Int.max_eq_left (Int.not_lt.mp hneg)]

theorem outcome_cursor (r : Fetched) (changes : Int) (rows : List Value) (duration : Binary64) :
    outcome rows duration (.int changes) r.cursor.lastRowId =
      .ok (r.outcome changes rows duration) := by
  have hid : ReportField.optionalInteger r.cursor.lastRowId = .ok r.lastRowId := by
    rcases r with ⟨columns, rows, rowCount, _ | id⟩
    · rfl
    · rfl
  rw [outcome_int hid, Extended.isPositive_ofInt]
  rfl

theorem mappings_text (names : List String) (rows : List (List Value)) :
    mappings (names.map .text) rows =
      .ok (rows.map fun row => .dictOf ((names.map .text).zip row)) := by
  induction rows with
  | nil => rfl
  | cons row rows ih =>
    rw [mappings, mapping_text, ih]
    rfl

end Cursor

/-! ### The environment -/

/-- What drivers are to answer, and what they were told. -/
structure Scripted where
  /-- The readings of the clock. -/
  clock : Nat → Binary64
  /-- How often the clock was read. -/
  readings : Nat := 0
  /-- Whether a transaction was begun; the statements come after that. -/
  begun : Bool := false
  /-- The answers to the statements to come. -/
  answers : List (Except Failure Fetched)
  /-- The commands to drivers, in order. -/
  told : List Request := []

namespace Scripted

/-- Statements with the answers to them. -/
abbrev Lines : Type := List (Bound × Except Failure Fetched)

/-- Before a transaction, with the answers to come. -/
def start (clock : Nat → Binary64) (lines : Lines) : Scripted :=
  { clock, answers := lines.map (·.2) }

/-- Keeps commands. -/
def keep (commands : List Request) (s : Scripted) : Scripted :=
  { s with told := s.told ++ commands }

@[simp] theorem keep_keep (s : Scripted) (qs rs : List Request) :
    (s.keep qs).keep rs = s.keep (qs ++ rs) := by
  simp [keep]

/-- Reads the clock. -/
def tick (s : Scripted) : Scripted := { s with readings := s.readings + 1 }

/-- Executes a text: the first one begins the transaction, the next ones are answered in turn until
one fails, and the rest are accepted. -/
def execute (s : Scripted) : Except Failure Cursor × Scripted :=
  if s.begun then
    match s.answers with
    | [] => (.ok {}, s)
    | a :: rest =>
      (a.map Fetched.cursor, { s with answers := if (Fetched.read a).isOk then rest else [] })
  else (.ok {}, { s with begun := true })

/-- The answer to a question. -/
def answer : (q : Request) → Scripted → q.Answer × Scripted
  | .clock, s => (s.clock s.readings, s.tick)
  | .before .., s => (.ok none, s)
  | .after .., s => (.ok none, s)
  | .submit .., s => ((0 : Nat), s)
  | .collect .., s => (.ok .null, s)
  | .connection n (.execute sql parameters), s =>
    (s.keep [.connection n (.execute sql parameters)]).execute
  | .connection n .inTransaction, s => (.ok true, s.keep [.connection n .inTransaction])
  | .connection n .enter, s => (.ok (), s.keep [.connection n .enter])
  | .connection n (.leave success), s => (.ok (), s.keep [.connection n (.leave success)])
  | .connection n .commit, s => (.ok (), s.keep [.connection n .commit])
  | .connection n .close, s => (.ok (), s.keep [.connection n .close])
  | .engine n .begin, s => (.ok (), { s.keep [.engine n .begin] with begun := true })
  | .engine n (.leave success), s => (.ok (), s.keep [.engine n (.leave success)])
  | .engine n (.execute sql parameters), s =>
    (s.keep [.engine n (.execute sql parameters)]).execute
  | .mapRow _ row, s => (.ok row, s)
  | .log _, s => ((), s)

/-- The environment in which drivers follow a script. -/
def environment : Environment := ⟨Scripted, answer, fun _ s => s⟩

end Scripted

/-- The world with drivers in this state. -/
def World.at (w : World Scripted.environment) (s : Scripted) : World Scripted.environment :=
  { w with outside := s }

namespace Scripted

variable {w : World environment} {s : Scripted} {a : Except Failure Fetched}
  {rest : List (Except Failure Fetched)}

theorem clock_at :
    (Act.ask .clock : Act environment Binary64) (w.at s) =
      (.ok (s.clock s.readings), w.at s.tick) := rfl

theorem execute_of_answers (hbegun : s.begun = true) (hanswers : s.answers = a :: rest) :
    s.execute =
      (a.map Fetched.cursor, { s with answers := if (Fetched.read a).isOk then rest else [] }) := by
  rw [execute, if_pos hbegun, hanswers]

theorem execute_of_done (hbegun : s.begun = true) (hanswers : s.answers = []) :
    s.execute = (.ok {}, s) := by
  rw [execute, if_pos hbegun, hanswers]

/-! ### Statements one after the other -/

/-- The time between the next two readings of the clock, in milliseconds. -/
def elapsed (s : Scripted) : Binary64 :=
  (s.clock (s.readings + 1)).millisecondsSince (s.clock s.readings)

/-- After a command to which there was an answer. -/
def passed (q : Request) (rest : List (Except Failure Fetched)) (s : Scripted) : Scripted :=
  { s with readings := s.readings + 2, answers := rest, told := s.told ++ [q] }

/-- After these commands, the last of the statements, with the clock read so often. -/
def ended (readings : Nat) (commands : List Request) (s : Scripted) : Scripted :=
  { s with readings, answers := [], told := s.told ++ commands }

/-- A way of executing statements sends one command for each, and makes an outcome of the reply to
it, in which it counts changes in its way. It reads the clock before and after that. -/
structure Performs (execute : Bound → Act environment (QueryOutcome Value))
    (command : Bound → Request) (changes : Fetched → Int) : Prop where
  /-- An outcome is made of a reply. -/
  success (b : Bound) (w : World environment) {s : Scripted} {r : Fetched}
    {rest : List (Except Failure Fetched)} {rows : List Value} : s.begun = true →
    s.answers = .ok r :: rest → r.mappings = .ok rows →
    execute b (w.at s) =
      (.ok (r.outcome (changes r) rows s.elapsed), w.at (s.passed (command b) rest))
  /-- A failure is passed on. -/
  failure (b : Bound) (w : World environment) {s : Scripted} {a : Except Failure Fetched}
    {rest : List (Except Failure Fetched)} {e : Failure} : s.begun = true →
    s.answers = a :: rest → Fetched.read a = .error e →
    execute b (w.at s) = (.error e, w.at (s.ended (s.readings + 1) [command b]))

/-- The outcome of a statement once its rows are read. -/
def conclude (changes : Fetched → Int) (start : Binary64) (r : Fetched) (rows : List Value) :
    Act environment (QueryOutcome Value) := do
  let now ← Act.ask .clock
  pure (r.outcome (changes r) rows (now.millisecondsSince start))

/-- It is enough to make a report of what the driver answers: of its failure, or of its reply once
the rows are read. -/
theorem Performs.of_report {send : Bound → Act environment (Except Failure Cursor)}
    {report : Binary64 → Except Failure Cursor → Act environment (QueryOutcome Value)}
    {command : Bound → Request} {changes : Fetched → Int}
    (hsend : ∀ b (w : World environment) s,
      send b (w.at s) = (.ok (s.keep [command b]).execute.1, w.at (s.keep [command b]).execute.2))
    (herror : ∀ start e, report start (.error e) = Effect.fail e)
    (hreport : ∀ start (r : Fetched),
      report start (.ok r.cursor) = Effect.ofExcept r.mappings >>= conclude changes start r) :
    Performs (fun b => do
      let start ← Act.ask .clock
      let r ← send b
      report start r) command changes where
  success b w {s r rest rows} hbegun hanswers hrows := by
    have hread : Fetched.read (.ok r) = .ok rows := hrows
    have hexecute := execute_of_answers (s := s.tick.keep [command b]) hbegun hanswers
    have htell := hsend b w s.tick
    rw [hexecute, hread] at htell
    rw [Effect.bind_of_ok clock_at, Effect.bind_of_ok htell]
    show report _ (.ok r.cursor) _ = _
    rw [hreport, hrows, Effect.ok_bind]
    rfl
  failure b w {s a rest e} hbegun hanswers hread := by
    have hexecute := execute_of_answers (s := s.tick.keep [command b]) hbegun hanswers
    have htell := hsend b w s.tick
    rw [hexecute, hread] at htell
    rw [Effect.bind_of_ok clock_at, Effect.bind_of_ok htell]
    rcases a with e' | r
    · obtain rfl := Except.error.inj hread
      show report _ (.error e') _ = _
      rw [herror]
      rfl
    · have hrows : r.mappings = .error e := hread
      show report _ (.ok r.cursor) _ = _
      rw [hreport, hrows, Effect.error_bind]
      rfl

/-- The commands for the statements, up to the first one that fails. -/
def sent (command : Bound → Request) (lines : Lines) : List Request :=
  (untilFailure (fun p => Fetched.read p.2) lines).map fun p => command p.1

/-- The first failure of a statement. -/
def failure? (lines : Lines) : Option Failure := firstFailure (fun p => Fetched.read p.2) lines

theorem failure?_eq (lines : Lines) :
    failure? lines = firstFailure Fetched.read (lines.map (·.2)) :=
  (firstFailure_map Prod.snd lines).symm

/-- The outcomes of statements whose answers are these, from a reading of the clock on. -/
def outcomes (changes : Fetched → Int) (clock : Nat → Binary64) :
    Nat → List (Except Failure Fetched) → Except Failure (List (QueryOutcome Value))
  | _, [] => .ok []
  | _, .error e :: _ => .error e
  | n, .ok r :: rest => do
    let rows ← r.mappings
    let os ← outcomes changes clock (n + 2) rest
    .ok (r.outcome (changes r) rows ((clock (n + 1)).millisecondsSince (clock n)) :: os)

section

variable {changes : Fetched → Int} {clock : Nat → Binary64} {n : Nat} {r : Fetched}
  {rows : List Value} {e : Failure}

theorem outcomes_cons_of_ok (h : r.mappings = .ok rows) :
    outcomes changes clock n (.ok r :: rest) =
      (outcomes changes clock (n + 2) rest).map fun os =>
        r.outcome (changes r) rows ((clock (n + 1)).millisecondsSince (clock n)) :: os := by
  rw [outcomes, h]
  rcases outcomes changes clock (n + 2) rest with e | os
  · rfl
  · rfl

theorem outcomes_cons_of_error (h : Fetched.read a = .error e) :
    outcomes changes clock n (a :: rest) = .error e := by
  rcases a with e' | r
  · rw [outcomes]
    exact congrArg _ (Except.error.inj h)
  · have hrows : r.mappings = .error e := h
    rw [outcomes, hrows]
    rfl

end

/-- **A list of statements fares as its first failure says.** The commands are sent up to the first
statement that fails, and the outcomes are those of the answers. -/
theorem Performs.mapM {execute : Bound → Act environment (QueryOutcome Value)}
    {command : Bound → Request} {changes : Fetched → Int} (h : Performs execute command changes)
    (lines : Lines) (w : World environment) {s : Scripted}
    (hbegun : s.begun = true) (hanswers : s.answers = lines.map (·.2)) :
    ∃ n, ((lines.map (·.1)).mapM execute) (w.at s) =
      (outcomes changes s.clock s.readings (lines.map (·.2)),
        w.at (s.ended n (sent command lines))) := by
  induction lines generalizing s with
  | nil =>
    have hs : s.ended s.readings [] = s := by
      rw [ended, List.append_nil]
      exact congrArg (fun answers => { s with answers }) hanswers.symm
    exact ⟨s.readings, Prod.ext rfl (congrArg w.at hs.symm)⟩
  | cons p lines ih =>
    obtain ⟨b, a⟩ := p
    rw [List.map_cons, List.mapM_cons]
    rcases hread : Fetched.read a with e | rows
    · have huntil : untilFailure (fun p => Fetched.read p.2) ((b, a) :: lines) = [(b, a)] :=
        untilFailure_cons_of_error hread
      refine ⟨s.readings + 1, ?_⟩
      rw [Effect.bind_of_error (h.failure b w hbegun hanswers hread), sent, huntil, List.map_cons,
        outcomes_cons_of_error hread]
      rfl
    · have huntil : untilFailure (fun p => Fetched.read p.2) ((b, a) :: lines) =
          (b, a) :: untilFailure (fun p => Fetched.read p.2) lines :=
        untilFailure_cons_of_ok hread
      rcases a with e | r
      · cases hread
      obtain ⟨n, hrest⟩ := ih (s := s.passed (command b) (lines.map (·.2))) hbegun rfl
      refine ⟨n, ?_⟩
      rw [Effect.bind_of_ok (h.success b w hbegun hanswers hread), sent, huntil, List.map_cons,
        outcomes_cons_of_ok hread]
      have hclock : (s.passed (command b) (lines.map (·.2))).clock = s.clock := rfl
      have hreadings : (s.passed (command b) (lines.map (·.2))).readings = s.readings + 2 := rfl
      rw [hclock, hreadings] at hrest
      rcases hos : outcomes changes s.clock (s.readings + 2) (lines.map (·.2)) with e | os
      · rw [hos] at hrest
        rw [Effect.bind_of_error hrest]
        simp [passed, ended, sent, hos, Except.map]
      · rw [hos] at hrest
        rw [Effect.bind_of_ok hrest]
        simp [passed, ended, sent, elapsed, hos, Except.map, Effect.pure_apply]

section

variable {changes : Fetched → Int} {clock : Nat → Binary64}
  {answers : List (Except Failure Fetched)}

/-- The outcomes fail with the first failure among the answers. -/
theorem outcomes_eq_error_iff {n : Nat} {e : Failure} :
    outcomes changes clock n answers = .error e ↔ firstFailure Fetched.read answers = some e := by
  induction answers generalizing n with
  | nil => simp [outcomes]
  | cons a rest ih =>
    rcases hread : Fetched.read a with e' | rows
    · rw [outcomes_cons_of_error hread, firstFailure_cons_of_error hread]
      simp
    · rcases a with e' | r
      · cases hread
      rw [outcomes_cons_of_ok hread, firstFailure_cons_of_ok hread, ← ih (n := n + 2)]
      rcases outcomes changes clock (n + 2) rest with e' | os
      · simp [Except.map]
      · simp [Except.map]

theorem isOk_outcomes (changes : Fetched → Int) (clock : Nat → Binary64) (n : Nat) :
    (outcomes changes clock n answers).isOk = (firstFailure Fetched.read answers).isNone := by
  rcases h : outcomes changes clock n answers with e | os
  · rw [outcomes_eq_error_iff.mp h]
    rfl
  · cases hfirst : firstFailure Fetched.read answers with
    | none => rfl
    | some e =>
      rw [outcomes_eq_error_iff.mpr hfirst] at h
      cases h

/-- If no answer is a failure, there are outcomes. -/
theorem exists_outcomes (changes : Fetched → Int) (clock : Nat → Binary64)
    (h : firstFailure Fetched.read answers = none) (n : Nat) :
    ∃ os, outcomes changes clock n answers = .ok os := by
  rcases hos : outcomes changes clock n answers with e | os
  · rw [outcomes_eq_error_iff.mp hos] at h
    cases h
  · exact ⟨os, rfl⟩

theorem outcome_inj {r : Fetched} {m n : Int} {rows : List Value} {duration : Binary64} :
    r.outcome m rows duration = r.outcome n rows duration ↔ m = n := by
  constructor
  · intro h
    exact congrArg (·.statistics.changes) h
  · rintro rfl
    rfl

/-- Two ways of counting changes give the same outcomes if and only if they agree on every reply. -/
theorem outcomes_eq_iff (changes changes' : Fetched → Int) (clock : Nat → Binary64)
    (h : firstFailure Fetched.read answers = none) (n : Nat) :
    outcomes changes clock n answers = outcomes changes' clock n answers ↔
      ∀ r, .ok r ∈ answers → changes r = changes' r := by
  induction answers generalizing n with
  | nil => simp [outcomes]
  | cons a rest ih =>
    rcases hread : Fetched.read a with e | rows
    · rw [firstFailure_cons_of_error hread] at h
      cases h
    rcases a with e | r
    · cases hread
    rw [firstFailure_cons_of_ok hread] at h
    have hih := ih h (n + 2)
    obtain ⟨os, hos⟩ := exists_outcomes changes clock h (n + 2)
    obtain ⟨os', hos'⟩ := exists_outcomes changes' clock h (n + 2)
    rw [hos, hos', Except.ok.injEq] at hih
    rw [outcomes_cons_of_ok hread, outcomes_cons_of_ok hread, hos, hos']
    simp [Except.map, outcome_inj, hih]

end

end Scripted

end SqlWeave
