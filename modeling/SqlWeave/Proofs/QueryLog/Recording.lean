import SqlWeave.Proofs.Effect.FirstFailure
import SqlWeave.QueryLog

/-!
# What is recorded about queries

A report about query texts goes through the results one by one, and fails at the first whose line
cannot be written (`QueryLog.noteEach_fst`). If all lines can be written, each query has two records,
behind what has been recorded before (`QueryLog.noteEach_of_lines`). How a report ends does not depend
on how long the whole took (`QueryLog.report_fst_duration`).
-/

namespace SqlWeave.QueryLog

/-! ### Effects on records -/

theorem ofExcept_bind {σ α β : Type} (r : Except Failure α) (k : α → Effect σ β) (s : σ) :
    (Effect.ofExcept r >>= k) s = match r with
      | .ok a => k a s
      | .error e => (.error e, s) := by
  cases r with
  | ok a => rfl
  | error e => rfl

theorem note_bind {α : Type} (level : Int) (logger message : String)
    (k : Unit → Effect (List LogRecord) α) (rs : List LogRecord) :
    (note level logger message >>= k) rs = k () (rs ++ [⟨level, logger, message⟩]) := rfl

/-- One query and its result: the text is recorded, and then the line about the result, if it can be
written. -/
theorem noteEach_cons (level : Int) (logger : String) (position : Nat) (q : String)
    (queries : List Value) (r : Value) (results : List Value) (rs : List LogRecord) :
    noteEach level logger position (.text q :: queries) (r :: results) rs =
      match resultLine r with
      | .ok line => noteEach level logger (position + 1) queries results
          (rs ++ [⟨level, logger, toString position ++ ": " ++ cleanup q⟩] ++ [⟨level, logger, line⟩])
      | .error e =>
        (.error e, rs ++ [⟨level, logger, toString position ++ ": " ++ cleanup q⟩]) := by
  have htext : queryText (.text q) = .ok q := rfl
  rw [noteEach, ofExcept_bind, htext]
  simp only [note_bind, ofExcept_bind]
  cases resultLine r with
  | ok line => rfl
  | error e => rfl

/-! ### Queries and their results -/

/-- Recording fails at the first result that is looked at and whose line cannot be written. -/
theorem noteEach_fst (level : Int) (logger : String) (position : Nat) (queries : List String)
    (results : List Value) (rs : List LogRecord) :
    (noteEach level logger position (queries.map .text) results rs).1 =
      ((results.take queries.length).mapM resultLine).map fun _ => () := by
  induction queries generalizing position results rs with
  | nil => cases results <;> rfl
  | cons q queries ih =>
    cases results with
    | nil => rfl
    | cons r results =>
      rw [List.map_cons, noteEach_cons, List.length_cons, List.take_succ_cons, List.mapM_cons]
      rcases resultLine r with e | line
      · rfl
      · refine (ih _ _ _).trans ?_
        show _ = Except.map _ ((results.take queries.length).mapM resultLine >>= fun lines =>
          pure (line :: lines))
        rcases (results.take queries.length).mapM resultLine with e | lines
        · rfl
        · rfl

/-- Two lines for each query with the line about its result: the text of the query on one line, with its
number, and then the other one. -/
def entryLines (position : Nat) : List (String × String) → List String
  | [] => []
  | (query, line) :: entries =>
    (toString position ++ ": " ++ cleanup query) :: line :: entryLines (position + 1) entries

/-- If the lines about the results can be written, all that are looked at are recorded. -/
theorem noteEach_of_lines {level : Int} {logger : String} {position : Nat} {queries : List String}
    {results : List Value} {lines : List String} (rs : List LogRecord)
    (h : (results.take queries.length).mapM resultLine = .ok lines) :
    noteEach level logger position (queries.map .text) results rs =
      (.ok (), rs ++ (entryLines position (queries.zip lines)).map (⟨level, logger, ·⟩)) := by
  induction queries generalizing position results lines rs with
  | nil => cases results <;> exact congrArg _ (List.append_nil rs).symm
  | cons q queries ih =>
    cases results with
    | nil =>
      obtain rfl := Except.ok.inj h
      exact congrArg _ (List.append_nil rs).symm
    | cons r results =>
      rw [List.length_cons, List.take_succ_cons] at h
      cases mapM_eq_ok_iff.mp h with
      | cons hr hrest =>
        rw [List.map_cons, noteEach_cons, hr]
        show noteEach level logger (position + 1) (queries.map .text) results _ = _
        rw [ih _ (mapM_eq_ok_iff.mpr hrest)]
        simp [entryLines]

/-- What holds of the records about texts and about results holds of all, however recording ends. -/
theorem forall_mem_noteEach {P : LogRecord → Prop} {level : Int} {logger : String}
    (htext : ∀ (position : Nat) q, P ⟨level, logger, toString position ++ ": " ++ cleanup q⟩)
    {results : List Value}
    (hline : ∀ r ∈ results, ∀ line, resultLine r = .ok line → P ⟨level, logger, line⟩)
    (position : Nat) (queries : List String) {rs : List LogRecord} (hrs : ∀ r ∈ rs, P r) :
    ∀ r ∈ (noteEach level logger position (queries.map .text) results rs).2, P r := by
  induction queries generalizing position results rs with
  | nil => cases results <;> exact hrs
  | cons q queries ih =>
    cases results with
    | nil => exact hrs
    | cons r results =>
      obtain ⟨hr, hrest⟩ := List.forall_mem_cons.mp hline
      have hnoted := List.forall_mem_append.mpr
        ⟨hrs, List.forall_mem_singleton.mpr (htext position q)⟩
      rw [List.map_cons, noteEach_cons]
      rcases hresult : resultLine r with e | line
      · exact hnoted
      · exact ih hrest _ (List.forall_mem_append.mpr
          ⟨hnoted, List.forall_mem_singleton.mpr (hr line hresult)⟩)

/-! ### Integers -/

/-- An integer that can be written: it has at most 4300 digits. -/
def Short (n : Int) : Prop := n.natAbs.repr.length ≤ 4300

instance (n : Int) : Decidable (Short n) := inferInstanceAs (Decidable (_ ≤ _))

/-- The numbers with at most so many digits are those below a power of ten. -/
theorem length_repr_le {n k : Nat} (hk : 0 < k) : n.repr.length ≤ k ↔ n < Nat.pow 10 k :=
  Nat.length_repr_le_iff hk

theorem short_iff {n : Int} : Short n ↔ n.natAbs < Nat.pow 10 Decimal.integerLimit := by
  -- the power is not to be computed
  generalize hk : Decimal.integerLimit = k
  obtain rfl : k = 4300 := hk.symm
  exact length_repr_le (by decide)

theorem writeInt_of_short {n : Int} (h : Short n) : writeInt n = .ok (toString n) :=
  if_pos (short_iff.mp h)

theorem writeInt_of_not_short {n : Int} (h : ¬Short n) : writeInt n = .error .tooLong :=
  if_neg (mt short_iff.mpr h)

/-! ### Reports -/

/-- A report at an integer as its level. -/
theorem report_int (th : Threshold) (level : Int) (logger : String) (queries results : List Value)
    (duration : Value) :
    report th (.int level) logger queries results duration [] =
      if th.admits level then
        match durationOf duration, writeInt level with
        | .error e, _ => (.error e, [])
        | .ok _, .error e => (.error e, [])
        | .ok d, .ok _ => noteEach level logger 1 queries results
            [⟨level, logger, summaryLine queries.length d⟩]
      else (.ok (), []) := by
  have hlevel : isLogged th (.int level) = .ok (th.admits level) := rfl
  have hrecord : recordLevel (.int level) = (writeInt level).map fun _ => level := rfl
  rw [report, ofExcept_bind, hlevel]
  cases th.admits level with
  | false => rfl
  | true =>
    simp only [if_true, ofExcept_bind, hrecord]
    rcases durationOf duration with e | d
    · rfl
    · rcases writeInt level with e | _
      · rfl
      · rfl

/-- How long the whole took does not matter for how a report ends. -/
theorem report_fst_duration (d d' : Binary64) {th : Threshold} {level : Value} {logger : String}
    {queries : List String} {results : List Value} :
    (report th level logger (queries.map .text) results (.primitive (.float d)) []).1 =
      (report th level logger (queries.map .text) results (.primitive (.float d')) []).1 := by
  have hduration : ∀ d : Binary64, durationOf (.primitive (.float d)) = .ok (some d) := fun _ => rfl
  rw [report, report, ofExcept_bind, ofExcept_bind]
  rcases isLogged th level with e | _ | _
  · rfl
  · rfl
  · simp only [if_true, ofExcept_bind, hduration]
    cases recordLevel level with
    | error e => rfl
    | ok n => simp only [note_bind, noteEach_fst]

end SqlWeave.QueryLog
