import SqlWeave.Proofs.Execution.Untouched

/-!
# The query log of outcomes

The query log takes results of any make and can fail on them (`QueryLog.report`). On outcomes it fails
only if an integer is too long to be written; otherwise it writes their statistics
(`QueryLog.resultLine_of_reportable`), and its report ends well (`QueryLog.report_fst_of_reportable`).
What an executor coerces are outcomes (`Executor.statistics_of_coerce`).
-/

namespace SqlWeave

namespace QueryLog

/-! ### Statistics -/

-- The limit is not to be computed.
attribute [local irreducible] writeInt

/-- The statistics of an outcome. -/
def statisticsOf? : Value → Option (Statistics Value)
  | .run o => some o.statistics
  | .query _ o => some o.statistics
  | _ => none

/-- What is written about statistics: the duration, the changed rows, and the rows read and written,
if it is known how many were read. -/
def metadata (s : Statistics Value) : String :=
  "   ↳ " ++ String.ofList (s.duration.general 6) ++ "ms · " ++ toString s.changes ++ " changed" ++
    match s.rowsRead with
    | none => ""
    | some n => " · " ++ toString n ++ " read · " ++ toString (s.rowsWritten.getD 0) ++ " written"

/-- All integers in what is written about statistics are short. -/
structure Writable (s : Statistics Value) : Prop where
  /-- The number of changed rows is. -/
  changes : Short s.changes
  /-- The number of rows read is, if it is known. -/
  read : ∀ n, s.rowsRead = some n → Short n
  /-- Then the number of rows written is, too. -/
  written : ∀ n, s.rowsRead = some n → Short (s.rowsWritten.getD 0)

theorem statisticsLine_of_writable {s : Statistics Value} (h : Writable s) :
    statisticsLine s = .ok (metadata s) := by
  rw [statisticsLine, writeInt_of_short h.changes, metadata]
  rcases hread : s.rowsRead with _ | n
  · rfl
  · show (writeInt n >>= fun read => writeInt _ >>= fun written => .ok _) = _
    rw [writeInt_of_short (h.read n hread), writeInt_of_short (h.written n hread)]
    rfl

theorem statisticsLine_of_not_writable {s : Statistics Value} (h : ¬Writable s) :
    statisticsLine s = .error .tooLong := by
  rw [statisticsLine]
  by_cases hchanges : Short s.changes
  · rw [writeInt_of_short hchanges]
    rcases hread : s.rowsRead with _ | n
    · exact absurd ⟨hchanges, by simp [hread], by simp [hread]⟩ h
    · show (writeInt n >>= fun read => writeInt _ >>= fun written => .ok _) = _
      by_cases hn : Short n
      · rw [writeInt_of_short hn, writeInt_of_not_short]
        · rfl
        · intro hwritten
          exact h ⟨hchanges, by simp [hread, hn], by simp [hread, hwritten]⟩
      · rw [writeInt_of_not_short hn]
        rfl
  · rw [writeInt_of_not_short hchanges]
    rfl

/-- What is written about statistics is what is to be written. -/
theorem eq_of_statisticsLine {s : Statistics Value} {text : String}
    (h : statisticsLine s = .ok text) : text = metadata s := by
  by_cases hwritable : Writable s
  · rw [statisticsLine_of_writable hwritable] at h
    exact (Except.ok.inj h).symm
  · rw [statisticsLine_of_not_writable hwritable] at h
    cases h

/-! ### Outcomes -/

/-- An outcome about which can be written. -/
def Reportable (r : Value) : Prop := ∃ s, statisticsOf? r = some s ∧ Writable s

/-- The line about an outcome is the one about its statistics. -/
theorem resultLine_of_statistics {r : Value} {s : Statistics Value} (h : statisticsOf? r = some s) :
    resultLine r = statisticsLine s := by
  have hpart : r.part "meta" = .ok (.statistics s) := by
    rw [Value.part_eq_ok_iff]
    refine Value.attribute?_of_parts (by decide) (by decide) ?_
    cases r with
    | run o => exact congrArg (some ∘ Value.statistics) (Option.some.inj h)
    | query label o => exact congrArg (some ∘ Value.statistics) (Option.some.inj h)
    | _ => cases h
  rw [resultLine, hpart]
  rfl

theorem resultLine_of_reportable {r : Value} {s : Statistics Value} (hr : Reportable r)
    (hs : statisticsOf? r = some s) : resultLine r = .ok (metadata s) := by
  obtain ⟨s', hs', hwritable⟩ := hr
  obtain rfl := Option.some.inj (hs.symm.trans hs')
  rw [resultLine_of_statistics hs, statisticsLine_of_writable hwritable]

/-- What is written about an outcome is what is to be written about its statistics. -/
theorem eq_metadata {r : Value} {s : Statistics Value} {line : String}
    (h : resultLine r = .ok line) (hs : statisticsOf? r = some s) : line = metadata s := by
  rw [resultLine_of_statistics hs] at h
  exact eq_of_statisticsLine h

/-- What can be given as the duration of a whole, and the number that it is. -/
inductive Lasts : Value → Option Binary64 → Prop where
  /-- No duration. -/
  | none : Lasts (.primitive .null) none
  /-- A number. -/
  | number (x : Binary64) : Lasts (.primitive (.float x)) (some x)
  /-- An integer in the range of numbers. -/
  | integer {n : Int} : (Binary64.ofInt n).isFinite = true → Lasts (.int n) (some (.ofInt n))

theorem durationOf_int (n : Int) : durationOf (.int n) =
    if (Binary64.ofInt n).isFinite then .ok (some (.ofInt n)) else .error .tooLarge := by
  have hnumber : numberOf 'f' (.int n) =
      if (Binary64.ofInt n).isFinite then .ok (.ofInt n) else .error .tooLarge := rfl
  show (numberOf 'f' (.int n)).map some = _
  rw [hnumber]
  split
  · rfl
  · rfl

theorem Lasts.durationOf_eq {v : Value} {d : Option Binary64} (h : Lasts v d) :
    durationOf v = .ok d := by
  cases h with
  | none => rfl
  | number x => rfl
  | @integer n hfinite => rw [durationOf_int, if_pos hfinite]

/-- A report ends well if all that it looks at can be written. -/
theorem report_fst_of_reportable (th : Threshold) {level : Int} (hlevel : Short level)
    (logger : String) {queries : List String} {results : List Value}
    (h : ∀ r ∈ results.take queries.length, Reportable r) {v : Value} {d : Option Binary64}
    (hd : Lasts v d) :
    (report th (.int level) logger (queries.map .text) results v []).1 = .ok () := by
  rw [report_int, hd.durationOf_eq, writeInt_of_short hlevel]
  cases th.admits level with
  | false => rfl
  | true =>
    obtain ⟨lines, hlines⟩ := exists_mapM_eq_ok (g := resultLine) fun r hr => by
      obtain ⟨s, hs, hwritable⟩ := h r hr
      exact ⟨_, resultLine_of_reportable ⟨s, hs, hwritable⟩ hs⟩
    refine (noteEach_fst level logger 1 queries results _).trans ?_
    rw [hlines]
    rfl

end QueryLog

namespace Executor

variable {x : Executor}

theorem statistics_of_coerceQuery (hx : x.direct = false) {v r : Value} (h : x.coerceQuery v = .ok r) :
    (QueryLog.statisticsOf? r).isSome := by
  unfold coerceQuery at h
  rw [hx] at h
  cases v with
  | query label o =>
    obtain rfl := Except.ok.inj h
    rfl
  | dict entries =>
    simp only [Outcome.asQuery] at h
    rcases hcheck : QueryOutcome.check entries with issues | o
    · rw [hcheck] at h
      cases h
    · rw [hcheck] at h
      obtain rfl := Except.ok.inj h
      rfl
  | _ => cases h

theorem statistics_of_coerceRun (hx : x.direct = false) {v r : Value} (h : x.coerceRun v = .ok r) :
    (QueryLog.statisticsOf? r).isSome := by
  unfold coerceRun at h
  rw [hx] at h
  cases v with
  | run o =>
    obtain rfl := Except.ok.inj h
    rfl
  | query label o =>
    obtain rfl := Except.ok.inj h
    rfl
  | dict entries =>
    simp only [Outcome.asRun] at h
    rcases hcheck : RunOutcome.check entries with issues | o
    · rw [hcheck] at h
      cases h
    · rw [hcheck] at h
      obtain rfl := Except.ok.inj h
      rfl
  | _ => cases h

/-- What an executor makes of an answer are outcomes, unless it is direct. -/
theorem statistics_of_coerce (hx : x.direct = false) {v : Value} {call : Call} {results : List Value}
    (h : x.coerce v call = .ok results) : ∀ r ∈ results, (QueryLog.statisticsOf? r).isSome := by
  intro r hr
  cases coerces_of_mem h hr with
  | all hr => exact statistics_of_coerceQuery hx hr
  | run hr => exact statistics_of_coerceRun hx hr
  | batch _ _ hr => exact statistics_of_coerceQuery hx hr

/-- About the outcomes that an executor makes of an answer can be written, if the integers are short. -/
theorem reportable_of_coerce (hx : x.direct = false) {v : Value} {call : Call} {results : List Value}
    (h : x.coerce v call = .ok results)
    (hwritable : ∀ r ∈ results, ∀ s, QueryLog.statisticsOf? r = some s → QueryLog.Writable s) :
    ∀ r ∈ results, QueryLog.Reportable r := by
  intro r hr
  obtain ⟨s, hs⟩ := Option.isSome_iff_exists.mp (statistics_of_coerce hx h r hr)
  exact ⟨s, hs, hwritable r hr s hs⟩

end Executor

end SqlWeave
