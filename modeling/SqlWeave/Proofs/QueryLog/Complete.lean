import Mathlib.Data.List.Forall2
import SqlWeave.Proofs.Execution.Unaffected
import SqlWeave.Proofs.QueryLog.Lines

/-!
# Complete logs

What a query log has about queries and their results: a line about all queries, and for each query
that has a result its text and the statistics of the result, all on their own lines
(`QueryLog.Complete`).

**`logging_complete`**: outcomes are reported completely if their level is logged, and not at all
otherwise. An executor takes no answer that has another number of outcomes than there are statements
(`Executor.length_of_coerce`), so that its query log has all statements of a dispatch that succeeds.
The log is written before rows are mapped, and so it does not matter whether mappers fail.

An integer of more than 4300 digits cannot be written. A report that comes to one ends there, after the
text of the query (`report_incomplete`).
-/

namespace SqlWeave

variable {E : Environment} {th : Threshold}

/-! ### The records about queries -/

namespace QueryLog

/-- The records about queries and the outcomes that are their results, at a level and on a logger. -/
structure Complete (level : Int) (logger : String) (queries : List String) (results : List Value)
    (duration : Option Binary64) (log : List LogRecord) : Prop where
  /-- There is one record about all queries, and there are two for each query with a result. -/
  count : log.length = 1 + 2 * min queries.length results.length
  /-- The first record counts the queries, behind the duration of the whole, if that is known. -/
  summary : log[0]? = some ⟨level, logger,
    "batch: " ++ (match duration with
      | none => ""
      | some d => String.ofList (d.fixed 2) ++ "ms · ") ++ toString queries.length ++ " queries"⟩
  /-- Each query has a number, from one, and is written on one line. -/
  text : ∀ i < results.length, ∀ q, queries[i]? = some q →
    log[2 * i + 1]? = some ⟨level, logger, toString (i + 1) ++ ": " ++ cleanup q⟩
  /-- Behind it stand the statistics of its result. -/
  metadata : ∀ i < queries.length, ∀ r s, results[i]? = some r → statisticsOf? r = some s →
    log[2 * i + 2]? = some ⟨level, logger, metadata s⟩
  /-- All records are at the level and on the logger, and have no white space but the space. -/
  stands : ∀ r ∈ log, Stands level logger r

theorem length_entryLines (position : Nat) (entries : List (String × String)) :
    (entryLines position entries).length = 2 * entries.length := by
  induction entries generalizing position with
  | nil => rfl
  | cons e entries ih =>
    simp only [entryLines, List.length_cons, ih]
    omega

/-- Two lines for each entry, the first of which has its number. -/
theorem getElem?_entryLines {entries : List (String × String)} {i : Nat} {e : String × String}
    (h : entries[i]? = some e) (position : Nat) :
    (entryLines position entries)[2 * i]? = some (toString (position + i) ++ ": " ++ cleanup e.1) ∧
      (entryLines position entries)[2 * i + 1]? = some e.2 := by
  induction entries generalizing position i with
  | nil => cases h
  | cons e' entries ih =>
    cases i with
    | zero =>
      obtain rfl := Option.some.inj h
      exact ⟨rfl, rfl⟩
    | succ i =>
      have hposition : position + (i + 1) = position + 1 + i := by omega
      rw [hposition]
      exact ih h (position + 1)

/-- A query and the result at its place have an entry there, with the line about the result. -/
theorem exists_entry {queries : List String} {results : List Value} {lines : List String}
    (h : (results.take queries.length).mapM resultLine = .ok lines) {i : Nat} {q : String} {r : Value}
    (hq : queries[i]? = some q) (hr : results[i]? = some r) :
    ∃ line, (queries.zip lines)[i]? = some (q, line) ∧ resultLine r = .ok line := by
  have hlines := mapM_eq_ok_iff.mp h
  have hi : i < (results.take queries.length).length := by
    obtain ⟨hlt, -⟩ := List.getElem?_eq_some_iff.mp hq
    obtain ⟨hlt', -⟩ := List.getElem?_eq_some_iff.mp hr
    rw [List.length_take]
    omega
  have hi' : i < lines.length := hlines.length_eq ▸ hi
  have hline := hlines.get hi hi'
  have hget : (results.take queries.length).get ⟨i, hi⟩ = r := by
    rw [List.get_eq_getElem, List.getElem_take]
    exact (List.getElem?_eq_some_iff.mp hr).2
  rw [hget] at hline
  exact ⟨_, List.getElem?_zip_eq_some.mpr ⟨hq, List.getElem?_eq_getElem hi'⟩, hline⟩

/-- A report about outcomes at a level that is logged is complete, if it ends well. -/
theorem complete_of_report {level : Int} (hlevel : th.admits level = true) {logger : String}
    {queries : List String} {results : List Value} (houtcomes : ∀ r ∈ results, (statisticsOf? r).isSome)
    {v : Value} {duration : Option Binary64} (hduration : Lasts v duration) {log : List LogRecord}
    (h : report th (.int level) logger (queries.map .text) results v [] = (.ok (), log)) :
    Complete level logger queries results duration log := by
  have hstands : ∀ r ∈ log, Stands level logger r := fun r hr =>
    stands_of_mem_report houtcomes (by rw [h]; exact hr)
  rw [report_int, if_pos hlevel, hduration.durationOf_eq, List.length_map] at h
  generalize writeInt level = digits at h
  rcases digits with e | _
  · cases h
  have hended := noteEach_fst level logger 1 queries results
    [⟨level, logger, summaryLine queries.length duration⟩]
  rcases hlines : (results.take queries.length).mapM resultLine with e | lines
  · rw [hlines] at hended
    cases (congrArg Prod.fst h).symm.trans hended
  obtain rfl := congrArg Prod.snd ((noteEach_of_lines _ hlines).symm.trans h)
  constructor
  · have hlength := (mapM_eq_ok_iff.mp hlines).length_eq
    rw [List.length_take] at hlength
    simp only [List.length_append, List.length_singleton, List.length_map, length_entryLines,
      List.length_zip]
    omega
  · rfl
  · intro i hi q hq
    obtain ⟨line, hentry, -⟩ := exists_entry hlines hq (List.getElem?_eq_getElem hi)
    show (_ :: (entryLines 1 _).map _)[2 * i + 1]? = _
    rw [List.getElem?_cons_succ, List.getElem?_map, (getElem?_entryLines hentry 1).1, Nat.add_comm 1 i]
    rfl
  · intro i hi r s hr hs
    obtain ⟨line, hentry, hline⟩ := exists_entry hlines (List.getElem?_eq_getElem hi) hr
    show (_ :: (entryLines 1 _).map _)[2 * i + 1 + 1]? = _
    rw [List.getElem?_cons_succ, List.getElem?_map, (getElem?_entryLines hentry 1).2,
      eq_metadata hline hs]
    rfl
  · exact hstands

end QueryLog

/-! ### The log of a run -/

/-- Records are written to the log if their level is logged. -/
theorem logged_flatMap_written (rs : List LogRecord) :
    logged (rs.flatMap (·.written th)) = rs.filter (th.admits ·.level) := by
  induction rs with
  | nil => rfl
  | cons r rs ih =>
    rw [List.flatMap_cons, logged_append, ih, LogRecord.written, List.filter_cons]
    split <;> rfl

theorem record?_of_connection {n : Nat} {y : Exchange} (h : Connection.Concerns n y.request) :
    y.record? = none := by
  obtain ⟨q, a⟩ := y
  cases q with
  | log r => exact h.elim
  | _ => rfl

theorem record?_of_engine {n : Nat} {y : Exchange} (h : Engine.Concerns n y.request) :
    y.record? = none := by
  obtain ⟨q, a⟩ := y
  cases q with
  | log r => exact h.elim
  | _ => rfl

theorem BeforeHook.Called.logged_eq_nil {id : Nat} {queries : List String} {hook : Option BeforeHook}
    {es : List Exchange} {r : Except Failure Alteration} (h : Called id queries hook es r) :
    logged es = [] := by
  cases h <;> rfl

/-- No backend writes to the log. -/
theorem Backend.Called.logged_eq_nil {call : Call} {b : Backend} {es : List Exchange}
    {r : Except Failure Value} (h : Called E call b es r) : logged es = [] := by
  cases h with
  | store => rfl
  | recorder => rfl
  | connection _ hes => exact SqlWeave.logged_eq_nil fun y hy => record?_of_connection (hes y hy)
  | engine _ hes => exact SqlWeave.logged_eq_nil fun y hy => record?_of_engine (hes y hy)

/-- No row mapper writes to the log. -/
theorem Executor.ResultsMapped.logged_eq_nil {done vs : List Value} {ms : List (Option String)}
    {es : List Exchange} {r : Except Failure (List Value)} (h : ResultsMapped done ms vs es r) :
    logged es = [] := by
  refine SqlWeave.logged_eq_nil fun ⟨q, a⟩ hy => ?_
  obtain ⟨mapper, row, -, rfl⟩ := h.request _ hy
  rfl

namespace Executor

variable {x : Executor}

/-- What an executor takes has a result for each statement. -/
theorem length_of_coerce {v : Value} {call : Call} {results : List Value}
    (h : x.coerce v call = .ok results) : results.length = call.queries.length := by
  have hsingle : ∀ q : Except Failure Value, q.map ([·]) = .ok results → results.length = 1 := by
    intro q hq
    cases q with
    | error e => cases hq
    | ok r => rw [← Except.ok.inj hq, List.length_singleton]
  cases call with
  | all b => exact hsingle _ h
  | run b => exact hsingle _ h
  | batch bs =>
    rcases hitems : v.items with e | items
    · rw [coerce, coerceBatch, hitems] at h
      cases h
    · obtain ⟨hmapM, hcount⟩ := mapM_of_coerceBatch hitems h
      rw [← (mapM_eq_ok_iff.mp hmapM).length_eq, hcount, Call.queries, List.length_map]

/-- What executors log about a dispatch themselves, if their level is logged. -/
def announced (th : Threshold) (id count : Nat) (duration : Binary64) : List LogRecord :=
  [dispatching id count, finished id duration].filter (th.admits ·.level)

theorem announced_eq (id count : Nat) (duration : Binary64) :
    announced th id count duration =
      logged ((dispatching id count).written th) ++ logged ((finished id duration).written th) := by
  rw [announced, ← logged_flatMap_written]
  simp

/-- The log of a dispatch that succeeds is what executors log themselves, and what the hook after
does. -/
theorem Concluded.logged_eq {plan : Plan} {id : Nat} {es : List Exchange} {results : List Value}
    (h : Concluded E x th plan id es (.ok results)) (hx : x.direct = false) :
    ∃ (v : Value) (coerced : List Value) (a : Alteration) (duration : Binary64) (fs : List Exchange),
      plan.take v = .ok coerced ∧ results = a.results coerced ∧
      AfterHook.Called th id plan.queries coerced duration x.after fs (.ok a) ∧
      logged es = announced th id plan.queries.length duration ++ logged fs := by
  generalize hr : Except.ok results = r at h
  cases h with
  | refused => cases hr
  | unanswered => cases hr
  | uncoerced => cases hr
  | @reported opening served closing stamp a v coerced r hopened hserved hcoerce hreported =>
    cases hreported with
    | objected => cases hr
    | direct =>
      cases hopened with
      | direct h => rw [hx] at h; cases h
    | @heard _ started now duration fs a' hduration hcalled =>
      cases hopened with
      | timed _ hbefore =>
        refine ⟨v, coerced, a', duration, fs, hcoerce, Except.ok.inj hr, hcalled, ?_⟩
        simp [announced_eq, hbefore.logged_eq_nil, hserved.logged_eq_nil]

/-- A dispatch that succeeds writes to the log what its executor and the hook after write. -/
theorem dispatch_logged {x : Executor} (hx : x.direct = false) {job : Job} {w : World E.recorded}
    {results : List Value} (h : (x.perform job w).1 = .ok results) :
    ∃ (es fs : List Exchange) (duration : Binary64) (v : Value) (coerced : List Value)
      (a : Alteration), x.Leads w (x.dispatch job w).2 es ∧ x.coerce v job.call = .ok coerced ∧
      results = a.results coerced ∧
      AfterHook.Called w.threshold (w.drawn x.number + 1) job.call.queries coerced duration x.after fs
        (.ok a) ∧
      logged es = announced w.threshold (w.drawn x.number + 1) job.call.queries.length duration ++
        logged fs := by
  obtain ⟨es, hleads, hes, -⟩ := perform_concluded x job w
  rw [h] at hes
  obtain ⟨v, coerced, a, duration, fs, hcoerce, hresults, hcalled, hlogged⟩ := hes.logged_eq hx
  have hperform : x.perform job w = (.ok results, (x.perform job w).2) := by rw [← h]
  obtain ⟨gs, hext, hgs⟩ := traces_mapEach (E := E) [] job.mappers results (x.perform job w).2 rfl
  refine ⟨es ++ gs, fs, duration, v, coerced, a, ?_, hcoerce, hresults, hcalled, ?_⟩
  · rw [dispatch_eq, Effect.bind_of_ok hperform]
    exact hleads.extend hext
  · rw [logged_append, hgs.logged_eq_nil, List.append_nil, hlogged]
    rfl

end Executor

/-! ### Completeness -/

namespace QueryLog

/-- What the query log writes of outcomes as a hook after a dispatch, if it ends well. -/
theorem complete_of_called {id : Nat} {queries : List String} {results : List Value}
    {duration : Binary64} {logger : String} {level : Int} {fs : List Exchange} {a : Alteration}
    (h : AfterHook.Called th id queries results duration (some (.queryLog logger (.int level))) fs
      (.ok a))
    (hlevel : th.admits level = true) (houtcomes : ∀ r ∈ results, (statisticsOf? r).isSome) :
    a = none ∧ Complete level logger queries results (some duration) (logged fs) := by
  cases h with
  | @logged _ _ ending records _ hreport hending =>
    rcases ending with e | _
    · cases hending
    · have hcomplete := complete_of_report hlevel houtcomes (.number duration) hreport
      have hrecords : logged (records.flatMap (·.written th)) = records := by
        rw [logged_flatMap_written, List.filter_eq_self]
        intro r hr
        rw [(hcomplete.stands r hr).1]
        exact hlevel
      rw [hrecords]
      exact ⟨Except.ok.inj hending, hcomplete⟩

/-- **Query logs are complete.** About outcomes the query log writes nothing if its level is not
logged. Otherwise it writes a line about all queries, and for each query that has a result its text
and the statistics of the result, if the level and the integers in these statistics can be written;
and all that it writes in any case is on lines of its own. As the hook after a dispatch that succeeds
it writes so about every statement, on any executor that is not direct. -/
theorem logging_complete (level : Int) (logger : String) :
    (∀ (th : Threshold) (queries : List String) (results : List Value) (v : Value)
        (duration : Option Binary64),
      (∀ r ∈ results, (statisticsOf? r).isSome) → Lasts v duration →
        ∃ ending log, report th (.int level) logger (queries.map .text) results v [] = (ending, log) ∧
          (th.admits level = false → ending = .ok () ∧ log = []) ∧
          (th.admits level = true → Short level →
            (∀ r ∈ results.take queries.length, Reportable r) →
              ending = .ok () ∧ Complete level logger queries results duration log) ∧
          ∀ record ∈ log, Stands level logger record) ∧
      ∀ (E : Environment) (x : Executor) (job : Job) (w : World E.recorded) (results : List Value),
        x.direct = false → x.after = some (.queryLog logger (.int level)) →
        w.threshold.admits level = true → (x.perform job w).1 = .ok results →
          ∃ (es : List Exchange) (duration : Binary64) (log : List LogRecord),
            x.Leads w (x.dispatch job w).2 es ∧
            logged es = Executor.announced w.threshold (w.drawn x.number + 1)
              job.call.queries.length duration ++ log ∧
            Complete level logger job.call.queries results (some duration) log ∧
            log.length = 1 + 2 * job.call.queries.length := by
  constructor
  · intro th queries results v duration houtcomes hduration
    obtain ⟨ending, log, hreport⟩ : ∃ ending log,
        report th (.int level) logger (queries.map .text) results v [] = (ending, log) := ⟨_, _, rfl⟩
    refine ⟨ending, log, hreport, fun hlevel => ?_, fun hlevel hshort hreportable => ?_,
      fun record hrecord => stands_of_mem_report houtcomes (by rw [hreport]; exact hrecord)⟩
    · rw [report_int, hlevel] at hreport
      exact ⟨(congrArg Prod.fst hreport).symm, (congrArg Prod.snd hreport).symm⟩
    · have hok := report_fst_of_reportable th hshort logger hreportable hduration
      rw [hreport] at hok
      obtain rfl : ending = .ok () := hok
      exact ⟨rfl, complete_of_report hlevel houtcomes hduration hreport⟩
  · intro E x job w results hx hafter hlevel hperform
    obtain ⟨es, fs, duration, v, coerced, a, hleads, hcoerce, rfl, hcalled, hlogged⟩ :=
      Executor.dispatch_logged hx hperform
    rw [hafter] at hcalled
    obtain ⟨rfl, hcomplete⟩ :=
      complete_of_called hcalled hlevel (Executor.statistics_of_coerce hx hcoerce)
    refine ⟨es, duration, _, hleads, hlogged, hcomplete, ?_⟩
    rw [hcomplete.count, Executor.length_of_coerce hcoerce, Nat.min_self]

/-- An executor with the query log as its hook. -/
def logging : Executor where
  number := 0
  backend := .store 0
  style := .numbered
  after := some (.queryLog defaultLogger (.int defaultLevel))

/-- A batch of two statements, the first of which has a line break. -/
def broken : Job := ⟨.batch [⟨"select\n1", []⟩, ⟨"select 2", []⟩], [none, none]⟩

/-- A behaviour in which stores answer with two outcomes. -/
abbrev twofold : Environment :=
  .answering (fun _ => .ofList [.query none {}, .query none {}]) fun _ row => .ok row

/-- A world in which everything from level ten on is logged. -/
def attentive : World twofold.recorded := ⟨fun _ => 0, 0, fun _ => {}, some 10, ((), [])⟩

theorem short_defaultLevel : Short defaultLevel := by decide +kernel

/-- An outcome with statistics of zeros can be reported. -/
theorem reportable_zero {r : Value} (h : statisticsOf? r = some {}) : Reportable r :=
  ⟨{}, h, ⟨by decide +kernel, fun _ h => (nomatch h), fun _ h => nomatch h⟩⟩

/-- A query log disturbs no dispatch whose outcomes can be reported. -/
theorem logging_undisturbed : logging.Undisturbed twofold (fun _ row => .ok row) Reportable where
  before hook h := by cases h
  after hook h id queries results duration w hresults := by
    obtain rfl := Option.some.inj h
    exact Executor.returns_queryLog id queries hresults duration defaultLogger short_defaultLevel w
  maps mapper row s := rfl

/-- At a level that is logged, two outcomes have five records, and so has a batch of two statements. -/
theorem logging_complete_broken :
    (∃ log, report (some 10) (.int defaultLevel) defaultLogger (broken.call.queries.map .text)
        [.run {}, .query none {}] (.primitive .null) [] = (.ok (), log) ∧
      Complete defaultLevel defaultLogger broken.call.queries [.run {}, .query none {}] none log) ∧
      (logging.perform broken attentive).1 = .ok [.query none {}, .query none {}] ∧
      ∃ (es : List Exchange) (duration : Binary64) (log : List LogRecord),
        logging.Leads attentive (logging.dispatch broken attentive).2 es ∧
        logged es = Executor.announced (some 10) 1 2 duration ++ log ∧ log.length = 5 := by
  have hlevel : Threshold.admits (some 10) defaultLevel = true := by decide
  have houtcomes : ∀ r ∈ [Value.run {}, .query none {}], (statisticsOf? r).isSome := by
    simp [statisticsOf?]
  have hreportable : ∀ r ∈ [Value.run {}, .query none {}], Reportable r :=
    List.forall_mem_cons.mpr ⟨reportable_zero rfl, List.forall_mem_singleton.mpr (reportable_zero rfl)⟩
  obtain ⟨ending, log, hreport, -, hreported, -⟩ := (logging_complete defaultLevel defaultLogger).1
    (some 10) broken.call.queries [.run {}, .query none {}] (.primitive .null) none houtcomes .none
  obtain ⟨rfl, hcomplete⟩ := hreported hlevel short_defaultLevel
    fun r hr => hreportable r (List.mem_of_mem_take hr)
  have hperform : (logging.perform broken attentive).1 = .ok [.query none {}, .query none {}] :=
    Executor.perform_of_answers logging_undisturbed (fun _ _ => rfl) rfl
      (List.forall_mem_cons.mpr
        ⟨reportable_zero rfl, List.forall_mem_singleton.mpr (reportable_zero rfl)⟩)
  obtain ⟨es, duration, log', hleads, hlogged, -, hlength⟩ :=
    (logging_complete defaultLevel defaultLogger).2 _ logging broken attentive _ rfl rfl hlevel
      hperform
  exact ⟨⟨log, hreport, hcomplete⟩, hperform, es, duration, log', hleads, hlogged, hlength⟩

/-- The smallest integer that cannot be written. -/
def unwritable : Int := Int.ofNat (Nat.pow 10 Decimal.integerLimit)

theorem not_natAbs_ofNat_lt (n : Nat) : ¬(Int.ofNat n).natAbs < n := Nat.lt_irrefl n

theorem not_short_unwritable : ¬Short unwritable := by
  rw [short_iff, unwritable]
  exact not_natAbs_ofNat_lt _

/-- What is validated need not be reported: an integer that is too long ends the report after two
records, and a duration that is no number ends it before the first one. -/
theorem report_incomplete :
    report (some 10) (.int defaultLevel) defaultLogger [.text "a"]
        [.run { statistics := { changes := unwritable } }] (.primitive .null) [] =
      (.error .tooLong, [⟨defaultLevel, defaultLogger, "batch: 1 queries"⟩,
        ⟨defaultLevel, defaultLogger, "1: a"⟩]) ∧
    report (some 10) (.int defaultLevel) defaultLogger [.text "a"] [.run {}]
        (.int (Int.ofNat (Nat.pow 10 400))) [] = (.error .tooLarge, []) := by
  constructor
  · let long : Value := .run { statistics := { changes := unwritable } }
    have hresult : resultLine long = .error .tooLong := by
      rw [resultLine_of_statistics rfl]
      exact statisticsLine_of_not_writable fun h => not_short_unwritable h.changes
    have hcleanup : cleanup "a" = "a" := by decide +kernel
    have hnoted := noteEach_cons defaultLevel defaultLogger 1 "a" [] long []
      [⟨defaultLevel, defaultLogger, "batch: 1 queries"⟩]
    rw [hresult, hcleanup] at hnoted
    rw [report_int, writeInt_of_short short_defaultLevel]
    exact hnoted
  · have hfinite : (Binary64.ofInt (Int.ofNat (Nat.pow 10 400))).isFinite = false := by
      decide +kernel
    rw [report_int, durationOf_int, hfinite]
    rfl

end QueryLog

end SqlWeave
