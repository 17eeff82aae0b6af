import SqlWeave.Proofs.Outcome.Fields

/-!
# Coercing reports is stable

Whatever spellings a report has for its declared fields, they are read as values that are read as
themselves. So an outcome can be reported again by all its fields, its statistics as a mapping, and it
comes out the same (`QueryOutcome.check_allFields`). Nothing that was reported beside the declared
fields is lost or altered, and neither is a row.

**`coercion_stable`**: both coercions keep what is reported, and the order of the entries only orders
the further fields. The keys of a mapping are distinct, and the further fields of statistics do not
have the names of declared ones (`Outcome.WellFormed`), as in all statistics that are read
(`Statistics.proper_of_check`).
-/

namespace SqlWeave

open ReportField Value

/-! ### Declared fields -/

namespace ReportField

variable {α : Type} {name : String} {default a : α} {read : Value → Checked α}

theorem declared_of_named {fields : List (String × Value)} {v : Value}
    (h : named? name fields = some v) (hv : read v = .ok a) :
    declared (entriesOf fields) name default read = .ok a :=
  declared_eq_ok_iff.mpr (.inr ⟨v, (lookupText?_entriesOf name fields).trans h, hv⟩)

theorem declared_congr {entries entries' : List (Value × Value)}
    (h : lookupText? name entries = lookupText? name entries') :
    declared entries name default read = declared entries' name default read := by
  rw [declared, declared, h]

/-- In another order, the entries of a report have the same under each name, and the same further
fields in another order. -/
theorem further_perm {names : List String} {entries entries' : List (Value × Value)}
    {extra : List (String × Value)} (hnodup : (entries.map Prod.fst).Nodup)
    (h : further names entries = .ok extra) (hperm : entries.Perm entries') :
    (∃ extra', extra.Perm extra' ∧ further names entries' = .ok extra') ∧
      ∀ name, lookupText? name entries' = lookupText? name entries := by
  obtain ⟨fields, rfl, rfl⟩ := further_eq_ok_iff.mp h
  obtain ⟨fields', rfl, hfields⟩ := perm_entriesOf hperm
  refine ⟨⟨beside names fields', hfields.filter _, further_entriesOf names fields'⟩, ?_⟩
  intro name
  rw [lookupText?_entriesOf, lookupText?_entriesOf, named?_perm hfields (nodup_of_entriesOf hnodup)]

theorem declared_cons_self {v : Value} {rest : List (Value × Value)} :
    declared ((.text name, v) :: rest) name default read = (read v).under name := by
  rw [declared, lookupText?_cons, if_pos rfl]

theorem declared_cons_of_ne {key : String} (h : key ≠ name) {v : Value}
    {rest : List (Value × Value)} :
    declared ((.text key, v) :: rest) name default read = declared rest name default read := by
  rw [declared, declared, lookupText?_cons, if_neg h]

theorem further_cons_of_mem {names : List String} (h : name ∈ names) (v : Value)
    (rest : List (Value × Value)) : further names ((.text name, v) :: rest) = further names rest := by
  rw [further_text, if_pos (by simpa using h)]

/-- An integer that may be missing is read as itself. -/
theorem declared_ofOption {fields : List (String × Value)} {n : Option Int}
    (h : named? name fields = some (.primitive (.ofOption n))) :
    declared (entriesOf fields) name none (plain optionalInteger) = .ok n := by
  apply declared_of_named h
  cases n <;> rfl

/-- The rows that are reported: the items of what is reported as them. -/
inductive RowsFrom : Option Value → List Value → Prop where
  /-- No rows are reported. -/
  | absent : RowsFrom none []
  /-- Something with items is reported. -/
  | items {v : Value} {rows : List Value} : v.items? = some rows → RowsFrom (some v) rows

theorem items?_of_rows {v : Value} {vs : List Value} (h : rows v = .ok vs) : v.items? = some vs := by
  cases v with
  | list label items => exact congrArg some (Except.ok.inj h)
  | tuple items => exact congrArg some (Except.ok.inj h)
  | statistics s => exact congrArg some (Except.ok.inj h)
  | run o => exact congrArg some (Except.ok.inj h)
  | query label o => exact congrArg some (Except.ok.inj h)
  | _ => cases h

theorem rowsFrom_of_declared {entries : List (Value × Value)} {vs : List Value}
    (h : declared entries "results" [] (plain rows) = .ok vs) :
    RowsFrom (lookupText? "results" entries) vs := by
  obtain ⟨hnone, rfl⟩ | ⟨v, hsome, hv⟩ := declared_eq_ok_iff.mp h
  · rw [hnone]
    exact .absent
  · rw [hsome]
    exact .items (items?_of_rows (plain_eq_ok_iff.mp hv))

end ReportField

/-! ### Statistics -/

namespace Statistics

variable {s s' : Statistics Value} {entries entries' : List (Value × Value)}

/-- All fields of statistics with their names, the declared ones first. -/
def allFields (s : Statistics Value) : List (String × Value) := s.ownFields ++ s.extra

/-- No further field has the name of a declared one. -/
def Proper (s : Statistics Value) : Prop := ∀ f ∈ s.extra, f.1 ∉ fieldNames

/-- Statistics that are read are proper. -/
theorem proper_of_check (h : check entries = .ok s) : s.Proper := by
  obtain ⟨-, -, -, -, -, -, hextra⟩ := check_eq_ok_iff.mp h
  obtain ⟨fields, -, hfields⟩ := further_eq_ok_iff.mp hextra
  intro f hf
  rw [hfields] at hf
  exact not_mem_of_mem_beside hf

/-- Statistics that are reported by all their fields are read as they are. -/
theorem check_allFields (h : s.Proper) : check (entriesOf s.allFields) = .ok s := by
  have hown : ∀ f ∈ s.ownFields, f.1 ∈ fieldNames := by simp [ownFields, fieldNames]
  exact check_eq_ok_iff.mpr ⟨declared_of_named rfl rfl, declared_of_named rfl rfl,
    declared_ofOption rfl, declared_of_named rfl rfl, declared_ofOption rfl, declared_ofOption rfl,
    further_eq_ok_iff.mpr ⟨_, rfl, (beside_append hown h).symm⟩⟩

/-- The statistics that are reported: the default, the further fields of a mapping, or statistics as
they are. -/
inductive ReadFrom : Option Value → Statistics Value → Prop where
  /-- No statistics are reported. -/
  | absent : ReadFrom none {}
  /-- A mapping is reported. -/
  | mapping {fields : List (String × Value)} {s : Statistics Value} :
    s.extra = beside fieldNames fields → ReadFrom (some (named fields)) s
  /-- Statistics are reported. -/
  | self {s : Statistics Value} : ReadFrom (some (.statistics s)) s

theorem readFrom_of_declared (h : declared entries "meta" {} coerce = .ok s) :
    s.ReadFrom (lookupText? "meta" entries) := by
  obtain ⟨hnone, rfl⟩ | ⟨v, hsome, hv⟩ := declared_eq_ok_iff.mp h
  · rw [hnone]
    exact .absent
  · rw [hsome]
    cases v with
    | statistics t =>
      obtain rfl := Except.ok.inj hv
      exact .self
    | dict m =>
      obtain ⟨-, -, -, -, -, -, hextra⟩ := check_eq_ok_iff.mp hv
      obtain ⟨fields, rfl, hfields⟩ := further_eq_ok_iff.mp hextra
      exact .mapping hfields
    | _ => cases hv

/-- Entries in another order are read alike, up to the order of the further fields. -/
theorem check_perm (hnodup : (entries.map Prod.fst).Nodup) (h : check entries = .ok s)
    (hperm : entries.Perm entries') :
    ∃ extra, s.extra.Perm extra ∧ check entries' = .ok { s with extra } := by
  obtain ⟨h₁, h₂, h₃, h₄, h₅, h₆, hextra⟩ := check_eq_ok_iff.mp h
  obtain ⟨⟨extra, hsame, hfurther⟩, hlookup⟩ := further_perm hnodup hextra hperm
  refine ⟨extra, hsame, check_eq_ok_iff.mpr ?_⟩
  simp only [declared_congr (hlookup _)]
  exact ⟨h₁, h₂, h₃, h₄, h₅, h₆, hfurther⟩

end Statistics

/-! ### Reports -/

namespace Outcome

/-- Whether a report has the entries of another one in another order. Its statistics may have their
entries in another order as well. -/
inductive Reordered : List (Value × Value) → List (Value × Value) → Prop where
  /-- The entries are in another order. -/
  | entries {entries entries' : List (Value × Value)} :
    entries.Perm entries' → Reordered entries entries'
  /-- The entries and those of the statistics are in another order. -/
  | statistics {m m' rest entries entries' : List (Value × Value)} :
    entries.Perm ((.text "meta", .dict m) :: rest) → m.Perm m' →
      ((.text "meta", .dict m') :: rest).Perm entries' → Reordered entries entries'

/-- The entries of a report, as mappings and statistics have them. -/
structure WellFormed (entries : List (Value × Value)) : Prop where
  /-- The keys are distinct. -/
  distinct : (entries.map Prod.fst).Nodup
  /-- So are those of the statistics. -/
  inner : ∀ m, lookupText? "meta" entries = some (.dict m) → (m.map Prod.fst).Nodup
  /-- Statistics that are reported as such have no further fields under the names of declared ones. -/
  proper : ∀ s, lookupText? "meta" entries = some (.statistics s) → s.Proper

/-- What outcomes of both kinds read of a report, where these names are declared. -/
structure Common (names : List String) (entries : List (Value × Value)) (success : Bool)
    (statistics : Statistics Value) (extra : List (String × Value)) : Prop where
  /-- Whether the statement had success. -/
  success : declared entries "success" true (plain truth) = .ok success
  /-- The statistics. -/
  statistics : declared entries "meta" {} Statistics.coerce = .ok statistics
  /-- The further fields. -/
  extra : further names entries = .ok extra

namespace Common

variable {names : List String} {entries entries' rest : List (Value × Value)} {success : Bool}
  {statistics : Statistics Value} {extra : List (String × Value)}

/-- The statistics that an outcome reads are proper. -/
theorem proper (h : Common names entries success statistics extra) (hw : WellFormed entries) :
    statistics.Proper := by
  obtain ⟨-, rfl⟩ | ⟨v, hsome, hv⟩ := declared_eq_ok_iff.mp h.statistics
  · exact fun f hf => absurd hf List.not_mem_nil
  · cases v with
    | statistics s =>
      obtain rfl := Except.ok.inj hv
      exact hw.proper s hsome
    | dict m => exact Statistics.proper_of_check hv
    | _ => cases hv

theorem not_mem (h : Common names entries success statistics extra) : ∀ f ∈ extra, f.1 ∉ names := by
  obtain ⟨fields, -, rfl⟩ := further_eq_ok_iff.mp h.extra
  exact fun f hf => not_mem_of_mem_beside hf

theorem perm (h : Common names entries success statistics extra)
    (hnodup : (entries.map Prod.fst).Nodup) (hperm : entries.Perm entries') :
    ∃ outer, extra.Perm outer ∧ Common names entries' success statistics outer ∧
      ∀ name, lookupText? name entries' = lookupText? name entries := by
  obtain ⟨⟨outer, hsame, hfurther⟩, hlookup⟩ := further_perm hnodup h.extra hperm
  refine ⟨outer, hsame, ⟨?_, ?_, hfurther⟩, hlookup⟩
  · rw [declared_congr (hlookup "success"), h.success]
  · rw [declared_congr (hlookup "meta"), h.statistics]

/-- Other statistics in a report make a difference to the statistics only. -/
theorem replace {v : Value} (h : Common names ((.text "meta", v) :: rest) success statistics extra)
    (hnames : "meta" ∈ names) :
    Statistics.coerce v = .ok statistics ∧ ∀ v' statistics', Statistics.coerce v' = .ok statistics' →
      Common names ((.text "meta", v') :: rest) success statistics' extra := by
  obtain ⟨hsuccess, hstatistics, hextra⟩ := h
  rw [declared_cons_of_ne (by decide)] at hsuccess
  rw [declared_cons_self, Checked.under_eq_ok_iff] at hstatistics
  rw [further_cons_of_mem hnames] at hextra
  refine ⟨hstatistics, fun v' statistics' hv' => ⟨?_, ?_, ?_⟩⟩
  · rw [declared_cons_of_ne (by decide), hsuccess]
  · rw [declared_cons_self, Checked.under_eq_ok_iff, hv']
  · rw [further_cons_of_mem hnames, hextra]

/-- A report in another order is read alike, up to the order of the further fields. -/
theorem reordered (h : Common names entries success statistics extra) (hw : WellFormed entries)
    (hnames : "meta" ∈ names) (hentries : Reordered entries entries') :
    ∃ inner outer, statistics.extra.Perm inner ∧ extra.Perm outer ∧
      Common names entries' success { statistics with extra := inner } outer ∧
      ∀ name, name ≠ "meta" → lookupText? name entries' = lookupText? name entries := by
  cases hentries with
  | entries hperm =>
    obtain ⟨outer, hsame, hcommon, hlookup⟩ := h.perm hw.distinct hperm
    exact ⟨statistics.extra, outer, .refl _, hsame, hcommon, fun name _ => hlookup name⟩
  | @statistics m m' rest _ _ hfirst hm hlast =>
    obtain ⟨outer₁, hsame₁, hcommon₁, hlookup₁⟩ := h.perm hw.distinct hfirst
    have hinner : (m.map Prod.fst).Nodup := by
      refine hw.inner m ?_
      rw [← hlookup₁ "meta", lookupText?_cons, if_pos rfl]
    obtain ⟨hcheck, hreplace⟩ := hcommon₁.replace hnames
    obtain ⟨inner, hsame, hcheck'⟩ := Statistics.check_perm hinner hcheck hm
    have hdistinct : (((Value.text "meta", Value.dict m') :: rest).map Prod.fst).Nodup :=
      (hfirst.map Prod.fst).nodup_iff.mp hw.distinct
    obtain ⟨outer, hsame₂, hcommon, hlookup⟩ := (hreplace (.dict m') _ hcheck').perm hdistinct hlast
    refine ⟨inner, outer, hsame, hsame₁.trans hsame₂, hcommon, fun name hname => ?_⟩
    rw [hlookup, ← hlookup₁, lookupText?_cons, lookupText?_cons, if_neg hname.symm, if_neg hname.symm]

end Common

end Outcome

namespace RunOutcome

variable {entries : List (Value × Value)} {o : RunOutcome Value}

/-- All fields of an outcome with their names: the declared ones, the statistics being a mapping, and
then the further ones. -/
def allFields (o : RunOutcome Value) : List (String × Value) :=
  [("success", .primitive (.bool o.success)), ("meta", named o.statistics.allFields)] ++ o.extra

theorem check_iff_common :
    check entries = .ok o ↔ Outcome.Common fieldNames entries o.success o.statistics o.extra :=
  check_eq_ok_iff.trans ⟨fun ⟨h₁, h₂, h₃⟩ => ⟨h₁, h₂, h₃⟩, fun h => ⟨h.success, h.statistics, h.extra⟩⟩

/-- An outcome that is reported by all its fields comes out the same. -/
theorem check_allFields (hstatistics : o.statistics.Proper)
    (hextra : ∀ f ∈ o.extra, f.1 ∉ fieldNames) :
    check (entriesOf o.allFields) = .ok o := by
  refine check_eq_ok_iff.mpr ⟨declared_of_named rfl rfl,
    declared_of_named rfl (Statistics.check_allFields hstatistics), ?_⟩
  exact further_eq_ok_iff.mpr ⟨_, rfl, (beside_append (by simp [fieldNames]) hextra).symm⟩

/-- What an outcome keeps of the report that it is read from. -/
structure Kept (entries : List (Value × Value)) (o : RunOutcome Value) : Prop where
  /-- The further fields are the entries that are not declared. -/
  extra : ∃ fields, entries = entriesOf fields ∧ o.extra = beside fieldNames fields
  /-- The statistics have their further fields from those that are reported. -/
  statistics : o.statistics.ReadFrom (lookupText? "meta" entries)
  /-- Reported by all its fields, the outcome comes out the same. -/
  stable : Outcome.asRun (named o.allFields) = .ok (.run o)
  /-- In another order, the report has the same outcome, up to the order of the further fields. -/
  reordered : ∀ entries', Outcome.Reordered entries entries' → ∃ inner outer,
    o.statistics.extra.Perm inner ∧ o.extra.Perm outer ∧
    Outcome.asRun (.dict entries') = .ok (.run
      { o with statistics := { o.statistics with extra := inner }, extra := outer })

theorem asRun_of_check (h : check entries = .ok o) : Outcome.asRun (.dict entries) = .ok (.run o) := by
  rw [Outcome.asRun, h]
  rfl

theorem kept_of_check (hw : Outcome.WellFormed entries) (h : check entries = .ok o) :
    Kept entries o where
  extra := further_eq_ok_iff.mp (check_iff_common.mp h).extra
  statistics := Statistics.readFrom_of_declared (check_iff_common.mp h).statistics
  stable := by
    have hcommon := check_iff_common.mp h
    exact asRun_of_check (check_allFields (hcommon.proper hw) hcommon.not_mem)
  reordered entries' hentries := by
    obtain ⟨inner, outer, hinner, houter, hcommon, -⟩ :=
      (check_iff_common.mp h).reordered hw (by decide) hentries
    exact ⟨inner, outer, hinner, houter, asRun_of_check (check_iff_common.mpr hcommon)⟩

end RunOutcome

namespace QueryOutcome

variable {entries : List (Value × Value)} {o : QueryOutcome Value}

/-- All fields of an outcome with their names: the declared ones, the statistics being a mapping, and
then the further ones. -/
def allFields (o : QueryOutcome Value) : List (String × Value) :=
  [("success", .primitive (.bool o.success)), ("meta", named o.statistics.allFields),
    ("results", .ofList o.rows)] ++ o.extra

theorem check_iff_common :
    check entries = .ok o ↔ Outcome.Common fieldNames entries o.success o.statistics o.extra ∧
      declared entries "results" [] (plain ReportField.rows) = .ok o.rows :=
  check_eq_ok_iff.trans ⟨fun ⟨h₁, h₂, h₃, h₄⟩ => ⟨⟨h₁, h₂, h₄⟩, h₃⟩,
    fun ⟨h, h₃⟩ => ⟨h.success, h.statistics, h₃, h.extra⟩⟩

/-- An outcome that is reported by all its fields comes out the same. -/
theorem check_allFields (hstatistics : o.statistics.Proper)
    (hextra : ∀ f ∈ o.extra, f.1 ∉ fieldNames) :
    check (entriesOf o.allFields) = .ok o := by
  refine check_eq_ok_iff.mpr ⟨declared_of_named rfl rfl,
    declared_of_named rfl (Statistics.check_allFields hstatistics), declared_of_named rfl rfl, ?_⟩
  exact further_eq_ok_iff.mpr ⟨_, rfl, (beside_append (by simp [fieldNames]) hextra).symm⟩

/-- What an outcome keeps of the report that it is read from. -/
structure Kept (entries : List (Value × Value)) (o : QueryOutcome Value) : Prop where
  /-- The further fields are the entries that are not declared. -/
  extra : ∃ fields, entries = entriesOf fields ∧ o.extra = beside fieldNames fields
  /-- The statistics have their further fields from those that are reported. -/
  statistics : o.statistics.ReadFrom (lookupText? "meta" entries)
  /-- The rows are those that are reported. -/
  rows : RowsFrom (lookupText? "results" entries) o.rows
  /-- Reported by all its fields, the outcome comes out the same. -/
  stable : Outcome.asQuery (named o.allFields) = .ok (.query none o)
  /-- In another order, the report has the same outcome, up to the order of the further fields. -/
  reordered : ∀ entries', Outcome.Reordered entries entries' → ∃ inner outer,
    o.statistics.extra.Perm inner ∧ o.extra.Perm outer ∧
    Outcome.asQuery (.dict entries') = .ok (.query none
      { o with statistics := { o.statistics with extra := inner }, extra := outer })

theorem asQuery_of_check (h : check entries = .ok o) :
    Outcome.asQuery (.dict entries) = .ok (.query none o) := by
  rw [Outcome.asQuery, h]
  rfl

theorem kept_of_check (hw : Outcome.WellFormed entries) (h : check entries = .ok o) :
    Kept entries o where
  extra := further_eq_ok_iff.mp (check_iff_common.mp h).1.extra
  statistics := Statistics.readFrom_of_declared (check_iff_common.mp h).1.statistics
  rows := rowsFrom_of_declared (check_iff_common.mp h).2
  stable := by
    obtain ⟨hcommon, -⟩ := check_iff_common.mp h
    exact asQuery_of_check (check_allFields (hcommon.proper hw) hcommon.not_mem)
  reordered entries' hentries := by
    obtain ⟨hcommon, hrows⟩ := check_iff_common.mp h
    obtain ⟨inner, outer, hinner, houter, hcommon', hlookup⟩ :=
      hcommon.reordered hw (by decide) hentries
    rw [← declared_congr (hlookup "results" (by decide))] at hrows
    exact ⟨inner, outer, hinner, houter, asQuery_of_check (check_iff_common.mpr ⟨hcommon', hrows⟩)⟩

end QueryOutcome

/-! ### Stability -/

namespace Outcome

/-- **Coercing reports is stable and loses nothing.** An outcome has all entries that are not declared,
as further fields, and all rows that are reported. It can be reported again by all its fields, and it
does not depend on the order in which the entries are reported. -/
theorem coercion_stable {entries : List (Value × Value)} (hw : WellFormed entries) :
    (∀ r, asQuery (.dict entries) = .ok r → ∃ o, r = .query none o ∧ QueryOutcome.Kept entries o) ∧
      ∀ r, asRun (.dict entries) = .ok r → ∃ o, r = .run o ∧ RunOutcome.Kept entries o := by
  constructor
  · intro r h
    rw [asQuery] at h
    rcases hcheck : QueryOutcome.check entries with issues | o
    · rw [hcheck] at h
      cases h
    · rw [hcheck] at h
      exact ⟨o, (Except.ok.inj h).symm, QueryOutcome.kept_of_check hw hcheck⟩
  · intro r h
    rw [asRun] at h
    rcases hcheck : RunOutcome.check entries with issues | o
    · rw [hcheck] at h
      cases h
    · rw [hcheck] at h
      exact ⟨o, (Except.ok.inj h).symm, RunOutcome.kept_of_check hw hcheck⟩

/-- A report with rows in a tuple, a number as a text, and a further field of each kind. -/
def spelled : List (String × Value) :=
  [("region", .text "eu"), ("meta", named [("changes", .text "7"), ("shard", .null)]),
    ("results", .tuple [.int 1, .int 2])]

theorem spelled_wellFormed : WellFormed (entriesOf spelled) where
  distinct := by simp [entriesOf, spelled, text]
  inner m hm := by
    rw [lookupText?_entriesOf] at hm
    obtain rfl := Value.dict.inj (Option.some.inj hm)
    simp [text]
  proper s hs := by
    rw [lookupText?_entriesOf] at hs
    cases Option.some.inj hs

/-- With rows, what is not declared is one field, and without rows it is two. -/
theorem coercion_stable_spelled :
    (∃ o, asQuery (named spelled) = .ok (.query none o) ∧ o.rows = [.int 1, .int 2] ∧
      o.extra = [("region", .text "eu")] ∧ QueryOutcome.Kept (entriesOf spelled) o) ∧
      ∃ o, asRun (named spelled) = .ok (.run o) ∧
        o.extra = [("region", .text "eu"), ("results", .tuple [.int 1, .int 2])] ∧
        RunOutcome.Kept (entriesOf spelled) o := by
  have hquery : asQuery (named spelled) = .ok (.query none
      { statistics := { changes := 7, extra := [("shard", .null)] }, rows := [.int 1, .int 2],
        extra := [("region", .text "eu")] }) := by
    rfl
  have hrun : asRun (named spelled) = .ok (.run
      { statistics := { changes := 7, extra := [("shard", .null)] },
        extra := [("region", .text "eu"), ("results", .tuple [.int 1, .int 2])] }) := by
    rfl
  obtain ⟨o, ho, hkept⟩ := (coercion_stable spelled_wellFormed).1 _ hquery
  obtain ⟨o', ho', hkept'⟩ := (coercion_stable spelled_wellFormed).2 _ hrun
  obtain ⟨-, rfl⟩ := Value.query.inj ho
  obtain rfl := Value.run.inj ho'
  exact ⟨⟨_, hquery, rfl, rfl, hkept⟩, _, hrun, rfl, hkept'⟩

end Outcome

end SqlWeave
