import SqlWeave.Proofs.QueryLog.OneLine
import SqlWeave.Proofs.QueryLog.Outcomes

/-!
# The lines of the query log

The only white space in what the query log writes about outcomes is the space, so that each record is
one line (`stands_of_mem_report`). Queries are cleaned up first. A number has no white space, whatever
its size and kind: it is printed with digits, signs, a point and an exponent, or it is infinite or
none.
-/

namespace SqlWeave

open QueryLog

namespace QueryLog

/-! ### Texts without white space but the space -/

@[simp] theorem spacesOnly_nil : SpacesOnly [] := fun _ h => absurd h List.not_mem_nil

@[simp] theorem spacesOnly_cons {c : Char} {cs : List Char} :
    SpacesOnly (c :: cs) ↔ (Text.isBlank c = true → c = ' ') ∧ SpacesOnly cs :=
  List.forall_mem_cons

@[simp] theorem spacesOnly_append {a b : List Char} :
    SpacesOnly (a ++ b) ↔ SpacesOnly a ∧ SpacesOnly b :=
  List.forall_mem_append

/-- What has no other characters has no other white space. -/
theorem SpacesOnly.subset {a b : List Char} (h : SpacesOnly b) (hab : a ⊆ b) : SpacesOnly a :=
  fun c hc => h c (hab hc)

-- The instance is named, as the search for one can find that there are finitely many characters.
instance (cs : List Char) : Decidable (SpacesOnly cs) :=
  List.decidableBAll (fun c => Text.isBlank c = true → c = ' ') cs

/-! ### Digits -/

theorem isBlank_of_isDigit {c : Char} (h : c.isDigit = true) : Text.isBlank c = false := by
  have hzero : '0'.toNat = 48 := rfl
  have hnine : '9'.toNat = 57 := rfl
  rw [Char.isDigit_iff_toNat, hzero, hnine] at h
  rw [Bool.eq_false_iff, ne_eq, Text.isBlank, Text.inRanges_iff]
  rintro ⟨r, hr, hc⟩
  simp only [Text.spaceRanges, List.mem_cons, List.not_mem_nil, or_false] at hr
  rcases hr with rfl | rfl | rfl | rfl | rfl | rfl | rfl | rfl | rfl | rfl | rfl <;>
    simp only at hc <;> omega

@[simp] theorem spacesOnly_toDigits (n : Nat) : SpacesOnly (Nat.toDigits 10 n) := by
  intro c hc hblank
  rw [isBlank_of_isDigit (Nat.isDigit_of_mem_toDigits (by decide) (by decide) hc)] at hblank
  cases hblank

theorem spacesOnly_toString_nat (n : Nat) : SpacesOnly (toString n).toList := by simp

theorem spacesOnly_toString_int (n : Int) : SpacesOnly (toString n).toList := by
  cases n with
  | ofNat n => exact spacesOnly_toString_nat n
  | negSucc n =>
    have h : (toString (Int.negSucc n)).toList = '-' :: Nat.toDigits 10 (n + 1) := by
      simp [toString, Int.repr]
    rw [h, spacesOnly_cons]
    exact ⟨by decide, spacesOnly_toDigits (n + 1)⟩

end QueryLog

/-! ### Printed numbers -/

namespace Binary64

theorem spacesOnly_dropTrailingZeros {ds : List Char} (h : SpacesOnly ds) :
    SpacesOnly (dropTrailingZeros ds) := by
  refine h.subset fun c hc => ?_
  rw [dropTrailingZeros, List.mem_reverse] at hc
  exact List.mem_reverse.mp ((List.dropWhile_suffix _).subset hc)

theorem spacesOnly_withPoint {ds : List Char} (h : SpacesOnly ds) : SpacesOnly (withPoint ds) := by
  rw [withPoint]
  split
  · exact spacesOnly_nil
  · exact spacesOnly_cons.mpr ⟨by decide, h⟩

theorem spacesOnly_zeros (n : Nat) : SpacesOnly (List.replicate n '0') := by
  intro c hc hblank
  rw [List.eq_of_mem_replicate hc] at hblank
  exact absurd hblank (by decide)

theorem spacesOnly_leftpad {ds : List Char} (h : SpacesOnly ds) (n : Nat) :
    SpacesOnly (ds.leftpad n '0') :=
  spacesOnly_append.mpr ⟨spacesOnly_zeros _, h⟩

/-- A number that is not finite is written with letters. -/
theorem spacesOnly_signed (x : Binary64) {text : List Char} (h : SpacesOnly text) :
    SpacesOnly (signed x text) := by
  rw [signed]
  split
  · decide
  · split <;> decide
  · split
    · exact spacesOnly_cons.mpr ⟨by decide, h⟩
    · exact h

theorem spacesOnly_fixed (places : Nat) (x : Binary64) : SpacesOnly (x.fixed places) := by
  apply spacesOnly_signed
  refine spacesOnly_append.mpr ⟨spacesOnly_toDigits _, spacesOnly_withPoint ?_⟩
  exact (spacesOnly_leftpad (spacesOnly_toDigits _) places).subset (List.take_subset _ _)

theorem spacesOnly_significant (precision num den : Nat) :
    SpacesOnly (significant precision num den).1 := by
  simp only [significant]
  split <;> exact spacesOnly_toDigits _

theorem spacesOnly_positional {ds : List Char} (h : SpacesOnly ds) (e : Int) :
    SpacesOnly (positional ds e) := by
  rw [positional]
  split
  · exact spacesOnly_append.mpr ⟨h.subset (List.take_subset _ _),
      spacesOnly_withPoint (spacesOnly_dropTrailingZeros (h.subset (List.drop_subset _ _)))⟩
  · refine spacesOnly_cons.mpr ⟨by decide, spacesOnly_withPoint (spacesOnly_dropTrailingZeros ?_)⟩
    exact spacesOnly_append.mpr ⟨spacesOnly_zeros _, h⟩

theorem spacesOnly_scientific {ds : List Char} (h : SpacesOnly ds) (e : Int) :
    SpacesOnly (scientific ds e) := by
  have hsign : Text.isBlank (if e < 0 then '-' else '+') = true →
      (if e < 0 then '-' else '+') = ' ' := by
    split <;> decide
  have hrest := spacesOnly_withPoint (spacesOnly_dropTrailingZeros (h.subset (List.drop_subset 1 ds)))
  have hexponent := spacesOnly_leftpad (spacesOnly_toDigits e.natAbs) 2
  rw [scientific, spacesOnly_append, spacesOnly_append, spacesOnly_cons, spacesOnly_cons]
  exact ⟨⟨h.subset (List.take_subset 1 ds), hrest⟩, by decide, hsign, hexponent⟩

theorem spacesOnly_general (precision : Nat) (x : Binary64) : SpacesOnly (x.general precision) := by
  apply spacesOnly_signed
  split
  · decide
  · have h := spacesOnly_significant precision x.magnitude Extended.unitsPerOne
    simp only
    split
    · exact spacesOnly_positional h _
    · exact spacesOnly_scientific h _

end Binary64

/-! ### Messages -/

namespace QueryLog

theorem spacesOnly_cleanup (query : String) : SpacesOnly (cleanup query).toList := by
  rw [toList_cleanup]
  exact spacesOnly_collapse false query.toList

theorem spacesOnly_metadata (s : Statistics Value) : SpacesOnly (metadata s).toList := by
  have hstart : SpacesOnly ("   ↳ " ++ String.ofList (s.duration.general 6) ++ "ms · " ++
      toString s.changes ++ " changed").toList := by
    simp only [String.toList_append, String.toList_ofList, spacesOnly_append]
    exact ⟨⟨⟨⟨by decide, Binary64.spacesOnly_general 6 s.duration⟩, by decide⟩,
      spacesOnly_toString_int s.changes⟩, by decide⟩
  rw [metadata, String.toList_append, spacesOnly_append]
  refine ⟨hstart, ?_⟩
  cases s.rowsRead with
  | none =>
    show SpacesOnly "".toList
    decide
  | some n =>
    simp only [String.toList_append, spacesOnly_append]
    exact ⟨⟨⟨⟨by decide, spacesOnly_toString_int n⟩, by decide⟩, spacesOnly_toString_int _⟩,
      by decide⟩

theorem spacesOnly_summaryLine (count : Nat) (duration : Option Binary64) :
    SpacesOnly (summaryLine count duration).toList := by
  simp only [summaryLine, String.toList_append, spacesOnly_append]
  refine ⟨⟨⟨by decide, ?_⟩, spacesOnly_toString_nat count⟩, by decide⟩
  cases duration with
  | none => decide
  | some d =>
    simp only [String.toList_append, String.toList_ofList, spacesOnly_append]
    exact ⟨Binary64.spacesOnly_fixed 2 d, by decide⟩

theorem spacesOnly_text (position : Nat) (query : String) :
    SpacesOnly (toString position ++ ": " ++ cleanup query).toList := by
  simp only [String.toList_append, spacesOnly_append]
  exact ⟨⟨spacesOnly_toString_nat position, by decide⟩, spacesOnly_cleanup query⟩

/-- A record of one line, at a level and on a logger. -/
def Stands (level : Int) (logger : String) (r : LogRecord) : Prop :=
  r.level = level ∧ r.logger = logger ∧ SpacesOnly r.message.toList

/-- Each record of a report about outcomes is one line, at the level and on the logger, however the
report ends. -/
theorem stands_of_mem_report {th : Threshold} {level : Int} {logger : String} {queries : List String}
    {results : List Value} (h : ∀ r ∈ results, (statisticsOf? r).isSome) {duration : Value}
    {record : LogRecord}
    (hr : record ∈ (report th (.int level) logger (queries.map .text) results duration []).2) :
    Stands level logger record := by
  rw [report_int] at hr
  split at hr
  · split at hr
    · cases hr
    · cases hr
    · next d _ _ _ =>
      refine forall_mem_noteEach (P := Stands level logger)
        (fun position q => ⟨rfl, rfl, spacesOnly_text position q⟩) (fun r hmem line hline => ?_) 1
        queries (List.forall_mem_singleton.mpr ⟨rfl, rfl, spacesOnly_summaryLine _ d⟩) record hr
      obtain ⟨s, hs⟩ := Option.isSome_iff_exists.mp (h r hmem)
      rw [eq_metadata hline hs]
      exact ⟨rfl, rfl, spacesOnly_metadata s⟩
  · cases hr

end QueryLog

end SqlWeave
