import SqlWeave.Proofs.Effect.FirstFailure
import SqlWeave.Proofs.Template.Failures

/-!
# Numbering of fields

Looked up one by one, each field of a template has a name: its own, with the next number in front if
it is automatic (`Template.names`). Filling a template does nothing else, as long as the numbering has
nothing to complain about (`Template.values_of_fill`), and whether it has can be told from the
references to come (`Numbering.complaint?`).

**`Template.conflict_iff`**: a template whose fields all lead to a value one by one is in conflict
exactly if it has an automatic field and one whose name begins with a digit. An explicitly numbered
field has such a name. But the name of an argument can begin with a digit, too, and then its field is
in conflict with automatic ones, although it is never numbered (`Template.digit_keyword_conflicts`).
-/

namespace SqlWeave

/-- The field that a piece is, if it is one. -/
def Piece.field? : Piece → Option Field
  | .field f => some f
  | .literal _ => none

namespace Field

open Template

/-- How a field refers to its argument. -/
def reference (f : Field) : Reference := Reference.ofName f.name

/-- The name under which a field is looked up when so many automatic fields have come before. -/
def nameAt (count : Nat) (f : Field) : List Char :=
  match f.reference with
  | .automatic => (toString count).toList ++ f.name
  | _ => f.name

/-- How many automatic fields have come after a field. -/
def countAfter (count : Nat) (f : Field) : Nat :=
  match f.reference with
  | .automatic => count + 1
  | _ => count

theorem nameAt_of_not_automatic {f : Field} (h : f.reference ≠ .automatic) (count : Nat) :
    f.nameAt count = f.name ∧ f.countAfter count = count := by
  rw [nameAt, countAfter]
  cases href : f.reference with
  | automatic => exact absurd href h
  | numbered => exact ⟨rfl, rfl⟩
  | named => exact ⟨rfl, rfl⟩

end Field

namespace Template

open SqlWeave.Path

/-- The fields among pieces. -/
def fields (pieces : List Piece) : List Field := pieces.filterMap Piece.field?

theorem fields_append (ps qs : List Piece) : fields (ps ++ qs) = fields ps ++ fields qs :=
  List.filterMap_append

theorem fields_literals (cs : List Char) : fields (cs.map .literal) = [] := by
  rw [fields, List.filterMap_map]
  exact List.filterMap_eq_nil_iff.mpr fun _ _ => rfl

/-- The names under which fields are looked up one by one. -/
def names : Nat → List Field → List (List Char)
  | _, [] => []
  | count, f :: fs => f.nameAt count :: names (f.countAfter count) fs

/-- The references that fields make. -/
def references (fs : List Field) : List Reference := fs.map Field.reference

/-! ### What a numbering complains about -/

namespace Numbering

/-- So many automatic fields have been numbered. With numbers of their own, fields are not counted. -/
def Counts : Numbering → Nat → Prop
  | .automatic seen, count => seen = count
  | .manual, _ => True
  | .undecided, count => count = 0

theorem counts_undecided : undecided.Counts 0 := rfl

/-- What a numbering complains about when these references come: one of the other kind. A numbering
that is not known yet takes the kind of the first reference that has a number. -/
def complaint? : Numbering → List Reference → Option TemplateError
  | .automatic _, refs => if .numbered ∈ refs then some .manualAfterAutomatic else none
  | .manual, refs => if .automatic ∈ refs then some .automaticAfterManual else none
  | .undecided, refs =>
    match refs.find? (· ≠ .named) with
    | some .automatic => if .numbered ∈ refs then some .manualAfterAutomatic else none
    | some .numbered => if .automatic ∈ refs then some .automaticAfterManual else none
    | _ => none

/-- Without anything to complain about there are not both kinds of references. -/
theorem complaint?_undecided_eq_none_iff {refs : List Reference} :
    complaint? .undecided refs = none ↔ ¬ (.automatic ∈ refs ∧ .numbered ∈ refs) := by
  rw [complaint?]
  cases hfind : refs.find? (· ≠ .named) with
  | none =>
    have hnamed : ∀ r ∈ refs, r = .named := by simpa using hfind
    simp only [true_iff, not_and]
    intro hautomatic
    cases hnamed _ hautomatic
  | some r =>
    have hmem : r ∈ refs := List.mem_of_find?_eq_some hfind
    cases r with
    | automatic => simp [hmem]
    | numbered => simp [hmem]
    | named => simpa using List.find?_some hfind

theorem complaint?_undecided {refs : List Reference} {e : TemplateError}
    (h : complaint? .undecided refs = some e) :
    e = .automaticAfterManual ∨ e = .manualAfterAutomatic := by
  rw [complaint?] at h
  split at h
  · split at h
    · exact .inr (Option.some.inj h).symm
    · cases h
  · split at h
    · exact .inl (Option.some.inj h).symm
    · cases h
  · cases h

end Numbering

/-- **One field**: it is looked up under the name that it has on its own, or the numbering complains,
whatever comes behind. -/
theorem number_cases {numbering : Numbering} {count : Nat} (h : numbering.Counts count) (f : Field) :
    (∃ next, number numbering f.name = .ok (f.nameAt count, next) ∧ next.Counts (f.countAfter count) ∧
      ∀ refs, numbering.complaint? (f.reference :: refs) = next.complaint? refs) ∨
    ∃ e, number numbering f.name = .error e ∧
      ∀ refs, numbering.complaint? (f.reference :: refs) = some e := by
  unfold number Field.nameAt Field.countAfter
  rw [← Field.reference]
  cases hf : f.reference with
  | automatic =>
    cases numbering with
    | automatic seen =>
      obtain rfl : seen = count := h
      exact .inl ⟨_, rfl, rfl, fun refs => by simp [Numbering.complaint?]⟩
    | manual => exact .inr ⟨_, rfl, fun refs => by simp [Numbering.complaint?]⟩
    | undecided =>
      obtain rfl : count = 0 := h
      exact .inl ⟨_, rfl, rfl, fun refs => by simp [Numbering.complaint?]⟩
  | numbered =>
    cases numbering with
    | automatic seen => exact .inr ⟨_, rfl, fun refs => by simp [Numbering.complaint?]⟩
    | manual => exact .inl ⟨_, rfl, h, fun refs => by simp [Numbering.complaint?]⟩
    | undecided => exact .inl ⟨_, rfl, trivial, fun refs => by simp [Numbering.complaint?]⟩
  | named =>
    refine .inl ⟨numbering, ?_, h, fun refs => ?_⟩
    · cases numbering <;> rfl
    · cases numbering <;> simp [Numbering.complaint?]

/-! ### Looking up the fields one by one -/

variable {args : List Value} {kwargs : List (String × Value)}

/-- Looks up a field under a name. -/
def seek (args : List Value) (kwargs : List (String × Value)) (name : List Char) :
    Except (TemplateError ⊕ PathError) Value :=
  match resolve args kwargs name with
  | .ok v => .ok v
  | .error .missing => .error (.inl (.missingArgument (String.ofList name)))
  | .error (.malformed e) => .error (.inr e)

theorem lookup_of_number {numbering next : Numbering} {f : Field} {name : List Char}
    (hplain : f.isFormatted = false) (h : number numbering f.name = .ok (name, next)) :
    lookup args kwargs numbering f = (seek args kwargs name).map (·, next) := by
  rw [lookup, hplain, h, seek]
  simp only [Bool.false_eq_true, if_false]
  cases resolve args kwargs name with
  | ok v => rfl
  | error e => cases e <;> rfl

theorem lookup_of_number_error {numbering : Numbering} {f : Field} {e : TemplateError}
    (hplain : f.isFormatted = false) (h : number numbering f.name = .error e) :
    lookup args kwargs numbering f = .error (.inl e) := by
  rw [lookup, hplain, h]
  rfl

/-- **Filling is looking up** the fields one by one, if the numbering has nothing to complain
about. -/
theorem values_of_fill {numbering : Numbering} {count : Nat} {pieces : List Piece}
    (hplain : ∀ f ∈ fields pieces, f.isFormatted = false) (hcount : numbering.Counts count)
    (h : numbering.complaint? (references (fields pieces)) = none) :
    (fill args kwargs numbering pieces).map (fun r => r.2.map (·.1)) =
      (names count (fields pieces)).mapM (seek args kwargs) := by
  induction pieces generalizing numbering count with
  | nil => rfl
  | cons piece pieces ih =>
    cases piece with
    | literal c =>
      rw [fill]
      refine Eq.trans ?_ (ih hplain hcount h)
      cases fill args kwargs numbering pieces <;> rfl
    | field f =>
      obtain ⟨hf, hplain⟩ := List.forall_mem_cons.mp hplain
      rcases number_cases hcount f with ⟨next, hnumber, hnext, hrefs⟩ | ⟨e, -, hrefs⟩
      · have hrest := ih hplain hnext ((hrefs _).symm.trans h)
        show _ = (f.nameAt count :: names (f.countAfter count) (fields pieces)).mapM
          (seek args kwargs)
        rw [fill, lookup_of_number hf hnumber, List.mapM_cons, ← hrest]
        cases seek args kwargs (f.nameAt count) with
        | error e => rfl
        | ok v =>
          simp only [Except.map]
          cases fill args kwargs next pieces <;> rfl
      · cases (hrefs _).symm.trans h

/-- **Filling stops** with what the numbering complains about, if all fields can be looked up. -/
theorem fill_of_complaint {numbering : Numbering} {count : Nat} {pieces : List Piece}
    {e : TemplateError} (hplain : ∀ f ∈ fields pieces, f.isFormatted = false)
    (hcount : numbering.Counts count)
    (hseek : ∀ name ∈ names count (fields pieces), ∃ v, seek args kwargs name = .ok v)
    (h : numbering.complaint? (references (fields pieces)) = some e) :
    fill args kwargs numbering pieces = .error (.inl e) := by
  induction pieces generalizing numbering count with
  | nil => cases numbering <;> cases h
  | cons piece pieces ih =>
    cases piece with
    | literal c => rw [fill, ih hplain hcount hseek h]
    | field f =>
      obtain ⟨hf, hplain⟩ := List.forall_mem_cons.mp hplain
      obtain ⟨⟨v, hv⟩, hseek⟩ := List.forall_mem_cons.mp hseek
      rcases number_cases hcount f with ⟨next, hnumber, hnext, hrefs⟩ | ⟨e', hnumber, hrefs⟩
      · rw [fill, lookup_of_number hf hnumber, hv]
        simp only [Except.map, ih hplain hnext hseek ((hrefs _).symm.trans h)]
      · obtain rfl : e' = e := Option.some.inj ((hrefs _).symm.trans h)
        rw [fill, lookup_of_number_error hf hnumber]

/-- A template whose numbering has nothing to complain about becomes the fragment of the values that
its fields lead to. -/
theorem toFragment_of_values {template : String} {pieces : List Piece} {values : List Value}
    (hparse : Piece.parse template.toList = .ok pieces)
    (hplain : ∀ f ∈ fields pieces, f.isFormatted = false)
    (hnone : Numbering.undecided.complaint? (references (fields pieces)) = none)
    (hvalues : (names 0 (fields pieces)).mapM (seek args kwargs) = .ok values)
    (origin : Option Origin) :
    ∃ g, toFragment origin template args kwargs = .ok g ∧ g.values = values ∧ g.origin = origin := by
  have hmap : (fill args kwargs .undecided pieces).map (fun r => r.2.map (·.1)) = .ok values :=
    (values_of_fill hplain Numbering.counts_undecided hnone).trans hvalues
  rw [toFragment, hparse]
  cases hfill : fill args kwargs .undecided pieces with
  | ok r =>
    rw [hfill] at hmap
    refine ⟨⟨String.ofList r.1, r.2, origin⟩, ?_, Except.ok.inj hmap, rfl⟩
    simp only [hfill]
  | error e =>
    rw [hfill] at hmap
    cases hmap

/-- It fails like the first field that leads to nothing. -/
theorem toFragment_of_seek_error {template : String} {pieces : List Piece} {e : TemplateError}
    (hparse : Piece.parse template.toList = .ok pieces)
    (hplain : ∀ f ∈ fields pieces, f.isFormatted = false)
    (hnone : Numbering.undecided.complaint? (references (fields pieces)) = none)
    (herror : (names 0 (fields pieces)).mapM (seek args kwargs) = .error (.inl e))
    (origin : Option Origin) :
    toFragment origin template args kwargs = .error (.template e (some template)) := by
  have hmap : (fill args kwargs .undecided pieces).map (fun r => r.2.map (·.1)) = .error (.inl e) :=
    (values_of_fill hplain Numbering.counts_undecided hnone).trans herror
  rw [toFragment, hparse]
  cases hfill : fill args kwargs .undecided pieces with
  | ok r =>
    rw [hfill] at hmap
    cases hmap
  | error e' =>
    rw [hfill] at hmap
    obtain rfl : e' = .inl e := Except.error.inj hmap
    simp only [hfill]

/-! ### Conflicts -/

/-- A text begins with a digit, decimal or not. -/
def BeginsWithDigit (cs : List Char) : Prop := ∃ c ∈ cs.head?, Text.isDigit c = true

theorem reference_eq_automatic_iff {f : Field} : f.reference = .automatic ↔ Ends f.name := by
  rw [Field.reference, Ends]
  cases f.name with
  | nil => simp [Reference.ofName]
  | cons c cs => cases hbreak : isBreak c <;> cases hdigit : Text.isDigit c <;>
      simp [Reference.ofName, hbreak, hdigit]

theorem isBreak_of_isDigit {c : Char} (h : Text.isDigit c = true) : isBreak c = false := by
  rw [isBreak, Bool.or_eq_false_iff, decide_eq_false_iff_not, decide_eq_false_iff_not]
  constructor
  · rintro rfl
    revert h
    decide
  · rintro rfl
    revert h
    decide

theorem reference_eq_numbered_iff {f : Field} : f.reference = .numbered ↔ BeginsWithDigit f.name := by
  rw [Field.reference, BeginsWithDigit]
  cases f.name with
  | nil => simp [Reference.ofName]
  | cons c cs =>
    cases hdigit : Text.isDigit c with
    | true => simp [Reference.ofName, hdigit, isBreak_of_isDigit hdigit]
    | false => cases hbreak : isBreak c <;> simp [Reference.ofName, hbreak, hdigit]

/-- A name whose root is a number begins with a digit. -/
theorem beginsWithDigit_of_isDecimal {cs : List Char} (h : isDecimal (root cs) = true) :
    BeginsWithDigit cs := by
  cases cs with
  | nil => cases h
  | cons c cs =>
    rw [root, List.takeWhile_cons] at h
    split at h
    · simp only [isDecimal, List.all_cons, Bool.and_eq_true] at h
      obtain ⟨d, hd⟩ := Option.isSome_iff_exists.mp h.2.1
      exact ⟨c, rfl, Text.isDigit_of_decimalValue? hd⟩
    · cases h

/-- A template fails because its numbering is mixed. -/
def Conflicts (template : String) (r : Except Failure (Fragment Value)) : Prop :=
  ∃ e, (e = .automaticAfterManual ∨ e = .manualAfterAutomatic) ∧
    r = .error (.template e (some template))

/-- What becomes of a template whose fields all lead to a value when they are looked up one by one. -/
theorem toFragment_of_resolves {template : String} {pieces : List Piece}
    (hparse : Piece.parse template.toList = .ok pieces)
    (hplain : ∀ f ∈ fields pieces, f.isFormatted = false)
    (hresolve : ∀ name ∈ names 0 (fields pieces), ∃ v, resolve args kwargs name = .ok v)
    (origin : Option Origin) :
    match Numbering.undecided.complaint? (references (fields pieces)) with
    | none => ∃ g, toFragment origin template args kwargs = .ok g
    | some e => toFragment origin template args kwargs = .error (.template e (some template)) := by
  have hseek : ∀ name ∈ names 0 (fields pieces), ∃ v, seek args kwargs name = .ok v := by
    intro name hname
    obtain ⟨v, hv⟩ := hresolve name hname
    exact ⟨v, by rw [seek, hv]⟩
  cases hcomplaint : Numbering.undecided.complaint? (references (fields pieces)) with
  | none =>
    obtain ⟨vs, hvs⟩ := exists_mapM_eq_ok hseek
    obtain ⟨g, hg, -⟩ := toFragment_of_values hparse hplain hcomplaint hvs origin
    exact ⟨g, hg⟩
  | some e =>
    have hfill : fill args kwargs .undecided pieces = .error (.inl e) :=
      fill_of_complaint hplain Numbering.counts_undecided hseek hcomplaint
    simp only [toFragment, hparse, hfill]

/-- Such a template becomes a fragment, or its numbering is in conflict: that is so exactly if there
are automatic and numbered references in it. -/
theorem conflicts_iff_references {template : String} {pieces : List Piece}
    (hparse : Piece.parse template.toList = .ok pieces)
    (hplain : ∀ f ∈ fields pieces, f.isFormatted = false)
    (hresolve : ∀ name ∈ names 0 (fields pieces), ∃ v, resolve args kwargs name = .ok v)
    (origin : Option Origin) :
    ((∃ g, toFragment origin template args kwargs = .ok g) ∨
      Conflicts template (toFragment origin template args kwargs)) ∧
    (Conflicts template (toFragment origin template args kwargs) ↔
      .automatic ∈ references (fields pieces) ∧ .numbered ∈ references (fields pieces)) := by
  have houtcome := toFragment_of_resolves hparse hplain hresolve origin
  cases hcomplaint : Numbering.undecided.complaint? (references (fields pieces)) with
  | none =>
    rw [hcomplaint] at houtcome
    obtain ⟨g, hg⟩ := houtcome
    refine ⟨.inl ⟨g, hg⟩, ?_, fun hboth => ?_⟩
    · rintro ⟨e, -, he⟩
      rw [hg] at he
      cases he
    · exact absurd hboth (Numbering.complaint?_undecided_eq_none_iff.mp hcomplaint)
  | some e =>
    rw [hcomplaint] at houtcome
    have hmixed : Conflicts template (toFragment origin template args kwargs) :=
      ⟨e, Numbering.complaint?_undecided hcomplaint, houtcome⟩
    refine ⟨.inr hmixed, fun _ => ?_, fun _ => hmixed⟩
    by_contra hboth
    rw [Numbering.complaint?_undecided_eq_none_iff.mpr hboth] at hcomplaint
    cases hcomplaint

/-- **Conflicts of numbering.** Let a template be read, without a field that asks for formatting, and
let all of its fields lead to a value when they are looked up one by one. Then it becomes a fragment,
or its numbering is in conflict; and that is so exactly if it has an automatic field and one whose
name begins with a digit. An explicitly numbered field does, so it is in conflict with every automatic
one; and if no other field does, there are no other conflicts. -/
theorem conflict_iff {template : String} {pieces : List Piece}
    (hparse : Piece.parse template.toList = .ok pieces)
    (hplain : ∀ f ∈ fields pieces, f.isFormatted = false)
    (hresolve : ∀ name ∈ names 0 (fields pieces), ∃ v, resolve args kwargs name = .ok v)
    (origin : Option Origin) :
    ((∃ g, toFragment origin template args kwargs = .ok g) ∨
      Conflicts template (toFragment origin template args kwargs)) ∧
    (Conflicts template (toFragment origin template args kwargs) ↔
      (∃ f ∈ fields pieces, Ends f.name) ∧ ∃ f ∈ fields pieces, BeginsWithDigit f.name) ∧
    ((∃ f ∈ fields pieces, Ends f.name) → (∃ f ∈ fields pieces, isDecimal (root f.name) = true) →
      Conflicts template (toFragment origin template args kwargs)) ∧
    ((∀ f ∈ fields pieces, BeginsWithDigit f.name → isDecimal (root f.name) = true) →
      (Conflicts template (toFragment origin template args kwargs) ↔
        (∃ f ∈ fields pieces, Ends f.name) ∧
          ∃ f ∈ fields pieces, isDecimal (root f.name) = true)) := by
  have hautomatic : .automatic ∈ references (fields pieces) ↔ ∃ f ∈ fields pieces, Ends f.name := by
    simp only [references, List.mem_map, reference_eq_automatic_iff]
  have hnumbered : .numbered ∈ references (fields pieces) ↔
      ∃ f ∈ fields pieces, BeginsWithDigit f.name := by
    simp only [references, List.mem_map, reference_eq_numbered_iff]
  obtain ⟨hdone, hconflict⟩ := conflicts_iff_references hparse hplain hresolve origin
  rw [hautomatic, hnumbered] at hconflict
  have hexplicit : (∃ f ∈ fields pieces, isDecimal (root f.name) = true) →
      ∃ f ∈ fields pieces, BeginsWithDigit f.name := by
    rintro ⟨f, hf, hdecimal⟩
    exact ⟨f, hf, beginsWithDigit_of_isDecimal hdecimal⟩
  refine ⟨hdone, hconflict, fun hauto hdecimal => hconflict.mpr ⟨hauto, hexplicit hdecimal⟩, ?_⟩
  intro hall
  rw [hconflict]
  refine and_congr_right fun _ => ⟨?_, hexplicit⟩
  rintro ⟨f, hf, hdigit⟩
  exact ⟨f, hf, hall f hf hdigit⟩

/-- A field that takes the next argument, one that names an argument, and a numbered one. -/
def mixedPieces : List Piece :=
  [.field ⟨[], none, []⟩, .field ⟨['k'], none, []⟩, .field ⟨['0'], none, []⟩]

theorem conflict_iff_mixed :
    Piece.parse "\x7b\x7d\x7bk\x7d\x7b0\x7d".toList = .ok mixedPieces ∧
      (∀ f ∈ fields mixedPieces, f.isFormatted = false) ∧
      (∀ name ∈ names 0 (fields mixedPieces),
        ∃ v, resolve [.int 1] [("k", .int 2)] name = .ok v) ∧
      Conflicts "\x7b\x7d\x7bk\x7d\x7b0\x7d"
        (toFragment none "\x7b\x7d\x7bk\x7d\x7b0\x7d" [.int 1] [("k", .int 2)]) := by
  have hparse : Piece.parse "\x7b\x7d\x7bk\x7d\x7b0\x7d".toList = .ok mixedPieces := by
    with_unfolding_all rfl
  have hplain : ∀ f ∈ fields mixedPieces, f.isFormatted = false := by decide
  have hresolve : ∀ name ∈ names 0 (fields mixedPieces),
      ∃ v, resolve [.int 1] [("k", .int 2)] name = .ok v := by
    refine List.forall_mem_cons.mpr ⟨⟨.int 1, ?_⟩, List.forall_mem_cons.mpr ⟨⟨.int 2, ?_⟩,
      List.forall_mem_cons.mpr ⟨⟨.int 1, ?_⟩, List.forall_mem_nil _⟩⟩⟩
    all_goals with_unfolding_all rfl
  refine ⟨hparse, hplain, hresolve, ?_⟩
  have hautomatic : ∃ f ∈ fields mixedPieces, Ends f.name :=
    ⟨⟨[], none, []⟩, List.mem_cons_self, by simp [Ends]⟩
  have hexplicit : ∃ f ∈ fields mixedPieces, isDecimal (root f.name) = true :=
    ⟨⟨['0'], none, []⟩, List.mem_of_getElem? (i := 2) rfl, by decide⟩
  exact (conflict_iff hparse hplain hresolve none).2.2.1 hautomatic hexplicit

/-- A field that takes the next argument, and one that names an argument by a name with a digit in
front. -/
def digitPieces : List Piece := [.field ⟨[], none, []⟩, .field ⟨['0', 'x'], none, []⟩]

/-- A template without an explicitly numbered field is in conflict, although both of its fields lead
to a value: the name of an argument begins with a digit. -/
theorem digit_keyword_conflicts :
    Piece.parse "\x7b\x7d\x7b0x\x7d".toList = .ok digitPieces ∧
      (∀ f ∈ fields digitPieces, f.isFormatted = false) ∧
      (∀ name ∈ names 0 (fields digitPieces),
        ∃ v, resolve [.int 1] [("0x", .int 2)] name = .ok v) ∧
      (¬ ∃ f ∈ fields digitPieces, isDecimal (root f.name) = true) ∧
      toFragment none "\x7b\x7d\x7b0x\x7d" [.int 1] [("0x", .int 2)] =
        .error (.template .manualAfterAutomatic (some "\x7b\x7d\x7b0x\x7d")) := by
  refine ⟨by with_unfolding_all rfl, by decide, ?_, by decide, by with_unfolding_all rfl⟩
  refine List.forall_mem_cons.mpr ⟨⟨.int 1, ?_⟩,
    List.forall_mem_cons.mpr ⟨⟨.int 2, ?_⟩, List.forall_mem_nil _⟩⟩
  all_goals with_unfolding_all rfl

end Template

end SqlWeave
