import SqlWeave.Proofs.Template.Accepted
import SqlWeave.Proofs.Template.PathText

/-!
# How templates fail

A template that does not become a fragment fails with an error that carries the template, whether
the reader refuses it, a field asks for formatting, the numbering is mixed, or an argument or a step
to a part of it does not exist. There is one exception: the names of fields are read only when they
are looked up, and a name that is not a path is reported as the fault in the path, without the
template.

**`Template.toFragment_failures`** tells exactly when that happens: the template can be read, all
fields before one of them are filled, and the name of that one, with its number in front if it is
automatic, is malformed (`Template.Malformed`): its root begins with too long a number, or the root
has an argument and behind steps that all exist there is no step to be read. A bracket is never
found open: the reader has seen it closed (`Template.isName_of_parse`).
-/

namespace SqlWeave

/-! ### Names of fields are closed -/

namespace FieldName

/-- Characters that stand for themselves, in front of a name. -/
theorem append {cs name : List Char} (h : ∀ c ∈ cs, c ∉ Piece.nameStops) (hname : FieldName name) :
    FieldName (cs ++ name) := by
  induction cs with
  | nil => exact hname
  | cons c cs ih =>
    obtain ⟨hc, hcs⟩ := List.forall_mem_cons.mp h
    exact .char hc (ih hcs)

/-- A character other than a bracket stands for itself. -/
theorem of_cons {c : Char} {cs : List Char} (hc : c ≠ '[') (h : FieldName (c :: cs)) :
    FieldName cs := by
  cases h with
  | char _ h => exact h
  | group _ _ => exact absurd rfl hc

theorem of_append {cs name : List Char} (hcs : ∀ c ∈ cs, c ≠ '[') (h : FieldName (cs ++ name)) :
    FieldName name := by
  induction cs with
  | nil => exact h
  | cons c cs ih =>
    obtain ⟨hc, hcs⟩ := List.forall_mem_cons.mp hcs
    exact ih hcs (of_cons hc h)

/-- A bracket is closed, and a name follows. -/
theorem exists_group {cs : List Char} (h : FieldName ('[' :: cs)) :
    ∃ inside rest, cs = inside ++ ']' :: rest ∧ ']' ∉ inside ∧ FieldName rest := by
  generalize hname : '[' :: cs = name at h
  cases h with
  | nil => cases hname
  | char hc _ =>
    obtain ⟨rfl, -⟩ := List.cons.inj hname
    exact absurd (by decide) hc
  | @group inside rest hinside hrest =>
    obtain ⟨-, rfl⟩ := List.cons.inj hname
    exact ⟨inside, rest, rfl, hinside, hrest⟩

end FieldName

namespace Piece

/-- A character that means nothing in a field stands for itself in a name. -/
theorem not_nameStops_of_not_marks {c : Char} (h : c ∉ marks) : c ∉ nameStops := by
  have hsubset : nameStops ⊆ marks := by simp [nameStops, marks]
  exact fun hc => h (hsubset hc)

theorem isName_of_scanField {cs rest : List Char} {f : Field} (h : scanField cs = .ok (f, rest)) :
    FieldName f.name := by
  rw [scanField] at h
  split at h
  · cases h
  · rename_i name stop tail hscan
    have hname : FieldName name := (scanName_eq_ok_iff.mp hscan).1
    -- Whatever stands behind the name, the field has that name.
    have hmap : ∀ {conversion : Option Char} {cs : List Char},
        (scanSpec 0 cs).map (fun r => (Field.mk name conversion r.1, r.2)) = .ok (f, rest) →
          FieldName f.name := by
      intro conversion cs h
      cases hs : scanSpec 0 cs with
      | error e => rw [hs] at h; cases h
      | ok r =>
        rw [hs] at h
        obtain ⟨rfl, -⟩ := Prod.mk.inj (Except.ok.inj h)
        exact hname
    split at h
    · obtain ⟨rfl, -⟩ := Prod.mk.inj (Except.ok.inj h)
      exact hname
    · split at h
      · exact hmap h
      · split at h
        · cases h
        · obtain ⟨rfl, -⟩ := Prod.mk.inj (Except.ok.inj h)
          exact hname
        · exact hmap h
        · cases h
        · cases h

/-- The fields of a template that can be read have names. -/
theorem isName_of_parse {cs : List Char} {pieces : List Piece} (h : parse cs = .ok pieces) :
    ∀ f, .field f ∈ pieces → FieldName f.name := by
  induction cs using parse.induct generalizing pieces with
  | case1 =>
    rw [parse] at h
    obtain rfl := Except.ok.inj h
    simp
  | case2 c hc => rw [parse, if_pos hc] at h; cases h
  | case3 c rest hc ih =>
    rw [parse_brace hc] at h
    obtain ⟨tail, htail, rfl⟩ := Template.exists_of_map_cons h
    simpa using ih htail
  | case4 d rest _ hd =>
    rw [parse, if_pos (.inr rfl), if_neg hd, if_pos rfl] at h
    cases h
  | case5 c hc d rest hdc hclose e he =>
    rw [parse, if_pos hc, if_neg hdc, if_neg hclose] at h
    split at h
    · cases h
    · rename_i hok
      rw [he] at hok
      cases hok
  | case6 c hc d rest hdc hclose f rest' hscan _ ih =>
    obtain rfl : c = '{' := hc.resolve_right hclose
    rw [parse_field hscan] at h
    obtain ⟨tail, htail, rfl⟩ := Template.exists_of_map_cons h
    intro g hg
    rcases List.mem_cons.mp hg with hgf | hg
    · obtain rfl : g = f := by simpa using hgf
      exact isName_of_scanField hscan
    · exact ih htail g hg
  | case7 c cs hc ih =>
    rw [parse_of_not_brace hc] at h
    obtain ⟨tail, htail, rfl⟩ := Template.exists_of_map_cons h
    simpa using ih htail

end Piece

namespace Template

open SqlWeave.Path

/-- The name under which a field is looked up is a name, too. -/
theorem isName_of_number {numbering after : Numbering} {name numbered : List Char}
    (h : number numbering name = .ok (numbered, after)) (hname : FieldName name) :
    FieldName numbered := by
  have hdigits : ∀ n : Nat, FieldName ((toString n).toList ++ name) := fun n =>
    FieldName.append (fun c hc =>
      Piece.not_nameStops_of_not_marks (not_marks_of_decimal (isSome_of_mem_toString hc))) hname
  unfold number at h
  split at h
  · cases h
  · obtain ⟨rfl, -⟩ := Prod.mk.inj (Except.ok.inj h)
    exact hdigits _
  · obtain ⟨rfl, -⟩ := Prod.mk.inj (Except.ok.inj h)
    exact .char (by decide) hname
  · cases h
  · obtain ⟨rfl, -⟩ := Prod.mk.inj (Except.ok.inj h)
    exact hname
  · obtain ⟨rfl, -⟩ := Prod.mk.inj (Except.ok.inj h)
    exact hname

end Template

/-! ### Malformed names -/

namespace Path

theorem ne_bracket_of_isBreak {c : Char} (h : isBreak c = false) : c ≠ '[' := by
  rintro rfl
  cases h

/-- Steps leave a name where they began with one. -/
theorem Reaches.isName {v w : Value} {cs rest : List Char} (h : Reaches v cs w rest)
    (hname : FieldName cs) : FieldName rest := by
  induction h with
  | start => exact hname
  | @step t rest last v w u hfits _ _ ih =>
    refine ih ?_
    cases t with
    | «attribute» name =>
      have htail : FieldName (name ++ rest) := FieldName.of_cons (by decide) hname
      exact htail.of_append fun c hc => ne_bracket_of_isBreak (hfits.2.1 c hc)
    | key text =>
      have hchars : (StepText.key text).chars ++ rest = '[' :: (text ++ ']' :: rest) := by
        simp [StepText.chars]
      rw [hchars] at hname
      obtain ⟨inside, tail, heq, hinside, htail⟩ := hname.exists_group
      -- The key and what the bracket hides both end at the first closing bracket.
      have hdrop := (bracketed_append hfits.2.1 rest).2
      rw [heq, (bracketed_append hinside tail).2] at hdrop
      exact (List.cons.inj hdrop).2 ▸ htail

/-- A name has no bracket that is left open. -/
theorem Fault.ne_unclosed {e : PathError} {cs : List Char} (h : Fault e cs) (hname : FieldName cs) :
    e ≠ .unclosedBracket := by
  rintro rfl
  cases h with
  | unclosed hnone =>
    obtain ⟨inside, rest, rfl, -, -⟩ := hname.exists_group
    simp at hnone

end Path

namespace Template

open SqlWeave.Path

variable {args : List Value} {kwargs : List (String × Value)}

/-- The argument that a root refers to: decimal digits are its place, anything else is its name. -/
def argument? (args : List Value) (kwargs : List (String × Value)) (root : List Char) :
    Option Value :=
  if isDecimal root then args[numberOf root]?
  else (kwargs.find? (·.1 = String.ofList root)).map (·.2)

/-- A name under which a field is looked up cannot be read as a path, as far as the arguments
make it necessary to read it. -/
inductive Malformed (args : List Value) (kwargs : List (String × Value)) (name : List Char) :
    PathError → Prop where
  /-- The root begins with too long a number. -/
  | root : TooLong (root name) → Malformed args kwargs name .indexTooLarge
  /-- The root has an argument, and behind steps that all exist there is a fault. -/
  | step {e : PathError} {v w : Value} {rest : List Char} : ¬ TooLong (root name) →
    argument? args kwargs (root name) = some v → Reaches v (steps name) w rest → Fault e rest →
    Malformed args kwargs name e

theorem resolve_eq {name : List Char} (h : ¬ TooLong (root name)) :
    resolve args kwargs name =
      match argument? args kwargs (root name) with
      | none => .error .missing
      | some v => walk v (steps name) := by
  rw [resolve, readIndex?_eq_ok h, argument?]
  cases isDecimal (root name) <;> rfl

/-- Looking up complains about a name exactly if it is malformed. -/
theorem resolve_malformed_iff {name : List Char} {e : PathError} :
    resolve args kwargs name = .error (.malformed e) ↔ Malformed args kwargs name e := by
  by_cases hlong : TooLong (root name)
  · have herror : readIndex? (root name) = .error .indexTooLarge :=
      readIndex?_eq_error_iff.mpr ⟨rfl, hlong⟩
    rw [resolve, herror]
    constructor
    · intro h
      obtain rfl := PathFailure.malformed.inj (Except.error.inj h)
      exact .root hlong
    · intro h
      cases h with
      | root _ => rfl
      | step hshort _ _ _ => exact absurd hlong hshort
  · rw [resolve_eq hlong]
    constructor
    · intro h
      cases hv : argument? args kwargs (root name) with
      | none =>
        rw [hv] at h
        cases h
      | some v =>
        rw [hv] at h
        obtain ⟨w, rest, hreach, hfault⟩ := walk_malformed_iff.mp h
        exact .step hlong hv hreach hfault
    · intro h
      cases h with
      | root h => exact absurd h hlong
      | step _ hv hreach hfault =>
        rw [hv]
        exact walk_malformed_iff.mpr ⟨_, _, hreach, hfault⟩

/-- In a name that was read no bracket is open. -/
theorem Malformed.ne_unclosed {name : List Char} {e : PathError} (h : Malformed args kwargs name e)
    (hname : FieldName name) : e ≠ .unclosedBracket := by
  cases h with
  | root _ => simp
  | step _ _ hreach hfault =>
    refine hfault.ne_unclosed (hreach.isName ?_)
    obtain ⟨before, behind, rfl, hbefore, hbehind⟩ := exists_root name
    rw [(root_append hbefore hbehind).2]
    exact hname.of_append fun c hc => ne_bracket_of_isBreak (hbefore c hc)

/-! ### The first field that fails -/

/-- All fields of these pieces are looked up, and change the numbering on the way. -/
inductive Filled (args : List Value) (kwargs : List (String × Value)) :
    Numbering → List Piece → Numbering → Prop where
  /-- There are no pieces. -/
  | nil (numbering : Numbering) : Filled args kwargs numbering [] numbering
  /-- A literal character. -/
  | literal {c : Char} {numbering after : Numbering} {pieces : List Piece} :
    Filled args kwargs numbering pieces after → Filled args kwargs numbering (.literal c :: pieces) after
  /-- A field that has a value. -/
  | field {f : Field} {v : Value} {numbering next after : Numbering} {pieces : List Piece} :
    lookup args kwargs numbering f = .ok (v, next) → Filled args kwargs next pieces after →
    Filled args kwargs numbering (.field f :: pieces) after

/-- Filling fails where a field cannot be looked up. -/
theorem Filled.fill_eq_error {numbering reached : Numbering} {before : List Piece} {f : Field}
    {e : TemplateError ⊕ PathError} (h : Filled args kwargs numbering before reached)
    (hf : lookup args kwargs reached f = .error e) (rest : List Piece) :
    fill args kwargs numbering (before ++ .field f :: rest) = .error e := by
  induction h with
  | nil => rw [List.nil_append, fill, hf]
  | literal _ ih => rw [List.cons_append, fill, ih hf]
  | field hfirst _ ih =>
    rw [List.cons_append, fill, hfirst]
    simp only [ih hf]

/-- Where filling fails, there is a first field that cannot be looked up. -/
theorem exists_field_of_fill {numbering : Numbering} {pieces : List Piece}
    {e : TemplateError ⊕ PathError} (h : fill args kwargs numbering pieces = .error e) :
    ∃ before f rest reached, pieces = before ++ .field f :: rest ∧
      Filled args kwargs numbering before reached ∧ lookup args kwargs reached f = .error e := by
  induction pieces generalizing numbering with
  | nil => cases h
  | cons piece pieces ih =>
    cases piece with
    | literal c =>
      rw [fill] at h
      split at h
      · cases h
      · rename_i hfill
        obtain rfl := Except.error.inj h
        obtain ⟨before, f, rest, reached, rfl, hfilled, hf⟩ := ih hfill
        exact ⟨.literal c :: before, f, rest, reached, rfl, .literal hfilled, hf⟩
    | field g =>
      rw [fill] at h
      split at h
      · rename_i hg
        obtain rfl := Except.error.inj h
        exact ⟨[], g, pieces, numbering, rfl, .nil numbering, hg⟩
      · rename_i hg
        split at h
        · cases h
        · rename_i hfill
          obtain rfl := Except.error.inj h
          obtain ⟨before, f, rest, reached, rfl, hfilled, hf⟩ := ih hfill
          exact ⟨.field g :: before, f, rest, reached, rfl, .field hg hfilled, hf⟩

/-- Looking up a field complains about its name exactly if the field asks for no formatting, gets a
number if it needs one, and then has a malformed name. -/
theorem lookup_malformed_iff {numbering : Numbering} {f : Field} {e : PathError} :
    lookup args kwargs numbering f = .error (.inr e) ↔ f.isFormatted = false ∧
      ∃ name next, number numbering f.name = .ok (name, next) ∧ Malformed args kwargs name e := by
  rw [lookup]
  cases f.isFormatted with
  | true => simp
  | false =>
    cases hnumber : number numbering f.name with
    | error e' => simp
    | ok r =>
      obtain ⟨name, next⟩ := r
      simp only [Bool.false_eq_true, if_false, true_and, Except.ok.injEq, Prod.mk.injEq]
      constructor
      · intro h
        refine ⟨name, next, ⟨rfl, rfl⟩, resolve_malformed_iff.mp ?_⟩
        split at h
        · cases h
        · cases h
        · rename_i hresolve
          obtain rfl := Sum.inr.inj (Except.error.inj h)
          exact hresolve
      · rintro ⟨_, _, ⟨rfl, rfl⟩, hmalformed⟩
        rw [resolve_malformed_iff.mpr hmalformed]

/-- **How templates fail.** Whatever the template and its arguments are, it becomes a fragment, or
it fails with an error that carries the template, or it fails with the bare complaint about a path.
The last happens exactly if the template can be read, the fields before one of them are filled,
and the name of that field is malformed. A bracket that is left open is never complained about. -/
theorem toFragment_failures (origin : Option Origin) (template : String) (args : List Value)
    (kwargs : List (String × Value)) :
    ((∃ f, toFragment origin template args kwargs = .ok f) ∨
      (∃ e, toFragment origin template args kwargs = .error (.template e (some template))) ∨
      ∃ e, toFragment origin template args kwargs = .error (.path e)) ∧
    (∀ e, toFragment origin template args kwargs = .error (.path e) ↔
      ∃ before f rest reached name next,
        Piece.parse template.toList = .ok (before ++ .field f :: rest) ∧
        Filled args kwargs .undecided before reached ∧ f.isFormatted = false ∧
        number reached f.name = .ok (name, next) ∧ Malformed args kwargs name e) ∧
    toFragment origin template args kwargs ≠ .error (.path .unclosedBracket) := by
  have hpath : ∀ e, toFragment origin template args kwargs = .error (.path e) ↔
      ∃ before f rest reached name next,
        Piece.parse template.toList = .ok (before ++ .field f :: rest) ∧
        Filled args kwargs .undecided before reached ∧ f.isFormatted = false ∧
        number reached f.name = .ok (name, next) ∧ Malformed args kwargs name e := by
    intro e
    rw [toFragment]
    constructor
    · intro h
      split at h
      · cases h
      · rename_i pieces hparse
        split at h
        · cases h
        · cases h
        · rename_i hfill
          obtain rfl := Failure.path.inj (Except.error.inj h)
          obtain ⟨before, f, rest, reached, rfl, hfilled, hf⟩ := exists_field_of_fill hfill
          obtain ⟨hplain, name, next, hnumber, hmalformed⟩ := lookup_malformed_iff.mp hf
          exact ⟨before, f, rest, reached, name, next, hparse, hfilled, hplain, hnumber, hmalformed⟩
    · rintro ⟨before, f, rest, reached, name, next, hparse, hfilled, hplain, hnumber, hmalformed⟩
      have hf : lookup args kwargs reached f = .error (.inr e) :=
        lookup_malformed_iff.mpr ⟨hplain, name, next, hnumber, hmalformed⟩
      rw [hparse]
      simp only [hfilled.fill_eq_error hf rest]
  refine ⟨?_, hpath, fun h => ?_⟩
  · rw [toFragment]
    split
    · exact .inr (.inl ⟨_, rfl⟩)
    · split
      · exact .inl ⟨_, rfl⟩
      · exact .inr (.inl ⟨_, rfl⟩)
      · exact .inr (.inr ⟨_, rfl⟩)
  · obtain ⟨before, f, rest, _, _, _, hparse, -, -, hnumber, hmalformed⟩ := (hpath _).mp h
    have hname : FieldName f.name := Piece.isName_of_parse hparse f (by simp)
    exact hmalformed.ne_unclosed (isName_of_number hnumber hname) rfl

/-- A template whose only field names an argument and an attribute without a name fails, and the
error does not carry the template. -/
theorem empty_attribute_bare :
    toFragment none "{a.}" [] [("a", .int 1)] = .error (.path .emptyStep) ∧
      (Failure.path .emptyStep).message = "Empty attribute in format string" ∧
      ¬ ((∃ f, toFragment none "{a.}" [] [("a", .int 1)] = .ok f) ∨
        ∃ e, toFragment none "{a.}" [] [("a", .int 1)] =
          .error (.template e (some "{a.}"))) := by
  have h : toFragment none "{a.}" [] [("a", .int 1)] = .error (.path .emptyStep) := by
    with_unfolding_all rfl
  refine ⟨h, rfl, ?_⟩
  rw [h]
  rintro (⟨f, hf⟩ | ⟨e, he⟩)
  · cases hf
  · cases he

end Template

end SqlWeave
