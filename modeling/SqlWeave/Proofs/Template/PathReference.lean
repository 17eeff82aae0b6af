import SqlWeave.Proofs.Template.Numbering

/-!
# References by paths

A field can refer to a part of an argument: it is written as a root, which refers to the argument, and
steps from there (`PathRef`). What it denotes is told by the arguments and the steps alone
(`PathRef.value?`).

**`Template.paths_followed`**: two readers agree on the text of such a field. The reader of templates
finds its end behind whatever stands in the brackets, and the reader of paths takes the steps as they
were written, so a template of such fields becomes the fragment of the values that they denote, or
misses one of them. A name or a key that is no number has to be one that does not begin with too long
a number, either (`Template.long_digits_refused`).
-/

namespace SqlWeave

open SqlWeave.Template SqlWeave.Path

/-! ### Numbers that are short enough -/

namespace Path

/-- A text does not begin with too long a number if all of it makes no such number. -/
theorem not_tooLong_of_le {cs : List Char} (h : numberOf cs ≤ maxIndex) : ¬ TooLong cs := by
  rintro ⟨digits, rest, rfl, -, hlong⟩
  have hle : numberOf digits ≤ numberOf (digits ++ rest) := by
    rw [numberOf, numberOf, List.foldl_append]
    exact le_foldl_pushDigit rest _
  omega

end Path

/-! ### Steps -/

/-- A step that can be written in a field: a name has no character that means something there, and a
key no closing bracket. A number at the beginning of a key is not too long. -/
def StepText.IsStep : StepText → Prop
  | .attribute name => name ≠ [] ∧ ∀ c ∈ name, c ∉ Piece.marks
  | .key text => text ≠ [] ∧ ']' ∉ text ∧ ¬ TooLong text

namespace Path

/-- The characters of steps. -/
def charsOf (steps : List StepText) : List Char := steps.flatMap StepText.chars

/-- The value that steps lead to, each taken from the value that was reached before. -/
def follow (steps : List StepText) (v : Value) : Option Value :=
  steps.foldlM (fun v s => v.step? s.step) v

theorem ends_charsOf (steps : List StepText) : Ends (charsOf steps) := by
  intro c hc
  cases steps with
  | nil => cases hc
  | cons s steps =>
    cases s with
    | «attribute» name =>
      obtain rfl : '.' = c := Option.some.inj hc
      rfl
    | key text =>
      obtain rfl : '[' = c := Option.some.inj hc
      rfl

theorem fits_of_isStep {s : StepText} (h : s.IsStep) (steps : List StepText) :
    Fits s (charsOf steps) := by
  cases s with
  | «attribute» name =>
    exact ⟨h.1, fun c hc => isBreak_of_not_marks (h.2 c hc), ends_charsOf steps⟩
  | key text => exact h

/-- **The walk follows the steps** that are written. -/
theorem walk_charsOf {steps : List StepText} (h : ∀ s ∈ steps, s.IsStep) (v : Value) :
    walk v (charsOf steps) =
      match follow steps v with
      | some w => .ok w
      | none => .error .missing := by
  induction steps generalizing v with
  | nil => exact walk_nil v
  | cons s steps ih =>
    obtain ⟨hs, hsteps⟩ := List.forall_mem_cons.mp h
    rw [charsOf, List.flatMap_cons, ← charsOf, walk_chars (fits_of_isStep hs steps), follow,
      List.foldlM_cons]
    cases v.step? s.step with
    | none => rfl
    | some w => exact ih hsteps w

/-- Steps are written as in a field name. -/
theorem isName_charsOf {steps : List StepText} (h : ∀ s ∈ steps, s.IsStep) :
    FieldName (charsOf steps) := by
  induction steps with
  | nil => exact .nil
  | cons s steps ih =>
    obtain ⟨hs, hsteps⟩ := List.forall_mem_cons.mp h
    rw [charsOf, List.flatMap_cons, ← charsOf]
    cases s with
    | «attribute» name =>
      have hname : FieldName (name ++ charsOf steps) :=
        (ih hsteps).append fun c hc => Piece.not_nameStops_of_not_marks (hs.2 c hc)
      exact .char (by decide) hname
    | key text =>
      rw [StepText.chars, List.cons_append, List.append_assoc, List.singleton_append]
      exact .group hs.2.1 (ih hsteps)

end Path

/-! ### Roots -/

namespace Template

namespace ArgRef

/-- A root that can be written in a field: a number is one of decimal digits, and not too long. A
name is no such number, and has no character that means something in a field; a number at its
beginning is not too long. -/
def IsRoot : ArgRef → Prop
  | next => True
  | place digits => isDecimal digits = true ∧ ¬ TooLong digits
  | keyword name => name.toList ≠ [] ∧ (∀ c ∈ name.toList, c ∉ Piece.marks) ∧
      isDecimal name.toList = false ∧ ¬ TooLong name.toList

/-- The argument that a root refers to when so many roots have referred to the next one. -/
def argument? (args : List Value) (kwargs : List (String × Value)) (count : Nat) :
    ArgRef → Option Value
  | next => args[count]?
  | place digits => args[numberOf digits]?
  | keyword name => kwargs.lookup name

namespace IsRoot

variable {r : ArgRef}

theorem ne_nil (h : r.IsRoot) (hnext : r ≠ .next) : r.fieldName ≠ [] := by
  cases r with
  | next => exact absurd rfl hnext
  | place digits =>
    rintro (rfl : digits = [])
    exact Bool.noConfusion h.1
  | keyword name => exact h.1

theorem not_marks (h : r.IsRoot) : ∀ c ∈ r.fieldName, c ∉ Piece.marks := by
  intro c hc
  cases r with
  | next => cases hc
  | place digits =>
    obtain ⟨hdecimal, -⟩ := h
    simp only [isDecimal, Bool.and_eq_true, List.all_eq_true] at hdecimal
    exact not_marks_of_decimal (hdecimal.2 c hc)
  | keyword name => exact h.2.1 c hc

theorem isBreak_target (h : r.IsRoot) (count : Nat) : ∀ c ∈ r.target count, isBreak c = false := by
  intro c hc
  refine isBreak_of_not_marks ?_
  cases r with
  | next => exact not_marks_of_decimal (isSome_of_mem_toString hc)
  | place digits => exact h.not_marks c hc
  | keyword name => exact h.not_marks c hc

theorem not_tooLong_target (h : r.IsRoot) {count : Nat} (hcount : count ≤ maxIndex) :
    ¬ TooLong (r.target count) := by
  cases r with
  | next => exact not_tooLong_of_le (by rwa [target, numberOf_toString])
  | place digits => exact h.2
  | keyword name => exact h.2.2.2

end IsRoot

theorem target_of_ne_next {r : ArgRef} (h : r ≠ .next) (count : Nat) :
    r.target count = r.fieldName ∧ r.countAfter count = count := by
  cases r with
  | next => exact absurd rfl h
  | place digits => exact ⟨rfl, rfl⟩
  | keyword name => exact ⟨rfl, rfl⟩

theorem isDecimal_toString (n : Nat) : isDecimal (toString n).toList = true := by
  rw [isDecimal, Bool.and_eq_true, List.all_eq_true]
  exact ⟨by simp, fun c hc => isSome_of_mem_toString hc⟩

/-- Under its name, with its number if it is automatic, a root is looked up as the argument. -/
theorem argument?_target {r : ArgRef} (h : r.IsRoot) (args : List Value)
    (kwargs : List (String × Value)) (count : Nat) :
    Template.argument? args kwargs (r.target count) = r.argument? args kwargs count := by
  cases r with
  | next => rw [target, Template.argument?, isDecimal_toString, if_pos rfl, numberOf_toString]; rfl
  | place digits => rw [target, Template.argument?, h.1, if_pos rfl]; rfl
  | keyword name =>
    rw [target, Template.argument?, h.2.2.1, if_neg Bool.false_ne_true, String.ofList_toList,
      find?_eq_lookup]
    rfl

end ArgRef

/-! ### References by paths -/

/-- A reference by a path: a root, and steps from its argument. -/
structure PathRef where
  /-- The root. -/
  root : ArgRef
  /-- The steps. -/
  steps : List StepText
  /-- The root can be written. -/
  isRoot : root.IsRoot
  /-- The steps can be written. -/
  isStep : ∀ s ∈ steps, s.IsStep

namespace PathRef

/-- The name of the field that makes a reference. -/
def fieldName (r : PathRef) : List Char := r.root.fieldName ++ charsOf r.steps

theorem isName (r : PathRef) : FieldName r.fieldName :=
  (isName_charsOf r.isStep).append fun c hc =>
    Piece.not_nameStops_of_not_marks (r.isRoot.not_marks c hc)

/-- What stands in the braces of the field: nothing but its name. -/
def fieldText (r : PathRef) : FieldText := ⟨r.fieldName, r.isName, false, false⟩

/-- The value that a reference denotes when so many references to the next argument have come
before: the one that the steps lead to from the argument. -/
def value? (args : List Value) (kwargs : List (String × Value)) (count : Nat) (r : PathRef) :
    Option Value :=
  (r.root.argument? args kwargs count).bind (follow r.steps)

/-- The values that references denote, one after the other. -/
def values? (args : List Value) (kwargs : List (String × Value)) :
    Nat → List PathRef → List (Option Value)
  | _, [] => []
  | count, r :: refs =>
    r.value? args kwargs count :: values? args kwargs (r.root.countAfter count) refs

/-- References to the next argument do not stand beside those that begin with a digit. -/
def Compatible (refs : List PathRef) : Prop :=
  (∃ r ∈ refs, r.root = .next) → ∀ r ∈ refs, ¬ BeginsWithDigit r.fieldName

/-- A root is nothing exactly if it refers to the next argument. -/
theorem ends_fieldName_iff (r : PathRef) : Ends r.fieldName ↔ r.root = .next := by
  constructor
  · intro hends
    by_contra hnext
    obtain ⟨c, cs, hc⟩ := List.exists_cons_of_ne_nil (r.isRoot.ne_nil hnext)
    have hbreak : isBreak c = true := hends c (by rw [fieldName, hc]; rfl)
    have hmem : c ∈ r.root.fieldName := by rw [hc]; exact List.mem_cons_self
    rw [isBreak_of_not_marks (r.isRoot.not_marks c hmem)] at hbreak
    cases hbreak
  · intro hnext
    rw [fieldName, hnext]
    exact ends_charsOf r.steps

theorem reference_eq_automatic_iff_next (r : PathRef) :
    r.fieldText.field.reference = .automatic ↔ r.root = .next :=
  reference_eq_automatic_iff.trans r.ends_fieldName_iff

/-- The field of a reference is looked up under the name of the root, and the steps. -/
theorem nameAt_field (r : PathRef) (count : Nat) :
    r.fieldText.field.nameAt count = r.root.target count ++ charsOf r.steps ∧
      r.fieldText.field.countAfter count = r.root.countAfter count := by
  by_cases hnext : r.root = .next
  · have hname : r.fieldText.field.name = r.root.fieldName ++ charsOf r.steps := rfl
    rw [Field.nameAt, Field.countAfter, r.reference_eq_automatic_iff_next.mpr hnext, hname, hnext]
    exact ⟨rfl, rfl⟩
  · have hne : r.fieldText.field.reference ≠ .automatic :=
      mt r.reference_eq_automatic_iff_next.mp hnext
    obtain ⟨htarget, hafter⟩ := ArgRef.target_of_ne_next hnext count
    rw [htarget, hafter]
    exact Field.nameAt_of_not_automatic hne count

variable {args : List Value} {kwargs : List (String × Value)}

/-- **One reference**: under its name it leads to the value that it denotes. -/
theorem resolve_nameAt (r : PathRef) {count : Nat} (hcount : count ≤ maxIndex) :
    resolve args kwargs (r.fieldText.field.nameAt count) =
      match r.value? args kwargs count with
      | some v => .ok v
      | none => .error .missing := by
  obtain ⟨hroot, hsteps⟩ :=
    root_append (r.isRoot.isBreak_target count) (ends_charsOf r.steps)
  have hshort : ¬ TooLong (Path.root (r.root.target count ++ charsOf r.steps)) := by
    rw [hroot]
    exact r.isRoot.not_tooLong_target hcount
  rw [(r.nameAt_field count).1, resolve_eq hshort, hroot, hsteps,
    ArgRef.argument?_target r.isRoot, value?]
  cases r.root.argument? args kwargs count with
  | none => rfl
  | some v => exact walk_charsOf r.isStep v

theorem seek_nameAt (r : PathRef) {count : Nat} (hcount : count ≤ maxIndex) :
    seek args kwargs (r.fieldText.field.nameAt count) =
      match r.value? args kwargs count with
      | some v => .ok v
      | none =>
        .error (.inl (.missingArgument (String.ofList (r.fieldText.field.nameAt count)))) := by
  rw [seek, r.resolve_nameAt hcount]
  cases r.value? args kwargs count <;> rfl

/-- The fields of references lead to all of the values that they denote, or to none if one of them
denotes nothing. -/
theorem seek_names (args : List Value) (kwargs : List (String × Value)) {count : Nat}
    {refs : List PathRef} (h : count + refs.length ≤ maxIndex + 1) :
    (∃ vs, values? args kwargs count refs = vs.map some ∧
      (names count (refs.map (·.fieldText.field))).mapM (seek args kwargs) = .ok vs) ∨
    none ∈ values? args kwargs count refs ∧ ∃ name,
      (names count (refs.map (·.fieldText.field))).mapM (seek args kwargs) =
        .error (.inl (.missingArgument name)) := by
  induction refs generalizing count with
  | nil => exact .inl ⟨[], rfl, rfl⟩
  | cons r refs ih =>
    rw [List.length_cons] at h
    have hafter : r.root.countAfter count ≤ count + 1 := by
      cases r.root <;> simp [ArgRef.countAfter]
    rw [List.map_cons, names, List.mapM_cons, r.seek_nameAt (by omega), (r.nameAt_field count).2,
      values?]
    cases r.value? args kwargs count with
    | none => exact .inr ⟨List.mem_cons_self, _, rfl⟩
    | some v =>
      rcases ih (by omega : r.root.countAfter count + refs.length ≤ maxIndex + 1) with
        ⟨vs, hvalues, hseek⟩ | ⟨hnone, name, hseek⟩
      · exact .inl ⟨v :: vs, by rw [hvalues, List.map_cons], by rw [hseek]; rfl⟩
      · exact .inr ⟨List.mem_cons_of_mem _ hnone, name, by rw [hseek]; rfl⟩

/-- A reference on its own is compatible. -/
theorem compatible_singleton (r : PathRef) : Compatible [r] := by
  rintro ⟨r', hr', hnext⟩ r'' hr'' ⟨c, hc, hdigit⟩
  rw [List.mem_singleton.mp hr'] at hnext
  rw [List.mem_singleton.mp hr''] at hc
  have hbreak : isBreak c = true := r.ends_fieldName_iff.mpr hnext c hc
  rw [isBreak_of_isDigit hdigit] at hbreak
  cases hbreak

/-- References that are compatible leave the numbering nothing to complain about. -/
theorem complaint?_of_compatible {refs : List PathRef} (h : Compatible refs) :
    Numbering.undecided.complaint? (references (refs.map (·.fieldText.field))) = none := by
  refine Numbering.complaint?_undecided_eq_none_iff.mpr ?_
  simp only [references, List.map_map, List.mem_map, Function.comp_apply]
  rintro ⟨⟨r, hr, hautomatic⟩, r', hr', hnumbered⟩
  have hnext : r.root = .next := r.reference_eq_automatic_iff_next.mp hautomatic
  exact h ⟨r, hr, hnext⟩ r' hr' (reference_eq_numbered_iff.mp hnumbered)

/-- A template of an opening text, and of references each with the literal text after it. -/
def form (opening : String) (parts : List (PathRef × String)) : Form :=
  ⟨opening, parts.map fun e => (e.1.fieldText, e.2)⟩

/-- What such a template is read as. -/
def pieces (opening : String) (parts : List (PathRef × String)) : List Piece :=
  opening.toList.map .literal ++ fieldPieces (form opening parts).fields

theorem parse_form (opening : String) (parts : List (PathRef × String)) :
    Piece.parse (form opening parts).text.toList = .ok (pieces opening parts) :=
  parse_text (form opening parts)

theorem fields_pieces (opening : String) (parts : List (PathRef × String)) :
    fields (pieces opening parts) = (parts.map (·.1)).map (·.fieldText.field) := by
  rw [pieces, fields_append, fields_literals, List.nil_append, form]
  induction parts with
  | nil => rfl
  | cons e parts ih =>
    obtain ⟨r, s⟩ := e
    rw [List.map_cons, fieldPieces_cons]
    show r.fieldText.field :: fields (s.toList.map .literal ++ _) = _
    rw [fields_append, fields_literals, List.nil_append, ih]
    rfl

/-- A template of compatible references becomes the fragment of all of their values, or misses one of
them. -/
theorem toFragment_form {parts : List (PathRef × String)} (hcompatible : Compatible (parts.map (·.1)))
    (hlength : parts.length ≤ maxIndex + 1) (origin : Option Origin) (opening : String) :
    (∃ vs, values? args kwargs 0 (parts.map (·.1)) = vs.map some ∧
      ∃ f, toFragment origin (form opening parts).text args kwargs = .ok f ∧
        f.values = vs ∧ f.origin = origin) ∨
    none ∈ values? args kwargs 0 (parts.map (·.1)) ∧ ∃ name,
      toFragment origin (form opening parts).text args kwargs =
        .error (.template (.missingArgument name) (some (form opening parts).text)) := by
  have hplain : ∀ f ∈ fields (pieces opening parts), f.isFormatted = false := by
    rw [fields_pieces]
    intro f hf
    obtain ⟨r, -, rfl⟩ := List.mem_map.mp hf
    exact r.fieldText.isFormatted_field
  have hnone := complaint?_of_compatible hcompatible
  have hshort : 0 + (parts.map (·.1)).length ≤ maxIndex + 1 := by
    rwa [Nat.zero_add, List.length_map]
  have hseek := seek_names args kwargs hshort
  rw [← fields_pieces opening] at hnone hseek
  rcases hseek with ⟨vs, hvalues, hseek⟩ | ⟨hmissing, name, hseek⟩
  · exact .inl ⟨vs, hvalues,
      toFragment_of_values (parse_form opening parts) hplain hnone hseek origin⟩
  · exact .inr ⟨hmissing, name,
      toFragment_of_seek_error (parse_form opening parts) hplain hnone hseek origin⟩

end PathRef

open PathRef in
/-- **Paths are followed.** A field that is written as a root and steps is read as one field, which
ends at its closing brace, whatever stands in the brackets of its keys and whatever comes behind it.
If the numbering lets it pass, it is looked up as the value that it denotes, and is missing if it
denotes none. A template of one such field, or of several that are compatible, becomes the fragment of
the values that they denote, and fails exactly if one of them denotes none, with an error that names
the field. In the name of a field that was read no bracket is ever found open. -/
theorem paths_followed (args : List Value) (kwargs : List (String × Value)) :
    (∀ (r : PathRef) (rest : List Char),
      Piece.parse ('{' :: (r.fieldName ++ '}' :: rest)) =
        (Piece.parse rest).map (.field ⟨r.fieldName, none, []⟩ :: ·)) ∧
    (∀ (r : PathRef) (numbering next : Numbering) (count : Nat) (name : List Char),
      numbering.Counts count → count ≤ maxIndex →
      number numbering r.fieldName = .ok (name, next) →
      lookup args kwargs numbering ⟨r.fieldName, none, []⟩ =
        match r.value? args kwargs count with
        | some v => .ok (v, next)
        | none => .error (.inl (.missingArgument (String.ofList name)))) ∧
    (∀ r : PathRef, Compatible [r]) ∧
    (∀ (origin : Option Origin) (opening : String) (parts : List (PathRef × String)),
      Compatible (parts.map (·.1)) → parts.length ≤ maxIndex + 1 →
      (∀ values, values? args kwargs 0 (parts.map (·.1)) = values.map some →
        ∃ f, toFragment origin (form opening parts).text args kwargs = .ok f ∧
          f.segments = opening :: parts.map (·.2) ∧ f.values = values ∧ f.origin = origin) ∧
      ((∃ e, toFragment origin (form opening parts).text args kwargs =
          .error (.template e (some (form opening parts).text))) ↔
        none ∈ values? args kwargs 0 (parts.map (·.1))) ∧
      ∀ failure, toFragment origin (form opening parts).text args kwargs = .error failure →
        ∃ name, failure = .template (.missingArgument name) (some (form opening parts).text)) ∧
    ∀ (template : String) (pieces : List Piece), Piece.parse template.toList = .ok pieces →
      ∀ f, .field f ∈ pieces → ∀ numbering name next, number numbering f.name = .ok (name, next) →
        resolve args kwargs name ≠ .error (.malformed .unclosedBracket) := by
  refine ⟨fun r rest => ?_, fun r numbering next count name hcounts hcount hnumber => ?_,
    compatible_singleton, fun origin opening parts hcompatible hlength => ?_,
    fun template pieces hparse f hf numbering name next hnumber hopen => ?_⟩
  · have hscan := Piece.scanField_chars r.fieldText rest
    have hchars : r.fieldText.chars = r.fieldName := List.append_nil _
    rw [hchars] at hscan
    exact Piece.parse_field hscan
  · have hname : name = r.fieldText.field.nameAt count := by
      rcases number_cases hcounts r.fieldText.field with ⟨next', hok, -⟩ | ⟨e, herror, -⟩
      · exact (Prod.mk.inj (Except.ok.inj (hnumber.symm.trans hok))).1
      · cases hnumber.symm.trans herror
    have hlookup : lookup args kwargs numbering r.fieldText.field =
        (seek args kwargs name).map (·, next) :=
      lookup_of_number r.fieldText.isFormatted_field hnumber
    refine hlookup.trans ?_
    rw [hname, r.seek_nameAt hcount]
    cases r.value? args kwargs count <;> rfl
  · rcases toFragment_form hcompatible hlength origin opening with
      ⟨vs, hvalues, f, hf, hfvalues, horigin⟩ | ⟨hmissing, name, herror⟩
    · refine ⟨fun values hall => ⟨f, hf, ?_, ?_, horigin⟩, ?_, fun failure herror => ?_⟩
      · rw [(segments_of_toFragment hf).1, Form.segments, form, List.map_map]
        rfl
      · rw [hfvalues]
        exact List.map_injective_iff.mpr (fun _ _ => Option.some.inj) (hvalues.symm.trans hall)
      · rw [hf, hvalues]
        simp
      · cases hf.symm.trans herror
    · refine ⟨fun values hall => ?_, ⟨fun _ => hmissing, fun _ => ⟨_, herror⟩⟩, fun failure h => ?_⟩
      · rw [hall] at hmissing
        simp at hmissing
      · exact ⟨name, (Except.error.inj (herror.symm.trans h)).symm⟩
  · have hname : FieldName name := isName_of_number hnumber (Piece.isName_of_parse hparse f hf)
    exact (resolve_malformed_iff.mp hopen).ne_unclosed hname rfl

/-- The first item under a key of nothing but characters that mean something in a field. -/
def keyPath : PathRef where
  root := .keyword "a"
  steps := [.key ['\x7d', ':', '!', '.', '\x7b'], .key ['0']]
  isRoot := ⟨by decide, List.forall_mem_singleton.mpr (by decide), by decide,
    not_tooLong_of_le (by decide)⟩
  isStep := List.forall_mem_cons.mpr ⟨⟨by decide, by decide, not_tooLong_of_le (by decide)⟩,
    List.forall_mem_singleton.mpr ⟨by decide, by decide, not_tooLong_of_le (by decide)⟩⟩

/-- An attribute of the next argument. -/
def attributePath : PathRef where
  root := .next
  steps := [.attribute ['x']]
  isRoot := trivial
  isStep := List.forall_mem_singleton.mpr ⟨by decide, List.forall_mem_singleton.mpr (by decide)⟩

theorem paths_followed_keys :
    (PathRef.form "p" [(keyPath, "\x7b"), (attributePath, "")]).text =
      "p\x7ba[\x7d:!.\x7b][0]\x7d\x7b\x7b\x7b.x\x7d" ∧
    PathRef.Compatible [keyPath, attributePath] ∧
    ∃ f, toFragment none "p\x7ba[\x7d:!.\x7b][0]\x7d\x7b\x7b\x7b.x\x7d"
        [.record [("x", .int 1)]] [("a", .dict [(.text "\x7d:!.\x7b", .tuple [.int 7])])] = .ok f ∧
      f.segments = ["p", "\x7b", ""] ∧ f.values = [.int 7, .int 1] ∧ f.origin = none := by
  have htext : (PathRef.form "p" [(keyPath, "\x7b"), (attributePath, "")]).text =
      "p\x7ba[\x7d:!.\x7b][0]\x7d\x7b\x7b\x7b.x\x7d" := by decide
  have hcompatible : PathRef.Compatible [keyPath, attributePath] := by
    have hkey : ¬ BeginsWithDigit keyPath.fieldName := by
      rintro ⟨c, hc, hdigit⟩
      obtain rfl : 'a' = c := Option.some.inj hc
      revert hdigit
      decide
    have hattribute : ¬ BeginsWithDigit attributePath.fieldName := by
      rintro ⟨c, hc, hdigit⟩
      obtain rfl : '.' = c := Option.some.inj hc
      revert hdigit
      decide
    exact fun _ => List.forall_mem_cons.mpr ⟨hkey, List.forall_mem_singleton.mpr hattribute⟩
  have hvalues : PathRef.values? [.record [("x", .int 1)]]
      [("a", .dict [(.text "\x7d:!.\x7b", .tuple [.int 7])])] 0 [keyPath, attributePath] =
        [Value.int 7, .int 1].map some := by
    with_unfolding_all rfl
  have hfollowed := (paths_followed [.record [("x", .int 1)]]
    [("a", .dict [(.text "\x7d:!.\x7b", .tuple [.int 7])])]).2.2.2.1 none "p"
      [(keyPath, "\x7b"), (attributePath, "")] hcompatible (by decide)
  rw [htext] at hfollowed
  exact ⟨htext, hcompatible, hfollowed.1 _ hvalues⟩

/-- A name, or a key, that is no number is refused although the part is there: it begins with too
long a number. -/
theorem long_digits_refused :
    isDecimal "9223372036854775808x".toList = false ∧
    (∀ c ∈ "9223372036854775808x".toList, c ∉ Piece.marks) ∧
    [("9223372036854775808x", Value.int 2)].lookup "9223372036854775808x" = some (.int 2) ∧
    toFragment none "\x7b9223372036854775808x\x7d" [] [("9223372036854775808x", .int 2)] =
      .error (.path .indexTooLarge) ∧
    (Value.dict [(.text "9223372036854775808x", .int 2)]).step? (.key "9223372036854775808x") =
      some (.int 2) ∧
    toFragment none "\x7ba[9223372036854775808x]\x7d" []
        [("a", .dict [(.text "9223372036854775808x", .int 2)])] =
      .error (.path .indexTooLarge) := by
  have hmarks : ("9223372036854775808x".toList.all fun c => decide (c ∉ Piece.marks)) = true := by
    decide
  refine ⟨by decide, fun c hc => of_decide_eq_true (List.all_eq_true.mp hmarks c hc), ?_, ?_, ?_, ?_⟩
  all_goals with_unfolding_all rfl

end Template

end SqlWeave
