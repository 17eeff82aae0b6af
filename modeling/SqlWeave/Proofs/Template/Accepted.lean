import SqlWeave.Proofs.Template.FieldText
import SqlWeave.Proofs.Template.RoundTrip

/-!
# Which templates are accepted

A template is accepted if it can be read and none of its fields asks for formatting
(`Template.Accepts`). It is put together of literal texts, with every brace doubled, and of fields
in braces between them (`Template.Form`).

**`Template.accepted_exactly`**: the accepted templates are those that a form is written as, and
the form is unique. It tells the segments of the fragment and the number of its values whenever
there is a fragment. No other template becomes one, whatever the arguments are, and one that
cannot be read fails for that reason before any argument is looked at.

A form may have the null character as a conversion in a field. It is no conversion to the reader,
so such a template is accepted too (`Template.null_conversion_accepted`), although it has one as
text. A template without that character has a plain form.
-/

namespace SqlWeave

namespace Piece

/-- What can stand behind a literal text: nothing, or an opening brace that is not doubled. -/
def Opens (cs : List Char) : Prop := cs = [] ∨ ∃ ds, cs = '{' :: ds ∧ ds.head? ≠ some '{'

theorem escapeBraces_cons (c : Char) (cs : List Char) :
    escapeBraces (c :: cs) = escapeBrace c ++ escapeBraces cs := List.flatMap_cons

theorem escapeBrace_eq_cons (c : Char) : ∃ cs, escapeBrace c = c :: cs := by
  rw [escapeBrace]
  split
  · exact ⟨[c], rfl⟩
  · exact ⟨[], rfl⟩

/-- An opening brace that is not doubled begins no literal text. -/
theorem Opens.ne_escapeBrace {cs : List Char} (h : Opens cs) (c : Char) (rest : List Char) :
    cs ≠ escapeBrace c ++ rest := by
  rintro rfl
  rcases h with h | ⟨ds, h, hne⟩
  · obtain ⟨tail, htail⟩ := escapeBrace_eq_cons c
    simp [htail] at h
  · rw [escapeBrace] at h
    split at h
    · obtain ⟨rfl, rfl⟩ := List.cons.inj h
      exact hne rfl
    · rename_i hbrace
      exact hbrace (.inl (List.cons.inj h).1)

/-- A literal text is told from what stands behind it. -/
theorem escapeBraces_append_inj {a b rest rest' : List Char} (hrest : Opens rest)
    (hrest' : Opens rest') (h : escapeBraces a ++ rest = escapeBraces b ++ rest') :
    a = b ∧ rest = rest' := by
  induction a generalizing b with
  | nil =>
    cases b with
    | nil => exact ⟨rfl, h⟩
    | cons d b =>
      rw [escapeBraces_cons, List.append_assoc] at h
      exact absurd h (hrest.ne_escapeBrace d _)
  | cons c a ih =>
    cases b with
    | nil =>
      rw [escapeBraces_cons, List.append_assoc] at h
      exact absurd h.symm (hrest'.ne_escapeBrace c _)
    | cons d b =>
      rw [escapeBraces_cons, escapeBraces_cons, List.append_assoc, List.append_assoc] at h
      obtain ⟨cs, hcs⟩ := escapeBrace_eq_cons c
      obtain ⟨ds, hds⟩ := escapeBrace_eq_cons d
      obtain rfl : c = d := by
        rw [hcs, hds] at h
        exact (List.cons.inj h).1
      obtain ⟨rfl, hr⟩ := ih (List.append_cancel_left h)
      exact ⟨rfl, hr⟩

end Piece

/-- A field is told by its characters and by what it is read as. -/
theorem FieldText.eq_of_field_eq {t u : FieldText} (hfield : t.field = u.field)
    (hchars : t.chars = u.chars) : t = u := by
  obtain ⟨name, hname, null, colon⟩ := t
  obtain ⟨name', hname', null', colon'⟩ := u
  simp only [field, Field.mk.injEq, and_true] at hfield
  obtain ⟨rfl, hnull⟩ := hfield
  simp only [chars] at hchars
  revert hnull hchars
  cases null <;> cases null' <;> cases colon <;> cases colon' <;> simp

namespace Template

open Piece

/-- A template as it is put together: a literal text, and fields each with the literal text after
it. -/
structure Form where
  /-- The text before the first field. -/
  opening : String
  /-- The fields with the texts after them. -/
  fields : List (FieldText × String)

/-- The characters of fields and of the literal texts after them. -/
def fieldsText (fields : List (FieldText × String)) : List Char :=
  fields.flatMap fun e => braced e.1.chars ++ escapeBraces e.2.toList

/-- The pieces of fields and of the literal texts after them. -/
def fieldPieces (fields : List (FieldText × String)) : List Piece :=
  fields.flatMap fun e => .field e.1.field :: e.2.toList.map .literal

namespace Form

/-- The template that a form is written as. -/
def text (t : Form) : String :=
  String.ofList (escapeBraces t.opening.toList ++ fieldsText t.fields)

/-- The literal texts. -/
def segments (t : Form) : List String := t.opening :: t.fields.map (·.2)

/-- No field has the null character as a conversion. -/
def Plain (t : Form) : Prop := ∀ e ∈ t.fields, e.1.nullConversion = false

end Form

/-- A template can be read, and none of its fields asks for formatting. -/
def Accepts (template : String) : Prop :=
  ∃ pieces, parse template.toList = .ok pieces ∧ ∀ f, .field f ∈ pieces → f.isFormatted = false

/-! ### Reading what is written -/

theorem fieldsText_cons (t : FieldText) (s : String) (fields : List (FieldText × String)) :
    fieldsText ((t, s) :: fields) =
      '{' :: (t.chars ++ '}' :: (escapeBraces s.toList ++ fieldsText fields)) := by
  simp [fieldsText, braced]

theorem fieldPieces_cons (t : FieldText) (s : String) (fields : List (FieldText × String)) :
    fieldPieces ((t, s) :: fields) =
      .field t.field :: (s.toList.map .literal ++ fieldPieces fields) := by
  simp [fieldPieces]

theorem parse_fieldsText (fields : List (FieldText × String)) :
    parse (fieldsText fields) = .ok (fieldPieces fields) := by
  induction fields with
  | nil => rw [fieldsText, List.flatMap_nil, parse]; rfl
  | cons e fields ih =>
    obtain ⟨t, s⟩ := e
    rw [fieldsText_cons, parse_field (scanField_chars t _), parse_escapeBraces_append, ih,
      fieldPieces_cons]
    rfl

theorem parse_text (t : Form) :
    parse t.text.toList = .ok (t.opening.toList.map .literal ++ fieldPieces t.fields) := by
  rw [Form.text, String.toList_ofList, parse_escapeBraces_append, parse_fieldsText]
  rfl

theorem isFormatted_of_mem_fieldPieces {fields : List (FieldText × String)} {f : Field}
    (h : .field f ∈ fieldPieces fields) : f.isFormatted = false := by
  obtain ⟨⟨t, s⟩, -, hf⟩ := List.mem_flatMap.mp h
  obtain rfl : f = t.field := by simpa using hf
  exact t.isFormatted_field

/-- A form is accepted. -/
theorem accepts_text (t : Form) : Accepts t.text := by
  refine ⟨_, parse_text t, fun f hf => ?_⟩
  rcases List.mem_append.mp hf with hf | hf
  · simp at hf
  · exact isFormatted_of_mem_fieldPieces hf

/-- One more piece was read, and the others are what is read of the rest. -/
theorem exists_of_map_cons {rest : List Char} {piece : Piece} {pieces : List Piece}
    (h : (parse rest).map (piece :: ·) = .ok pieces) :
    ∃ tail, parse rest = .ok tail ∧ pieces = piece :: tail := by
  cases hr : parse rest with
  | error e => rw [hr] at h; cases h
  | ok tail =>
    rw [hr] at h
    exact ⟨tail, rfl, (Except.ok.inj h).symm⟩

/-- What is read without a field that asks for formatting has been put together as a form. -/
theorem exists_form_of_parse {cs : List Char} {pieces : List Piece} (h : parse cs = .ok pieces)
    (hf : ∀ f, .field f ∈ pieces → f.isFormatted = false) :
    ∃ (opening : List Char) (fields : List (FieldText × String)),
      cs = escapeBraces opening ++ fieldsText fields := by
  induction cs using parse.induct generalizing pieces with
  | case1 => exact ⟨[], [], rfl⟩
  | case2 c hc => rw [parse, if_pos hc] at h; cases h
  | case3 c rest hc ih =>
    rw [parse_brace hc] at h
    obtain ⟨tail, htail, rfl⟩ := exists_of_map_cons h
    obtain ⟨opening, fields, rfl⟩ := ih htail fun f hm => hf f (List.mem_cons_of_mem _ hm)
    refine ⟨c :: opening, fields, ?_⟩
    rw [escapeBraces_cons, escapeBrace, if_pos hc]
    rfl
  | case4 d rest _ hd =>
    rw [parse, if_pos (.inr rfl), if_neg hd, if_pos rfl] at h
    cases h
  | case5 c hc d rest hdc hclose e he =>
    rw [parse, if_pos hc, if_neg hdc, if_neg hclose] at h
    split at h
    · cases h
    · rename_i hok
      rw [he] at hok
      cases hok
  | case6 c hc d rest hdc hclose f rest' hscan _ ih =>
    obtain rfl : c = '{' := hc.resolve_right hclose
    rw [parse_field hscan] at h
    obtain ⟨tail, htail, rfl⟩ := exists_of_map_cons h
    obtain ⟨t, -, htext⟩ := scanField_unformatted_iff.mp ⟨hscan, hf f List.mem_cons_self⟩
    obtain ⟨opening, fields, rfl⟩ := ih htail fun f hm => hf f (List.mem_cons_of_mem _ hm)
    refine ⟨[], (t, String.ofList opening) :: fields, ?_⟩
    rw [fieldsText_cons, String.toList_ofList, htext]
    rfl
  | case7 c cs hc ih =>
    rw [parse_of_not_brace hc] at h
    obtain ⟨tail, htail, rfl⟩ := exists_of_map_cons h
    obtain ⟨opening, fields, rfl⟩ := ih htail fun f hm => hf f (List.mem_cons_of_mem _ hm)
    refine ⟨c :: opening, fields, ?_⟩
    rw [escapeBraces_cons, escapeBrace, if_neg hc]
    rfl

/-- **The grammar is exact**: a template is accepted if and only if a form is written as it. -/
theorem accepts_iff {template : String} : Accepts template ↔ ∃ t : Form, t.text = template := by
  constructor
  · rintro ⟨pieces, hparse, hf⟩
    obtain ⟨opening, fields, h⟩ := exists_form_of_parse hparse hf
    refine ⟨⟨String.ofList opening, fields⟩, ?_⟩
    rw [Form.text, String.toList_ofList, ← h, String.ofList_toList]
  · rintro ⟨t, rfl⟩
    exact accepts_text t

/-! ### The form of a template is unique -/

theorem opens_fieldsText (fields : List (FieldText × String)) : Opens (fieldsText fields) := by
  cases fields with
  | nil => exact .inl rfl
  | cons e fields =>
    obtain ⟨t, s⟩ := e
    exact .inr ⟨_, fieldsText_cons t s fields, head?_of_scanField (scanField_chars t _)⟩

theorem fieldsText_inj {fields others : List (FieldText × String)}
    (h : fieldsText fields = fieldsText others) : fields = others := by
  induction fields generalizing others with
  | nil =>
    cases others with
    | nil => rfl
    | cons e others =>
      rw [fieldsText_cons] at h
      cases h
  | cons e fields ih =>
    obtain ⟨t, s⟩ := e
    cases others with
    | nil =>
      rw [fieldsText_cons] at h
      cases h
    | cons e' others =>
      obtain ⟨u, r⟩ := e'
      rw [fieldsText_cons, fieldsText_cons] at h
      have htail := (List.cons.inj h).2
      -- Both are read as one field with one rest, and the rest is cut off again.
      have hread := (scanField_chars t _).symm.trans
        ((congrArg scanField htail).trans (scanField_chars u _))
      obtain ⟨hfield, hrest⟩ := Prod.mk.inj (Except.ok.inj hread)
      rw [hrest] at htail
      obtain rfl := FieldText.eq_of_field_eq hfield (List.append_cancel_right htail)
      obtain ⟨hs, hfields⟩ :=
        escapeBraces_append_inj (opens_fieldsText fields) (opens_fieldsText others) hrest
      rw [String.toList_inj.mp hs, ih hfields]

/-- **No template has two forms.** -/
theorem Form.text_injective : Function.Injective Form.text := by
  rintro ⟨opening, fields⟩ ⟨opening', fields'⟩ h
  have hchars := congrArg String.toList h
  simp only [Form.text, String.toList_ofList] at hchars
  obtain ⟨hopening, hfields⟩ :=
    escapeBraces_append_inj (opens_fieldsText fields) (opens_fieldsText fields') hchars
  rw [String.toList_inj.mp hopening, fieldsText_inj hfields]

/-- A template without the null character is written plainly. -/
theorem Form.plain_of_not_mem {t : Form} (h : '\x00' ∉ t.text.toList) : t.Plain := by
  rintro ⟨u, s⟩ he
  cases hnull : u.nullConversion with
  | false => rfl
  | true =>
    refine absurd ?_ h
    rw [Form.text, String.toList_ofList]
    refine List.mem_append_right _ (List.mem_flatMap.mpr ⟨(u, s), he, List.mem_append_left _ ?_⟩)
    simp [braced, FieldText.chars, hnull]

/-! ### What becomes of a template -/

variable {args : List Value} {kwargs : List (String × Value)}

/-- Fields are only filled if none of them asks for formatting. -/
theorem isFormatted_of_fill {numbering : Numbering} {pieces : List Piece}
    {r : List Char × List (Value × String)} (h : fill args kwargs numbering pieces = .ok r) :
    ∀ f, .field f ∈ pieces → f.isFormatted = false := by
  induction pieces generalizing numbering r with
  | nil => simp
  | cons piece pieces ih =>
    intro f hf
    cases piece with
    | literal c =>
      rw [fill] at h
      split at h
      · rename_i hrest
        exact ih hrest f (by simpa using hf)
      · cases h
    | field g =>
      rw [fill] at h
      split at h
      · cases h
      · rename_i v numbering' hlookup
        split at h
        · rename_i hrest
          rcases List.mem_cons.mp hf with hfg | hf
          · obtain rfl : f = g := by simpa using hfg
            cases hformatted : f.isFormatted with
            | false => rfl
            | true =>
              rw [lookup, hformatted, if_pos rfl] at hlookup
              cases hlookup
          · exact ih hrest f hf
        · cases h

/-- The values come with the literal texts of the form. -/
theorem texts_of_fill {numbering : Numbering} {fields : List (FieldText × String)}
    {opening : List Char} {parts : List (Value × String)}
    (h : fill args kwargs numbering (fieldPieces fields) = .ok (opening, parts)) :
    opening = [] ∧ parts.map (·.2) = fields.map (·.2) := by
  induction fields generalizing numbering opening parts with
  | nil =>
    obtain ⟨rfl, rfl⟩ := Prod.mk.inj (Except.ok.inj h)
    exact ⟨rfl, rfl⟩
  | cons e fields ih =>
    obtain ⟨t, s⟩ := e
    rw [fieldPieces_cons, fill] at h
    split at h
    · cases h
    · rename_i v numbering' hlookup
      rw [fill_literals] at h
      cases hrest : fill args kwargs numbering' (fieldPieces fields) with
      | error e => rw [hrest] at h; cases h
      | ok r =>
        obtain ⟨o, rest⟩ := r
        obtain ⟨rfl, htexts⟩ := ih hrest
        rw [hrest] at h
        obtain ⟨rfl, rfl⟩ := Prod.mk.inj (Except.ok.inj h)
        simp [htexts]

/-- Only an accepted template becomes a fragment. -/
theorem accepts_of_toFragment {origin : Option Origin} {template : String} {f : Fragment Value}
    (h : toFragment origin template args kwargs = .ok f) : Accepts template := by
  rw [toFragment] at h
  split at h
  · cases h
  · rename_i pieces hparse
    split at h
    · rename_i hfill
      exact ⟨pieces, hparse, isFormatted_of_fill hfill⟩
    · cases h
    · cases h

/-- The fragment of a template has the literal texts of its form. -/
theorem segments_of_toFragment {origin : Option Origin} {t : Form} {f : Fragment Value}
    (h : toFragment origin t.text args kwargs = .ok f) :
    f.segments = t.segments ∧ f.values.length = t.fields.length := by
  rw [toFragment, parse_text] at h
  simp only [fill_literals] at h
  cases hfill : fill args kwargs .undecided (fieldPieces t.fields) with
  | error e => rw [hfill] at h; cases e <;> cases h
  | ok r =>
    obtain ⟨o, parts⟩ := r
    obtain ⟨rfl, htexts⟩ := texts_of_fill hfill
    rw [hfill] at h
    obtain rfl := Except.ok.inj h
    constructor
    · simp [Fragment.segments, Form.segments, htexts]
    · simpa [Fragment.values] using congrArg List.length htexts

/-- **The accepted templates.** A template can be read, with no field that asks for formatting, if
and only if it is written from literal texts, with every brace doubled, and from fields between
them; there is one such form of it, and it is plain if the template is without the null character.
If the template becomes a fragment, that has exactly the literal texts of the form and as many
values as the form has fields. Every other template fails, whatever the arguments are, and one
that cannot be read fails with the reader's complaint. -/
theorem accepted_exactly (template : String) :
    (Accepts template ↔ ∃ t : Form, t.text = template) ∧
    (∀ t u : Form, t.text = template → u.text = template → t = u) ∧
    (∀ t : Form, t.text = template →
      ('\x00' ∉ template.toList → t.Plain) ∧
      ∀ origin args kwargs f, toFragment origin template args kwargs = .ok f →
        f.segments = t.segments ∧ f.values.length = t.fields.length) ∧
    ((¬ ∃ t : Form, t.text = template) →
      ∀ origin args kwargs, ∃ e, toFragment origin template args kwargs = .error e) ∧
    ∀ e, parse template.toList = .error e → ∀ origin args kwargs,
      toFragment origin template args kwargs = .error (.template (.invalid e) (some template)) ∧
        (TemplateError.invalid e).message = "Invalid template: " ++ e.message := by
  refine ⟨accepts_iff, fun t u ht hu => Form.text_injective (ht.trans hu.symm), ?_, ?_, ?_⟩
  · rintro t rfl
    exact ⟨Form.plain_of_not_mem, fun _ _ _ _ h => segments_of_toFragment h⟩
  · intro hnone origin args kwargs
    cases h : toFragment origin template args kwargs with
    | error e => exact ⟨e, rfl⟩
    | ok f => exact absurd (accepts_iff.mp (accepts_of_toFragment h)) hnone
  · intro e he origin args kwargs
    exact ⟨by rw [toFragment, he], rfl⟩

/-- A field for the argument `a`, with the null character as a conversion. -/
def nullForm : Form :=
  ⟨"", [(⟨['a'], .char (by decide) .nil, true, false⟩, "")]⟩

/-- A template that has a conversion as text is accepted: the null character is none to the
reader. -/
theorem null_conversion_accepted :
    (∃ f, toFragment none "\x7ba!\x00\x7d" [] [("a", .int 1)] = .ok f ∧ f.segments = ["", ""] ∧
      f.values = [.int 1]) ∧
    ¬ ∃ t : Form, t.Plain ∧ t.text = "\x7ba!\x00\x7d" := by
  refine ⟨⟨⟨"", [(.int 1, "")], none⟩, by with_unfolding_all rfl, rfl, rfl⟩, ?_⟩
  rintro ⟨t, hplain, ht⟩
  have htext : nullForm.text = "\x7ba!\x00\x7d" := by decide
  obtain rfl : t = nullForm := Form.text_injective (ht.trans htext.symm)
  exact Bool.noConfusion (hplain _ List.mem_cons_self)

end Template

end SqlWeave
