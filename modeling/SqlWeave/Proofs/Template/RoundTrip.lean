import SqlWeave.Proofs.Template.Root
import SqlWeave.Proofs.Template.Written
import SqlWeave.Session.Expr

/-!
# Templates round-trip

A template is written from literal texts and references to arguments (`written`): the next
positional argument, the positional argument of a number, or the argument of a name (`ArgRef`). What
its references denote is told by the arguments alone (`Denotes`), and only references to the next
argument are counted.

**`template_round_trip`**: a written template in which numbers do not stand beside references to the
next argument becomes the fragment of exactly its literal texts and of what its references denote,
whatever the texts are. With references to the next argument only, it is the fragment that the tag
makes of the texts and the arguments themselves.

The numbering that is carried along from field to field fits the references to come
(`Numbering.Fits`); `lookup_spec` is the step for one field.
-/

namespace SqlWeave

namespace Template

open SqlWeave.Path

/-! ### References to arguments -/

/-- A reference to an argument. -/
inductive ArgRef where
  /-- The next positional argument. -/
  | next
  /-- The positional argument of a number, counted from zero, by its decimal digits. -/
  | place (digits : List Char)
  /-- The argument of a name. -/
  | keyword (name : String)
  deriving DecidableEq

namespace ArgRef

/-- The name of the field that makes a reference. -/
def fieldName : ArgRef → List Char
  | next => []
  | place digits => digits
  | keyword name => name.toList

/-- A number has digits. A name is not empty, does not begin with a digit, and has no character
that means something in a field. -/
def WellFormed : ArgRef → Prop
  | next => True
  | place digits => digits ≠ [] ∧ ∀ c ∈ digits, (Text.decimalValue? c).isSome
  | keyword name => (∃ c cs, name.toList = c :: cs ∧ Text.isDigit c = false) ∧
      ∀ c ∈ name.toList, c ∉ Piece.marks

end ArgRef

/-- The values that references denote when so many references to the next argument have come
before. -/
inductive Denotes (args : List Value) (kwargs : List (String × Value)) :
    Nat → List ArgRef → List Value → Prop where
  /-- Nothing denotes nothing. -/
  | nil {count : Nat} : Denotes args kwargs count [] []
  /-- The next argument has the number of those that have been taken in this way. -/
  | next {count : Nat} {v : Value} {refs : List ArgRef} {vs : List Value} :
    args[count]? = some v → Denotes args kwargs (count + 1) refs vs →
      Denotes args kwargs count (.next :: refs) (v :: vs)
  /-- A number denotes the argument at that place. -/
  | place {count : Nat} {digits : List Char} {v : Value} {refs : List ArgRef} {vs : List Value} :
    args[numberOf digits]? = some v → Denotes args kwargs count refs vs →
      Denotes args kwargs count (.place digits :: refs) (v :: vs)
  /-- A name denotes the argument of that name. -/
  | keyword {count : Nat} {name : String} {v : Value} {refs : List ArgRef} {vs : List Value} :
    kwargs.lookup name = some v → Denotes args kwargs count refs vs →
      Denotes args kwargs count (.keyword name :: refs) (v :: vs)

/-- References to the next argument do not stand beside numbers. -/
def Unmixed (refs : List ArgRef) : Prop := .next ∈ refs → ∀ digits, .place digits ∉ refs

theorem Denotes.length_eq {args : List Value} {kwargs : List (String × Value)} {count : Nat}
    {refs : List ArgRef} {vs : List Value} (h : Denotes args kwargs count refs vs) :
    vs.length = refs.length := by
  induction h with
  | nil => rfl
  | next _ _ ih => simp [ih]
  | place _ _ ih => simp [ih]
  | keyword _ _ ih => simp [ih]

/-! ### Looking up a reference -/

variable {args : List Value} {kwargs : List (String × Value)}

theorem not_marks_of_decimal {c : Char} (h : (Text.decimalValue? c).isSome) : c ∉ Piece.marks := by
  have hnone : (Piece.marks.all fun c => (Text.decimalValue? c).isNone) = true := by decide
  intro hc
  have hc' := List.all_eq_true.mp hnone c hc
  rw [Option.isNone_iff_eq_none.mp hc'] at h
  cases h

theorem isBreak_of_not_marks {c : Char} (h : c ∉ Piece.marks) : isBreak c = false := by
  simp only [Piece.marks, List.mem_cons, List.not_mem_nil, or_false, not_or] at h
  simp [isBreak, h]

theorem ArgRef.not_marks {r : ArgRef} (hr : r.WellFormed) : ∀ c ∈ r.fieldName, c ∉ Piece.marks := by
  intro c hc
  cases r with
  | next => cases hc
  | place digits => exact not_marks_of_decimal (hr.2 c hc)
  | keyword name => exact hr.2 c hc

/-- Decimal digits lead to the argument at that place. -/
theorem resolve_digits {digits : List Char} (hne : digits ≠ [])
    (h : ∀ c ∈ digits, (Text.decimalValue? c).isSome) (hargs : args.length ≤ maxIndex + 1) {v : Value}
    (hv : args[numberOf digits]? = some v) : resolve args kwargs digits = .ok v := by
  obtain ⟨hroot, hsteps⟩ := root_eq_self fun c hc =>
    isBreak_of_not_marks (not_marks_of_decimal (h c hc))
  have hmax : numberOf digits ≤ maxIndex := by
    obtain ⟨hlt, -⟩ := List.getElem?_eq_some_iff.mp hv
    omega
  rw [resolve, hroot, readIndex?_digits hne h hmax, hsteps]
  simp only [hv, walk_nil]

/-- The first entry under a name is the one that is looked up. -/
theorem find?_eq_lookup (kwargs : List (String × Value)) (name : String) :
    (kwargs.find? (·.1 = name)).map (·.2) = kwargs.lookup name := by
  induction kwargs with
  | nil => rfl
  | cons e kwargs ih =>
    rw [List.lookup_cons]
    by_cases he : e.1 = name
    · rw [List.find?_cons_of_pos (by simpa using he)]
      simp [he]
    · have hne : (name == e.1) = false := by simpa using fun h => he h.symm
      rw [List.find?_cons_of_neg (by simpa using he), hne]
      exact ih

/-- A name leads to the argument of that name. -/
theorem resolve_keyword {name : String} (hname : (ArgRef.keyword name).WellFormed) {v : Value}
    (hv : kwargs.lookup name = some v) : resolve args kwargs name.toList = .ok v := by
  obtain ⟨⟨c, cs, hc, hdigit⟩, hmarks⟩ := hname
  obtain ⟨hroot, hsteps⟩ := root_eq_self fun c hc => isBreak_of_not_marks (hmarks c hc)
  have hnone : Text.decimalValue? c = none := by
    cases hd : Text.decimalValue? c with
    | none => rfl
    | some d =>
      rw [Text.isDigit_of_decimalValue? hd] at hdigit
      cases hdigit
  have hindex : readIndex? name.toList = .ok none := by rw [hc, readIndex?_of_head hnone]
  rw [resolve, hroot, hindex, hsteps]
  simp only [String.ofList_toList, find?_eq_lookup, hv, walk_nil]

/-- A numbering fits the references to come when so many references to the next argument have been
read: it never meets a reference of the other kind. -/
def Numbering.Fits : Numbering → Nat → List ArgRef → Prop
  | .undecided, count, refs => count = 0 ∧ Unmixed refs
  | .automatic seen, count, refs => seen = count ∧ ∀ digits, .place digits ∉ refs
  | .manual, _, refs => .next ∉ refs

namespace ArgRef

/-- How a reference relates to the numbering. -/
def kind : ArgRef → Reference
  | next => .automatic
  | place _ => .numbered
  | keyword _ => .named

/-- The name that a reference is looked up under. -/
def target (count : Nat) : ArgRef → List Char
  | next => (toString count).toList
  | place digits => digits
  | keyword name => name.toList

/-- How many references to the next argument have been read after a reference. -/
def countAfter (count : Nat) : ArgRef → Nat
  | next => count + 1
  | _ => count

theorem ofName_fieldName {r : ArgRef} (hr : r.WellFormed) : Reference.ofName r.fieldName = r.kind := by
  cases r with
  | next => rfl
  | place digits =>
    obtain ⟨c, cs, rfl⟩ := List.exists_cons_of_ne_nil hr.1
    have hc := hr.2 c List.mem_cons_self
    obtain ⟨d, hd⟩ := Option.isSome_iff_exists.mp hc
    simp [fieldName, Reference.ofName, isBreak_of_not_marks (not_marks_of_decimal hc),
      Text.isDigit_of_decimalValue? hd, kind]
  | keyword name =>
    obtain ⟨⟨c, cs, hc, hdigit⟩, hmarks⟩ := hr
    have hbreak : isBreak c = false :=
      isBreak_of_not_marks (hmarks c (by rw [hc]; exact List.mem_cons_self))
    simp [fieldName, Reference.ofName, hc, hbreak, hdigit, kind]

end ArgRef

/-- A numbering that fits a reference takes it, and fits the references after it. -/
theorem number_spec {numbering : Numbering} {count : Nat} {r : ArgRef} {refs : List ArgRef}
    (hr : r.WellFormed) (hfits : numbering.Fits count (r :: refs)) :
    ∃ numbering', number numbering r.fieldName = .ok (r.target count, numbering') ∧
      numbering'.Fits (r.countAfter count) refs := by
  have hname := ArgRef.ofName_fieldName hr
  cases r with
  | next =>
    refine ⟨.automatic (count + 1), ?_⟩
    cases numbering with
    | automatic seen =>
      obtain ⟨rfl, hnone⟩ := hfits
      refine ⟨?_, rfl, fun digits h => hnone digits (List.mem_cons_of_mem _ h)⟩
      unfold number
      rw [hname]
      exact congrArg (fun cs => Except.ok (cs, _)) (List.append_nil _)
    | manual => exact absurd List.mem_cons_self hfits
    | undecided =>
      obtain ⟨rfl, hunmixed⟩ := hfits
      exact ⟨rfl, rfl,
        fun digits h => hunmixed List.mem_cons_self digits (List.mem_cons_of_mem _ h)⟩
  | place digits =>
    refine ⟨.manual, ?_⟩
    cases numbering with
    | automatic seen => exact absurd List.mem_cons_self (hfits.2 digits)
    | manual =>
      refine ⟨?_, fun h => hfits (List.mem_cons_of_mem _ h)⟩
      unfold number
      rw [hname]
      rfl
    | undecided =>
      refine ⟨?_, fun h => hfits.2 (List.mem_cons_of_mem _ h) digits List.mem_cons_self⟩
      unfold number
      rw [hname]
      rfl
  | keyword name =>
    have hnumber : number numbering (ArgRef.keyword name).fieldName =
        .ok ((ArgRef.keyword name).target count, numbering) := by
      unfold number
      rw [hname]
      rfl
    refine ⟨numbering, hnumber, ?_⟩
    cases numbering with
    | automatic seen => exact ⟨hfits.1, fun digits h => hfits.2 digits (List.mem_cons_of_mem _ h)⟩
    | manual => exact fun h => hfits (List.mem_cons_of_mem _ h)
    | undecided =>
      exact ⟨hfits.1, fun h digits hp =>
        hfits.2 (List.mem_cons_of_mem _ h) digits (List.mem_cons_of_mem _ hp)⟩

/-- A reference leads to the value that it denotes. -/
theorem resolve_target (hargs : args.length ≤ maxIndex + 1) {count : Nat} {r : ArgRef}
    {refs : List ArgRef} {v : Value} {vs : List Value} (hr : r.WellFormed)
    (hd : Denotes args kwargs count (r :: refs) (v :: vs)) :
    resolve args kwargs (r.target count) = .ok v ∧ Denotes args kwargs (r.countAfter count) refs vs := by
  cases hd with
  | next hv hrest =>
    refine ⟨resolve_digits (by simp) (fun c hc => isSome_of_mem_toString hc) hargs ?_, hrest⟩
    rwa [numberOf_toString]
  | place hv hrest => exact ⟨resolve_digits hr.1 hr.2 hargs hv, hrest⟩
  | keyword hv hrest => exact ⟨resolve_keyword hr hv, hrest⟩

/-- **One field.** A reference leads to the value that it denotes, and the numbering after it fits
the references that follow. -/
theorem lookup_spec (hargs : args.length ≤ maxIndex + 1) {numbering : Numbering} {count : Nat}
    {r : ArgRef} {refs : List ArgRef} {v : Value} {vs : List Value} (hr : r.WellFormed)
    (hfits : numbering.Fits count (r :: refs)) (hd : Denotes args kwargs count (r :: refs) (v :: vs)) :
    ∃ numbering', lookup args kwargs numbering ⟨r.fieldName, none, []⟩ = .ok (v, numbering') ∧
      numbering'.Fits (r.countAfter count) refs ∧
      Denotes args kwargs (r.countAfter count) refs vs := by
  obtain ⟨numbering', hnumber, hfits'⟩ := number_spec hr hfits
  obtain ⟨hresolve, hrest⟩ := resolve_target hargs hr hd
  have hplain : (⟨r.fieldName, none, []⟩ : Field).isFormatted = false := rfl
  refine ⟨numbering', ?_, hfits', hrest⟩
  rw [lookup, hplain, if_neg Bool.false_ne_true]
  simp only [hnumber, hresolve]

/-! ### Whole templates -/

/-- The rest of a template after its opening text: each reference and the literal text after it. -/
def writtenRest (fields : List (ArgRef × String)) : List Char :=
  fields.flatMap fun e => Piece.braced e.1.fieldName ++ Piece.escapeBraces e.2.toList

/-- The template of an opening text, and of references each with the literal text after it. -/
def written (opening : String) (fields : List (ArgRef × String)) : String :=
  String.ofList (Piece.escapeBraces opening.toList ++ writtenRest fields)

/-- The pieces of references, each with the literal text after it. -/
def piecesOf (fields : List (ArgRef × String)) : List Piece :=
  fields.flatMap fun e => .field ⟨e.1.fieldName, none, []⟩ :: e.2.toList.map .literal

theorem parse_writtenRest {fields : List (ArgRef × String)} (h : ∀ e ∈ fields, e.1.WellFormed) :
    Piece.parse (writtenRest fields) = .ok (piecesOf fields) := by
  induction fields with
  | nil => rw [writtenRest, List.flatMap_nil, Piece.parse]; rfl
  | cons e fields ih =>
    have hrest := ih fun d hd => h d (List.mem_cons_of_mem _ hd)
    have hmarks := ArgRef.not_marks (h e List.mem_cons_self)
    rw [writtenRest, List.flatMap_cons, ← writtenRest, List.append_assoc,
      Piece.parse_braced_append hmarks, Piece.parse_escapeBraces_append, hrest]
    rfl

/-- A literal text is put in front of what it opens. -/
theorem fill_literals (numbering : Numbering) (cs : List Char) (ps : List Piece) :
    fill args kwargs numbering (cs.map .literal ++ ps) =
      (fill args kwargs numbering ps).map fun r => (cs ++ r.1, r.2) := by
  induction cs with
  | nil =>
    show fill args kwargs numbering ps = _
    cases fill args kwargs numbering ps <;> rfl
  | cons c cs ih =>
    rw [List.map_cons, List.cons_append, fill, ih]
    cases fill args kwargs numbering ps <;> rfl

/-- The fields of a template are filled with what its references denote. -/
theorem fill_piecesOf (hargs : args.length ≤ maxIndex + 1) {numbering : Numbering} {count : Nat}
    {fields : List (ArgRef × String)} {vs : List Value} (hwf : ∀ e ∈ fields, e.1.WellFormed)
    (hfits : numbering.Fits count (fields.map (·.1)))
    (hd : Denotes args kwargs count (fields.map (·.1)) vs) :
    fill args kwargs numbering (piecesOf fields) = .ok ([], vs.zip (fields.map (·.2))) := by
  induction fields generalizing numbering count vs with
  | nil =>
    cases hd
    rfl
  | cons e fields ih =>
    obtain ⟨r, s⟩ := e
    have hlen := hd.length_eq
    obtain ⟨v, vs, rfl⟩ : ∃ v ws, vs = v :: ws := by
      cases vs with
      | nil => cases hlen
      | cons v ws => exact ⟨v, ws, rfl⟩
    obtain ⟨numbering', hlookup, hfits', hd'⟩ :=
      lookup_spec hargs (hwf (r, s) List.mem_cons_self) hfits hd
    have hrest := ih (fun e he => hwf e (List.mem_cons_of_mem _ he)) hfits' hd'
    rw [piecesOf, List.flatMap_cons, ← piecesOf, List.cons_append, fill, hlookup]
    simp only [fill_literals, hrest, Except.map, List.append_nil, String.ofList_toList,
      List.map_cons, List.zip_cons_cons]

/-- A written template becomes the fragment of its literal texts and of what its references
denote. -/
theorem toFragment_written (origin : Option Origin) (opening : String)
    {fields : List (ArgRef × String)} {values : List Value} (hargs : args.length ≤ maxIndex + 1)
    (hwf : ∀ e ∈ fields, e.1.WellFormed) (hmix : Unmixed (fields.map (·.1)))
    (hd : Denotes args kwargs 0 (fields.map (·.1)) values) :
    toFragment origin (written opening fields) args kwargs =
      .ok ⟨opening, values.zip (fields.map (·.2)), origin⟩ := by
  have hparse : Piece.parse (written opening fields).toList =
      .ok (opening.toList.map .literal ++ piecesOf fields) := by
    rw [written, String.toList_ofList, Piece.parse_escapeBraces_append, parse_writtenRest hwf]
    rfl
  have hfill : fill args kwargs .undecided (opening.toList.map .literal ++ piecesOf fields) =
      .ok (opening.toList, values.zip (fields.map (·.2))) := by
    have hfits : Numbering.undecided.Fits 0 (fields.map (·.1)) := ⟨rfl, hmix⟩
    rw [fill_literals, fill_piecesOf hargs hwf hfits hd]
    simp [Except.map]
  rw [toFragment, hparse]
  simp only [hfill, String.ofList_toList]

/-! ### Only references to the next argument -/

/-- References to the next argument, one for each argument, denote the arguments in order. -/
theorem denotes_next (past : List Value) {values : List Value} {texts : List String}
    (h : texts.length = values.length) :
    Denotes (past ++ values) kwargs past.length ((texts.map (ArgRef.next, ·)).map (·.1)) values := by
  induction values generalizing past texts with
  | nil =>
    rw [List.length_eq_zero_iff.mp h]
    exact .nil
  | cons v values ih =>
    obtain ⟨s, texts, rfl⟩ := List.exists_cons_of_length_eq_add_one h
    refine .next (by simp) ?_
    have hrest := ih (past ++ [v]) (Nat.succ.inj h)
    rwa [List.append_assoc, List.length_append, List.length_singleton] at hrest

/-- A tag makes a fragment of an opening text, and of values each with the text after it. -/
theorem applySegments_texts (origin : Origin) (opening : String) (parts : List (Value × String)) :
    Expr.applySegments origin (.ofList ((opening :: parts.map (·.2)).map .text)) (parts.map (·.1)) [] =
      .ok (.fragment ⟨opening, parts, some origin⟩) := by
  have hparts : Fragment.ofSegments? (some origin) (opening :: parts.map (·.2)) (parts.map (·.1)) =
      some ⟨opening, parts, some origin⟩ :=
    Fragment.ofSegments?_eq_some_iff.mpr ⟨rfl, rfl, rfl⟩
  have hmake : Fragment.make (some origin) (opening :: parts.map (·.2)) (parts.map (·.1)) =
      .ok ⟨opening, parts, some origin⟩ := by
    rw [Fragment.make, hparts]
  show Fragment.assemble (some origin) ((opening :: parts.map (·.2)).map .text) (parts.map (·.1)) = _
  rw [Fragment.assemble_text, hmake]
  rfl

/-- **Templates round-trip.** As long as the place of every positional argument can be written in a
field name, a template is split into exactly the literal texts that it was written from and the values
that its references denote. With references to the next argument only, one for each argument, it is
the fragment that the tag makes of the texts and the arguments themselves. -/
theorem template_round_trip (hargs : args.length ≤ maxIndex + 1) :
    (∀ (origin : Option Origin) (opening : String) (fields : List (ArgRef × String))
        (values : List Value), (∀ e ∈ fields, e.1.WellFormed) → Unmixed (fields.map (·.1)) →
        Denotes args kwargs 0 (fields.map (·.1)) values →
      ∃ f, toFragment origin (written opening fields) args kwargs = .ok f ∧
        f.segments = opening :: fields.map (·.2) ∧ f.values = values ∧ f.origin = origin) ∧
    ∀ (origin : Origin) (opening : String) (texts : List String), texts.length = args.length →
      ∃ f, toFragment (some origin) (written opening (texts.map (.next, ·))) args [] = .ok f ∧
        Expr.applySegments origin (.ofList ((opening :: texts).map .text)) args [] =
          .ok (.fragment f) := by
  refine ⟨fun origin opening fields values hwf hmix hd => ?_, fun origin opening texts hlen => ?_⟩
  · have hlength : values.length = (fields.map (·.2)).length := by
      rw [hd.length_eq, List.length_map, List.length_map]
    refine ⟨_, toFragment_written origin opening hargs hwf hmix hd, ?_, ?_, rfl⟩
    · rw [Fragment.segments, List.map_snd_zip (Nat.le_of_eq hlength.symm)]
    · exact List.map_fst_zip (Nat.le_of_eq hlength)
  · have hwf : ∀ e ∈ texts.map (ArgRef.next, ·), e.1.WellFormed := by
      intro e he
      obtain ⟨s, -, rfl⟩ := List.mem_map.mp he
      trivial
    have hmix : Unmixed ((texts.map (ArgRef.next, ·)).map (·.1)) := by
      intro _ digits h
      simp at h
    have hd : Denotes args [] 0 ((texts.map (ArgRef.next, ·)).map (·.1)) args := denotes_next [] hlen
    have hfragment := toFragment_written (some origin) opening hargs hwf hmix hd
    have hsegments := applySegments_texts origin opening (args.zip texts)
    rw [List.map_snd_zip (Nat.le_of_eq hlen), List.map_fst_zip (Nat.le_of_eq hlen.symm)] at hsegments
    refine ⟨_, hfragment, ?_⟩
    rw [hsegments, List.map_map]
    simp [Function.comp_def]

/-- A name between arguments that are taken in order, with braces of the literal texts right beside
those of the fields. -/
def bracedFields : List (ArgRef × String) :=
  [(.next, "\x7d\x7b"), (.keyword "x]", "\x7d\x7d\x7b"), (.next, "\x7b")]

theorem template_round_trip_braces :
    [Value.int 1, .text "two"].length ≤ maxIndex + 1 ∧
      written "a\x7b" bracedFields =
        "a\x7b\x7b\x7b\x7d\x7d\x7d\x7b\x7b\x7bx]\x7d\x7d\x7d\x7d\x7d\x7b\x7b\x7b\x7d\x7b\x7b" ∧
      ∃ f, toFragment none (written "a\x7b" bracedFields) [.int 1, .text "two"] [("x]", .null)] =
          .ok f ∧
        f.segments = ["a\x7b", "\x7d\x7b", "\x7d\x7d\x7b", "\x7b"] ∧
        f.values = [.int 1, .null, .text "two"] ∧ f.origin = none := by
  have hargs : [Value.int 1, .text "two"].length ≤ maxIndex + 1 := by decide
  have hwf : ∀ e ∈ bracedFields, e.1.WellFormed := by
    intro e he
    simp only [bracedFields, List.mem_cons, List.not_mem_nil, or_false] at he
    rcases he with rfl | rfl | rfl
    · trivial
    · have hmarks : ∀ c ∈ ['x', ']'], c ∉ Piece.marks :=
        List.forall_mem_cons.mpr ⟨by decide, List.forall_mem_singleton.mpr (by decide)⟩
      exact ⟨⟨'x', [']'], by decide, by decide⟩, hmarks⟩
    · trivial
  have hmix : Unmixed (bracedFields.map (·.1)) := by
    intro _ digits h
    simp [bracedFields] at h
  have hd : Denotes [.int 1, .text "two"] [("x]", .null)] 0 (bracedFields.map (·.1))
      [.int 1, .null, .text "two"] :=
    .next rfl (.keyword rfl (.next rfl .nil))
  exact ⟨hargs, by decide,
    (template_round_trip hargs).1 none "a\x7b" bracedFields _ hwf hmix hd⟩

end Template

end SqlWeave
