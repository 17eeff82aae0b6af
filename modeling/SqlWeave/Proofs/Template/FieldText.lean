import SqlWeave.Template.Grammar

/-!
# What stands in the braces of a field

A field name is any sequence of characters without a meaning of their own and of groups in
brackets, in which everything stands for itself (`FieldName`). Reading a name inverts this
exactly, up to the character that ends it (`Piece.scanName_eq_ok_iff`).

A field that asks for no formatting is such a name, possibly with a colon behind it (`FieldText`).
The null character as a conversion counts as none, so it may stand there too. Reading a field
gives back its text and what follows (`Piece.scanField_unformatted_iff`).
-/

namespace SqlWeave

/-- The characters that do not stand for themselves in a field name. -/
def Piece.nameStops : List Char := ['{', '}', ':', '!', '[']

/-- The characters that end a field name. -/
def Piece.nameEnds : List Char := ['}', ':', '!']

/-- The texts that name a field. -/
inductive FieldName : List Char → Prop where
  /-- The empty name. -/
  | nil : FieldName []
  /-- A character that stands for itself. -/
  | char {c : Char} {cs : List Char} : c ∉ Piece.nameStops → FieldName cs → FieldName (c :: cs)
  /-- A group in brackets. -/
  | group {inside cs : List Char} : ']' ∉ inside → FieldName cs →
    FieldName ('[' :: (inside ++ ']' :: cs))

/-- What stands in the braces of a field that asks for no formatting. -/
structure FieldText where
  /-- The name. -/
  name : List Char
  /-- It is one. -/
  isName : FieldName name
  /-- Whether the null character stands as a conversion. -/
  nullConversion : Bool
  /-- Whether an empty spec is begun. -/
  colon : Bool

namespace FieldText

/-- The characters between the braces. -/
def chars (t : FieldText) : List Char :=
  t.name ++ ((if t.nullConversion then ['!', '\x00'] else []) ++ if t.colon then [':'] else [])

/-- The field that it is. -/
def field (t : FieldText) : Field := ⟨t.name, if t.nullConversion then some '\x00' else none, []⟩

theorem isFormatted_field (t : FieldText) : t.field.isFormatted = false := by
  cases h : t.nullConversion <;> simp [field, h, Field.isFormatted]

end FieldText

namespace Piece

/-! ### Names -/

/-- A group is read to its closing bracket, whatever stands in it. -/
theorem scanName_group {inside : List Char} (h : ']' ∉ inside) (rest : List Char) :
    scanName true (inside ++ ']' :: rest) =
      (scanName false rest).map fun (name, stop, rest) => (inside ++ ']' :: name, stop, rest) := by
  induction inside with
  | nil => simp [scanName]
  | cons c inside ih =>
    obtain ⟨hc, hinside⟩ := not_or.mp (mt List.mem_cons.mpr h)
    rw [List.cons_append, scanName, decide_eq_true (Ne.symm hc), ih hinside]
    cases scanName false rest <;> rfl

/-- A name is read up to the character that ends it. -/
theorem scanName_complete {name : List Char} (hname : FieldName name) {stop : Char}
    (hstop : stop ∈ nameEnds) (rest : List Char) :
    scanName false (name ++ stop :: rest) = .ok (name, stop, rest) := by
  induction hname with
  | nil =>
    simp only [nameEnds, List.mem_cons, List.not_mem_nil, or_false] at hstop
    rcases hstop with rfl | rfl | rfl <;> simp [scanName]
  | char hc _ ih =>
    simp only [nameStops, List.mem_cons, List.not_mem_nil, or_false, not_or] at hc
    simp [scanName, hc, ih, Except.map]
  | group hinside _ ih =>
    rw [List.cons_append, List.append_assoc, List.cons_append, scanName]
    simp [scanName_group hinside, ih, Except.map]

/-- What is left of a name where a bracket may be open. -/
def NameRest : Bool → List Char → Prop
  | false, name => FieldName name
  | true, name => ∃ inside cs, ']' ∉ inside ∧ FieldName cs ∧ name = inside ++ ']' :: cs

theorem scanName_sound {inBracket : Bool} {cs name rest : List Char} {stop : Char}
    (h : scanName inBracket cs = .ok (name, stop, rest)) :
    NameRest inBracket name ∧ stop ∈ nameEnds ∧ cs = name ++ stop :: rest := by
  induction cs generalizing inBracket name with
  | nil => cases inBracket <;> simp [scanName] at h
  | cons c cs ih =>
    -- Whatever state the character leads to, the rest of the name is read in that state.
    have step : ∀ {b : Bool}, (scanName b cs).map (fun (name, stop, rest) => (c :: name, stop, rest)) =
        .ok (name, stop, rest) → ∃ tail, name = c :: tail ∧ NameRest b tail ∧ stop ∈ nameEnds ∧
          cs = tail ++ stop :: rest := by
      intro b hb
      cases hs : scanName b cs with
      | error e => simp [hs, Except.map] at hb
      | ok r =>
        obtain ⟨tail, stop', rest'⟩ := r
        simp only [hs, Except.map, Except.ok.injEq, Prod.mk.injEq] at hb
        obtain ⟨rfl, rfl, rfl⟩ := hb
        exact ⟨tail, rfl, ih hs⟩
    cases inBracket with
    | true =>
      obtain ⟨tail, rfl, htail, hstop, rfl⟩ := step (by simpa [scanName] using h)
      refine ⟨?_, hstop, rfl⟩
      by_cases hc : c = ']'
      · subst hc
        exact ⟨[], tail, List.not_mem_nil, htail, rfl⟩
      · obtain ⟨inside, cs, hinside, hcs, rfl⟩ : NameRest true tail := by simpa [hc] using htail
        exact ⟨c :: inside, cs, by simp [Ne.symm hc, hinside], hcs, rfl⟩
    | false =>
      rw [scanName] at h
      split at h
      · cases h
      · rename_i hopen
        split at h
        · rename_i hend
          simp only [Except.ok.injEq, Prod.mk.injEq] at h
          obtain ⟨rfl, rfl, rfl⟩ := h
          exact ⟨.nil, by simpa [nameEnds] using hend, rfl⟩
        · rename_i hend
          obtain ⟨tail, rfl, htail, hstop, rfl⟩ := step h
          refine ⟨?_, hstop, rfl⟩
          by_cases hc : c = '['
          · subst hc
            obtain ⟨inside, cs, hinside, hcs, rfl⟩ := htail
            exact .group hinside hcs
          · rw [decide_eq_false hc] at htail
            refine .char ?_ htail
            simp only [nameStops, List.mem_cons, List.not_mem_nil, or_false, not_or]
            simp only [not_or] at hend
            exact ⟨hopen, hend.1, hend.2.1, hend.2.2, hc⟩

/-- **Reading a name is exact**: what is read is a name, the character that ended it and the rest.
-/
theorem scanName_eq_ok_iff {cs name rest : List Char} {stop : Char} :
    scanName false cs = .ok (name, stop, rest) ↔
      FieldName name ∧ stop ∈ nameEnds ∧ cs = name ++ stop :: rest := by
  constructor
  · exact scanName_sound
  · rintro ⟨hname, hstop, rfl⟩
    exact scanName_complete hname hstop rest

/-! ### Fields -/

/-- An empty spec is one that is closed at once. -/
theorem scanSpec_empty_iff {cs rest : List Char} : scanSpec 0 cs = .ok ([], rest) ↔ cs = '}' :: rest := by
  constructor
  · intro h
    cases cs with
    | nil => simp [scanSpec] at h
    | cons c cs =>
      by_cases hc : c = '}'
      · subst hc
        simpa [scanSpec] using h
      · rw [scanSpec] at h
        · cases hs : scanSpec (if c = '{' then 0 + 1 else 0) cs <;> simp [hs, Except.map] at h
        · exact fun _ => hc
        · simp
  · rintro rfl
    rfl

theorem scanField_chars (t : FieldText) (rest : List Char) :
    scanField (t.chars ++ '}' :: rest) = .ok (t.field, rest) := by
  obtain ⟨name, hname, null, colon⟩ := t
  have hread : ∀ (stop : Char) (rest : List Char), stop ∈ nameEnds →
      scanName false (name ++ stop :: rest) = .ok (name, stop, rest) :=
    fun stop rest hstop => scanName_complete hname hstop rest
  have hspec : scanSpec 0 ('}' :: rest) = .ok ([], rest) := rfl
  simp only [FieldText.chars, FieldText.field, scanField, List.append_assoc]
  cases null with
  | false =>
    cases colon with
    | false =>
      have h := hread '}' rest (by decide)
      simp [h]
    | true =>
      have h := hread ':' ('}' :: rest) (by decide)
      simp [h, hspec, Except.map]
  | true =>
    cases colon with
    | false =>
      have h := hread '!' ('\x00' :: '}' :: rest) (by decide)
      simp [h]
    | true =>
      have h := hread '!' ('\x00' :: ':' :: '}' :: rest) (by decide)
      simp [h, hspec, Except.map]

/-- A field with a spec that is read asks for formatting, unless the spec is closed at once. -/
theorem of_scanSpec_unformatted {cs rest name : List Char} {conversion : Option Char} {f : Field}
    (h : (scanSpec 0 cs).map (fun (spec, rest) => (⟨name, conversion, spec⟩, rest)) = .ok (f, rest))
    (hf : f.isFormatted = false) : f = ⟨name, conversion, []⟩ ∧ cs = '}' :: rest := by
  rcases hs : scanSpec 0 cs with e | ⟨spec, rest'⟩
  · simp [hs, Except.map] at h
  · simp only [hs, Except.map, Except.ok.injEq, Prod.mk.injEq] at h
    obtain ⟨rfl, rfl⟩ := h
    obtain rfl : spec = [] := by
      simp only [Field.isFormatted, Bool.or_eq_false_iff] at hf
      simpa using hf.1
    exact ⟨rfl, scanSpec_empty_iff.mp hs⟩

/-- **Reading a field is exact** for the fields that ask for no formatting. -/
theorem scanField_unformatted_iff {cs rest : List Char} {f : Field} :
    scanField cs = .ok (f, rest) ∧ f.isFormatted = false ↔
      ∃ t : FieldText, f = t.field ∧ cs = t.chars ++ '}' :: rest := by
  constructor
  · rintro ⟨h, hf⟩
    rw [scanField] at h
    split at h
    · cases h
    · rename_i name stop tail hscan
      obtain ⟨hname, hstop, rfl⟩ := scanName_eq_ok_iff.mp hscan
      split at h
      · rename_i hbrace
        subst hbrace
        obtain ⟨rfl, rfl⟩ := Prod.mk.inj (Except.ok.inj h)
        exact ⟨⟨name, hname, false, false⟩, rfl, by simp [FieldText.chars]⟩
      split at h
      · rename_i hcolon
        subst hcolon
        obtain ⟨rfl, rfl⟩ := of_scanSpec_unformatted h hf
        exact ⟨⟨name, hname, false, true⟩, rfl, by simp [FieldText.chars]⟩
      rename_i hbrace hcolon
      obtain rfl : stop = '!' := by simpa [nameEnds, hbrace, hcolon] using hstop
      -- A conversion counts, unless it is the null character.
      split at h
      · cases h
      · rename_i c rest'
        obtain ⟨rfl, rfl⟩ := Prod.mk.inj (Except.ok.inj h)
        obtain rfl : c = '\x00' := by simpa [Field.isFormatted] using hf
        exact ⟨⟨name, hname, true, false⟩, rfl, by simp [FieldText.chars]⟩
      · rename_i c rest'
        obtain ⟨rfl, rfl⟩ := of_scanSpec_unformatted h hf
        obtain rfl : c = '\x00' := by simpa [Field.isFormatted] using hf
        exact ⟨⟨name, hname, true, true⟩, rfl, by simp [FieldText.chars]⟩
      · cases h
      · cases h
  · rintro ⟨t, rfl, rfl⟩
    exact ⟨scanField_chars t rest, t.isFormatted_field⟩

end Piece

end SqlWeave
