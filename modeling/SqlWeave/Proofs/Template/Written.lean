import SqlWeave.Template.Grammar

/-!
# Written templates

How pieces of a template are written down: a literal text with every brace doubled, a field as
its name in braces. Reading gives back what was written, wherever it stands: literal text
(`parse_escapeBraces_append`), and a field whose name has none of the characters that mean
something in a field (`parse_braced_append`). So it does no harm that the braces of a literal text
stand right beside those of a field.
-/

namespace SqlWeave.Piece

/-- A character of a literal text as it is written in a template. -/
def escapeBrace (c : Char) : List Char := if c = '{' ∨ c = '}' then [c, c] else [c]

/-- A literal text as it is written in a template: every brace is doubled. -/
def escapeBraces (cs : List Char) : List Char := cs.flatMap escapeBrace

/-- A field as it is written in a template: its name in braces. -/
def braced (name : List Char) : List Char := '{' :: (name ++ ['}'])

/-- The characters of a field name that mean something of their own. -/
def marks : List Char := ['{', '}', ':', '!', '.', '[']

/-! ### Literal text -/

theorem parse_brace {c : Char} (h : c = '{' ∨ c = '}') (rest : List Char) :
    parse (c :: c :: rest) = (parse rest).map (.literal c :: ·) := by
  rw [parse, if_pos h, if_pos rfl]

theorem parse_of_not_brace {c : Char} (h : ¬ (c = '{' ∨ c = '}')) (rest : List Char) :
    parse (c :: rest) = (parse rest).map (.literal c :: ·) := by
  rw [parse.eq_def]
  exact if_neg h

theorem parse_escapeBrace_append (c : Char) (rest : List Char) :
    parse (escapeBrace c ++ rest) = (parse rest).map (.literal c :: ·) := by
  by_cases h : c = '{' ∨ c = '}'
  · rw [escapeBrace, if_pos h]
    exact parse_brace h rest
  · rw [escapeBrace, if_neg h]
    exact parse_of_not_brace h rest

/-- A written text is read as that text. -/
theorem parse_escapeBraces_append (cs rest : List Char) :
    parse (escapeBraces cs ++ rest) = (parse rest).map (cs.map .literal ++ ·) := by
  induction cs with
  | nil =>
    show parse rest = _
    cases parse rest <;> rfl
  | cons c cs ih =>
    rw [escapeBraces, List.flatMap_cons, List.append_assoc, parse_escapeBrace_append,
      ← escapeBraces, ih]
    cases parse rest <;> rfl

/-! ### Fields -/

/-- A name without marks ends at the closing brace. -/
theorem scanName_append {name : List Char} (h : ∀ c ∈ name, c ∉ marks) (rest : List Char) :
    scanName false (name ++ '}' :: rest) = .ok (name, '}', rest) := by
  induction name with
  | nil => simp [scanName]
  | cons c name ih =>
    have hc : c ∉ marks := h c List.mem_cons_self
    simp only [marks, List.mem_cons, List.not_mem_nil, or_false, not_or] at hc
    have hrest := ih fun d hd => h d (List.mem_cons_of_mem _ hd)
    simp [scanName, hc, hrest, Except.map]

/-- What is read as a field does not begin with a second opening brace. -/
theorem head?_of_scanField {cs rest : List Char} {f : Field} (h : scanField cs = .ok (f, rest)) :
    cs.head? ≠ some '{' := by
  cases cs with
  | nil => simp
  | cons c cs =>
    intro hc
    obtain rfl : c = '{' := Option.some.inj hc
    cases h

/-- An opening brace before a field is read with the field. -/
theorem parse_field {cs rest : List Char} {f : Field} (h : scanField cs = .ok (f, rest)) :
    parse ('{' :: cs) = (parse rest).map (.field f :: ·) := by
  cases cs with
  | nil => cases h
  | cons d ds =>
    have hd : d ≠ '{' := fun hd => head?_of_scanField h (congrArg some hd)
    rw [parse, if_pos (.inl rfl), if_neg hd, if_neg (by decide)]
    split
    · rename_i e he
      rw [h] at he
      cases he
    · rename_i f' rest' hf
      rw [h] at hf
      cases hf
      rfl

/-- A written field is read as that field. -/
theorem parse_braced_append {name : List Char} (h : ∀ c ∈ name, c ∉ marks) (rest : List Char) :
    parse (braced name ++ rest) = (parse rest).map (.field ⟨name, none, []⟩ :: ·) := by
  have hscan : scanField (name ++ '}' :: rest) = .ok (⟨name, none, []⟩, rest) := by
    rw [scanField, scanName_append h]
    rfl
  rw [braced, List.cons_append, List.append_assoc, List.singleton_append, parse_field hscan]

end SqlWeave.Piece
