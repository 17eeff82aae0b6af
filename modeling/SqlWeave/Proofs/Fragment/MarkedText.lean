import SqlWeave.Proofs.Fragment.Parameters

/-!
# Queries as texts with marks

The query of a fragment is a sequence of placeholders with literal text before, between and after
them. `Fragment.marked` is the fragment seen so: the numbers of its leaves as marks, and between
them the literal texts of all that is nested in it, put together and as they are before they are
made safe (`MarkedText`). If a style makes text safe letter by letter (`Style.Letterwise`), the
query is this marked text written out (`Fragment.expand_marked`).

What a reader makes of such a query depends on what stands directly before a mark and directly
after one (`MarkedText.textsBefore`, `MarkedText.textsAfter`).
-/

namespace SqlWeave

/-- Marks with the literal text before, between and after them. -/
structure MarkedText (α : Type) where
  /-- The text before the first mark. -/
  opening : List Char
  /-- The marks, each with the text up to the next one. -/
  parts : List (α × List Char)
  deriving DecidableEq

namespace MarkedText

variable {α β : Type}

/-- The marks. -/
def marks (t : MarkedText α) : List α := t.parts.map (·.1)

/-- The literal texts, one more than there are marks. -/
def texts (t : MarkedText α) : List (List Char) := t.opening :: t.parts.map (·.2)

/-- The texts that stand directly before a mark: all but the last one. -/
def textsBefore (t : MarkedText α) : List (List Char) := t.texts.dropLast

/-- The texts that stand directly after a mark: all but the first one. -/
def textsAfter (t : MarkedText α) : List (List Char) := t.texts.tail

/-- The same text with other marks. -/
def map (f : α → β) (t : MarkedText α) : MarkedText β :=
  ⟨t.opening, t.parts.map fun p => (f p.1, p.2)⟩

/-- The marked text with more text in front of it. -/
def prepend (cs : List Char) (t : MarkedText α) : MarkedText α := ⟨cs ++ t.opening, t.parts⟩

/-- Marks and the texts after them, written out. -/
def writeParts (place : α → List Char) (escape : List Char → List Char)
    (parts : List (α × List Char)) : List Char :=
  parts.flatMap fun p => place p.1 ++ escape p.2

/-- The marked text written out. -/
def write (place : α → List Char) (escape : List Char → List Char) (t : MarkedText α) : List Char :=
  escape t.opening ++ writeParts place escape t.parts

@[simp] theorem writeParts_nil (place : α → List Char) (escape : List Char → List Char) :
    writeParts place escape [] = [] := rfl

@[simp] theorem writeParts_cons (place : α → List Char) (escape : List Char → List Char) (a : α)
    (cs : List Char) (parts : List (α × List Char)) :
    writeParts place escape ((a, cs) :: parts) =
      place a ++ (escape cs ++ writeParts place escape parts) := by
  simp [writeParts]

@[simp] theorem textsAfter_mk (cs : List Char) (parts : List (α × List Char)) :
    textsAfter ⟨cs, parts⟩ = parts.map (·.2) := rfl

@[simp] theorem textsBefore_nil (cs : List Char) : textsBefore (⟨cs, []⟩ : MarkedText α) = [] := rfl

@[simp] theorem textsBefore_cons (cs ds : List Char) (a : α) (parts : List (α × List Char)) :
    textsBefore ⟨cs, (a, ds) :: parts⟩ = cs :: textsBefore ⟨ds, parts⟩ := rfl

end MarkedText

/-! ### Styles that make text safe letter by letter -/

/-- A style makes literal text safe by `escape`, letter by letter, and leaves what stands for an
empty join list alone. -/
structure Style.Letterwise (style : Style) (escape : List Char → List Char) : Prop where
  /-- The escaping of the style. -/
  escapeLiteral (text : String) : (style.escapeLiteral text).toList = escape text.toList
  /-- Text is made safe part by part. -/
  append (a b : List Char) : escape (a ++ b) = escape a ++ escape b
  /-- What stands for an empty join list is safe. -/
  emptyJoin : escape Expansion.emptyJoin.toList = Expansion.emptyJoin.toList

theorem Style.Letterwise.nil {style : Style} {escape : List Char → List Char}
    (h : style.Letterwise escape) : escape [] = [] := by
  have happ := h.append [] []
  simpa using happ

theorem Style.letterwise_numbered : Style.numbered.Letterwise id where
  escapeLiteral _ := rfl
  append _ _ := rfl
  emptyJoin := rfl

theorem Style.letterwise_named : Style.named.Letterwise Style.escapeColons where
  escapeLiteral _ := String.toList_ofList
  append := Style.escapeColons_append
  emptyJoin := by decide

/-! ### The marked text of a fragment -/

namespace Token

variable {α : Type}

/-- Tokens as a marked text, each leaf being the mark of the next number. -/
def weave : List (Token α) → List Nat → MarkedText Nat
  | literal text :: tokens, numbers => (weave tokens numbers).prepend text.toList
  | empty :: tokens, numbers => (weave tokens numbers).prepend Expansion.emptyJoin.toList
  | leaf _ :: tokens, n :: numbers =>
    ⟨[], (n, (weave tokens numbers).opening) :: (weave tokens numbers).parts⟩
  | leaf _ :: _, [] => ⟨[], []⟩
  | [], _ => ⟨[], []⟩

/-- The marks are the numbers, if there is one for each leaf. -/
theorem marks_weave {tokens : List (Token α)} {numbers : List Nat}
    (h : numbers.length = (leaves tokens).length) : (weave tokens numbers).marks = numbers := by
  induction tokens generalizing numbers with
  | nil =>
    obtain rfl : numbers = [] := by simpa [leaves] using h
    rfl
  | cons token tokens ih =>
    cases token with
    | literal text => exact ih h
    | empty => exact ih h
    | leaf v =>
      cases numbers with
      | nil => simp [leaves, leaf?] at h
      | cons n numbers =>
        have hrest : (weave tokens numbers).marks = numbers :=
          ih (by simpa [leaves, leaf?] using h)
        simpa [weave, MarkedText.marks] using hrest

/-- The text of tokens is their marked text written out. -/
theorem toList_spell {style : Style} {escape : List Char → List Char} (hs : style.Letterwise escape)
    (tokens : List (Token α)) (numbers : List Nat) :
    (spell style tokens numbers).toList =
      (weave tokens numbers).write (fun n => (style.placeholder n).toList) escape := by
  induction tokens generalizing numbers with
  | nil => simp [spell, weave, MarkedText.write, hs.nil]
  | cons token tokens ih =>
    cases token with
    | literal text =>
      simp [spell, weave, ih, MarkedText.write, MarkedText.prepend, hs.append, hs.escapeLiteral]
    | empty =>
      simp [spell, weave, ih, MarkedText.write, MarkedText.prepend, hs.append, hs.emptyJoin]
    | leaf v =>
      cases numbers with
      | nil => simp [spell, weave, MarkedText.write, hs.nil]
      | cons n numbers => simp [spell, weave, ih, MarkedText.write, hs.nil]

end Token

namespace Fragment

/-- The numbers of the leaves, with the literal text of the fragment and of all that is nested in it
before, between and after them. -/
def marked (f : Fragment Value) : MarkedText Nat := Token.weave f.outline f.numbers

theorem marks_marked {f : Fragment Value} {ps : List Primitive} (h : f.leaves = ps.map .primitive) :
    f.marked.marks = f.numbers := by
  refine Token.marks_weave ?_
  rw [numbers_eq h, Expansion.addAllBy_length]
  show ps.length = f.leaves.length
  rw [h, List.length_map]

/-- **The query is the marked text of the fragment written out.** -/
theorem expand_marked {style : Style} {escape : List Char → List Char}
    (hs : style.Letterwise escape) {f : Fragment Value} {ps : List Primitive}
    (h : f.leaves = ps.map .primitive) :
    ∃ x, f.expand style = .ok x ∧ x.values = f.parameters ∧
      x.query.toList = f.marked.write (fun n => (style.placeholder n).toList) escape :=
  ⟨_, expand_eq style h, rfl, Token.toList_spell hs f.outline f.numbers⟩

/-- The numbers of leaves are positive. -/
theorem pos_of_mem_numbers {f : Fragment Value} {ps : List Primitive}
    (h : f.leaves = ps.map .primitive) {n : Nat} (hn : n ∈ f.numbers) : 0 < n := by
  obtain ⟨i, hi, rfl⟩ := List.getElem_of_mem hn
  have hlen := (numbers_refer h).length_eq
  exact ((numbers_refer h).get hi (hlen ▸ hi)).pos

end Fragment

/-! ### Spans at the end of a text -/

/-- No character of the class stands at the beginning of a text. -/
def HeadNot (p : Char → Bool) (cs : List Char) : Prop := ∀ c ∈ cs.head?, p c = false

theorem takeWhile_append_of_headNot {p : Char → Bool} {rest : List Char} (h : HeadNot p rest)
    (cs : List Char) : (cs ++ rest).takeWhile p = cs.takeWhile p := by
  induction cs with
  | nil =>
    cases rest with
    | nil => rfl
    | cons c rest => simp [h c rfl]
  | cons c cs ih => simp [List.takeWhile_cons, ih]

theorem dropWhile_append_of_headNot {p : Char → Bool} {rest : List Char} (h : HeadNot p rest)
    (cs : List Char) : (cs ++ rest).dropWhile p = cs.dropWhile p ++ rest := by
  induction cs with
  | nil =>
    cases rest with
    | nil => rfl
    | cons c rest => simp [h c rfl]
  | cons c cs ih =>
    rw [List.cons_append, List.dropWhile_cons, List.dropWhile_cons, ih]
    split <;> rfl

theorem headNot_iff {p : Char → Bool} {cs : List Char} : HeadNot p cs ↔ cs.takeWhile p = [] := by
  cases cs with
  | nil => simp [HeadNot]
  | cons c cs => cases h : p c <;> simp [HeadNot, h]

instance (p : Char → Bool) (cs : List Char) : Decidable (HeadNot p cs) :=
  decidable_of_iff (cs.takeWhile p = []) headNot_iff.symm

theorem dropWhile_of_headNot {p : Char → Bool} {cs : List Char} (h : HeadNot p cs) :
    cs.dropWhile p = cs := by
  cases cs with
  | nil => rfl
  | cons c cs => simp [h c rfl]

/-- If every mark begins with a character outside of a class, so does what is written. -/
theorem MarkedText.headNot_writeParts {α : Type} {p : Char → Bool} {c : Char} (hc : p c = false)
    {place : α → List Char} (hplace : ∀ a, (place a).head? = some c)
    (escape : List Char → List Char) (parts : List (α × List Char)) :
    HeadNot p (writeParts place escape parts) := by
  cases parts with
  | nil => simp [HeadNot]
  | cons part parts =>
    obtain ⟨a, cs⟩ := part
    obtain ⟨rest, ha⟩ := List.head?_eq_some_iff.mp (hplace a)
    simp [HeadNot, ha, hc]

end SqlWeave
