import SqlWeave.Proofs.Fragment.MarkedText

/-!
# How a reader takes a query with numbered placeholders

A driver that knows the placeholders `?1`, `?2`, … goes through a query from left to right, and
takes a question mark and all the digits that follow it for one token (`Numbered.tokens`). The
text of a fragment stands directly beside its placeholders, so a digit after `?1` makes it another
token, and a question mark and a digit in the text are a token too.

* **`Fragment.numbered_reading`**: the tokens are the numbers of the leaves, in their order, if
  and only if the fragment is `Numbered.Legible`, that is, no text contains a token and no text
  after a placeholder starts with a digit. A fragment that is legible is read with each leaf at
  its own parameter.

A misreading is never made good by another one: each placeholder yields one token
(`Numbered.tokens_writeParts`), so a token in the text is one too many, and a digit after a
placeholder makes its number larger.
-/

namespace SqlWeave

namespace Numbered

/-- The digits of the tokens in a text. -/
def tokens : List Char → List (List Char)
  | [] => []
  | c :: cs =>
    if c = '?' ∧ cs.takeWhile Char.isDigit ≠ [] then
      cs.takeWhile Char.isDigit :: tokens (cs.dropWhile Char.isDigit)
    else tokens cs
termination_by cs => cs.length
decreasing_by
  · exact Nat.lt_succ_of_le (List.dropWhile_suffix _).length_le
  · exact Nat.lt_succ_self _

/-- A text contains a question mark directly followed by a digit. -/
def HasToken (cs : List Char) : Prop := ∃ d, d.isDigit = true ∧ ['?', d] <:+: cs

/-- No text contains a token, and no text after a placeholder starts with a digit. -/
def Legible (t : MarkedText Nat) : Prop :=
  (∀ cs ∈ t.texts, ¬ HasToken cs) ∧ ∀ cs ∈ t.textsAfter, HeadNot Char.isDigit cs

theorem hasToken_cons {c : Char} {cs : List Char} :
    HasToken (c :: cs) ↔ (c = '?' ∧ cs.takeWhile Char.isDigit ≠ []) ∨ HasToken cs := by
  have hstart : (∃ d, d.isDigit = true ∧ ['?', d] <+: c :: cs) ↔
      c = '?' ∧ cs.takeWhile Char.isDigit ≠ [] := by
    cases cs with
    | nil => simp
    | cons d cs => cases hd : d.isDigit <;> simp [hd, @eq_comm _ '?']
  rw [← hstart]
  simp only [HasToken, List.infix_cons_iff, and_or_left, exists_or]

/-- There are no tokens exactly in a text that contains none. -/
theorem tokens_eq_nil_iff (cs : List Char) : tokens cs = [] ↔ ¬ HasToken cs := by
  fun_induction tokens cs with
  | case1 => simp [HasToken]
  | case2 c cs h ih => exact iff_of_false (by simp) (not_not_intro (hasToken_cons.mpr (Or.inl h)))
  | case3 c cs h ih => rw [hasToken_cons, or_iff_right h, ih]

instance (cs : List Char) : Decidable (HasToken cs) :=
  decidable_of_iff (tokens cs ≠ []) (by rw [ne_eq, tokens_eq_nil_iff, not_not])

instance (t : MarkedText Nat) : Decidable (Legible t) :=
  inferInstanceAs (Decidable ((∀ cs ∈ t.texts, ¬ HasToken cs) ∧ ∀ cs ∈ t.textsAfter, HeadNot _ cs))

/-- Text that does not start with a digit is read apart from what stands before it. -/
theorem tokens_append {rest : List Char} (h : HeadNot Char.isDigit rest) (cs : List Char) :
    tokens (cs ++ rest) = tokens cs ++ tokens rest := by
  fun_induction tokens cs with
  | case1 => rfl
  | case2 c cs hc ih =>
    rw [List.cons_append, tokens, takeWhile_append_of_headNot h, dropWhile_append_of_headNot h, ih,
      if_pos hc]
    rfl
  | case3 c cs hc ih =>
    rw [List.cons_append, tokens, takeWhile_append_of_headNot h, ih, if_neg hc]

/-- A placeholder takes the digits that follow it into its token. -/
theorem tokens_placeholder (n : Nat) (cs : List Char) :
    tokens ('?' :: (Nat.toDigits 10 n ++ cs)) =
      (Nat.toDigits 10 n ++ cs.takeWhile Char.isDigit) :: tokens (cs.dropWhile Char.isDigit) := by
  have hd : ∀ c ∈ Nat.toDigits 10 n, c.isDigit = true := fun _ => Decimal.isDigit_of_mem_toDigits
  have hne : Nat.toDigits 10 n ≠ [] := Nat.toDigits_ne_nil
  rw [tokens, List.takeWhile_append_of_pos hd, List.dropWhile_append_of_pos hd]
  simp [hne]

/-- Placeholders and the texts after them, as they stand in a query. -/
abbrev writeParts (parts : List (Nat × List Char)) : List Char :=
  MarkedText.writeParts (fun n => (Style.numbered.placeholder n).toList) id parts

theorem toList_placeholder (n : Nat) :
    (Style.numbered.placeholder n).toList = '?' :: Nat.toDigits 10 n := by
  simp [Style.placeholder]

theorem headNot_writeParts (parts : List (Nat × List Char)) :
    HeadNot Char.isDigit (writeParts parts) :=
  have hmark : '?'.isDigit = false := by decide
  MarkedText.headNot_writeParts hmark (fun n => by rw [toList_placeholder]; rfl) _ parts

/-- **What a reader makes of placeholders and texts**: one token for each placeholder, with the
digits at the beginning of the text after it, and then the tokens in the rest of this text. -/
theorem tokens_writeParts (parts : List (Nat × List Char)) :
    tokens (writeParts parts) = parts.flatMap fun p =>
      (Nat.toDigits 10 p.1 ++ p.2.takeWhile Char.isDigit) ::
        tokens (p.2.dropWhile Char.isDigit) := by
  induction parts with
  | nil => simp [writeParts, tokens]
  | cons part parts ih =>
    obtain ⟨n, cs⟩ := part
    have hrest := headNot_writeParts parts
    rw [writeParts, MarkedText.writeParts_cons, toList_placeholder, List.cons_append,
      tokens_placeholder, id_eq, takeWhile_append_of_headNot hrest,
      dropWhile_append_of_headNot hrest, tokens_append hrest, ih]
    simp

/-- The tokens of a query are those of its opening text and those of its placeholders. -/
theorem tokens_write (t : MarkedText Nat) :
    tokens (t.write (fun n => (Style.numbered.placeholder n).toList) id) =
      tokens t.opening ++ tokens (writeParts t.parts) :=
  tokens_append (headNot_writeParts t.parts) t.opening

/-- A digit after a number makes it larger. -/
theorem readNat?_append_eq_iff {n : Nat} (hn : 0 < n) {cs : List Char}
    (hd : ∀ c ∈ cs, c.isDigit = true) :
    Decimal.readNat? (Nat.toDigits 10 n ++ cs) = some n ↔ cs = [] := by
  have hall : ∀ c ∈ Nat.toDigits 10 n ++ cs, c.isDigit = true := by
    intro c hc
    rcases List.mem_append.mp hc with hc | hc
    · exact Decimal.isDigit_of_mem_toDigits hc
    · exact hd c hc
  rw [Decimal.readNat?_of_isDigit hall, Option.some.injEq, Nat.ofDigitChars_append,
    Nat.ofDigitChars_ten_toDigits]
  constructor
  · intro h
    cases cs with
    | nil => rfl
    | cons c cs =>
      rw [Nat.ofDigitChars_eq_ofDigitChars_zero, List.length_cons] at h
      have hpow : 1 < 10 ^ (cs.length + 1) := Nat.one_lt_pow (by omega) (by omega)
      have hmul : 1 * n < 10 ^ (cs.length + 1) * n := Nat.mul_lt_mul_of_pos_right hpow hn
      omega
  · rintro rfl
    simp

theorem legible_iff (cs : List Char) (parts : List (Nat × List Char)) :
    Legible ⟨cs, parts⟩ ↔
      ¬ HasToken cs ∧ ∀ p ∈ parts, ¬ HasToken p.2 ∧ HeadNot Char.isDigit p.2 := by
  simp only [Legible, MarkedText.texts, MarkedText.textsAfter_mk, List.forall_mem_cons,
    List.forall_mem_map, and_assoc, ← forall_and]

/-- Each placeholder yields a token. -/
theorem length_le_length_tokens (parts : List (Nat × List Char)) :
    parts.length ≤ (tokens (writeParts parts)).length := by
  rw [tokens_writeParts]
  induction parts with
  | nil => simp
  | cons part parts ih =>
    simp only [List.flatMap_cons, List.length_append, List.length_cons]
    omega

/-- If tokens and those of placeholders are as many as the placeholders, there are none but those of
the placeholders. -/
theorem map_append_tokens_eq_iff {β : Type} (read : List Char → β) (want : Nat → β)
    (extra : List (List Char)) (parts : List (Nat × List Char)) :
    (extra ++ tokens (writeParts parts)).map read = parts.map (fun p => want p.1) ↔
      extra = [] ∧ (tokens (writeParts parts)).map read = parts.map fun p => want p.1 := by
  constructor
  · intro h
    have hlength := congrArg List.length h
    have hle := length_le_length_tokens parts
    simp only [List.length_map, List.length_append] at hlength
    obtain rfl : extra = [] := List.length_eq_zero_iff.mp (by omega)
    exact ⟨rfl, h⟩
  · rintro ⟨rfl, h⟩
    exact h

/-- The tokens of placeholders are their numbers only if the texts are legible. -/
theorem map_tokens_writeParts_eq_iff {parts : List (Nat × List Char)}
    (hpos : ∀ p ∈ parts, 0 < p.1) :
    (tokens (writeParts parts)).map Decimal.readNat? = parts.map (fun p => some p.1) ↔
      ∀ p ∈ parts, ¬ HasToken p.2 ∧ HeadNot Char.isDigit p.2 := by
  induction parts with
  | nil => simp [writeParts, tokens]
  | cons part parts ih =>
    obtain ⟨n, cs⟩ := part
    obtain ⟨hn, hpos⟩ := List.forall_mem_cons.mp hpos
    have hdigits : ∀ c ∈ cs.takeWhile Char.isDigit, c.isDigit = true :=
      List.all_eq_true.mp List.all_takeWhile
    have htokens : tokens (writeParts ((n, cs) :: parts)) =
        (Nat.toDigits 10 n ++ cs.takeWhile Char.isDigit) ::
          (tokens (cs.dropWhile Char.isDigit) ++ tokens (writeParts parts)) := by
      rw [tokens_writeParts, tokens_writeParts, List.flatMap_cons, List.cons_append]
    rw [htokens, List.map_cons, List.map_cons, List.cons.injEq, map_append_tokens_eq_iff,
      readNat?_append_eq_iff hn hdigits, ← headNot_iff, ih hpos, tokens_eq_nil_iff,
      List.forall_mem_cons]
    -- Nothing is dropped from a text that does not start with a digit.
    constructor
    · rintro ⟨hhead, htoken, hparts⟩
      rw [dropWhile_of_headNot hhead] at htoken
      exact ⟨⟨htoken, hhead⟩, hparts⟩
    · rintro ⟨⟨htoken, hhead⟩, hparts⟩
      rw [dropWhile_of_headNot hhead]
      exact ⟨hhead, htoken, hparts⟩

/-- **The tokens of a query are the numbers of its marks if and only if it is legible.** -/
theorem map_tokens_write_eq_iff {t : MarkedText Nat} (hpos : ∀ n ∈ t.marks, 0 < n) :
    (tokens (t.write (fun n => (Style.numbered.placeholder n).toList) id)).map Decimal.readNat? =
      t.marks.map some ↔ Legible t := by
  obtain ⟨cs, parts⟩ := t
  have hpos : ∀ p ∈ parts, 0 < p.1 := by simpa [MarkedText.marks] using hpos
  rw [tokens_write, MarkedText.marks, List.map_map, legible_iff, ← tokens_eq_nil_iff,
    ← map_tokens_writeParts_eq_iff hpos]
  exact map_append_tokens_eq_iff Decimal.readNat? some (tokens cs) parts

/-- The tokens of a legible query are the digits of its marks and nothing more. -/
theorem tokens_write_of_legible {t : MarkedText Nat} (h : Legible t) :
    tokens (t.write (fun n => (Style.numbered.placeholder n).toList) id) =
      t.marks.map (Nat.toDigits 10) := by
  obtain ⟨cs, parts⟩ := t
  obtain ⟨hcs, hparts⟩ := (legible_iff cs parts).mp h
  rw [tokens_write, (tokens_eq_nil_iff cs).mpr hcs, List.nil_append, tokens_writeParts,
    MarkedText.marks, List.map_map, ← List.flatMap_singleton' (parts.map _), List.flatMap_map]
  refine List.flatMap_congr fun p hp => ?_
  obtain ⟨htoken, hhead⟩ := hparts p hp
  rw [dropWhile_of_headNot hhead, (tokens_eq_nil_iff p.2).mpr htoken, headNot_iff.mp hhead]
  simp

end Numbered

namespace Fragment

/-- **A query with numbered placeholders is read back exactly.** The tokens that a driver finds in
it are the numbers of the leaves if and only if the fragment is legible, and then what it finds
for each token is the parameter that stands for the leaf. -/
theorem numbered_reading (f : Fragment Value) (ps : List Primitive)
    (h : f.leaves = ps.map .primitive) :
    ∃ x, f.expand .numbered = .ok x ∧
      x.query.toList = f.marked.write (fun n => (Style.numbered.placeholder n).toList) id ∧
      f.marked.marks = f.numbers ∧
      ((Numbered.tokens x.query.toList).map Decimal.readNat? = f.numbers.map some ↔
        Numbered.Legible f.marked) ∧
      (Numbered.Legible f.marked →
        Numbered.tokens x.query.toList = f.numbers.map (Nat.toDigits 10) ∧
        List.Forall₂ (fun token p => ∃ w,
          (Style.numbered.bind x.values).find? ('?' :: token) = some w ∧ w.Denotes p)
          (Numbered.tokens x.query.toList) ps) := by
  obtain ⟨x, hx, hvalues, hquery⟩ := expand_marked Style.letterwise_numbered h
  have hmarks := marks_marked h
  have hpos : ∀ n ∈ f.marked.marks, 0 < n := by
    rw [hmarks]
    exact fun n hn => pos_of_mem_numbers h hn
  refine ⟨x, hx, hquery, hmarks, ?_, fun hlegible => ?_⟩
  · rw [hquery, ← hmarks]
    exact Numbered.map_tokens_write_eq_iff hpos
  · have htokens : Numbered.tokens x.query.toList = f.numbers.map (Nat.toDigits 10) := by
      rw [hquery, ← hmarks]
      exact Numbered.tokens_write_of_legible hlegible
    refine ⟨htokens, ?_⟩
    rw [htokens, List.forall₂_map_left_iff, hvalues]
    refine (numbers_refer h).imp fun n p hrefers => ?_
    obtain ⟨w, hw, hdenotes⟩ := hrefers.denotes
    refine ⟨w, ?_, hdenotes⟩
    obtain ⟨i, rfl⟩ : ∃ i, n = i + 1 := ⟨n - 1, by have := hrefers.pos; omega⟩
    have hfind := Style.find?_bind (Or.inl rfl) f.parameters i
    rw [Numbered.toList_placeholder] at hfind
    rw [hfind]
    exact hw

theorem numbered_reading_mixed :
    (mixed.leaves = mixedLeaves.map .primitive ∧ Numbered.Legible mixed.marked ∧
      ∃ x, mixed.expand .numbered = .ok x ∧
        Numbered.tokens x.query.toList = [['1'], ['2'], ['1'], ['3'], ['4']]) ∧
    ∃ f : Fragment Value, f.leaves = [Primitive.int 1].map .primitive ∧
      ∃ x, f.expand .numbered = .ok x ∧ x.query.toList = "LIMIT ?10".toList ∧
        (Numbered.tokens x.query.toList).map Decimal.readNat? ≠ f.numbers.map some := by
  constructor
  · obtain ⟨x, hx, -, -, -, hread⟩ := numbered_reading mixed mixedLeaves rfl
    have hlegible : Numbered.Legible mixed.marked := by decide +kernel
    have htokens := (hread hlegible).1
    have hnumbers : mixed.numbers = [1, 2, 1, 3, 4] := by decide +kernel
    rw [hnumbers] at htokens
    exact ⟨rfl, hlegible, x, hx, htokens⟩
  · -- The digit after the placeholder is the text of another fragment.
    let f : Fragment Value :=
      ⟨"LIMIT ", [(.primitive (.int 1), ""), (.fragment ⟨"0", [], none⟩, "")], none⟩
    obtain ⟨x, hx, hquery, -, hiff, -⟩ := numbered_reading f [.int 1] rfl
    have hlegible : ¬ Numbered.Legible f.marked := by decide +kernel
    exact ⟨f, rfl, x, hx, hquery.trans (by decide +kernel), fun h => hlegible (hiff.mp h)⟩

end Fragment

end SqlWeave
