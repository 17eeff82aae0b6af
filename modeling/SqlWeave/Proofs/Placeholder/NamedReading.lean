import SqlWeave.Proofs.Fragment.MarkedText

/-!
# How a reader takes a query with named placeholders

A driver that knows placeholders `:name` goes through a query from left to right (`Named.read`).
It takes a backslash and a colon for a colon, a colon and the word that follows it for a
parameter, and any other character for itself. The colons of literal text have a backslash before
them, but a backslash of the text may also come to stand before the colon of a placeholder, and
the placeholder may be followed by the letters of a text.

* **`Fragment.named_reading`**: every parameter that the reader finds begins where a placeholder
  begins, so no colon of a text is taken for one. The parameters are those of the leaves, in their
  order, if and only if the fragment is `Named.Legible`, that is, no text before a placeholder
  ends with a backslash and no text after one starts with a character of a word. Then the texts
  are read as they were before they were made safe.

What the reader makes of any query, legible or not, is described part by part (`Named.heard`,
`Named.read_write`): a backslash before a placeholder turns the placeholder into text, and
otherwise the placeholder takes the word at the beginning of the next text into its name. No
placeholder yields more than one parameter, so that one which is lost is not made good by another.
-/

namespace SqlWeave

namespace Named

/-- What a reader takes a piece of a query for. -/
inductive Item where
  /-- A character as it is. -/
  | char (c : Char)
  /-- A colon that was written with a backslash. -/
  | colon
  /-- A parameter. -/
  | parameter (name : List Char)
  deriving DecidableEq

/-- The piece of the query that was taken for the item. -/
def Item.source : Item → List Char
  | char c => [c]
  | colon => ['\\', ':']
  | parameter name => ':' :: name

/-- The letters, the digits and the underscore of ASCII. -/
def isWord (c : Char) : Bool := c.isAlphanum || c = '_'

/-- Reads a query from left to right. -/
def read : List Char → List Item
  | [] => []
  | c :: cs =>
    if c = '\\' ∧ cs.head? = some ':' then .colon :: read cs.tail
    else if c = ':' ∧ cs.takeWhile isWord ≠ [] then
      .parameter (cs.takeWhile isWord) :: read (cs.dropWhile isWord)
    else .char c :: read cs
termination_by cs => cs.length
decreasing_by
  · exact Nat.lt_succ_of_le (List.tail_suffix cs).length_le
  · exact Nat.lt_succ_of_le (List.dropWhile_suffix _).length_le
  · exact Nat.lt_succ_self _

/-- The names of the parameters, with the text that was read before, between and after them. -/
def gather : List Item → MarkedText (List Char)
  | [] => ⟨[], []⟩
  | .char c :: items => (gather items).prepend [c]
  | .colon :: items => (gather items).prepend [':']
  | .parameter name :: items => ⟨[], (name, (gather items).opening) :: (gather items).parts⟩

/-- No text before a placeholder ends with a backslash, and none after one starts with a character
of a word. -/
def Legible {α : Type} (t : MarkedText α) : Prop :=
  (∀ cs ∈ t.textsBefore, cs.getLast? ≠ some '\\') ∧ ∀ cs ∈ t.textsAfter, HeadNot isWord cs

instance {α : Type} (t : MarkedText α) : Decidable (Legible t) :=
  inferInstanceAs (Decidable
    ((∀ cs ∈ t.textsBefore, cs.getLast? ≠ some '\\') ∧ ∀ cs ∈ t.textsAfter, HeadNot isWord cs))

/-! ### One piece of a query -/

theorem read_colon (cs : List Char) : read ('\\' :: ':' :: cs) = .colon :: read cs := by
  rw [read, if_pos ⟨rfl, rfl⟩, List.tail_cons]

theorem read_backslash {cs : List Char} (h : cs.head? ≠ some ':') :
    read ('\\' :: cs) = .char '\\' :: read cs := by
  rw [read, if_neg (fun hc => h hc.2), if_neg (fun hc => absurd hc.1 (by decide))]

theorem read_char {c : Char} (hb : c ≠ '\\') (hc : c ≠ ':') (cs : List Char) :
    read (c :: cs) = .char c :: read cs := by
  rw [read, if_neg (fun h => hb h.1), if_neg (fun h => hc h.1)]

/-- A colon and a word are a parameter. The word goes on as long as it can. -/
theorem read_parameter {w : List Char} (hw : ∀ c ∈ w, isWord c = true) (hne : w ≠ [])
    (cs : List Char) :
    read (':' :: (w ++ cs)) =
      .parameter (w ++ cs.takeWhile isWord) :: read (cs.dropWhile isWord) := by
  rw [read, if_neg (fun h => absurd h.1 (by decide)), List.takeWhile_append_of_pos hw,
    List.dropWhile_append_of_pos hw, if_pos ⟨rfl, by simp [hne]⟩]

/-- Nothing of a query is skipped, and nothing is read twice. -/
theorem source_read (cs : List Char) : (read cs).flatMap Item.source = cs := by
  fun_induction read cs with
  | case1 => rfl
  | case2 c cs h ih =>
    obtain ⟨rfl, hhead⟩ := h
    obtain ⟨cs, rfl⟩ := List.head?_eq_some_iff.mp hhead
    simpa [Item.source] using ih
  | case3 c cs h hc ih =>
    obtain ⟨rfl, -⟩ := hc
    simp [Item.source, ih]
  | case4 c cs h hc ih => simp [Item.source, ih]

/-! ### Literal text -/

/-- What a reader is to take literal text for. -/
def literals (cs : List Char) : List Item := cs.map fun c => if c = ':' then .colon else .char c

@[simp] theorem literals_nil : literals [] = [] := rfl

@[simp] theorem literals_cons (c : Char) (cs : List Char) :
    literals (c :: cs) = (if c = ':' then .colon else .char c) :: literals cs := rfl

@[simp] theorem escapeColons_nil : Style.escapeColons [] = [] := rfl

@[simp] theorem escapeColons_cons (c : Char) (cs : List Char) :
    Style.escapeColons (c :: cs) =
      (if c = ':' then ['\\', ':'] else [c]) ++ Style.escapeColons cs := rfl

/-- Safe text does not start with a colon. -/
theorem head?_escapeColons_append {cs rest : List Char} (h : cs ≠ [] ∨ rest.head? ≠ some ':') :
    (Style.escapeColons cs ++ rest).head? ≠ some ':' := by
  cases cs with
  | nil => simpa using h
  | cons c cs => by_cases hc : c = ':' <;> simp [hc]

/-- **Literal text is read as it was** before it was made safe, unless its last backslash stands
before a colon. -/
theorem read_escapeColons_append {cs rest : List Char}
    (h : cs.getLast? ≠ some '\\' ∨ rest.head? ≠ some ':') :
    read (Style.escapeColons cs ++ rest) = literals cs ++ read rest := by
  induction cs with
  | nil => rfl
  | cons c cs ih =>
    have hcs : cs.getLast? ≠ some '\\' ∨ rest.head? ≠ some ':' := by
      refine h.imp_left fun hlast => ?_
      cases cs with
      | nil => simp
      | cons d cs => rwa [List.getLast?_cons_cons] at hlast
    by_cases hc : c = ':'
    · subst hc
      simp [read_colon, ih hcs]
    · by_cases hb : c = '\\'
      · subst hb
        have hhead : (Style.escapeColons cs ++ rest).head? ≠ some ':' := by
          refine head?_escapeColons_append ?_
          cases cs with
          | nil => exact h.imp_left (by simp)
          | cons d cs => exact Or.inl (by simp)
        simp [read_backslash hhead, ih hcs]
      · simp [hc, read_char hb hc, ih hcs]

theorem source_literals (cs : List Char) :
    (literals cs).flatMap Item.source = Style.escapeColons cs := by
  induction cs with
  | nil => rfl
  | cons c cs ih =>
    by_cases hc : c = ':' <;> simp [Item.source, hc, ih]

theorem parameter_not_mem_literals (name cs : List Char) : .parameter name ∉ literals cs := by
  intro h
  obtain ⟨c, -, hc⟩ := List.mem_map.mp h
  split at hc <;> cases hc

theorem gather_literals_append (cs : List Char) (items : List Item) :
    gather (literals cs ++ items) = (gather items).prepend cs := by
  induction cs with
  | nil => rfl
  | cons c cs ih =>
    by_cases hc : c = ':' <;> simp [gather, hc, ih, MarkedText.prepend]

theorem gather_literals (cs : List Char) : gather (literals cs) = ⟨cs, []⟩ := by
  have h := gather_literals_append cs []
  rwa [List.append_nil, gather, MarkedText.prepend, List.append_nil] at h

/-! ### Words -/

theorem escapeColons_of_isWord {w : List Char} (hw : ∀ c ∈ w, isWord c = true) :
    Style.escapeColons w = w := by
  induction w with
  | nil => rfl
  | cons c w ih =>
    obtain ⟨hc, hw⟩ := List.forall_mem_cons.mp hw
    have hne : c ≠ ':' := by
      rintro rfl
      cases hc
    simp [hne, ih hw]

/-- The word at the beginning of a text is in no need of escaping. -/
theorem takeWhile_escapeColons (cs : List Char) :
    (Style.escapeColons cs).takeWhile isWord = cs.takeWhile isWord := by
  induction cs with
  | nil => rfl
  | cons c cs ih =>
    by_cases hc : c = ':'
    · subst hc
      rfl
    · simp [hc, List.takeWhile_cons, ih]

theorem dropWhile_escapeColons (cs : List Char) :
    (Style.escapeColons cs).dropWhile isWord = Style.escapeColons (cs.dropWhile isWord) := by
  induction cs with
  | nil => rfl
  | cons c cs ih =>
    by_cases hc : c = ':'
    · subst hc
      rfl
    · cases hw : isWord c <;> simp [hc, hw, ih]

/-- The characters of a parameter's name. -/
abbrev name (n : Nat) : List Char := (Style.parameterName n).toList

theorem isWord_of_mem_name {n : Nat} {c : Char} (hc : c ∈ name n) : isWord c = true := by
  rw [name, Style.parameterName] at hc
  rcases List.mem_append.mp (String.toList_append ▸ hc) with hc | hc
  · obtain rfl : c = 'p' := by simpa using hc
    rfl
  · have hdigit := Decimal.isDigit_of_mem_toDigits (n := n) (by simpa using hc)
    simp [isWord, Char.isAlphanum, hdigit]

theorem name_ne_nil (n : Nat) : name n ≠ [] := by
  simp [name, Style.parameterName]

theorem toList_placeholder (n : Nat) : (Style.named.placeholder n).toList = ':' :: name n := by
  simp [Style.placeholder]

/-! ### Whole queries -/

/-- Placeholders and the texts after them, as they stand in a query. -/
abbrev writeParts (parts : List (Nat × List Char)) : List Char :=
  MarkedText.writeParts (fun n => (Style.named.placeholder n).toList) Style.escapeColons parts

/-- What a reader makes of a text and of the placeholders and texts after it: a placeholder is
lost in the text, if the text ends with a backslash, and else it takes the word after it into its
name. -/
def heard : List Char → List (Nat × List Char) → List Item
  | cs, [] => literals cs
  | cs, (n, ds) :: parts =>
    if cs.getLast? = some '\\' then literals cs.dropLast ++ .colon :: heard (name n ++ ds) parts
    else literals cs ++
      .parameter (name n ++ ds.takeWhile isWord) :: heard (ds.dropWhile isWord) parts

/-- A placeholder ends the word before it. -/
theorem headNot_writeParts (parts : List (Nat × List Char)) :
    HeadNot isWord (writeParts parts) :=
  have hcolon : isWord ':' = false := by decide
  MarkedText.headNot_writeParts hcolon (fun n => by rw [toList_placeholder]; rfl) _ parts

/-- **The reader hears what was described.** -/
theorem read_write (cs : List Char) (parts : List (Nat × List Char)) :
    read (Style.escapeColons cs ++ writeParts parts) = heard cs parts := by
  induction parts generalizing cs with
  | nil =>
    rw [writeParts, MarkedText.writeParts_nil, read_escapeColons_append (Or.inr (by simp)), read,
      List.append_nil, heard]
  | cons part parts ih =>
    obtain ⟨n, ds⟩ := part
    have hword : ∀ c ∈ name n, isWord c = true := fun _ => isWord_of_mem_name
    have hrest := headNot_writeParts parts
    rw [writeParts, MarkedText.writeParts_cons, toList_placeholder, List.cons_append, heard]
    split
    case isTrue hlast =>
      -- The last backslash goes with the colon of the placeholder.
      obtain ⟨es, rfl⟩ := List.getLast?_eq_some_iff.mp hlast
      have hsplit : Style.escapeColons (es ++ ['\\']) = Style.escapeColons es ++ ['\\'] := by
        simp [Style.escapeColons_append]
      have hname : name n ++ (Style.escapeColons ds ++ writeParts parts) =
          Style.escapeColons (name n ++ ds) ++ writeParts parts := by
        rw [Style.escapeColons_append, escapeColons_of_isWord hword, List.append_assoc]
      rw [hsplit, List.append_assoc, List.singleton_append,
        read_escapeColons_append (Or.inr (by simp)), read_colon, hname, ih, List.dropLast_concat]
    case isFalse hlast =>
      rw [read_escapeColons_append (Or.inl hlast), read_parameter hword (name_ne_nil n),
        takeWhile_append_of_headNot hrest, dropWhile_append_of_headNot hrest,
        takeWhile_escapeColons, dropWhile_escapeColons, ih]

/-- A parameter behind literals and another item is that item or comes after it. -/
theorem split_after_literals {cs name : List Char} {item : Item} {items before after : List Item}
    (h : literals cs ++ item :: items = before ++ .parameter name :: after) :
    before = literals cs ∨
      ∃ rest, before = literals cs ++ item :: rest ∧ items = rest ++ .parameter name :: after := by
  rcases List.append_eq_append_iff.mp h with ⟨rest, hbefore, hitems⟩ | ⟨rest, hliterals, hparameter⟩
  · cases rest with
    | nil => exact Or.inl (by simpa using hbefore)
    | cons other rest =>
      obtain ⟨rfl, hrest⟩ := List.cons.inj hitems
      exact Or.inr ⟨rest, hbefore, hrest⟩
  · cases rest with
    | nil => exact Or.inl (by simpa using hliterals.symm)
    | cons other rest =>
      -- Else the parameter would be one of the literals.
      obtain ⟨rfl, -⟩ := List.cons.inj hparameter
      exact absurd (hliterals ▸ by simp) (parameter_not_mem_literals name cs)

/-- **A parameter begins where a placeholder begins.** -/
theorem source_before_parameter {cs found : List Char} {parts : List (Nat × List Char)}
    {before after : List Item} (h : heard cs parts = before ++ .parameter found :: after) :
    ∃ done n ds todo, parts = done ++ (n, ds) :: todo ∧
      before.flatMap Item.source = Style.escapeColons cs ++ writeParts done := by
  induction parts generalizing cs before with
  | nil =>
    have hmem : .parameter found ∈ heard cs [] := h ▸ by simp
    exact absurd hmem (parameter_not_mem_literals found cs)
  | cons part parts ih =>
    obtain ⟨n, ds⟩ := part
    have hword : ∀ c ∈ name n, isWord c = true := fun _ => isWord_of_mem_name
    rw [heard] at h
    split at h
    case isTrue hlast =>
      obtain ⟨es, rfl⟩ := List.getLast?_eq_some_iff.mp hlast
      rw [List.dropLast_concat] at h
      rcases split_after_literals h with rfl | ⟨rest, rfl, hrest⟩
      · simp at h
      · obtain ⟨done, m, es', todo, rfl, hsource⟩ := ih hrest
        refine ⟨(n, ds) :: done, m, es', todo, rfl, ?_⟩
        simp [source_literals, hsource, Item.source, Style.escapeColons_append, writeParts,
          toList_placeholder, escapeColons_of_isWord hword]
    case isFalse hlast =>
      rcases split_after_literals h with rfl | ⟨rest, rfl, hrest⟩
      · exact ⟨[], n, ds, parts, rfl, by simp [source_literals, writeParts]⟩
      · obtain ⟨done, m, es, todo, rfl, hsource⟩ := ih hrest
        have hds : ds.takeWhile isWord ++ Style.escapeColons (ds.dropWhile isWord) =
            Style.escapeColons ds := by
          rw [← takeWhile_escapeColons, ← dropWhile_escapeColons, List.takeWhile_append_dropWhile]
        refine ⟨(n, ds) :: done, m, es, todo, rfl, ?_⟩
        simp [source_literals, hsource, Item.source, writeParts, toList_placeholder, ← hds]

@[simp] theorem marks_prepend (cs : List Char) (t : MarkedText (List Char)) :
    (t.prepend cs).marks = t.marks := rfl

/-- Each placeholder yields at most one parameter. -/
theorem length_marks_heard_le (cs : List Char) (parts : List (Nat × List Char)) :
    (gather (heard cs parts)).marks.length ≤ parts.length := by
  induction parts generalizing cs with
  | nil =>
    simp [heard, gather_literals, MarkedText.marks]
  | cons part parts ih =>
    obtain ⟨n, ds⟩ := part
    rw [heard]
    split
    · rw [gather_literals_append, gather]
      exact Nat.le_succ_of_le (ih _)
    · rw [gather_literals_append, gather, marks_prepend]
      simpa [MarkedText.marks] using ih (ds.dropWhile isWord)

theorem legible_cons {α : Type} (cs ds : List Char) (a : α) (parts : List (α × List Char)) :
    Legible ⟨cs, (a, ds) :: parts⟩ ↔
      cs.getLast? ≠ some '\\' ∧ HeadNot isWord ds ∧ Legible ⟨ds, parts⟩ := by
  simp only [Legible, MarkedText.textsBefore_cons, MarkedText.textsAfter_mk, List.map_cons,
    List.forall_mem_cons]
  tauto

/-- **The names that are heard are those of the placeholders if and only if the query is
legible.** -/
theorem marks_heard_eq_iff (cs : List Char) (parts : List (Nat × List Char)) :
    (gather (heard cs parts)).marks = parts.map (fun p => name p.1) ↔ Legible ⟨cs, parts⟩ := by
  induction parts generalizing cs with
  | nil =>
    simp [heard, gather_literals, Legible, MarkedText.marks]
  | cons part parts ih =>
    obtain ⟨n, ds⟩ := part
    rw [heard, legible_cons]
    split
    case isTrue hlast =>
      -- One parameter is missing, and the rest yields no more than there are placeholders.
      refine iff_of_false (fun h => ?_) (fun h => h.1 hlast)
      rw [gather_literals_append, gather] at h
      have hlength := congrArg List.length h
      have hle := length_marks_heard_le (name n ++ ds) parts
      simp only [marks_prepend, List.length_map, List.length_cons] at hlength
      omega
    case isFalse hlast =>
      rw [gather_literals_append, gather, marks_prepend, headNot_iff, ← ih ds]
      simp only [MarkedText.marks, List.map_cons, List.cons.injEq, List.append_right_eq_self]
      constructor
      · rintro ⟨hhead, hrest⟩
        rw [dropWhile_of_headNot (headNot_iff.mpr hhead)] at hrest
        exact ⟨hlast, hhead, hrest⟩
      · rintro ⟨-, hhead, hrest⟩
        rw [dropWhile_of_headNot (headNot_iff.mpr hhead)]
        exact ⟨hhead, hrest⟩

/-- The texts of a legible query are heard as they were. -/
theorem gather_heard_of_legible {cs : List Char} {parts : List (Nat × List Char)}
    (h : Legible ⟨cs, parts⟩) :
    gather (heard cs parts) = (⟨cs, parts⟩ : MarkedText Nat).map name := by
  induction parts generalizing cs with
  | nil =>
    rw [heard, gather_literals]
    rfl
  | cons part parts ih =>
    obtain ⟨n, ds⟩ := part
    obtain ⟨hlast, hhead, hrest⟩ := (legible_cons cs ds n parts).mp h
    rw [heard, if_neg hlast, gather_literals_append, gather, dropWhile_of_headNot hhead,
      headNot_iff.mp hhead, ih hrest]
    simp [MarkedText.prepend, MarkedText.map]

end Named

namespace Fragment

/-- **A query with named placeholders is read back exactly.** The reader reads all of the query,
and what it finds a parameter is a placeholder of the fragment in its place, whatever name it
finds there. The names are those of the leaves if and only if the fragment is legible, and then
the texts between them are the literal texts of the fragment. -/
theorem named_reading (f : Fragment Value) (ps : List Primitive)
    (h : f.leaves = ps.map .primitive) :
    ∃ x, f.expand .named = .ok x ∧
      x.query.toList =
        f.marked.write (fun n => (Style.named.placeholder n).toList) Style.escapeColons ∧
      f.marked.marks = f.numbers ∧
      (Named.read x.query.toList).flatMap Named.Item.source = x.query.toList ∧
      (∀ before found after,
        Named.read x.query.toList = before ++ Named.Item.parameter found :: after →
        ∃ done n cs todo, f.marked.parts = done ++ (n, cs) :: todo ∧
          before.flatMap Named.Item.source =
            (⟨f.marked.opening, done⟩ : MarkedText Nat).write
              (fun n => (Style.named.placeholder n).toList) Style.escapeColons) ∧
      ((Named.gather (Named.read x.query.toList)).marks =
          f.numbers.map (fun n => (Style.parameterName n).toList) ↔ Named.Legible f.marked) ∧
      (Named.Legible f.marked →
        Named.gather (Named.read x.query.toList) =
          f.marked.map fun n => (Style.parameterName n).toList) := by
  obtain ⟨x, hx, -, hquery⟩ := expand_marked Style.letterwise_named h
  have hread : Named.read x.query.toList = Named.heard f.marked.opening f.marked.parts := by
    rw [hquery]
    exact Named.read_write f.marked.opening f.marked.parts
  have hmarks := marks_marked h
  refine ⟨x, hx, hquery, hmarks, Named.source_read _, ?_, ?_, fun hlegible => ?_⟩
  · intro before found after hsplit
    exact Named.source_before_parameter (hread ▸ hsplit)
  · have hnames : f.numbers.map Named.name = f.marked.parts.map fun p => Named.name p.1 := by
      rw [← hmarks, MarkedText.marks, List.map_map]
      rfl
    rw [hread, hnames]
    exact Named.marks_heard_eq_iff f.marked.opening f.marked.parts
  · rw [hread]
    exact Named.gather_heard_of_legible hlegible

theorem named_reading_mixed :
    (mixed.leaves = mixedLeaves.map .primitive ∧ Named.Legible mixed.marked ∧
      ∃ x, mixed.expand .named = .ok x ∧
        Named.gather (Named.read x.query.toList) =
          ⟨"a::int = ".toList,
            [("p1".toList, " + ".toList), ("p2".toList, " AND b IN (".toList),
              ("p1".toList, ", NULL, ".toList), ("p3".toList, ") OR c = ".toList),
              ("p4".toList, [])]⟩) ∧
    ∃ f : Fragment Value, f.leaves = [Primitive.int 1].map .primitive ∧
      ∃ x, f.expand .named = .ok x ∧ x.query.toList = "a = '\\:' || '\\\\:p1".toList ∧
        (Named.gather (Named.read x.query.toList)).marks ≠
          f.numbers.map fun n => (Style.parameterName n).toList := by
  constructor
  · obtain ⟨x, hx, -, -, -, -, -, hread⟩ := named_reading mixed mixedLeaves rfl
    have hlegible : Named.Legible mixed.marked := by decide +kernel
    exact ⟨rfl, hlegible, x, hx, (hread hlegible).trans (by decide +kernel)⟩
  · -- The backslash is the end of another fragment.
    let f : Fragment Value :=
      ⟨"a = ':' || ", [(.fragment ⟨"'\\\\", [], none⟩, ""), (.primitive (.int 1), "")], none⟩
    obtain ⟨x, hx, hquery, -, -, -, hiff, -⟩ := named_reading f [.int 1] rfl
    have hlegible : ¬ Named.Legible f.marked := by decide +kernel
    exact ⟨f, rfl, x, hx, hquery.trans (by decide +kernel), fun h => hlegible (hiff.mp h)⟩

end Fragment

end SqlWeave
