import SqlWeave.Proofs.Fragment.MarkedText
import SqlWeave.Proofs.Fragment.Spot

/-!
# Composition and writing by hand

Whoever puts fragments together gets what he would have written by hand, if the style makes literal
text safe part by part (`Style.Distributes`; the two styles known from the start do):
**`Fragment.expand_by_hand`**. A fragment expands like the flat one that has its leaves as values
and all literal text between them merged (`Fragment.flat`). And anywhere in a tree, a nested
fragment may be spliced into the one around it (`Fragment.splice`), and a join list may be written
out as a fragment (`Fragment.byHand`).

A style whose escaping looks at a text as a whole tells the merged text from its parts; so the
assumption on the style cannot be dropped.
-/

namespace SqlWeave

open Expansion

/-! ### Styles that make text safe part by part -/

/-- A style makes text safe part by part, and leaves the empty text and what stands for an empty
join list alone. -/
structure Style.Distributes (style : Style) : Prop where
  append (a b : String) :
    style.escapeLiteral (a ++ b) = style.escapeLiteral a ++ style.escapeLiteral b
  empty : style.escapeLiteral "" = ""
  emptyJoin : style.escapeLiteral Expansion.emptyJoin = Expansion.emptyJoin

/-- Letter by letter is part by part. -/
theorem Style.Letterwise.distributes {style : Style} {escape : List Char → List Char}
    (h : style.Letterwise escape) : style.Distributes where
  append a b := String.toList_injective (by simp [h.escapeLiteral, h.append])
  empty := String.toList_injective (by simp [h.escapeLiteral, h.nil])
  emptyJoin := String.toList_injective (by rw [h.escapeLiteral, h.emptyJoin])

/-! ### Fragments one after the other -/

namespace Fragment

/-- A fragment with more text in front of it. -/
def prepend (text : String) (f : Fragment Value) : Fragment Value :=
  { f with opening := text ++ f.opening }

/-- Values with the texts before and after them, and then a fragment; the last text and the first
text of the fragment become one. -/
def appendParts (g : Fragment Value) : String → List (Value × String) → Fragment Value
  | text, [] => g.prepend text
  | text, (v, next) :: rest =>
    let tail := appendParts g next rest
    ⟨text, (v, tail.opening) :: tail.parts, none⟩

/-- Two fragments one after the other; where they meet, the texts become one. -/
def append (f g : Fragment Value) : Fragment Value :=
  { appendParts g f.opening f.parts with origin := f.origin }

/-- The fragment `⟨opening, before ++ (n, text) :: after, origin⟩` with the segments and values of
`n` in its place. -/
def splice (opening : String) (before : List (Value × String)) (n : Fragment Value) (text : String)
    (after : List (Value × String)) (origin : Option Origin) : Fragment Value :=
  (append ⟨opening, before, origin⟩ n).append ⟨text, after, none⟩

/-- The fragment that one writes for a join list. -/
def byHand (origin : Option Origin) : List Value → Fragment Value
  | [] => ⟨emptyJoin, [], origin⟩
  | v :: vs => ⟨"", joinParts (v :: vs), origin⟩

theorem values_append (f g : Fragment Value) : (f.append g).values = f.values ++ g.values := by
  obtain ⟨text, parts, origin⟩ := f
  show (appendParts g text parts).values = parts.map (·.1) ++ g.values
  induction parts generalizing text with
  | nil => rfl
  | cons p parts ih => simpa [appendParts, values] using ih p.2

/-- The texts of two fragments one after the other: one less than both have. -/
theorem segments_append (f g : Fragment Value) :
    (f.append g).segments = f.segments.dropLast ++
      (f.segments.getLast (by simp [segments]) ++ g.opening) :: g.segments.tail := by
  obtain ⟨text, parts, origin⟩ := f
  show (appendParts g text parts).segments = _
  induction parts generalizing text with
  | nil => rfl
  | cons p parts ih => simpa [appendParts, segments] using ih p.2

end Fragment

theorem Expansion.write_write (x : Expansion) (a b : String) :
    (x.write a).write b = x.write (a ++ b) := by
  simp [write, String.append_assoc]

theorem expandParts_append (style : Style) (ps qs : List (Value × String)) (x : Expansion) :
    expandParts style (ps ++ qs) x = expandParts style ps x >>= expandParts style qs := by
  simp only [expandParts_eq_foldlM, outlineOfParts_append, List.foldlM_append]
  congr 1
  funext y
  rw [expandParts_eq_foldlM]

section

variable {style : Style}

/-- A fragment with text in front of it. -/
theorem Fragment.expand_prepend (hs : style.Distributes) (text : String) (g : Fragment Value)
    (x : Expansion) :
    (Value.fragment (g.prepend text)).expand style x =
      (Value.fragment g).expand style (x.write (style.escapeLiteral text)) := by
  simp only [prepend, Value.expand, hs.append, write_write]

/-- Two fragments one after the other expand one after the other. -/
theorem Fragment.expand_append (hs : style.Distributes) (f g : Fragment Value) (x : Expansion) :
    (Value.fragment (f.append g)).expand style x =
      (Value.fragment f).expand style x >>= (Value.fragment g).expand style := by
  obtain ⟨text, parts, origin⟩ := f
  show (Value.fragment (appendParts g text parts)).expand style x = _
  induction parts generalizing text x with
  | nil => exact expand_prepend hs text g x
  | cons p parts ih =>
    obtain ⟨v, next⟩ := p
    simp only [appendParts, Value.expand, expandParts]
    cases v.expand style (x.write (style.escapeLiteral text)) with
    | error e => rfl
    | ok y => exact ih y next

/-- A nested fragment may be spliced into the one around it. -/
theorem Fragment.expand_splice (hs : style.Distributes) (opening : String)
    (before : List (Value × String)) (n : Fragment Value) (text : String)
    (after : List (Value × String)) (origin : Option Origin) :
    (Value.fragment ⟨opening, before ++ (.fragment n, text) :: after, origin⟩).expand style =
      (Value.fragment (splice opening before n text after origin)).expand style := by
  obtain ⟨inner, parts, _⟩ := n
  funext x
  rw [splice, expand_append hs, expand_append hs]
  simp only [Value.expand, expandParts_append]
  cases expandParts style before (x.write (style.escapeLiteral opening)) with
  | error e => rfl
  | ok y =>
    show expandParts style ((.fragment ⟨inner, parts, _⟩, text) :: after) y =
      expandParts style parts (y.write (style.escapeLiteral inner)) >>= _
    simp only [expandParts, Value.expand]
    cases expandParts style parts (y.write (style.escapeLiteral inner)) <;> rfl

/-- A join list may be written out. -/
theorem Fragment.expand_byHand (hs : style.Distributes) (origin : Option Origin)
    (members : List Value) :
    (Value.join members).expand style = (Value.fragment (byHand origin members)).expand style := by
  funext x
  cases members with
  | nil => simp [Value.expand, byHand, expandParts, hs.emptyJoin]
  | cons v vs => simp only [Value.expand, byHand, expandMembers_eq_expandParts]

end

/-! ### The flat fragment -/

/-- Tokens as a flat fragment: the leaves, and the merged texts between them. -/
def Token.merged : List (Token Value) → Fragment Value
  | [] => ⟨"", [], none⟩
  | .literal text :: tokens => (merged tokens).prepend text
  | .empty :: tokens => (merged tokens).prepend emptyJoin
  | .leaf v :: tokens => ⟨"", (v, (merged tokens).opening) :: (merged tokens).parts, none⟩

/-- The flat fragment of a tree. -/
def Fragment.flat (f : Fragment Value) : Fragment Value :=
  { Token.merged f.outline with origin := f.origin }

theorem Fragment.values_flat (f : Fragment Value) : f.flat.values = f.leaves := by
  show (Token.merged f.outline).values = Token.leaves f.outline
  induction f.outline with
  | nil => rfl
  | cons token tokens ih =>
    cases token with
    | literal text => exact ih
    | empty => exact ih
    | leaf v => exact congrArg (v :: ·) ih

mutual

/-- A leaf is nothing but a leaf. -/
theorem Value.outline_of_mem_leaves : ∀ (w : Value), ∀ v ∈ Token.leaves w.outline,
    v.outline = [.leaf v]
  | .fragment ⟨opening, parts, _⟩, v, hv => outline_of_mem_leaves_parts parts v hv
  | .join [], v, hv => by simp [Value.outline, Token.leaves, Token.leaf?] at hv
  | .join (w :: ws), v, hv => outline_of_mem_leaves_members (w :: ws) v hv
  | .primitive _, v, hv | .list .., v, hv | .tuple _, v, hv | .dict _, v, hv | .record _, v, hv
  | .handle .., v, hv | .statistics _, v, hv | .run _, v, hv | .query .., v, hv
  | .statement .., v, hv => by
    obtain rfl := List.mem_singleton.mp hv
    rfl
termination_by structural w => w

theorem outline_of_mem_leaves_parts : ∀ (parts : List (Value × String)),
    ∀ v ∈ Token.leaves (outlineOfParts parts), v.outline = [.leaf v]
  | [], v, hv => by simp [outlineOfParts, Token.leaves] at hv
  | (w, text) :: rest, v, hv => by
    rw [outlineOfParts, Token.leaves, List.filterMap_append, List.mem_append] at hv
    exact hv.elim (Value.outline_of_mem_leaves w v) (outline_of_mem_leaves_parts rest v)
termination_by structural parts => parts

theorem outline_of_mem_leaves_members : ∀ (members : List Value),
    ∀ v ∈ Token.leaves (outlineOfMembers members), v.outline = [.leaf v]
  | [], v, hv => by simp [outlineOfMembers, Token.leaves] at hv
  | w :: rest, v, hv => by
    rw [outlineOfMembers, Token.leaves, List.filterMap_append, List.mem_append] at hv
    exact hv.elim (Value.outline_of_mem_leaves w v) (outline_of_mem_leaves_members rest v)
termination_by structural members => members

end

/-- Merged tokens expand like the tokens one by one. -/
theorem Token.expand_merged {style : Style} (hs : style.Distributes) (tokens : List (Token Value))
    (hleaf : ∀ v ∈ leaves tokens, v.outline = [.leaf v]) (x : Expansion) :
    (Value.fragment (merged tokens)).expand style x = tokens.foldlM (add style) x := by
  induction tokens generalizing x with
  | nil => simp [merged, Value.expand, expandParts, write, hs.empty, pure, Except.pure]
  | cons token tokens ih =>
    rw [List.foldlM_cons]
    cases token with
    | literal text =>
      rw [merged, Fragment.expand_prepend hs]
      exact ih hleaf _
    | empty =>
      rw [merged, Fragment.expand_prepend hs, hs.emptyJoin]
      exact ih hleaf _
    | leaf v =>
      obtain ⟨hv, hrest⟩ := List.forall_mem_cons.mp hleaf
      have hwrite : x.write (style.escapeLiteral "") = x := by simp [write, hs.empty]
      simp only [merged, Value.expand, expandParts, hwrite, Value.expand_eq_foldlM style v, hv,
        List.foldlM_cons, List.foldlM_nil, bind_pure]
      cases add style x (.leaf v) with
      | error e => rfl
      | ok y => exact ih hrest y

namespace Fragment

/-- A fragment expands like the flat one. -/
theorem expand_flat {style : Style} (hs : style.Distributes) (f : Fragment Value) :
    f.flat.expand style = f.expand style := by
  have hmerged := Token.expand_merged hs f.outline (Value.outline_of_mem_leaves (.fragment f)) {}
  exact hmerged.trans (Value.expand_eq_foldlM style (.fragment f) {}).symm

/-- **Composition is writing by hand**, in the two styles known from the start and in every style
that makes text safe part by part. A fragment whose leaves are primitives expands to the same query
and parameters as the flat fragment of its leaves with all literal text between them merged. In
any tree, a nested fragment may be spliced into the one around it, and a join list may be replaced
by the fragment that one writes for it. -/
theorem expand_by_hand :
    Style.numbered.Distributes ∧ Style.named.Distributes ∧
    ∀ style : Style, style.Distributes →
      (∀ (f : Fragment Value) (ps : List Primitive), f.leaves = ps.map .primitive →
        f.flat.values = ps.map .primitive ∧
        ∃ x, f.expand style = .ok x ∧ f.flat.expand style = .ok x) ∧
      (∀ (spot : Spot) (opening : String) (before : List (Value × String)) (n : Fragment Value)
          (text : String) (after : List (Value × String)) (origin : Option Origin),
        (spot.fill (.fragment ⟨opening, before ++ (.fragment n, text) :: after, origin⟩)).expand
            style =
          (spot.fill (.fragment (splice opening before n text after origin))).expand style) ∧
      ∀ (spot : Spot) (members : List Value) (origin : Option Origin),
        (spot.fill (.join members)).expand style =
          (spot.fill (.fragment (byHand origin members))).expand style := by
  refine ⟨Style.letterwise_numbered.distributes, Style.letterwise_named.distributes,
    fun style hs => ⟨fun f ps h => ?_, ?_, ?_⟩⟩
  · exact ⟨(values_flat f).trans h, _, expand_eq style h, (expand_flat hs f).trans (expand_eq style h)⟩
  · intro spot opening before n text after origin
    exact spot.expand_fill_congr (expand_splice hs opening before n text after origin)
  · intro spot members origin
    exact spot.expand_fill_congr (expand_byHand hs origin members)

/-- The fragment `mixed` as one writes it by hand. -/
def mixedByHand : Fragment Value :=
  ⟨"a::int = ",
    [(.int 1, " + "), (.primitive (.float .nan), " AND b IN ("),
      (.primitive (.float ⟨0x3ff0000000000000⟩), ", NULL, "), (.text "x", ") OR c = "),
      (.primitive (.bool true), "")], none⟩

theorem expand_by_hand_mixed :
    Style.named.Distributes ∧ mixed.leaves = mixedLeaves.map .primitive ∧
      mixed.flat = mixedByHand ∧
      ∃ x, mixed.expand .named = .ok x ∧ mixedByHand.expand .named = .ok x := by
  obtain ⟨-, hnamed, hstyle⟩ := expand_by_hand
  exact ⟨hnamed, rfl, rfl, ((hstyle .named hnamed).1 mixed mixedLeaves rfl).2⟩

end Fragment

end SqlWeave
