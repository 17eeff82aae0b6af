import SqlWeave.Text.CharRange

/-!
# Blanks

Two classes of white space. `isSpace` is the Unicode property White_Space;
`isBlank` has the four information separators U+001C to U+001F in addition.
-/

namespace SqlWeave.Text

/-- The Unicode property White_Space. -/
def spaceRanges : List (Nat × Nat) :=
  [(0x09, 0x0D), (0x20, 0x20), (0x85, 0x85), (0xA0, 0xA0), (0x1680, 0x1680), (0x2000, 0x200A),
    (0x2028, 0x2029), (0x202F, 0x202F), (0x205F, 0x205F), (0x3000, 0x3000)]

/-- White space around the text of a number. -/
def isSpace (c : Char) : Bool := inRanges spaceRanges c

/-- White space in a query text: the property and the information separators. -/
def isBlank (c : Char) : Bool := inRanges ((0x1C, 0x1F) :: spaceRanges) c

theorem isBlank_of_isSpace {c : Char} (h : isSpace c = true) : isBlank c = true := by
  obtain ⟨r, hr, hc⟩ := inRanges_iff.1 h
  exact inRanges_iff.2 ⟨r, List.mem_cons_of_mem _ hr, hc⟩

/-- The text without the white space at its two ends. -/
def trim (cs : List Char) : List Char :=
  ((cs.dropWhile isSpace).reverse.dropWhile isSpace).reverse

end SqlWeave.Text
