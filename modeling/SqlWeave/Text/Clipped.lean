/-!
# Clipped text

Messages name types, and a long name is clipped: as much of it is shown as fits into so
many bytes. A character that is cut by the limit leaves a replacement character.
-/

namespace SqlWeave.Text

/-- What stands for a character that is cut. -/
def replacement : Char := '\ufffd'

/-- The characters whose UTF-8 codes fit into so many bytes, and a replacement character
if the next one is cut. -/
def clipChars : Nat → List Char → List Char
  | 0, _ => []
  | _, [] => []
  | room + 1, c :: cs =>
    if c.utf8Size ≤ room + 1 then c :: clipChars (room + 1 - c.utf8Size) cs
    else [replacement]
termination_by structural _ cs => cs

/-- A text clipped to so many bytes. -/
def clip (room : Nat) (s : String) : String := String.ofList (clipChars room s.toList)

end SqlWeave.Text
