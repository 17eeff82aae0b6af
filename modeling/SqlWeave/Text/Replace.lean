/-!
# Replacing in a text

Every occurrence of a pattern goes to another text, from the left and without
overlaps. The empty pattern occurs before each character and at the end.
-/

namespace SqlWeave.Text

/-- Takes `pattern` off the front of a text. -/
def dropFront? : List Char → List Char → Option (List Char)
  | [], rest => some rest
  | _ :: _, [] => none
  | p :: ps, c :: cs => if p = c then dropFront? ps cs else none

theorem dropFront?_eq_some_iff {pattern cs rest : List Char} :
    dropFront? pattern cs = some rest ↔ cs = pattern ++ rest := by
  induction pattern generalizing cs with
  | nil => simp [dropFront?, eq_comm]
  | cons p ps ih =>
    cases cs with
    | nil => simp [dropFront?]
    | cons c cs =>
      by_cases h : p = c
      · simp [dropFront?, h, ih]
      · simp [dropFront?, h, Ne.symm h]

theorem length_of_dropFront? {pattern cs rest : List Char}
    (h : dropFront? pattern cs = some rest) : rest.length < cs.length + 1 := by
  rw [dropFront?_eq_some_iff.1 h, List.length_append]
  omega

/-- Puts `new` for each occurrence of the non-empty pattern `p :: ps`. -/
def replaceFrom (p : Char) (ps new : List Char) : List Char → List Char
  | [] => []
  | c :: cs =>
    if p = c then
      match h : dropFront? ps cs with
      | some rest =>
        have : rest.length < cs.length + 1 := length_of_dropFront? h
        new ++ replaceFrom p ps new rest
      | none => c :: replaceFrom p ps new cs
    else c :: replaceFrom p ps new cs
termination_by cs => cs.length

/-- Puts `new` for each occurrence of `pattern`. -/
def replaceAll (pattern new cs : List Char) : List Char :=
  match pattern with
  | [] => cs.flatMap (fun c => new ++ [c]) ++ new
  | p :: ps => replaceFrom p ps new cs

end SqlWeave.Text
