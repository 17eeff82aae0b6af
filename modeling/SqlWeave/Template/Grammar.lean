import SqlWeave.Template.Error

/-!
# The grammar of templates

A template is literal text with replacement fields in braces. A doubled brace is
a literal brace. A field is a name, possibly a conversion after `!`, and
possibly a format spec after `:`. In a name, brackets hide everything up to the
closing bracket; in a spec, braces nest.

`Piece.parse` reads a template to its literal characters and its fields.
-/

namespace SqlWeave

/-- A replacement field as it is written. -/
structure Field where
  /-- The name, up to the conversion, the spec or the end. -/
  name : List Char
  /-- The character after `!`. -/
  conversion : Option Char := none
  /-- The text after `:`. -/
  spec : List Char := []
  deriving DecidableEq, Repr

/-- Whether a field asks for formatting. The null character does not count as a
conversion. -/
def Field.isFormatted (f : Field) : Bool :=
  !f.spec.isEmpty || f.conversion.any (· ≠ '\x00')

/-- A piece of a template. -/
inductive Piece where
  /-- A literal character. -/
  | literal (c : Char)
  /-- A replacement field. -/
  | field (f : Field)
  deriving DecidableEq, Repr

namespace Piece

/-- Reads a field name: the name, the character that ends it, and the rest. The
flag tells whether a bracket is open. -/
def scanName : Bool → List Char → Except SyntaxError (List Char × Char × List Char)
  | _, [] => .error .unclosedField
  | true, c :: cs =>
    (scanName (c ≠ ']') cs).map fun (name, stop, rest) => (c :: name, stop, rest)
  | false, c :: cs =>
    if c = '{' then .error .openInName
    else if c = '}' ∨ c = ':' ∨ c = '!' then .ok ([], c, cs)
    else (scanName (c = '[') cs).map fun (name, stop, rest) => (c :: name, stop, rest)

/-- Reads a format spec up to its closing brace: the spec and the rest. So many
braces are open in it. -/
def scanSpec : Nat → List Char → Except SyntaxError (List Char × List Char)
  | _, [] => .error .unclosedSpec
  | 0, '}' :: cs => .ok ([], cs)
  | depth + 1, '}' :: cs => (scanSpec depth cs).map fun (spec, rest) => ('}' :: spec, rest)
  | depth, c :: cs =>
    (scanSpec (if c = '{' then depth + 1 else depth) cs).map fun (spec, rest) => (c :: spec, rest)

/-- Reads a field after its opening brace: the field and the rest. -/
def scanField (cs : List Char) : Except SyntaxError (Field × List Char) :=
  match scanName false cs with
  | .error e => .error e
  | .ok (name, stop, rest) =>
    if stop = '}' then .ok (⟨name, none, []⟩, rest)
    else if stop = ':' then
      (scanSpec 0 rest).map fun (spec, rest) => (⟨name, none, spec⟩, rest)
    else
      match rest with
      | [] => .error .missingConversion
      | c :: '}' :: rest => .ok (⟨name, some c, []⟩, rest)
      | c :: ':' :: rest =>
        (scanSpec 0 rest).map fun (spec, rest) => (⟨name, some c, spec⟩, rest)
      | [_] => .error .unclosedSpec
      | _ :: _ :: _ => .error .afterConversion

theorem length_scanName {b : Bool} {cs name rest : List Char} {stop : Char}
    (h : scanName b cs = .ok (name, stop, rest)) : rest.length < cs.length := by
  induction cs generalizing b name with
  | nil => simp [scanName] at h
  | cons c cs ih =>
    have step : ∀ b', (scanName b' cs).map (fun (name, stop, rest) => (c :: name, stop, rest)) =
        .ok (name, stop, rest) → rest.length < cs.length := by
      intro b' h'
      cases hs : scanName b' cs with
      | error e => simp [hs, Except.map] at h'
      | ok r =>
        obtain ⟨name', stop', rest'⟩ := r
        simp only [hs, Except.map, Except.ok.injEq, Prod.mk.injEq] at h'
        obtain ⟨-, rfl, rfl⟩ := h'
        exact ih hs
    have : rest.length ≤ cs.length := by
      cases b with
      | true => exact Nat.le_of_lt (step _ (by simpa [scanName] using h))
      | false =>
        simp only [scanName] at h
        split at h
        · simp at h
        · split at h
          · simp only [Except.ok.injEq, Prod.mk.injEq] at h
            simp [h.2.2]
          · exact Nat.le_of_lt (step _ h)
    simp only [List.length_cons]
    omega

theorem length_scanSpec {depth : Nat} {cs rest : List Char} (spec : List Char)
    (h : scanSpec depth cs = .ok (spec, rest)) : rest.length < cs.length := by
  fun_induction scanSpec depth cs generalizing spec with
  | case1 => simp at h
  | case2 cs =>
    simp only [Except.ok.injEq, Prod.mk.injEq] at h
    simp [h.2]
  | case3 depth cs ih =>
    cases hs : scanSpec depth cs with
    | error e => simp [hs, Except.map] at h
    | ok r =>
      simp only [hs, Except.map, Except.ok.injEq, Prod.mk.injEq] at h
      have := ih r.1 (by rw [hs, ← h.2])
      simp only [List.length_cons]
      omega
  | case4 depth c cs _ _ ih =>
    cases hs : scanSpec (if c = '{' then depth + 1 else depth) cs with
    | error e => simp [hs, Except.map] at h
    | ok r =>
      simp only [hs, Except.map, Except.ok.injEq, Prod.mk.injEq] at h
      have := ih r.1 (by rw [hs, ← h.2])
      simp only [List.length_cons]
      omega

theorem length_scanField {cs rest : List Char} {f : Field}
    (h : scanField cs = .ok (f, rest)) : rest.length < cs.length := by
  unfold scanField at h
  split at h
  · simp at h
  · rename_i name stop tail hn
    have hlt := length_scanName hn
    have spec : ∀ {t : List Char} {g : List Char → Field}, t.length ≤ tail.length →
        (scanSpec 0 t).map (fun (spec, rest) => (g spec, rest)) = .ok (f, rest) →
          rest.length < cs.length := by
      intro t g ht h'
      cases hs : scanSpec 0 t with
      | error e => simp [hs, Except.map] at h'
      | ok r =>
        simp only [hs, Except.map, Except.ok.injEq, Prod.mk.injEq] at h'
        have hr : scanSpec 0 t = .ok (r.1, rest) := by rw [hs, ← h'.2]
        have := length_scanSpec r.1 hr
        omega
    split at h
    · simp only [Except.ok.injEq, Prod.mk.injEq] at h
      rw [← h.2]
      exact hlt
    · split at h
      · exact spec (Nat.le_refl _) h
      · split at h
        · simp at h
        · simp only [Except.ok.injEq, Prod.mk.injEq] at h
          rw [← h.2]
          simp only [List.length_cons] at hlt
          omega
        · exact spec (by simp only [List.length_cons]; omega) h
        · simp at h
        · simp at h

/-- Reads a template. -/
def parse : List Char → Except SyntaxError (List Piece)
  | [] => .ok []
  | c :: cs =>
    if c = '{' ∨ c = '}' then
      match cs with
      | [] => .error (if c = '{' then .singleOpen else .singleClose)
      | d :: rest =>
        if d = c then (parse rest).map (.literal c :: ·)
        else if c = '}' then .error .singleClose
        else
          match h : scanField (d :: rest) with
          | .error e => .error e
          | .ok (f, rest') =>
            have : rest'.length < rest.length + 1 := by simpa using length_scanField h
            (parse rest').map (.field f :: ·)
    else (parse cs).map (.literal c :: ·)
termination_by cs => cs.length

end Piece

end SqlWeave
