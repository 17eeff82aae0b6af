import SqlWeave.Template.Error
import SqlWeave.Text.Digit
import SqlWeave.Value.Access

/-!
# Paths in field names

A field name is a root and steps: `.name` takes an attribute and `[key]` an item.
The root and a key that consist of decimal digits, of any script, are numbers;
all others are texts. The steps are taken one after the other, each before the
next is read, so a step that does not exist hides every fault behind it.
-/

namespace SqlWeave

/-- One step from a value to a part of it. -/
inductive PathStep where
  /-- The attribute of a name. -/
  | attribute (name : String)
  /-- The item under a text. -/
  | key (name : String)
  /-- The item under a number. -/
  | index (n : Nat)
  deriving DecidableEq, Repr

/-- Why a path leads nowhere. -/
inductive PathFailure where
  /-- The field name is not a path. -/
  | malformed (error : PathError)
  /-- The root or a step does not exist. -/
  | missing
  deriving DecidableEq, Repr

namespace Path

/-- The greatest number that can be written in a path. -/
def maxIndex : Nat := Nat.pow 2 63 - 1

/-- Reads decimal digits after a number; another character makes the whole a
text. Too large a number is an error as soon as it is too large. -/
def readDigits : Nat → List Char → Except PathError (Option Nat)
  | n, [] => .ok (some n)
  | n, c :: cs =>
    match Text.decimalValue? c with
    | none => .ok none
    | some d => if maxIndex < 10 * n + d then .error .indexTooLarge else readDigits (10 * n + d) cs

/-- The number that a root or a key is, if it is one. -/
def readIndex? (cs : List Char) : Except PathError (Option Nat) :=
  if cs.isEmpty then .ok none else readDigits 0 cs

/-- The characters that end a root or an attribute name. -/
def isBreak (c : Char) : Bool := c = '.' || c = '['

/-- The root of a field name. -/
def root (name : List Char) : List Char := name.takeWhile (!isBreak ·)

/-- The steps of a field name, as text. -/
def steps (name : List Char) : List Char := name.dropWhile (!isBreak ·)

/-- The text up to a closing bracket. -/
def bracketed (cs : List Char) : List Char := cs.takeWhile (· ≠ ']')

/-- Reads the first of one or more steps: the step and the rest. -/
def readStep (c : Char) (cs : List Char) : Except PathError (PathStep × List Char) :=
  if c = '.' then
    if (root cs).isEmpty then .error .emptyStep
    else .ok (.attribute (String.ofList (root cs)), steps cs)
  else if c = '[' then
    match cs.dropWhile (· ≠ ']') with
    | [] => .error .unclosedBracket
    | _ :: rest =>
      match readIndex? (bracketed cs) with
      | .error e => .error e
      | .ok (some n) => .ok (.index n, rest)
      | .ok none =>
        if (bracketed cs).isEmpty then .error .emptyStep
        else .ok (.key (String.ofList (bracketed cs)), rest)
  else .error .textAfterBracket

private theorem length_dropWhile_le {α : Type} (p : α → Bool) (l : List α) :
    (l.dropWhile p).length ≤ l.length := by
  induction l with
  | nil => simp
  | cons a l ih => rw [List.dropWhile_cons]; split <;> simp only [List.length_cons] <;> omega

theorem length_readStep {c : Char} {cs rest : List Char} {s : PathStep}
    (h : readStep c cs = .ok (s, rest)) : rest.length ≤ cs.length := by
  unfold readStep at h
  split at h
  · split at h
    · simp at h
    · simp only [Except.ok.injEq, Prod.mk.injEq] at h
      rw [← h.2]
      exact length_dropWhile_le _ _
  · split at h
    · split at h
      · simp at h
      · rename_i d tail hd
        have hle := length_dropWhile_le (· ≠ ']') cs
        rw [hd, List.length_cons] at hle
        split at h
        · simp at h
        · simp only [Except.ok.injEq, Prod.mk.injEq] at h
          rw [← h.2]; omega
        · split at h
          · simp at h
          · simp only [Except.ok.injEq, Prod.mk.injEq] at h
            rw [← h.2]; omega
    · simp at h

end Path

namespace Value

/-- The part of a value that one step leads to. -/
def step? (v : Value) : PathStep → Option Value
  | .attribute name => v.attribute? name
  | .index n => v.item? n
  | .key name =>
    match v with
    | dict entries => lookupText? name entries
    | v => v.withArgument? (text name)

end Value

namespace Path

/-- Takes the steps, each before the next is read. -/
def walk (v : Value) : List Char → Except PathFailure Value
  | [] => .ok v
  | c :: cs =>
    match h : readStep c cs with
    | .error e => .error (.malformed e)
    | .ok (s, rest) =>
      have : rest.length < cs.length + 1 := Nat.lt_succ_of_le (length_readStep h)
      match v.step? s with
      | none => .error .missing
      | some w => walk w rest
termination_by cs => cs.length

/-- The value that a field name leads to: a number as root is a place among the
positional arguments, a text is the name of an argument. -/
def resolve (args : List Value) (kwargs : List (String × Value)) (name : List Char) :
    Except PathFailure Value :=
  match readIndex? (root name) with
  | .error e => .error (.malformed e)
  | .ok index =>
    let start :=
      match index with
      | some n => args[n]?
      | none => (kwargs.find? (·.1 = String.ofList (root name))).map (·.2)
    match start with
    | none => .error .missing
    | some v => walk v (steps name)

end Path

end SqlWeave
