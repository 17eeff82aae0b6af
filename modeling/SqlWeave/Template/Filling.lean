import SqlWeave.Failure
import SqlWeave.Template.Grammar
import SqlWeave.Template.Path

/-!
# Filling templates

A template and its arguments become the parts of a fragment: the literal text
between the fields and the values that the fields lead to. The values are
interleaved, never printed, so formats and conversions are refused.

A field is *automatic* if its name is empty or begins with a step: it takes the
next positional argument. It is *manual* if its name begins with a digit. One
template cannot have both; fields that name an argument stand beside either.
-/

namespace SqlWeave.Template

/-- How the fields of a template are numbered. -/
inductive Numbering where
  /-- By their order; so many have been seen. -/
  | automatic (seen : Nat)
  /-- By themselves. -/
  | manual
  /-- Not known yet. -/
  | undecided
  deriving DecidableEq, Repr

/-- How the name of a field relates to the numbering. -/
inductive Reference where
  /-- It takes the next positional argument. -/
  | automatic
  /-- It begins with a digit. -/
  | numbered
  /-- It names an argument. -/
  | named
  deriving DecidableEq, Repr

/-- The reference that a field name makes. -/
def Reference.ofName : List Char → Reference
  | [] => .automatic
  | c :: _ => if Path.isBreak c then .automatic else if Text.isDigit c then .numbered else .named

/-- The name under which a field is looked up, and the numbering after it. -/
def number (numbering : Numbering) (name : List Char) :
    Except TemplateError (List Char × Numbering) :=
  match Reference.ofName name, numbering with
  | .automatic, .manual => .error .automaticAfterManual
  | .automatic, .automatic seen => .ok ((toString seen).toList ++ name, .automatic (seen + 1))
  | .automatic, .undecided => .ok ('0' :: name, .automatic 1)
  | .numbered, .automatic _ => .error .manualAfterAutomatic
  | .numbered, _ => .ok (name, .manual)
  | .named, numbering => .ok (name, numbering)

/-- The value of a field, and the numbering after it. -/
def lookup (args : List Value) (kwargs : List (String × Value)) (numbering : Numbering)
    (f : Field) : Except (TemplateError ⊕ PathError) (Value × Numbering) :=
  if f.isFormatted then .error (.inl (.formatted (String.ofList f.name)))
  else
    match number numbering f.name with
    | .error e => .error (.inl e)
    | .ok (name, numbering) =>
      match Path.resolve args kwargs name with
      | .ok v => .ok (v, numbering)
      | .error .missing => .error (.inl (.missingArgument (String.ofList name)))
      | .error (.malformed e) => .error (.inr e)

/-- Fills the fields of a template: its opening text, and each value with the
literal text after it. -/
def fill (args : List Value) (kwargs : List (String × Value)) :
    Numbering → List Piece →
      Except (TemplateError ⊕ PathError) (List Char × List (Value × String))
  | _, [] => .ok ([], [])
  | numbering, .literal c :: ps =>
    match fill args kwargs numbering ps with
    | .ok (opening, parts) => .ok (c :: opening, parts)
    | .error e => .error e
  | numbering, .field f :: ps =>
    match lookup args kwargs numbering f with
    | .error e => .error e
    | .ok (v, numbering) =>
      match fill args kwargs numbering ps with
      | .ok (opening, parts) => .ok ([], (v, String.ofList opening) :: parts)
      | .error e => .error e

/-- The fragment of a template and its arguments, for the executor `origin`. The
whole template is read before any argument is looked up. -/
def toFragment (origin : Option Origin) (template : String) (args : List Value)
    (kwargs : List (String × Value)) : Except Failure (Fragment Value) :=
  match Piece.parse template.toList with
  | .error e => .error (.template (.invalid e) (some template))
  | .ok pieces =>
    match fill args kwargs .undecided pieces with
    | .ok (opening, parts) => .ok ⟨String.ofList opening, parts, origin⟩
    | .error (.inl e) => .error (.template e (some template))
    | .error (.inr e) => .error (.path e)

end SqlWeave.Template
