import SqlWeave.Failure
import SqlWeave.Placeholder.Style
import SqlWeave.Value.Hash
import SqlWeave.Value.Written

/-!
# Registered styles

The placeholder styles that can be asked for by name. A style registered under
a name that is taken replaces the one before. Nothing is registered under what is no
name.
-/

namespace SqlWeave

/-- The styles by their registered names. -/
structure Registry where
  /-- The names and styles, each name once. -/
  entries : List (String × Style)

/-- A style, asked for by its name or given as it is. -/
inductive StyleChoice where
  /-- A registered name. -/
  | name (name : String)
  /-- The style itself. -/
  | given (style : Style)
  /-- Something that is neither. -/
  | other (given : Value)

namespace Registry

/-- The registry with the styles that are known from the start. -/
def standard : Registry := ⟨[("numbered", .numbered), ("named", .named)]⟩

/-- The registered names in the order of their code points. -/
def names (r : Registry) : List String := (r.entries.map (·.1)).mergeSort fun a b => a ≤ b

/-- Registers a style under a name. -/
def register (r : Registry) (name : String) (style : Style) : Registry :=
  ⟨(r.entries.filter (·.1 ≠ name)) ++ [(name, style)]⟩

/-- The style registered under a name. -/
def create (r : Registry) (name : String) : Except Failure Style :=
  match r.entries.find? (·.1 = name) with
  | some entry => .ok entry.2
  | none => .error (.unknownStyle name r.names)

/-- What comes of asking for a style by something that is no name: nothing is registered
under it, provided that it could be a name at all. -/
def createOther (r : Registry) (given : Value) : Except Failure Style :=
  match given.hash with
  | .ok _ => .error (.unknownStyle given.shown r.names)
  | .error e => .error e

/-- The chosen style, else the default one, else `numbered`. -/
def resolve (r : Registry) (choice default : Option StyleChoice) : Except Failure Style :=
  match choice <|> default with
  | some (.given style) => .ok style
  | some (.name name) => r.create name
  | some (.other given) => r.createOther given
  | none => r.create Style.numbered.name

theorem create_register (r : Registry) (name : String) (style : Style) :
    (r.register name style).create name = .ok style := by
  have h : (r.entries.filter (·.1 ≠ name)).find? (·.1 = name) = none := by
    simp [List.find?_eq_none]
  simp only [create, register, List.find?_append, h]
  simp

end Registry

end SqlWeave
