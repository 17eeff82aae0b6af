import SqlWeave.Text.Replace

/-!
# Placeholder styles

How the parameter of a number is spelled in a query text, how literal text is
made safe beside it, and how the parameters are handed to a driver. Two styles
are known from the start:

* `numbered`: `?1`, `?2`, … with the parameters in a list;
* `named`: `:p1`, `:p2`, … with the parameters under their names. A colon in
  literal text gets a backslash before it, since a reader of this style takes a
  colon and a word for a parameter.

Any other style is given by its placeholders, and by its escaping if it has any, and
hands the parameters over in a list.
-/

namespace SqlWeave

/-- A placeholder style. -/
inductive Style where
  /-- `?1`, `?2`, … -/
  | numbered
  /-- `:p1`, `:p2`, … -/
  | named
  /-- A style by its name, its placeholders and its escaping of literal text, if it has
  any. -/
  | custom (name : String) (placeholder : Nat → String) (escape : Option (String → String))

/-- The parameters of a statement as a driver takes them. -/
inductive Binding (α : Type) where
  /-- In a list. -/
  | positional (values : List α)
  /-- Under names. -/
  | named (values : List (String × α))
  deriving DecidableEq

namespace Style

/-- The name under which a style calls itself. -/
def name : Style → String
  | numbered => "numbered"
  | named => "named"
  | custom name _ _ => name

/-- The name of the parameter of a number, counted from one. -/
def parameterName (index : Nat) : String := "p" ++ toString index

/-- The placeholder of the parameter of a number, counted from one. -/
def placeholder : Style → Nat → String
  | numbered, index => "?" ++ toString index
  | named, index => ":" ++ parameterName index
  | custom _ placeholder _, index => placeholder index

/-- Puts a backslash before every colon. -/
def escapeColons (cs : List Char) : List Char :=
  cs.flatMap fun c => if c = ':' then ['\\', ':'] else [c]

/-- Literal text made safe for the reader of the style. -/
def escapeLiteral : Style → String → String
  | numbered, text => text
  | named, text => String.ofList (escapeColons text.toList)
  | custom _ _ (some escape), text => escape text
  | custom _ _ none, text => text

/-- Whether a style has an escaping. -/
def escapes : Style → Bool
  | numbered => false
  | named => true
  | custom _ _ escape => escape.isSome

theorem escapeLiteral_of_not_escapes {style : Style} (h : style.escapes = false) (text : String) :
    style.escapeLiteral text = text := by
  cases style with
  | numbered => rfl
  | named => cases h
  | custom name placeholder escape =>
    cases escape with
    | none => rfl
    | some f => cases h

/-- The parameters under the names `p1`, `p2`, … -/
def nameParameters {α : Type} (values : List α) : List (String × α) :=
  values.zipIdx.map fun (v, i) => (parameterName (i + 1), v)

/-- The parameters as the style's driver takes them. -/
def bind {α : Type} : Style → List α → Binding α
  | named, values => .named (nameParameters values)
  | _, values => .positional values

/-- Replaces texts one pair after the other. -/
def replaceEach (pairs : List (String × String)) (text : String) : String :=
  String.ofList <| pairs.foldl
    (fun cs pair => Text.replaceAll pair.1.toList pair.2.toList cs) text.toList

/-- The style whose placeholders are a number between two texts, and which replaces texts
in literal text, if there are any to replace. -/
def affixed (name before after : String) (pairs : List (String × String)) : Style :=
  .custom name (fun index => before ++ toString index ++ after)
    (if pairs.isEmpty then none else some (replaceEach pairs))

theorem escapeColons_append (a b : List Char) :
    escapeColons (a ++ b) = escapeColons a ++ escapeColons b := by
  simp [escapeColons]

end Style

end SqlWeave
