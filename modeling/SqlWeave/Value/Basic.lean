import SqlWeave.Outcome.Basic
import SqlWeave.Value.Primitive

/-!
# Values

Everything that can be interleaved into a fragment, handed to a store or
answered by one. Only primitives, fragments and join lists mean something in a
fragment; the other values can stand there too, and expanding the fragment
reports the first of them.

A fragment is its opening text and, for each interleaved value, the value and
the literal text after it (`Fragment.parts`). So a fragment has one literal
segment more than it has values, whatever is done with it.

A compiled statement is a value too, with a number that tells which statement it is:
its parameters can be added to, and then they are added to wherever the statement
stands. Lists and outcomes with rows can change as well, and handles are told apart by
nothing but which one they are; so these have a number too once more than one place may
hold them (`Label`). Executors share in these numbers (`Origin`).
-/

namespace SqlWeave

/-- The executor that something was made for, as far as it shows. -/
structure Origin where
  /-- The number of the executor. -/
  number : Nat
  /-- The name of its type. -/
  typeName : String
  /-- The names of its parts and of their types. The parts have the numbers that follow the
  one of the executor. -/
  parts : List (String × String) := []
  deriving DecidableEq, Repr

/-- A piece of query text with values interleaved. -/
structure Fragment (α : Type) where
  /-- The literal text before the first value. -/
  opening : String
  /-- Each value with the literal text after it. -/
  parts : List (α × String)
  /-- The executor for whose tag the fragment was made. -/
  origin : Option Origin := none

namespace Fragment

variable {α : Type}

/-- The name of the type of fragments. -/
def typeName : String := "Fragment"

/-- The literal texts. -/
def segments (f : Fragment α) : List String := f.opening :: f.parts.map (·.2)

/-- The interleaved values. -/
def values (f : Fragment α) : List α := f.parts.map (·.1)

theorem length_segments (f : Fragment α) : f.segments.length = f.values.length + 1 := by
  simp [segments, values]

/-- The fragment of these literal texts and values, if their numbers fit. -/
def ofSegments? (origin : Option Origin) : List String → List α → Option (Fragment α)
  | [], _ => none
  | s :: segments, values =>
    if segments.length = values.length then some ⟨s, values.zip segments, origin⟩ else none

theorem ofSegments?_eq_some_iff {origin : Option Origin} {segments : List String} {values : List α}
    {f : Fragment α} :
    ofSegments? origin segments values = some f ↔
      f.segments = segments ∧ f.values = values ∧ f.origin = origin := by
  cases segments with
  | nil => simp [ofSegments?, Fragment.segments]
  | cons s segments =>
    constructor
    · intro h
      by_cases hl : segments.length = values.length
      · simp only [ofSegments?, hl, if_true, Option.some.injEq] at h
        subst h
        simp [Fragment.segments, Fragment.values, List.map_snd_zip, List.map_fst_zip, hl]
      · simp [ofSegments?, hl] at h
    · rintro ⟨hs, rfl, rfl⟩
      obtain ⟨opening, parts, origin⟩ := f
      simp only [Fragment.segments, List.cons.injEq] at hs
      obtain ⟨rfl, rfl⟩ := hs
      simp [ofSegments?, Fragment.values, List.zip_eq_zipWith]

end Fragment

/-- A compiled statement. -/
structure Statement (α : Type) where
  /-- The query text. -/
  query : String
  /-- The parameters; the first one has number one. -/
  values : List α
  /-- The name of the row mapper. -/
  mapper : Option String := none
  /-- The executor that runs the statement. -/
  executor : Option Origin := none

/-- Which list, outcome or handle this is; one that is held in a single place needs no
number. -/
abbrev Label := Option Nat

/-- A value. -/
inductive Value where
  /-- A value of one parameter. -/
  | primitive (p : Primitive)
  /-- A list. -/
  | list (label : Label) (items : List Value)
  /-- A tuple. -/
  | tuple (items : List Value)
  /-- A mapping, its entries in the order of insertion. -/
  | dict (entries : List (Value × Value))
  /-- An object with named attributes. -/
  | record (fields : List (String × Value))
  /-- An object that shows nothing but the name of its type, and the parts that are known of
  it. -/
  | handle (label : Label) (typeName : String) (parts : List (String × Value))
  /-- A fragment. -/
  | fragment (f : Fragment Value)
  /-- A join list: values that expand to comma-separated placeholders. -/
  | join (members : List Value)
  /-- Statistics of an execution. -/
  | statistics (s : Statistics Value)
  /-- The outcome of a statement run for its effect. -/
  | run (o : RunOutcome Value)
  /-- The outcome of a statement run for its rows. -/
  | query (label : Label) (o : QueryOutcome Value)
  /-- A compiled statement and its number. -/
  | statement (number : Nat) (s : Statement Value)
  deriving Inhabited

instance : Coe Primitive Value := ⟨.primitive⟩

namespace Value

/-- The missing value. -/
def null : Value := .primitive .null

/-- A text. -/
def text (s : String) : Value := .primitive (.text s)

/-- An integer. -/
def int (n : Int) : Value := .primitive (.int n)

/-- A list that nothing else holds. -/
def ofList (items : List Value) : Value := list none items

/-- The name of a value's type. -/
def typeName : Value → String
  | primitive p => p.typeName
  | list .. => "list"
  | tuple _ => "tuple"
  | dict _ => "dict"
  | record _ => "SimpleNamespace"
  | handle _ name _ => name
  | fragment _ => Fragment.typeName
  | join _ => "JoinList"
  | statistics _ => "QueryMeta"
  | run _ => "RunResult"
  | query .. => "QueryResult"
  | statement _ s => if s.mapper.isSome then "MappedStatement" else "PreparedStatement"

/-- The name of a value's type where the value lacks what is asked of it. -/
def fullTypeName : Value → String
  | record _ => "types.SimpleNamespace"
  | v => v.typeName

end Value

end SqlWeave
