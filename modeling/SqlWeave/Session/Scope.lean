import SqlWeave.Failure

/-!
# Scopes

What the names of a session stand for: values, and tags by their executors. A name that
is given again stands for the new thing.
-/

namespace SqlWeave

/-- The meaning of names. -/
structure Scope where
  /-- The tags, by their executors. -/
  tags : List (String × Origin) := []
  /-- The named values. -/
  names : List (String × Value) := []

namespace Scope

/-- Gives a thing a name. -/
def put {α : Type} (name : String) (a : α) (entries : List (String × α)) : List (String × α) :=
  (name, a) :: entries.filter (·.1 ≠ name)

/-- The thing of a name. -/
def get {α : Type} (name : String) (entries : List (String × α)) : Except Failure α :=
  match entries.find? (·.1 = name) with
  | some e => .ok e.2
  | none => .error (.undefined name)

/-- Gives a value a name. -/
def assign (name : String) (v : Value) (s : Scope) : Scope :=
  { s with names := put name v s.names }

/-- Gives a tag a name. -/
def assignTag (name : String) (executor : Origin) (s : Scope) : Scope :=
  { s with tags := put name executor s.tags }

/-- The value of a name. -/
def value (s : Scope) (name : String) : Except Failure Value := get name s.names

/-- The executor of a tag. -/
def tag (s : Scope) (name : String) : Except Failure Origin := get name s.tags

/-- The scope with other values. -/
def mapValues (f : Value → Value) (s : Scope) : Scope :=
  { s with names := s.names.map fun (name, v) => (name, f v) }

theorem get_put_self {α : Type} (name : String) (a : α) (entries : List (String × α)) :
    get name (put name a entries) = .ok a := by
  simp [get, put]

theorem get_put_of_ne {α : Type} {name other : String} (h : other ≠ name) (a : α)
    (entries : List (String × α)) : get other (put name a entries) = get other entries := by
  have hf : (entries.filter (·.1 ≠ name)).find? (·.1 = other) =
      entries.find? (·.1 = other) := by
    rw [List.find?_filter]
    congr 1
    funext e
    by_cases he : e.1 = other <;> simp [he, h]
  simp only [get, put, List.find?_cons, h.symm, decide_false, hf]

end Scope

end SqlWeave
