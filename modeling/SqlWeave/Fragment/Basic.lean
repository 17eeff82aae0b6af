import SqlWeave.Failure

/-!
# Making fragments and join lists

A fragment is made of literal segments and values, one segment more than there
are values. A join list of values `v₁, …, vₙ` stands for the fragment
`"" v₁ ", " v₂ ", " … vₙ ""`.
-/

namespace SqlWeave.Fragment

/-- The fragment of these segments and values, for the executor `origin`. -/
def make (origin : Option Origin) (segments : List String) (values : List Value) :
    Except Failure (Fragment Value) :=
  match ofSegments? origin segments values with
  | some f => .ok f
  | none => .error (.structural (.segmentMismatch segments.length values.length))

/-- What separates the members of a join list. -/
def separator : String := ", "

/-- Each value with the text that follows it in a join list. -/
def joinParts : List Value → List (Value × String)
  | [] => []
  | [v] => [(v, "")]
  | v :: w :: vs => (v, separator) :: joinParts (w :: vs)

/-- The fragment that a join list stands for. -/
def ofJoin (members : List Value) : Fragment Value := ⟨"", joinParts members, none⟩

theorem values_ofJoin (members : List Value) : (ofJoin members).values = members := by
  unfold ofJoin values
  induction members using joinParts.induct with
  | case1 => rfl
  | case2 v => rfl
  | case3 v w vs ih => simpa [joinParts] using ih

end SqlWeave.Fragment
