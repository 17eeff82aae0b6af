import SqlWeave.Outcome.Coercion

/-!
# What an accepted report says

A report is accepted if each of its parts is, and then the outcome is made of these parts: of the
declared fields, which have their defaults where they are not reported, and of the entries beside
them (`Statistics.check_eq_ok_iff`, `RunOutcome.check_eq_ok_iff`, `QueryOutcome.check_eq_ok_iff`).
-/

namespace SqlWeave

/-! ### Mappings -/

theorem Value.equal_text (s t : String) : (Value.text s).equal (.text t) = (s == t) := by
  rw [Bool.eq_iff_iff]
  simp [Value.text, Value.equal, Primitive.equal, Primitive.integer?]

/-- Under a name, a mapping has the value of its first entry with that name. -/
theorem Value.lookupText?_cons (name key : String) (v : Value) (rest : List (Value × Value)) :
    lookupText? name ((.text key, v) :: rest) =
      if key = name then some v else lookupText? name rest := by
  unfold lookupText? lookupEntry?
  rw [List.find?_cons]
  by_cases h : key = name
  · simp [equal_text, h]
  · rw [equal_text, beq_false_of_ne h, if_neg h]

/-! ### Parts of a report -/

namespace Checked

variable {α β : Type}

theorem seq_eq_ok_iff {f : Checked (α → β)} {x : Checked α} {b : β} :
    f <*> x = .ok b ↔ ∃ g a, f = .ok g ∧ x = .ok a ∧ g a = b := by
  constructor
  · intro h
    cases f with
    | error is => cases h
    | ok g =>
      cases x with
      | error is => cases h
      | ok a => exact ⟨g, a, rfl, rfl, Except.ok.inj h⟩
  · rintro ⟨g, a, rfl, rfl, rfl⟩
    rfl

theorem map_eq_ok_iff {g : α → β} {x : Checked α} {b : β} :
    g <$> x = .ok b ↔ ∃ a, x = .ok a ∧ g a = b := by
  constructor
  · intro h
    cases x with
    | error is => cases h
    | ok a => exact ⟨a, rfl, Except.ok.inj h⟩
  · rintro ⟨a, rfl, rfl⟩
    rfl

theorem under_eq_ok_iff {field : String} {x : Checked α} {a : α} :
    under field x = .ok a ↔ x = .ok a := by
  cases x with
  | ok b => exact Iff.rfl
  | error is => simp [under]

end Checked

namespace ReportField

theorem declared_eq_ok_iff {α : Type} {entries : List (Value × Value)} {name : String}
    {default a : α} {read : Value → Checked α} :
    declared entries name default read = .ok a ↔
      (Value.lookupText? name entries = none ∧ a = default) ∨
        ∃ v, Value.lookupText? name entries = some v ∧ read v = .ok a := by
  rw [declared]
  cases Value.lookupText? name entries with
  | none =>
    constructor
    · intro h
      exact .inl ⟨rfl, (Except.ok.inj h).symm⟩
    · rintro (⟨-, rfl⟩ | ⟨v, h, -⟩)
      · rfl
      · cases h
  | some v =>
    constructor
    · intro h
      exact .inr ⟨v, rfl, Checked.under_eq_ok_iff.mp h⟩
    · rintro (⟨h, -⟩ | ⟨w, h, hw⟩)
      · cases h
      · obtain rfl := Option.some.inj h
        exact Checked.under_eq_ok_iff.mpr hw

theorem plain_eq_ok_iff {α : Type} {read : Value → Except Complaint α} {v : Value} {a : α} :
    plain read v = .ok a ↔ read v = .ok a := by
  rw [plain]
  cases read v with
  | ok b => exact ⟨fun h => congrArg Except.ok (Except.ok.inj h), fun h => by rw [Except.ok.inj h]⟩
  | error c => simp

theorem further_text (names : List String) (name : String) (v : Value)
    (rest : List (Value × Value)) :
    further names ((.text name, v) :: rest) =
      if names.contains name then further names rest
      else (fun xs => (name, v) :: xs) <$> further names rest := rfl

/-- An entry under a key that is no text is never accepted. -/
theorem further_of_not_text {key : Value} (hkey : ∀ name, key ≠ .text name) (names : List String)
    (v : Value) (rest : List (Value × Value)) (fields : List (String × Value)) :
    further names ((key, v) :: rest) ≠ .ok fields := by
  have hfurther : further names ((key, v) :: rest) =
      Checked.apply (.error [⟨[placeOf key], .keyNotText⟩]) (further names rest) := by
    cases key with
    | primitive p =>
      cases p with
      | text name => exact absurd rfl (hkey name)
      | _ => rfl
    | _ => rfl
  intro h
  rw [hfurther] at h
  cases h

/-- The entries beside the declared fields are entries of the report. -/
theorem mem_of_further {names : List String} {entries : List (Value × Value)}
    {fields : List (String × Value)} (h : further names entries = .ok fields) {name : String}
    {v : Value} (hv : (name, v) ∈ fields) : (.text name, v) ∈ entries := by
  induction entries generalizing fields with
  | nil =>
    obtain rfl := Except.ok.inj h
    cases hv
  | cons entry entries ih =>
    obtain ⟨key, w⟩ := entry
    by_cases hkey : ∃ s, key = Value.text s
    · obtain ⟨s, rfl⟩ := hkey
      rw [further_text] at h
      split at h
      · exact List.mem_cons_of_mem _ (ih h hv)
      · obtain ⟨fields', hrest, rfl⟩ := Checked.map_eq_ok_iff.mp h
        rcases List.mem_cons.mp hv with hhead | hv
        · obtain ⟨rfl, rfl⟩ := Prod.mk.inj hhead
          exact List.mem_cons_self
        · exact List.mem_cons_of_mem _ (ih hrest hv)
    · exact absurd h (further_of_not_text (fun s hs => hkey ⟨s, hs⟩) names w entries fields)

end ReportField

open ReportField

theorem Statistics.check_eq_ok_iff {entries : List (Value × Value)} {s : Statistics Value} :
    check entries = .ok s ↔
      declared entries "duration" .zero (plain number) = .ok s.duration ∧
      declared entries "changes" 0 (plain integer) = .ok s.changes ∧
      declared entries "last_row_id" none (plain optionalInteger) = .ok s.lastRowId ∧
      declared entries "changed_db" false (plain truth) = .ok s.changedDb ∧
      declared entries "rows_read" none (plain optionalInteger) = .ok s.rowsRead ∧
      declared entries "rows_written" none (plain optionalInteger) = .ok s.rowsWritten ∧
      further fieldNames entries = .ok s.extra := by
  rw [check]
  simp only [Checked.seq_eq_ok_iff, Checked.map_eq_ok_iff]
  constructor
  · rintro ⟨_, _, ⟨_, _, ⟨_, _, ⟨_, _, ⟨_, _, ⟨_, _, ⟨_, h₁, rfl⟩, h₂, rfl⟩, h₃, rfl⟩, h₄, rfl⟩,
      h₅, rfl⟩, h₆, rfl⟩, h₇, rfl⟩
    exact ⟨h₁, h₂, h₃, h₄, h₅, h₆, h₇⟩
  · rintro ⟨h₁, h₂, h₃, h₄, h₅, h₆, h₇⟩
    exact ⟨_, _, ⟨_, _, ⟨_, _, ⟨_, _, ⟨_, _, ⟨_, _, ⟨_, h₁, rfl⟩, h₂, rfl⟩, h₃, rfl⟩, h₄, rfl⟩, h₅, rfl⟩,
      h₆, rfl⟩, h₇, rfl⟩

theorem RunOutcome.check_eq_ok_iff {entries : List (Value × Value)} {o : RunOutcome Value} :
    check entries = .ok o ↔
      declared entries "success" true (plain truth) = .ok o.success ∧
      declared entries "meta" {} Statistics.coerce = .ok o.statistics ∧
      further fieldNames entries = .ok o.extra := by
  rw [check]
  simp only [Checked.seq_eq_ok_iff, Checked.map_eq_ok_iff]
  constructor
  · rintro ⟨_, _, ⟨_, _, ⟨_, h₁, rfl⟩, h₂, rfl⟩, h₃, rfl⟩
    exact ⟨h₁, h₂, h₃⟩
  · rintro ⟨h₁, h₂, h₃⟩
    exact ⟨_, _, ⟨_, _, ⟨_, h₁, rfl⟩, h₂, rfl⟩, h₃, rfl⟩

theorem QueryOutcome.check_eq_ok_iff {entries : List (Value × Value)} {o : QueryOutcome Value} :
    check entries = .ok o ↔
      declared entries "success" true (plain truth) = .ok o.success ∧
      declared entries "meta" {} Statistics.coerce = .ok o.statistics ∧
      declared entries "results" [] (plain ReportField.rows) = .ok o.rows ∧
      further fieldNames entries = .ok o.extra := by
  rw [check]
  simp only [Checked.seq_eq_ok_iff, Checked.map_eq_ok_iff]
  constructor
  · rintro ⟨_, _, ⟨_, _, ⟨_, _, ⟨_, h₁, rfl⟩, h₂, rfl⟩, h₃, rfl⟩, h₄, rfl⟩
    exact ⟨h₁, h₂, h₃, h₄⟩
  · rintro ⟨h₁, h₂, h₃, h₄⟩
    exact ⟨_, _, ⟨_, _, ⟨_, _, ⟨_, h₁, rfl⟩, h₂, rfl⟩, h₃, rfl⟩, h₄, rfl⟩

end SqlWeave
