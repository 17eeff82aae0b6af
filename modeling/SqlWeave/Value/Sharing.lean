import SqlWeave.Value.Basic

/-!
# Shared values

A value that gets a name can be held in several places: whatever holds it holds the same
thing. So it makes a difference which one of two lists of the same items is held, for when
something is put at the end of the list, it is there wherever the list is held. The same
goes for the rows of an outcome and for the parameters of a statement.

* `Value.share` numbers everything in a value that is not numbered yet;
* `Value.refresh` gives the list, the outcome or the statement of a number its new
  contents, wherever it stands in a value.
-/

namespace SqlWeave

/-- The not-a-number with the next number as its tag, if a number is one without a tag. -/
def Binary64.share (x : Binary64) (next : Nat) : Binary64 × Nat :=
  if x.isNaN && x.tag?.isNone then (taggedNaN (next + 1), next + 1) else (x, next)

namespace Value

/-! ### Numbering -/

mutual

/-- The value with everything in it numbered, from `next` on, and the next number after
that. -/
def share : Value → Nat → Value × Nat
  | primitive (.float x), next =>
    let (x, next) := x.share next
    (primitive (.float x), next)
  | list none items, next =>
    let (items, after) := shareItems items (next + 1)
    (list (some next) items, after)
  | tuple items, next =>
    let (items, next) := shareItems items next
    (tuple items, next)
  | dict entries, next =>
    let (entries, next) := shareEntries entries next
    (dict entries, next)
  | record fields, next =>
    let (fields, next) := shareFields fields next
    (record fields, next)
  | handle none typeName parts, next =>
    let (parts, after) := shareFields parts (next + 1)
    (handle (some next) typeName parts, after)
  | fragment ⟨opening, parts, origin⟩, next =>
    let (parts, next) := shareParts parts next
    (fragment ⟨opening, parts, origin⟩, next)
  | join members, next =>
    let (members, next) := shareItems members next
    (join members, next)
  | statistics s, next =>
    let (s, next) := shareStatistics s next
    (statistics s, next)
  | run ⟨success, s, extra⟩, next =>
    let (s, next) := shareStatistics s next
    let (extra, next) := shareFields extra next
    (run ⟨success, s, extra⟩, next)
  | query none ⟨success, s, rows, extra⟩, next =>
    let (s, after) := shareStatistics s (next + 1)
    let (rows, after) := shareItems rows after
    let (extra, after) := shareFields extra after
    (query (some next) ⟨success, s, rows, extra⟩, after)
  | v, next => (v, next)
termination_by structural v => v

/-- Values with everything in them numbered. -/
def shareItems : List Value → Nat → List Value × Nat
  | [], next => ([], next)
  | v :: vs, next =>
    let (v, next) := share v next
    let (vs, next) := shareItems vs next
    (v :: vs, next)
termination_by structural vs => vs

/-- The entries of a mapping with everything in them numbered. -/
def shareEntries : List (Value × Value) → Nat → List (Value × Value) × Nat
  | [], next => ([], next)
  | (k, v) :: es, next =>
    let (k, next) := share k next
    let (v, next) := share v next
    let (es, next) := shareEntries es next
    ((k, v) :: es, next)
termination_by structural es => es

/-- Named values with everything in them numbered. -/
def shareFields : List (String × Value) → Nat → List (String × Value) × Nat
  | [], next => ([], next)
  | (name, v) :: fs, next =>
    let (v, next) := share v next
    let (fs, next) := shareFields fs next
    ((name, v) :: fs, next)
termination_by structural fs => fs

/-- The parts of a fragment with everything in them numbered. -/
def shareParts : List (Value × String) → Nat → List (Value × String) × Nat
  | [], next => ([], next)
  | (v, text) :: ps, next =>
    let (v, next) := share v next
    let (ps, next) := shareParts ps next
    ((v, text) :: ps, next)
termination_by structural ps => ps

/-- Statistics with everything in them numbered. -/
def shareStatistics : Statistics Value → Nat → Statistics Value × Nat
  | ⟨duration, changes, lastRowId, changedDb, rowsRead, rowsWritten, extra⟩, next =>
    let (duration, next) := duration.share next
    let (extra, next) := shareFields extra next
    (⟨duration, changes, lastRowId, changedDb, rowsRead, rowsWritten, extra⟩, next)
termination_by structural s => s

end

/-! ### New contents -/

variable (number : Nat) (contents : List Value)

mutual

/-- The value with new contents of what has the number: the items of a list, the rows of
an outcome or the parameters of a statement. -/
def refresh : Value → Value
  | list label items =>
    if label = some number then list label contents else list label (refreshItems items)
  | tuple items => tuple (refreshItems items)
  | dict entries => dict (refreshEntries entries)
  | record fields => record (refreshFields fields)
  | fragment ⟨opening, parts, origin⟩ => fragment ⟨opening, refreshParts parts, origin⟩
  | join members => join (refreshItems members)
  | statistics s => statistics (refreshStatistics s)
  | run ⟨success, s, extra⟩ => run ⟨success, refreshStatistics s, refreshFields extra⟩
  | query label ⟨success, s, rows, extra⟩ =>
    query label
      ⟨success, refreshStatistics s,
        if label = some number then contents else refreshItems rows, refreshFields extra⟩
  | statement n ⟨text, values, mapper, executor⟩ =>
    statement n ⟨text, if n = number then contents else refreshItems values, mapper, executor⟩
  | v => v
termination_by structural v => v

/-- Values with the new contents. -/
def refreshItems : List Value → List Value
  | [] => []
  | v :: vs => refresh v :: refreshItems vs
termination_by structural vs => vs

/-- The entries of a mapping with the new contents. -/
def refreshEntries : List (Value × Value) → List (Value × Value)
  | [] => []
  | (k, v) :: es => (refresh k, refresh v) :: refreshEntries es
termination_by structural es => es

/-- Named values with the new contents. -/
def refreshFields : List (String × Value) → List (String × Value)
  | [] => []
  | (name, v) :: fs => (name, refresh v) :: refreshFields fs
termination_by structural fs => fs

/-- The parts of a fragment with the new contents. -/
def refreshParts : List (Value × String) → List (Value × String)
  | [] => []
  | (v, text) :: ps => (refresh v, text) :: refreshParts ps
termination_by structural ps => ps

/-- Statistics with the new contents in their further fields. -/
def refreshStatistics : Statistics Value → Statistics Value
  | ⟨duration, changes, lastRowId, changedDb, rowsRead, rowsWritten, extra⟩ =>
    ⟨duration, changes, lastRowId, changedDb, rowsRead, rowsWritten, refreshFields extra⟩
termination_by structural s => s

end

theorem refreshItems_eq_map (vs : List Value) :
    refreshItems number contents vs = vs.map (refresh number contents) := by
  induction vs with
  | nil => rfl
  | cons v vs ih => simp [refreshItems, ih]

/-- The list of the number has the new contents. -/
theorem refresh_list_self (items : List Value) :
    refresh number contents (list (some number) items) = list (some number) contents := by
  simp [refresh]

/-- Every other list keeps its items, with the new contents inside of them. -/
theorem refresh_list_of_ne {label : Label} (h : label ≠ some number) (items : List Value) :
    refresh number contents (list label items) =
      list label (items.map (refresh number contents)) := by
  simp [refresh, h, refreshItems_eq_map]

/-- What shows the parameters of a statement shows the new ones. -/
theorem refresh_statement_self (s : Statement Value) :
    refresh number contents (statement number s) =
      statement number { s with values := contents } := by
  simp [refresh]

end Value

end SqlWeave
