import SqlWeave.Fragment.Expansion
import SqlWeave.Value.Access

/-!
# Lookalikes of fragments

Any value with segments and values can be expanded as if it were a fragment: its segments
are taken one after the other, and before each but the first the next of its values is
expanded. Nothing is known about such a value beforehand. Its values are asked for one by
one, its segments may be too many for them, and a segment may be no text, which shows
when the query text is put together, after everything else.

Inside of a fragment there are no lookalikes: only fragments and join lists nest.

What is made like a fragment of segments that are not all texts is a lookalike too
(`Lookalike.make`), and can never be built. Segments and values of any make become a
fragment or such a lookalike (`Fragment.assemble`).
-/

namespace SqlWeave

mutual

/-- How many pieces of text a value expands to. -/
def Value.pieces : Value → Nat
  | .fragment ⟨_, parts, _⟩ => 1 + piecesOfParts parts
  | .join members => 1 + piecesOfMembers members
  | _ => 1
termination_by structural v => v

/-- How many pieces of text values and the literal texts after them expand to. -/
def piecesOfParts : List (Value × String) → Nat
  | [] => 0
  | (v, _) :: rest => v.pieces + 1 + piecesOfParts rest
termination_by structural ps => ps

/-- How many pieces of text the members of a join list expand to. -/
def piecesOfMembers : List Value → Nat
  | [] => 0
  | v :: rest => v.pieces + 1 + piecesOfMembers rest
termination_by structural vs => vs

end

namespace Lookalike

/-- The name of the segments. -/
def segmentsName : String := "segments"

/-- The name of the values. -/
def valuesName : String := "values"

/-- How far the expansion of a lookalike has come. -/
structure Progress where
  /-- The query text of the pieces that are texts, and the parameters. -/
  made : Expansion := {}
  /-- The number of pieces. -/
  pieces : Nat := 0
  /-- The first piece that is no text: its position and the name of its type. -/
  blemish : Option (Nat × String) := none

/-- What comes of a segment that is no text when its style escapes literal text. -/
def escapeOther (style : Style) (segment : Value) : Except Failure Unit :=
  if style.escapes then
    match segment with
    | .primitive (.bytes _) => .error .textInBytes
    | v => .error (v.lacking "replace")
  else .ok ()

/-- Puts a segment at the end. -/
def addSegment (style : Style) (segment : Value) (p : Progress) : Except Failure Progress :=
  match segment with
  | .primitive (.text s) =>
    .ok { p with made := p.made.write (style.escapeLiteral s), pieces := p.pieces + 1 }
  | v => do
    escapeOther style v
    .ok { p with
      pieces := p.pieces + 1
      blemish := p.blemish <|> some (p.pieces, v.fullTypeName) }

/-- Puts the value of a lookalike at a place, counted from zero, at the end. -/
def addValueAt (style : Style) (v : Value) (place : Nat) (p : Progress) :
    Except Failure Progress := do
  let values ← v.part valuesName
  let w ← values.itemAt place
  let made ← w.expand style p.made
  .ok { p with made, pieces := p.pieces + w.pieces }

/-- Puts the segments after the first one at the end, each after the value at its place;
places are counted from `place`. -/
def addRest (style : Style) (v : Value) : Nat → List Value → Progress → Except Failure Progress
  | _, [], p => .ok p
  | place, segment :: rest, p => do
    let p ← addValueAt style v place p
    let p ← addSegment style segment p
    addRest style v (place + 1) rest p

/-- Puts all segments and values together. -/
def addAll (style : Style) (v : Value) : List Value → Except Failure Progress
  | [] => .ok {}
  | segment :: rest => do
    let p ← addSegment style segment {}
    addRest style v 0 rest p

/-! ### Fragments among the lookalikes -/

theorem part_segments (f : Fragment Value) :
    (Value.fragment f).part segmentsName = .ok (.tuple (f.segments.map .text)) :=
  Value.part_eq_ok_iff.2 <| Value.attribute?_of_parts (by decide) (by decide) <| by
    simp [Value.named?, Value.parts, segmentsName]

theorem part_values (f : Fragment Value) :
    (Value.fragment f).part valuesName = .ok (.tuple f.values) :=
  Value.part_eq_ok_iff.2 <| Value.attribute?_of_parts (by decide) (by decide) <| by
    simp [Value.named?, Value.parts, valuesName]

theorem addSegment_text (style : Style) (s : String) (p : Progress) :
    addSegment style (.text s) p =
      .ok { p with made := p.made.write (style.escapeLiteral s), pieces := p.pieces + 1 } := rfl

theorem addValueAt_fragment (style : Style) (f : Fragment Value) {place : Nat} {v : Value}
    (h : f.values[place]? = some v) (p : Progress) :
    addValueAt style (.fragment f) place p =
      (v.expand style p.made).map fun made => { p with made, pieces := p.pieces + v.pieces } := by
  have hv : (Value.tuple f.values).itemAt place = .ok v := Value.itemAt_eq_ok_iff.2 h
  simp only [addValueAt, part_values, hv, bind, Except.bind]
  cases v.expand style p.made <;> rfl

/-- The parts of a fragment are expanded one after the other. -/
theorem addRest_fragment (style : Style) (f : Fragment Value) (done rest : List (Value × String))
    (h : f.parts = done ++ rest) (p : Progress) :
    addRest style (.fragment f) done.length (rest.map fun e => .text e.2) p =
      (expandParts style rest p.made).map fun made =>
        { p with made, pieces := p.pieces + piecesOfParts rest } := by
  induction rest generalizing done p with
  | nil => rfl
  | cons part rest ih =>
    obtain ⟨v, s⟩ := part
    have hv : f.values[done.length]? = some v := by
      simp [Fragment.values, h]
    simp only [List.map_cons, addRest, addValueAt_fragment style f hv, expandParts]
    cases v.expand style p.made with
    | error e => rfl
    | ok made =>
      have hd := ih (done ++ [(v, s)]) (by simp [h])
      simp only [List.length_append, List.length_singleton] at hd
      simp only [Except.map, bind, Except.bind, addSegment_text, hd, piecesOfParts,
        Nat.add_assoc]

end Lookalike

open Lookalike

/-- Expands a value with segments and values as if it were a fragment. -/
def Value.expandAsFragment (style : Style) (v : Value) : Except Failure Expansion := do
  let segments ← v.part segmentsName
  let segments ← segments.items
  let p ← addAll style v segments
  match p.blemish with
  | none => .ok p.made
  | some (position, typeName) => .error (.notText position typeName)

/-! ### Segments of any make -/

namespace Lookalike

/-- The name of the executor. -/
def executorName : String := "executor"

/-- What is made like a fragment, of any segments. -/
def make (origin : Option Origin) (segments values : List Value) : Value :=
  .handle none Fragment.typeName
    [(segmentsName, .tuple segments), (valuesName, .tuple values),
      (executorName, Value.executor origin)]

/-- Whether a value is made like a fragment, without being one. -/
def isMade : Value → Bool
  | .handle _ typeName parts => typeName = Fragment.typeName && !parts.isEmpty
  | _ => false

/-- The number of the executor of what is made like a fragment, if it has one. -/
def executorNumber? (v : Value) : Option Nat :=
  match Value.named? executorName v.parts with
  | some (.handle number ..) => number
  | _ => none

end Lookalike

/-- The texts that values are, if all of them are texts. -/
def Value.texts? : List Value → Option (List String)
  | [] => some []
  | .primitive (.text s) :: vs => (texts? vs).map (s :: ·)
  | _ :: _ => none

theorem Value.texts?_map_text (texts : List String) :
    Value.texts? (texts.map .text) = some texts := by
  induction texts with
  | nil => rfl
  | cons s texts ih =>
    change (Value.texts? (texts.map .text)).map (s :: ·) = _
    rw [ih]
    rfl

/-- The fragment of these segments and values, if the segments are texts, and else what is
made like it. One segment more than there are values is needed in any case. -/
def Fragment.assemble (origin : Option Origin) (segments values : List Value) :
    Except Failure Value :=
  match Value.texts? segments with
  | some texts => (Fragment.make origin texts values).map .fragment
  | none =>
    if segments.length = values.length + 1 then .ok (Lookalike.make origin segments values)
    else .error (.structural (.segmentMismatch segments.length values.length))

/-- Texts become a fragment. -/
theorem Fragment.assemble_text (origin : Option Origin) (texts : List String)
    (values : List Value) :
    Fragment.assemble origin (texts.map .text) values =
      (Fragment.make origin texts values).map .fragment := by
  simp [Fragment.assemble, Value.texts?_map_text]

/-- A fragment looks like itself. -/
theorem Value.expandAsFragment_fragment (style : Style) (f : Fragment Value) :
    (Value.fragment f).expandAsFragment style = f.expand style := by
  obtain ⟨opening, parts, origin⟩ := f
  have h := addRest_fragment style ⟨opening, parts, origin⟩ [] parts rfl
    ⟨({} : Expansion).write (style.escapeLiteral opening), 1, none⟩
  simp only [List.length_nil] at h
  simp only [Value.expandAsFragment, part_segments, Fragment.segments, Value.items, Value.items?,
    bind, Except.bind, List.map_cons, List.map_map, addAll, addSegment_text, Fragment.expand,
    Value.expand, Function.comp_def, Nat.zero_add, h]
  cases expandParts style parts _ <;> rfl

end SqlWeave
