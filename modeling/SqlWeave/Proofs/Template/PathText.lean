import SqlWeave.Proofs.Template.Root

/-!
# Steps as they are written

A step of a path is written as a point and a name, or as a key in brackets (`StepText`). A text
that is not empty begins with a step or with a fault (`Path.step_or_fault`), and `Path.walk_chars`
and `Path.walk_fault` tell what the walk makes of either. So the walk complains about the text of a
path exactly if the steps before a fault exist on the values they are taken from:
**`Path.walk_malformed_iff`**. A step that does not exist hides whatever stands behind it.
-/

namespace SqlWeave

namespace Path

/-! ### Numbers that are too long -/

/-- A text begins with decimal digits of too large a number, whatever comes behind them. -/
def TooLong (cs : List Char) : Prop :=
  ∃ digits rest, cs = digits ++ rest ∧ (∀ c ∈ digits, (Text.decimalValue? c).isSome) ∧
    maxIndex < numberOf digits

/-- All characters are decimal digits, and there are some. -/
def isDecimal (cs : List Char) : Bool :=
  !cs.isEmpty && cs.all fun c => (Text.decimalValue? c).isSome

theorem readDigits_eq_error_iff {n : Nat} (hn : n ≤ maxIndex) (cs : List Char) (e : PathError) :
    readDigits n cs = .error e ↔ e = .indexTooLarge ∧ ∃ digits rest, cs = digits ++ rest ∧
      (∀ c ∈ digits, (Text.decimalValue? c).isSome) ∧ maxIndex < digits.foldl pushDigit n := by
  induction cs generalizing n with
  | nil =>
    simp only [readDigits, reduceCtorEq, false_iff, not_and, not_exists]
    rintro rfl digits rest h - hlt
    obtain ⟨rfl, rfl⟩ := List.append_eq_nil_iff.mp h.symm
    simp only [List.foldl_nil] at hlt
    omega
  | cons c cs ih =>
    rw [readDigits]
    cases hc : Text.decimalValue? c with
    | none =>
      simp only [reduceCtorEq, false_iff, not_and, not_exists]
      rintro rfl digits rest h hdigits hlt
      cases digits with
      | nil =>
        simp only [List.foldl_nil] at hlt
        omega
      | cons d digits =>
        obtain ⟨rfl, -⟩ := List.cons.inj h
        simpa [hc] using hdigits c List.mem_cons_self
    | some d =>
      have hpush : pushDigit n c = 10 * n + d := by rw [pushDigit, hc, Option.getD_some]
      by_cases hlt : maxIndex < 10 * n + d
      · simp only [hlt, if_true, Except.error.injEq]
        constructor
        · rintro rfl
          exact ⟨rfl, [c], cs, rfl, by simp [hc], by simpa [hpush] using hlt⟩
        · rintro ⟨rfl, -⟩
          rfl
      · simp only [hlt, if_false]
        rw [ih (by omega)]
        refine and_congr_right fun _ => ⟨?_, ?_⟩
        · rintro ⟨digits, rest, rfl, hdigits, hmax⟩
          exact ⟨c :: digits, rest, rfl, by simpa [hc] using hdigits, by simpa [hpush] using hmax⟩
        · rintro ⟨digits, rest, h, hdigits, hmax⟩
          cases digits with
          | nil =>
            simp only [List.foldl_nil] at hmax
            omega
          | cons d' digits =>
            obtain ⟨rfl, rfl⟩ := List.cons.inj h
            refine ⟨digits, rest, rfl, (List.forall_mem_cons.mp hdigits).2, ?_⟩
            rwa [List.foldl_cons, hpush] at hmax

/-- Reading a number fails exactly for too long a one. -/
theorem readIndex?_eq_error_iff {cs : List Char} {e : PathError} :
    readIndex? cs = .error e ↔ e = .indexTooLarge ∧ TooLong cs := by
  rw [readIndex?]
  by_cases hnil : cs.isEmpty = true
  · obtain rfl := List.isEmpty_iff.mp hnil
    simp only [List.isEmpty_nil, if_true, reduceCtorEq, false_iff, not_and]
    rintro rfl ⟨digits, rest, h, -, hlt⟩
    obtain ⟨rfl, rfl⟩ := List.append_eq_nil_iff.mp h.symm
    simp [numberOf] at hlt
  · rw [if_neg hnil]
    exact readDigits_eq_error_iff (Nat.zero_le _) cs e

/-- A text that has some other character than decimal digits is no number. -/
theorem readDigits_of_mem {cs : List Char} {c : Char} (hc : c ∈ cs)
    (hnone : Text.decimalValue? c = none) {n : Nat} {i : Option Nat}
    (h : readDigits n cs = .ok i) : i = none := by
  induction cs generalizing n with
  | nil => cases hc
  | cons d cs ih =>
    rw [readDigits] at h
    cases hd : Text.decimalValue? d with
    | none =>
      rw [hd] at h
      exact (Except.ok.inj h).symm
    | some k =>
      rw [hd] at h
      simp only at h
      split at h
      · cases h
      · refine ih ?_ h
        rcases List.mem_cons.mp hc with rfl | hc
        · rw [hnone] at hd
          cases hd
        · exact hc

/-- **Reading a number**: all of the text has to be decimal digits. -/
theorem readIndex?_eq_ok {cs : List Char} (h : ¬ TooLong cs) :
    readIndex? cs = .ok (if isDecimal cs then some (numberOf cs) else none) := by
  cases hread : readIndex? cs with
  | error e => exact absurd (readIndex?_eq_error_iff.mp hread).2 h
  | ok i =>
    cases hdecimal : isDecimal cs with
    | true =>
      simp only [isDecimal, Bool.and_eq_true, Bool.not_eq_true', List.all_eq_true] at hdecimal
      have hmax : numberOf cs ≤ maxIndex := Nat.le_of_not_lt fun hlt =>
        h ⟨cs, [], (List.append_nil cs).symm, hdecimal.2, hlt⟩
      have hne : cs ≠ [] := by
        rintro rfl
        simp at hdecimal
      rw [readIndex?_digits hne hdecimal.2 hmax] at hread
      simpa using hread.symm
    | false =>
      rw [readIndex?] at hread
      by_cases hnil : cs.isEmpty = true
      · rw [if_pos hnil] at hread
        simpa using hread.symm
      · rw [if_neg hnil] at hread
        obtain ⟨c, hc, hnone⟩ : ∃ c ∈ cs, Text.decimalValue? c = none := by
          simpa [isDecimal, hnil] using hdecimal
        simp [readDigits_of_mem hc hnone hread]

end Path

/-! ### Steps -/

/-- A step as it is written. -/
inductive StepText where
  /-- A point and a name. -/
  | attribute (name : List Char)
  /-- A key in brackets. -/
  | key (text : List Char)

namespace StepText

/-- The characters of a step. -/
def chars : StepText → List Char
  | .attribute name => '.' :: name
  | .key text => '[' :: (text ++ [']'])

/-- The step that is meant: a key of decimal digits is a number, any other one a text. -/
def step : StepText → PathStep
  | .attribute name => .attribute (String.ofList name)
  | .key text => if Path.isDecimal text then .index (Path.numberOf text) else .key (String.ofList text)

end StepText

namespace Path

/-- Nothing comes, or a character that ends a name. -/
def Ends (rest : List Char) : Prop := ∀ c ∈ rest.head?, isBreak c = true

/-- The characters are those of a step, and what comes behind them is not part of it. -/
def Fits : StepText → List Char → Prop
  | .attribute name, rest => name ≠ [] ∧ (∀ c ∈ name, isBreak c = false) ∧ Ends rest
  | .key text, _ => text ≠ [] ∧ ']' ∉ text ∧ ¬ TooLong text

/-- Why no step can be read from the beginning of a text. -/
inductive Fault : PathError → List Char → Prop where
  /-- No name follows a point. -/
  | emptyName {rest : List Char} : Ends rest → Fault .emptyStep ('.' :: rest)
  /-- There is nothing in the brackets. -/
  | emptyKey (rest : List Char) : Fault .emptyStep ('[' :: ']' :: rest)
  /-- There is too long a number in the brackets. -/
  | tooLong {text : List Char} (rest : List Char) : ']' ∉ text → TooLong text →
    Fault .indexTooLarge ('[' :: (text ++ ']' :: rest))
  /-- The bracket is not closed. -/
  | unclosed {cs : List Char} : ']' ∉ cs → Fault .unclosedBracket ('[' :: cs)
  /-- It begins with neither a point nor a bracket. -/
  | behind {c : Char} (cs : List Char) : isBreak c = false → Fault .textAfterBracket (c :: cs)

/-- A name is cut off before the character that ends it. -/
theorem root_append {name rest : List Char} (hname : ∀ c ∈ name, isBreak c = false)
    (hrest : Ends rest) : root (name ++ rest) = name ∧ steps (name ++ rest) = rest := by
  induction name with
  | nil =>
    cases rest with
    | nil => exact ⟨rfl, rfl⟩
    | cons c rest =>
      have hc : isBreak c = true := hrest c rfl
      simp [root, steps, hc]
  | cons c name ih =>
    obtain ⟨hc, hname⟩ := List.forall_mem_cons.mp hname
    obtain ⟨hroot, hsteps⟩ := ih hname
    rw [root] at hroot
    rw [steps] at hsteps
    simp [root, steps, hc, hroot, hsteps]

/-- Every text is a name and what comes behind it. -/
theorem exists_root (cs : List Char) :
    ∃ name rest, cs = name ++ rest ∧ (∀ c ∈ name, isBreak c = false) ∧ Ends rest := by
  induction cs with
  | nil => exact ⟨[], [], rfl, by simp, by simp [Ends]⟩
  | cons c cs ih =>
    by_cases hc : isBreak c = true
    · exact ⟨[], c :: cs, rfl, by simp, by simpa [Ends] using hc⟩
    · obtain ⟨name, rest, rfl, hname, hrest⟩ := ih
      exact ⟨c :: name, rest, rfl, by simpa [hc] using hname, hrest⟩

/-- A key is cut off before its bracket. -/
theorem bracketed_append {text : List Char} (h : ']' ∉ text) (rest : List Char) :
    bracketed (text ++ ']' :: rest) = text ∧
      (text ++ ']' :: rest).dropWhile (· ≠ ']') = ']' :: rest := by
  induction text with
  | nil => simp [bracketed]
  | cons c text ih =>
    obtain ⟨hc, htext⟩ := not_or.mp (mt List.mem_cons.mpr h)
    obtain ⟨hkey, hdrop⟩ := ih htext
    rw [bracketed] at hkey
    rw [bracketed, List.cons_append, List.takeWhile_cons, List.dropWhile_cons, hkey, hdrop]
    simp [Ne.symm hc]

theorem dropWhile_of_not_mem {cs : List Char} (h : ']' ∉ cs) : cs.dropWhile (· ≠ ']') = [] := by
  induction cs with
  | nil => rfl
  | cons c cs ih =>
    obtain ⟨hc, hcs⟩ := not_or.mp (mt List.mem_cons.mpr h)
    rw [List.dropWhile_cons, ih hcs]
    simp [Ne.symm hc]

theorem readStep_attribute {name rest : List Char} (hname : ∀ c ∈ name, isBreak c = false)
    (hrest : Ends rest) :
    readStep '.' (name ++ rest) =
      if name.isEmpty then .error .emptyStep else .ok (.attribute (String.ofList name), rest) := by
  obtain ⟨hroot, hsteps⟩ := root_append hname hrest
  rw [readStep, if_pos rfl, hroot, hsteps]

theorem readStep_key {text : List Char} (h : ']' ∉ text) (rest : List Char) :
    readStep '[' (text ++ ']' :: rest) =
      match readIndex? text with
      | .error e => .error e
      | .ok (some n) => .ok (.index n, rest)
      | .ok none =>
        if text.isEmpty then .error .emptyStep else .ok (.key (String.ofList text), rest) := by
  obtain ⟨hkey, hdrop⟩ := bracketed_append h rest
  rw [readStep, if_neg (by decide), if_pos rfl, hdrop]
  exact hkey.symm ▸ rfl

/-- The walk reads a step that is there, and takes it. -/
theorem walk_chars {t : StepText} {rest : List Char} (h : Fits t rest) (v : Value) :
    walk v (t.chars ++ rest) =
      match v.step? t.step with
      | none => .error .missing
      | some w => walk w rest := by
  have hread : ∃ c cs, t.chars ++ rest = c :: cs ∧ readStep c cs = .ok (t.step, rest) := by
    cases t with
    | «attribute» name =>
      obtain ⟨hne, hname, hrest⟩ := h
      refine ⟨'.', name ++ rest, rfl, ?_⟩
      rw [readStep_attribute hname hrest, if_neg (by simpa using hne)]
      rfl
    | key text =>
      obtain ⟨hne, htext, hlong⟩ := h
      refine ⟨'[', text ++ ']' :: rest, by simp [StepText.chars], ?_⟩
      rw [readStep_key htext, readIndex?_eq_ok hlong, StepText.step]
      cases isDecimal text <;> simp [hne]
  obtain ⟨c, cs, hcs, hread⟩ := hread
  rw [hcs, walk]
  split
  · rename_i e he
    rw [hread] at he
    cases he
  · rename_i s rest' hs
    rw [hread] at hs
    obtain ⟨rfl, rfl⟩ := Prod.mk.inj (Except.ok.inj hs)
    cases v.step? t.step <;> rfl

/-- The walk complains where it comes to a fault. -/
theorem walk_fault {e : PathError} {cs : List Char} (h : Fault e cs) (v : Value) :
    walk v cs = .error (.malformed e) := by
  have hread : ∃ c tail, cs = c :: tail ∧ readStep c tail = .error e := by
    cases h with
    | @emptyName rest hrest =>
      exact ⟨'.', rest, rfl, readStep_attribute (List.forall_mem_nil _) hrest⟩
    | emptyKey rest =>
      exact ⟨'[', ']' :: rest, rfl, readStep_key List.not_mem_nil rest⟩
    | @tooLong text rest htext hlong =>
      refine ⟨'[', text ++ ']' :: rest, rfl, ?_⟩
      rw [readStep_key htext, readIndex?_eq_error_iff.mpr ⟨rfl, hlong⟩]
    | @unclosed cs hcs =>
      have hdrop : cs.dropWhile (· ≠ ']') = [] := dropWhile_of_not_mem hcs
      exact ⟨'[', cs, rfl, by rw [readStep, if_neg (by decide), if_pos rfl, hdrop]⟩
    | @behind c cs hc =>
      simp only [isBreak, Bool.or_eq_false_iff, decide_eq_false_iff_not] at hc
      exact ⟨c, cs, rfl, by rw [readStep, if_neg hc.1, if_neg hc.2]⟩
  obtain ⟨c, tail, rfl, hread⟩ := hread
  rw [walk]
  split
  · rename_i e' he
    rw [hread] at he
    rw [Except.error.inj he]
  · rename_i s rest' hs
    rw [hread] at hs
    cases hs

/-- **A text begins with a step or with a fault**, unless it is empty. -/
theorem step_or_fault (cs : List Char) :
    cs = [] ∨ (∃ t rest, cs = t.chars ++ rest ∧ Fits t rest) ∨ ∃ e, Fault e cs := by
  cases cs with
  | nil => exact Or.inl rfl
  | cons c cs =>
    refine Or.inr ?_
    by_cases hpoint : c = '.'
    · subst hpoint
      obtain ⟨name, rest, rfl, hname, hrest⟩ := exists_root cs
      by_cases hnil : name = []
      · subst hnil
        exact Or.inr ⟨_, .emptyName hrest⟩
      · exact Or.inl ⟨.attribute name, rest, rfl, hnil, hname, hrest⟩
    by_cases hbracket : c = '['
    · subst hbracket
      by_cases hclosed : ']' ∈ cs
      · obtain ⟨text, rest, rfl, htext⟩ := List.eq_append_cons_of_mem hclosed
        by_cases hlong : TooLong text
        · exact Or.inr ⟨_, .tooLong rest htext hlong⟩
        by_cases hnil : text = []
        · subst hnil
          exact Or.inr ⟨_, .emptyKey rest⟩
        · exact Or.inl ⟨.key text, rest, by simp [StepText.chars], hnil, htext, hlong⟩
      · exact Or.inr ⟨_, .unclosed hclosed⟩
    · exact Or.inr ⟨_, .behind cs (by simp [isBreak, hpoint, hbracket])⟩

/-! ### The walk -/

/-- The steps at the beginning of a text exist one after the other; they lead from a value to
another, and leave the rest of the text. -/
inductive Reaches : Value → List Char → Value → List Char → Prop where
  /-- Before the first step. -/
  | start (v : Value) (cs : List Char) : Reaches v cs v cs
  /-- One step, and others after it. -/
  | step {t : StepText} {rest last : List Char} {v w u : Value} : Fits t rest →
    v.step? t.step = some w → Reaches w rest u last → Reaches v (t.chars ++ rest) u last

theorem length_chars_pos (t : StepText) : 0 < t.chars.length := by
  cases t <;> simp [StepText.chars]

/-- **What the walk complains about**: a fault behind steps that all exist. -/
theorem walk_malformed_iff {v : Value} {cs : List Char} {e : PathError} :
    walk v cs = .error (.malformed e) ↔ ∃ w rest, Reaches v cs w rest ∧ Fault e rest := by
  constructor
  · -- Each step leaves a shorter text.
    induction hn : cs.length using Nat.strongRecOn generalizing v cs with
    | ind n ih =>
      subst hn
      intro h
      rcases step_or_fault cs with rfl | ⟨t, rest, rfl, hfits⟩ | ⟨e', hfault⟩
      · rw [walk_nil] at h
        cases h
      · rw [walk_chars hfits] at h
        cases hstep : v.step? t.step with
        | none =>
          rw [hstep] at h
          cases h
        | some w =>
          rw [hstep] at h
          have hlt : rest.length < (t.chars ++ rest).length := by
            have := length_chars_pos t
            rw [List.length_append]
            omega
          obtain ⟨u, last, hreach, hfault⟩ := ih _ hlt rfl h
          exact ⟨u, last, .step hfits hstep hreach, hfault⟩
      · rw [walk_fault hfault] at h
        obtain rfl := PathFailure.malformed.inj (Except.error.inj h)
        exact ⟨v, cs, .start v cs, hfault⟩
  · rintro ⟨w, rest, hreach, hfault⟩
    induction hreach with
    | start v cs => exact walk_fault hfault v
    | step hfits hstep _ ih =>
      rw [walk_chars hfits, hstep]
      exact ih hfault

end Path

end SqlWeave
