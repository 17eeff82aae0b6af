import Mathlib.Data.List.Chain
import Mathlib.Data.List.TakeWhile
import SqlWeave.QueryLog

/-!
# Queries on one line

The query log writes a query on one line. What it writes is determined by the words of the query and
by whether there is white space at its two ends (`collapse_eq_spaced`): the words stand one space
apart, and an end with white space has one space.

Two texts are written alike exactly if they differ only in their runs of white space (`Respaced`).
So it makes no difference whether texts are cleaned up before they are put together or after.

**`cleanup_canonical`**: the written form is the only one-line form of the query (`OneLineForm`).
-/

namespace SqlWeave.QueryLog

open Text

/-- The words of a text: its longest runs without white space, in order. -/
def words (cs : List Char) : List (List Char) := (cs.splitOnP isBlank).filter (· ≠ [])

/-- Whether a text starts with white space. -/
def startsBlank (cs : List Char) : Bool := cs.head?.any isBlank

/-- Whether a text ends with white space. -/
def endsBlank (cs : List Char) : Bool := cs.getLast?.any isBlank

/-- The only white space in a text is the space. -/
def SpacesOnly (cs : List Char) : Prop := ∀ c ∈ cs, isBlank c = true → c = ' '

/-- A text on one line that says what a query says. -/
structure OneLineForm (query line : List Char) : Prop where
  /-- It has the same words in the same order. -/
  sameWords : words line = words query
  /-- Its only white space is the space. -/
  spaces : SpacesOnly line
  /-- No two spaces stand side by side. -/
  single : line.IsChain fun c d => ¬ (c = ' ' ∧ d = ' ')
  /-- It starts with a space if the query starts with white space. -/
  starts : line.head? = some ' ' ↔ startsBlank query = true
  /-- It ends with a space if the query ends with white space. -/
  ends : line.getLast? = some ' ' ↔ endsBlank query = true

/-- Two texts that differ only in their runs of white space. -/
inductive Respaced : List Char → List Char → Prop where
  /-- Two texts without a character. -/
  | nil : Respaced [] []
  /-- The same letter before both. -/
  | letter {c : Char} {a b : List Char} :
    isBlank c = false → Respaced a b → Respaced (c :: a) (c :: b)
  /-- A run of white space before each. -/
  | run {s t a b : List Char} : s ≠ [] → t ≠ [] → (∀ c ∈ s, isBlank c = true) →
    (∀ c ∈ t, isBlank c = true) → Respaced a b → Respaced (s ++ a) (t ++ b)

theorem isBlank_space : isBlank ' ' = true := by decide

/-! ### Words -/

@[simp] theorem words_nil : words [] = [] := by
  rw [words, List.splitOnP_nil]
  rfl

theorem words_cons_of_isBlank {c : Char} (h : isBlank c = true) (cs : List Char) :
    words (c :: cs) = words cs := by
  rw [words, List.splitOnP_cons_eq_if_modifyHead, if_pos h, List.filter_cons_of_neg (by simp), words]

theorem words_singleton {c : Char} (h : isBlank c = false) : words [c] = [[c]] := by
  simp [words, List.splitOnP_cons_eq_if_modifyHead, List.splitOnP_nil, h]

/-- Before white space, a letter is a word. -/
theorem words_cons_of_ends {c d : Char} (hc : isBlank c = false) (hd : isBlank d = true)
    (cs : List Char) : words (c :: d :: cs) = [c] :: words (d :: cs) := by
  rw [words_cons_of_isBlank hd]
  simp [words, List.splitOnP_cons_eq_if_modifyHead, hc, hd]

/-- Before another letter, a letter begins that one's word. -/
theorem words_cons_cons {c d : Char} (hc : isBlank c = false) (hd : isBlank d = false)
    (cs : List Char) :
    ∃ w ws, words (d :: cs) = (d :: w) :: ws ∧ words (c :: d :: cs) = (c :: d :: w) :: ws := by
  obtain ⟨w, ws, hsplit⟩ := List.exists_cons_of_ne_nil (List.splitOnP_ne_nil isBlank cs)
  refine ⟨w, ws.filter (· ≠ []), ?_, ?_⟩
  · simp [words, List.splitOnP_cons_eq_if_modifyHead, hd, hsplit]
  · simp [words, List.splitOnP_cons_eq_if_modifyHead, hc, hd, hsplit]

/-- White space in front of a text belongs to no word. -/
theorem words_append_of_isBlank {s : List Char} (h : ∀ c ∈ s, isBlank c = true) (cs : List Char) :
    words (s ++ cs) = words cs := by
  induction s with
  | nil => rfl
  | cons c s ih =>
    obtain ⟨hc, hs⟩ := List.forall_mem_cons.mp h
    rw [List.cons_append, words_cons_of_isBlank hc, ih hs]

/-! ### The two ends -/

theorem endsBlank_cons_of_ne_nil {cs : List Char} (h : cs ≠ []) (c : Char) :
    endsBlank (c :: cs) = endsBlank cs := by
  obtain ⟨d, ds, rfl⟩ := List.exists_cons_of_ne_nil h
  rw [endsBlank, List.getLast?_cons_cons, endsBlank]

/-- Behind a run of white space, a text ends as it does alone, or with the run. -/
theorem endsBlank_append {s : List Char} (hs : s ≠ []) (hblank : ∀ c ∈ s, isBlank c = true)
    (cs : List Char) : endsBlank (s ++ cs) = if cs = [] then true else endsBlank cs := by
  cases cs with
  | nil =>
    rw [List.append_nil, endsBlank, List.getLast?_eq_some_getLast hs]
    exact hblank _ (List.getLast_mem hs)
  | cons c cs => simp [endsBlank, List.getLast?_append, List.getLast?_cons]

/-- A text without words that is not empty is white space, so it ends with it. -/
theorem endsBlank_of_words_eq_nil {c : Char} {cs : List Char} (h : words (c :: cs) = []) :
    endsBlank (c :: cs) = true := by
  induction cs generalizing c with
  | nil =>
    cases hc : isBlank c with
    | false => simp [words_singleton hc] at h
    | true => exact hc
  | cons d cs ih =>
    cases hc : isBlank c with
    | true =>
      rw [words_cons_of_isBlank hc] at h
      rw [endsBlank_cons_of_ne_nil (List.cons_ne_nil d cs), ih h]
    | false =>
      cases hd : isBlank d with
      | true => simp [words_cons_of_ends hc hd] at h
      | false =>
        obtain ⟨w, ws, -, hwords⟩ := words_cons_cons hc hd cs
        simp [hwords] at h

/-! ### What is written -/

/-- Line breaks are white space as well, so that joining lines changes nothing. -/
theorem collapse_joinLines (after : Bool) (cs : List Char) :
    collapse after (joinLines cs) = collapse after cs := by
  induction cs generalizing after with
  | nil => rfl
  | cons c cs ih =>
    rw [joinLines, List.map_cons, ← joinLines]
    by_cases h : c = '\n'
    · subst h
      have hbreak : isBlank '\n' = true := by decide
      rw [if_pos rfl, collapse, collapse, ih, if_pos isBlank_space, if_pos hbreak]
    · rw [if_neg h, collapse, collapse, ih, ih]

theorem toList_cleanup (query : String) : (cleanup query).toList = collapse false query.toList := by
  rw [cleanup, String.toList_ofList, collapse_joinLines]

/-- Words one space apart, with a space before the first and behind the last one or not. -/
def spaced (before : Bool) (ws : List (List Char)) (behind : Bool) : List Char :=
  (if before then [' '] else []) ++ [' '].intercalate ws ++
    if behind && !ws.isEmpty then [' '] else []

theorem spaced_cons_letter (c : Char) (w : List Char) (ws : List (List Char)) (behind : Bool) :
    spaced false ((c :: w) :: ws) behind = c :: spaced false (w :: ws) behind := by
  cases ws with
  | nil => simp [spaced]
  | cons v ws => simp [spaced, List.intercalate_cons_cons]

theorem spaced_cons_word (w : List Char) {ws : List (List Char)} (h : ws ≠ []) (behind : Bool) :
    spaced false (w :: ws) behind = w ++ spaced true ws behind := by
  obtain ⟨v, vs, rfl⟩ := List.exists_cons_of_ne_nil h
  simp [spaced, List.intercalate_cons_cons]

/-- In front of a text, a letter joins its first word, or is a word if white space comes first. -/
theorem spaced_words_cons {c : Char} (hc : isBlank c = false) (cs : List Char) :
    spaced false (words (c :: cs)) (endsBlank (c :: cs)) =
      c :: spaced (startsBlank cs) (words cs) (endsBlank cs) := by
  cases cs with
  | nil => simp [words_singleton hc, spaced, startsBlank, endsBlank, hc]
  | cons d cs =>
    rw [endsBlank_cons_of_ne_nil (List.cons_ne_nil d cs)]
    cases hd : isBlank d with
    | true =>
      have hstarts : startsBlank (d :: cs) = true := hd
      rw [words_cons_of_ends hc hd, hstarts]
      by_cases hwords : words (d :: cs) = []
      · simp [spaced, hwords, endsBlank_of_words_eq_nil hwords]
      · exact spaced_cons_word [c] hwords _
    | false =>
      have hstarts : startsBlank (d :: cs) = false := hd
      obtain ⟨w, ws, hwords, hwords'⟩ := words_cons_cons hc hd cs
      rw [hwords, hwords', hstarts, spaced_cons_letter c]

/-- The words of a text and its ends determine what is written. -/
theorem collapse_eq_spaced (after : Bool) (cs : List Char) :
    collapse after cs = spaced (startsBlank cs && !after) (words cs) (endsBlank cs) := by
  induction cs generalizing after with
  | nil => rfl
  | cons c cs ih =>
    cases hc : isBlank c with
    | true =>
      have hends : (endsBlank (c :: cs) && !(words cs).isEmpty) =
          (endsBlank cs && !(words cs).isEmpty) := by
        cases cs with
        | nil => simp
        | cons d cs => rw [endsBlank_cons_of_ne_nil (List.cons_ne_nil d cs)]
      rw [collapse, if_pos hc, ih, words_cons_of_isBlank hc]
      cases after <;> simp [spaced, startsBlank, hc, hends]
    | false =>
      have hstarts : startsBlank (c :: cs) = false := hc
      rw [collapse, if_neg (Bool.eq_false_iff.mp hc), ih, hstarts, Bool.false_and,
        spaced_words_cons hc, Bool.not_false, Bool.and_true]

theorem spacesOnly_collapse (after : Bool) (cs : List Char) : SpacesOnly (collapse after cs) := by
  induction cs generalizing after with
  | nil => exact fun c hc => absurd hc List.not_mem_nil
  | cons c cs ih =>
    rw [collapse]
    split
    · split
      · exact ih true
      · exact List.forall_mem_cons.mpr ⟨fun _ => rfl, ih true⟩
    · next h => exact List.forall_mem_cons.mpr ⟨fun hc => absurd hc h, ih false⟩

theorem startsBlank_collapse (after : Bool) (cs : List Char) :
    startsBlank (collapse after cs) = (startsBlank cs && !after) := by
  induction cs generalizing after with
  | nil => rfl
  | cons c cs ih =>
    cases hc : isBlank c with
    | true =>
      rw [collapse, if_pos hc]
      cases after with
      | true => simp [ih]
      | false => simp [startsBlank, isBlank_space, hc]
    | false =>
      rw [collapse, if_neg (Bool.eq_false_iff.mp hc)]
      simp [startsBlank, hc]

/-- A space comes first exactly if white space does. -/
theorem head?_eq_space_iff {cs : List Char} (h : SpacesOnly cs) :
    cs.head? = some ' ' ↔ startsBlank cs = true := by
  cases cs with
  | nil => simp [startsBlank]
  | cons c cs =>
    show some c = some ' ' ↔ isBlank c = true
    rw [Option.some.injEq]
    exact ⟨fun hc => hc ▸ isBlank_space, h c List.mem_cons_self⟩

/-- A space comes last exactly if white space does. -/
theorem getLast?_eq_space_iff {cs : List Char} (h : SpacesOnly cs) :
    cs.getLast? = some ' ' ↔ endsBlank cs = true := by
  rw [endsBlank, Option.any_eq_true]
  constructor
  · exact fun hc => ⟨' ', hc, isBlank_space⟩
  · rintro ⟨c, hc, hblank⟩
    rw [hc, h c (List.mem_of_getLast? hc) hblank]

theorem isChain_collapse (after : Bool) (cs : List Char) :
    (collapse after cs).IsChain fun c d => ¬ (c = ' ' ∧ d = ' ') := by
  induction cs generalizing after with
  | nil => exact .nil
  | cons c cs ih =>
    rw [collapse]
    split
    · split
      · exact ih true
      · refine (ih true).cons fun d hd => ?_
        rintro ⟨-, rfl⟩
        have hstarts := (head?_eq_space_iff (spacesOnly_collapse true cs)).mp hd
        rw [startsBlank_collapse, Bool.not_true, Bool.and_false] at hstarts
        cases hstarts
    · next h =>
      refine (ih false).cons fun d _ => ?_
      rintro ⟨rfl, -⟩
      exact h isBlank_space

/-- A text whose only white space are single spaces is written as it is. -/
theorem collapse_eq_self {cs : List Char} {after : Bool} (hspaces : SpacesOnly cs)
    (hsingle : cs.IsChain fun c d => ¬ (c = ' ' ∧ d = ' '))
    (hafter : after = true → startsBlank cs = false) : collapse after cs = cs := by
  induction cs generalizing after with
  | nil => rfl
  | cons c cs ih =>
    obtain ⟨hc, hrest⟩ : (isBlank c = true → c = ' ') ∧ SpacesOnly cs :=
      List.forall_mem_cons.mp hspaces
    obtain ⟨hnext, hchain⟩ := List.isChain_cons.mp hsingle
    cases hblank : isBlank c with
    | true =>
      obtain rfl := hc hblank
      have hstarts : startsBlank cs = false := by
        rw [Bool.eq_false_iff, ne_eq, ← head?_eq_space_iff hrest]
        exact fun hhead => hnext ' ' hhead ⟨rfl, rfl⟩
      have hfirst : after ≠ true := fun h => absurd (hafter h) (by simp [startsBlank, isBlank_space])
      rw [collapse, if_pos hblank, if_neg hfirst, ih hrest hchain fun _ => hstarts]
    | false =>
      rw [collapse, if_neg (Bool.eq_false_iff.mp hblank),
        ih hrest hchain fun h => absurd h Bool.false_ne_true]

theorem collapse_collapse (cs : List Char) : collapse false (collapse false cs) = collapse false cs :=
  collapse_eq_self (spacesOnly_collapse false cs) (isChain_collapse false cs)
    fun h => absurd h Bool.false_ne_true

/-! ### Texts that differ in their white space -/

namespace Respaced

variable {a b a' b' : List Char}

theorem eq_nil_iff (h : Respaced a b) : a = [] ↔ b = [] := by
  cases h with
  | nil => exact Iff.rfl
  | letter _ _ => simp
  | run hs ht _ _ _ => simp [hs, ht]

theorem startsBlank_eq (h : Respaced a b) : startsBlank a = startsBlank b := by
  cases h with
  | nil => rfl
  | letter hc _ => rfl
  | run hs ht hblank hblank' _ =>
    obtain ⟨c, s, rfl⟩ := List.exists_cons_of_ne_nil hs
    obtain ⟨d, t, rfl⟩ := List.exists_cons_of_ne_nil ht
    exact (hblank c List.mem_cons_self).trans (hblank' d List.mem_cons_self).symm

theorem endsBlank_eq (h : Respaced a b) : endsBlank a = endsBlank b := by
  induction h with
  | nil => rfl
  | @letter c a b hc h ih =>
    by_cases ha : a = []
    · rw [ha, h.eq_nil_iff.mp ha]
    · rw [endsBlank_cons_of_ne_nil ha, endsBlank_cons_of_ne_nil (mt h.eq_nil_iff.mpr ha), ih]
  | run hs ht hblank hblank' h ih =>
    rw [endsBlank_append hs hblank, endsBlank_append ht hblank', ih]
    simp only [h.eq_nil_iff]

theorem words_eq (h : Respaced a b) : words a = words b := by
  induction h with
  | nil => rfl
  | @letter c a b hc h ih =>
    cases h with
    | nil => rfl
    | @letter d a b hd h =>
      obtain ⟨w, ws, hwords, hwords'⟩ := words_cons_cons hc hd a
      obtain ⟨v, vs, hv, hv'⟩ := words_cons_cons hc hd b
      rw [hwords, hv] at ih
      obtain ⟨⟨-, rfl⟩, rfl⟩ := ih
      rw [hwords', hv']
    | run hs ht hblank hblank' h =>
      obtain ⟨d, s, rfl⟩ := List.exists_cons_of_ne_nil hs
      obtain ⟨e, t, rfl⟩ := List.exists_cons_of_ne_nil ht
      rw [List.cons_append, List.cons_append, words_cons_of_ends hc (hblank d List.mem_cons_self),
        words_cons_of_ends hc (hblank' e List.mem_cons_self), ← List.cons_append, ih, List.cons_append]
  | run hs ht hblank hblank' _ ih =>
    rw [words_append_of_isBlank hblank, words_append_of_isBlank hblank', ih]

/-- Texts that differ only in their white space are written alike. -/
theorem collapse_eq (h : Respaced a b) : collapse false a = collapse false b := by
  rw [collapse_eq_spaced, collapse_eq_spaced, h.startsBlank_eq, h.words_eq, h.endsBlank_eq]

theorem append (h : Respaced a b) (h' : Respaced a' b') : Respaced (a ++ a') (b ++ b') := by
  induction h with
  | nil => exact h'
  | letter hc _ ih => exact .letter hc ih
  | run hs ht hblank hblank' _ ih =>
    rw [List.append_assoc, List.append_assoc]
    exact .run hs ht hblank hblank' ih

end Respaced

/-- Behind white space, the rest of a run is left out. -/
theorem collapse_true (cs : List Char) :
    collapse true cs = collapse false (cs.dropWhile isBlank) := by
  induction cs with
  | nil => rfl
  | cons c cs ih =>
    cases hc : isBlank c with
    | true => rw [collapse, if_pos hc, if_pos rfl, ih, List.dropWhile_cons_of_pos hc]
    | false =>
      have hc' : ¬ isBlank c = true := Bool.eq_false_iff.mp hc
      rw [List.dropWhile_cons_of_neg hc', collapse, collapse, if_neg hc', if_neg hc']

theorem collapse_cons_of_isBlank {c : Char} (h : isBlank c = true) (cs : List Char) :
    collapse false (c :: cs) = ' ' :: collapse false (cs.dropWhile isBlank) := by
  rw [collapse, if_pos h, if_neg Bool.false_ne_true, collapse_true]

theorem collapse_cons_of_letter {c : Char} (h : isBlank c = false) (cs : List Char) :
    collapse false (c :: cs) = c :: collapse false cs := by
  rw [collapse, if_neg (Bool.eq_false_iff.mp h)]

theorem collapse_cons_ne_nil (c : Char) (cs : List Char) : collapse false (c :: cs) ≠ [] := by
  cases h : isBlank c with
  | true =>
    rw [collapse_cons_of_isBlank h]
    exact List.cons_ne_nil _ _
  | false =>
    rw [collapse_cons_of_letter h]
    exact List.cons_ne_nil _ _

/-- Texts that begin with white space differ only in it if what comes after the first run does. -/
theorem Respaced.of_dropWhile {c d : Char} {a b : List Char} (hc : isBlank c = true)
    (hd : isBlank d = true) (h : Respaced (a.dropWhile isBlank) (b.dropWhile isBlank)) :
    Respaced (c :: a) (d :: b) := by
  have hrun := h.run (List.cons_ne_nil c (a.takeWhile isBlank))
    (List.cons_ne_nil d (b.takeWhile isBlank))
    (List.forall_mem_cons.mpr ⟨hc, fun _ => List.mem_takeWhile_imp⟩)
    (List.forall_mem_cons.mpr ⟨hd, fun _ => List.mem_takeWhile_imp⟩)
  rwa [List.cons_append, List.cons_append, List.takeWhile_append_dropWhile,
    List.takeWhile_append_dropWhile] at hrun

/-- Texts that are written alike differ only in their white space. -/
theorem respaced_of_collapse_eq {a b : List Char} (h : collapse false a = collapse false b) :
    Respaced a b := by
  cases a with
  | nil =>
    cases b with
    | nil => exact .nil
    | cons d b => exact absurd h.symm (collapse_cons_ne_nil d b)
  | cons c a =>
    cases b with
    | nil => exact absurd h (collapse_cons_ne_nil c a)
    | cons d b =>
      cases hc : isBlank c with
      | true =>
        rw [collapse_cons_of_isBlank hc] at h
        cases hd : isBlank d with
        | true =>
          rw [collapse_cons_of_isBlank hd] at h
          have : (a.dropWhile isBlank).length < a.length + 1 :=
            Nat.lt_succ_of_le (List.dropWhile_suffix isBlank).length_le
          exact .of_dropWhile hc hd (respaced_of_collapse_eq (List.cons.inj h).2)
        | false =>
          rw [collapse_cons_of_letter hd] at h
          rw [← (List.cons.inj h).1, isBlank_space] at hd
          cases hd
      | false =>
        rw [collapse_cons_of_letter hc] at h
        cases hd : isBlank d with
        | true =>
          rw [collapse_cons_of_isBlank hd] at h
          rw [(List.cons.inj h).1, isBlank_space] at hc
          cases hc
        | false =>
          rw [collapse_cons_of_letter hd] at h
          obtain ⟨rfl, hrest⟩ := List.cons.inj h
          exact .letter hc (respaced_of_collapse_eq hrest)
termination_by a.length

theorem respaced_collapse (cs : List Char) : Respaced cs (collapse false cs) :=
  respaced_of_collapse_eq (collapse_collapse cs).symm

/-! ### The one-line form -/

theorem oneLineForm_collapse (cs : List Char) : OneLineForm cs (collapse false cs) where
  sameWords := (respaced_collapse cs).words_eq.symm
  spaces := spacesOnly_collapse false cs
  single := isChain_collapse false cs
  starts := by
    rw [head?_eq_space_iff (spacesOnly_collapse false cs), (respaced_collapse cs).startsBlank_eq]
  ends := by
    rw [getLast?_eq_space_iff (spacesOnly_collapse false cs), (respaced_collapse cs).endsBlank_eq]

/-- A query has no one-line form but the one that is written. -/
theorem OneLineForm.eq_collapse {query line : List Char} (h : OneLineForm query line) :
    line = collapse false query := by
  have hstarts : startsBlank line = startsBlank query := by
    rw [Bool.eq_iff_iff, ← head?_eq_space_iff h.spaces]
    exact h.starts
  have hends : endsBlank line = endsBlank query := by
    rw [Bool.eq_iff_iff, ← getLast?_eq_space_iff h.spaces]
    exact h.ends
  have hself : collapse false line = line :=
    collapse_eq_self h.spaces h.single fun h => absurd h Bool.false_ne_true
  calc line = collapse false line := hself.symm
    _ = spaced (startsBlank query && !false) (words query) (endsBlank query) := by
      rw [collapse_eq_spaced, hstarts, h.sameWords, hends]
    _ = collapse false query := (collapse_eq_spaced false query).symm

/-- **Cleaning up gives the canonical one-line form.** It is the only one-line form of a query, and
cleaned-up queries stay as they are. Queries have the same form exactly if they differ only in their
white space, and so they can be cleaned up before they are put together. -/
theorem cleanup_canonical (query : String) :
    (∀ line : String, OneLineForm query.toList line.toList ↔ line = cleanup query) ∧
      cleanup (cleanup query) = cleanup query ∧
      (∀ other : String, cleanup query = cleanup other ↔ Respaced query.toList other.toList) ∧
      ∀ other : String, cleanup (query ++ other) = cleanup (cleanup query ++ cleanup other) := by
  refine ⟨fun line => ⟨fun h => ?_, ?_⟩, ?_, fun other => ⟨fun h => ?_, fun h => ?_⟩, fun other => ?_⟩
  · rw [← String.toList_inj, toList_cleanup]
    exact h.eq_collapse
  · rintro rfl
    rw [toList_cleanup]
    exact oneLineForm_collapse query.toList
  · rw [← String.toList_inj, toList_cleanup, toList_cleanup, collapse_collapse]
  · rw [← String.toList_inj, toList_cleanup, toList_cleanup] at h
    exact respaced_of_collapse_eq h
  · rw [← String.toList_inj, toList_cleanup, toList_cleanup]
    exact h.collapse_eq
  · rw [← String.toList_inj, toList_cleanup, toList_cleanup, String.toList_append,
      String.toList_append, toList_cleanup, toList_cleanup]
    exact ((respaced_collapse _).append (respaced_collapse _)).collapse_eq

/-- A run of different white space, and one at the end. -/
example : cleanup "select\u2028\r\n  1\t" = "select 1 " := by decide

end SqlWeave.QueryLog
