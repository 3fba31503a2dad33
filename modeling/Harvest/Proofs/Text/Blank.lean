import Harvest.Text.Blank
import Mathlib.Tactic.Common

/-!
Words of a text. Splitting a text gives words, and splitting words that were joined gives these words back;
so the collapse of a text is tidy.
-/

namespace Harvest.Text

/-- A stretch without a blank, and not an empty one. -/
structure IsWord (word : List Char) : Prop where
  some : word ≠ []
  unbroken : ∀ c ∈ word, isBlank c = false

/-- What is not blank joins the word that was begun. -/
private theorem wordsFrom_append {stretch : List Char} (unbroken : ∀ c ∈ stretch, isBlank c = false)
    (pending rest : List Char) :
    wordsFrom pending (stretch ++ rest) = wordsFrom (stretch.reverse ++ pending) rest := by
  induction stretch generalizing pending with
  | nil => rfl
  | cons c stretch ih =>
    have letter : isBlank c = false := unbroken c List.mem_cons_self
    have onward := ih (fun c member => unbroken c (List.mem_cons_of_mem _ member)) (c :: pending)
    rw [List.cons_append, wordsFrom, if_neg (by rw [letter]; decide), onward, List.reverse_cons,
      List.append_assoc]
    rfl

private theorem words_end {word : List Char} (is : IsWord word) : words word = [word] := by
  have whole := wordsFrom_append is.unbroken [] []
  rw [List.append_nil, List.append_nil] at whole
  rw [words, whole, wordsFrom, if_neg (by simp [is.some]), List.reverse_reverse]

/-- A space ends the word that was begun. -/
private theorem wordsFrom_space (pending front back : List Char) :
    wordsFrom pending (front ++ ' ' :: back) = wordsFrom pending front ++ words back := by
  have blank : isBlank ' ' = true := by decide
  induction front generalizing pending with
  | nil =>
    rw [List.nil_append, wordsFrom, wordsFrom, if_pos blank]
    split
    · rfl
    · rfl
  | cons c front ih =>
    rw [List.cons_append, wordsFrom, wordsFrom, ih, ih]
    split
    · split
      · rfl
      · rfl
    · rfl

/-- Texts with a space between them have the words of the one and those of the other. -/
theorem words_space (front back : List Char) : words (front ++ ' ' :: back) = words front ++ words back :=
  wordsFrom_space [] front back

theorem words_joinWords {ws : List (List Char)} (are : ∀ word ∈ ws, IsWord word) :
    words (joinWords ws) = ws := by
  induction ws with
  | nil => rfl
  | cons word rest ih =>
    have is := are word List.mem_cons_self
    cases rest with
    | nil => exact words_end is
    | cons next rest =>
      rw [joinWords, words_space, words_end is,
        ih fun word member => are word (List.mem_cons_of_mem _ member)]
      · rfl
      · exact fun none => nomatch none

private theorem isWord_reverse {pending : List Char} (some : ¬ pending.isEmpty = true)
    (unbroken : ∀ c ∈ pending, isBlank c = false) : IsWord pending.reverse :=
  ⟨by simpa using some, fun c inside => unbroken c (List.mem_reverse.mp inside)⟩

private theorem isWord_of_wordsFrom {text pending word : List Char}
    (unbroken : ∀ c ∈ pending, isBlank c = false) (member : word ∈ wordsFrom pending text) : IsWord word := by
  induction text generalizing pending with
  | nil =>
    rw [wordsFrom] at member
    split at member
    · cases member
    next some =>
      rw [List.mem_singleton.mp member]
      exact isWord_reverse some unbroken
  | cons c rest ih =>
    rw [wordsFrom] at member
    split at member
    · split at member
      · exact ih (List.forall_mem_nil _) member
      next some =>
        rcases List.mem_cons.mp member with rfl | later
        · exact isWord_reverse some unbroken
        · exact ih (List.forall_mem_nil _) later
    next letter =>
      exact ih (List.forall_mem_cons.mpr ⟨Bool.eq_false_iff.mpr letter, unbroken⟩) member

theorem isWord_of_mem_words {text word : List Char} (member : word ∈ words text) : IsWord word :=
  isWord_of_wordsFrom (List.forall_mem_nil _) member

theorem words_joinWords_words (text : List Char) : words (joinWords (words text)) = words text :=
  words_joinWords fun _ => isWord_of_mem_words

private theorem wordsFrom_eq_nil_iff {pending text : List Char} :
    wordsFrom pending text = [] ↔ pending = [] ∧ ∀ c ∈ text, isBlank c = true := by
  induction text generalizing pending with
  | nil => simp [wordsFrom]
  | cons c rest ih =>
    rw [wordsFrom, List.forall_mem_cons]
    split
    next blank =>
      split
      next none => simp [ih, blank, List.isEmpty_iff.mp none]
      next some => simp [List.isEmpty_iff.not.mp some]
    next letter => simp [ih, letter]

/-- A text has no words exactly if it is all blanks. -/
theorem words_eq_nil_iff {text : List Char} : words text = [] ↔ ∀ c ∈ text, isBlank c = true := by
  rw [words, wordsFrom_eq_nil_iff, and_iff_right rfl]

theorem joinWords_words_eq_nil_iff {text : List Char} :
    joinWords (words text) = [] ↔ ∀ c ∈ text, isBlank c = true := by
  rw [← words_eq_nil_iff]
  constructor
  · intro none
    have again := words_joinWords_words text
    rw [none] at again
    exact again.symm
  · intro none
    rw [none]
    rfl

/-- Collapsing a text once more changes nothing. -/
theorem tidy_collapse (text : String) : Tidy (collapse text) := by
  unfold Tidy collapse
  rw [String.toList_ofList, words_joinWords_words]

/-- A text that has words, and nothing but single spaces between them. -/
structure Neat (text : String) : Prop where
  some : text ≠ ""
  tidy : Tidy text

theorem neat_collapse {text : String} (some : ¬ (collapse text).isEmpty = true) : Neat (collapse text) where
  some none := some (by rw [none]; rfl)
  tidy := tidy_collapse text

end Harvest.Text
