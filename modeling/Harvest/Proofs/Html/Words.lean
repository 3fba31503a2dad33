import Harvest.Proofs.Html.Article

/-!
The words of an element are those of the texts below it, in document order, apart from texts with furniture
around them; the element's text is the one tidy text with these words. An article is read from the first element
with words, by kind and then in the order of opening, which is not always the order of the document.
-/

namespace Harvest.Html

/-- A text with one node more around it. -/
def within (node : Node) (text : List Node × String) : List Node × String := (node :: text.1, text.2)

mutual

/-- The texts of a tree in document order, each with the nodes around it, the outermost first. What stands in a
template is not below it. -/
def Node.texts : Node → List (List Node × String)
  | .text content => [([], content)]
  | .comment | .fragment _ => []
  | .element number name attributes children =>
    (textsOf children).map (within (.element number name attributes children))

def textsOf : List Node → List (List Node × String)
  | [] => []
  | node :: rest => node.texts ++ textsOf rest

end

/-- The words of those texts that have no furniture around them. -/
def shownWords (texts : List (List Node × String)) : List (List Char) :=
  (texts.filter fun text => text.1.all (!·.isFurniture)).flatMap fun text => Text.words text.2.toList

/-- The words below an element. -/
def Node.words (element : Node) : List (List Char) := shownWords (textsOf element.children)

/-- The first element of a kind that has words. -/
def IsFirst (is : Node → Bool) (elements : List Node) (element : Node) : Prop :=
  is element = true ∧ element.words ≠ [] ∧ ∃ front back, elements = front ++ element :: back ∧
    ∀ other ∈ front, is other = true → other.words = []

/-- The element of which the article is read: the first with words of its kind, and none of a better kind has
words. -/
def IsArticle (elements : List Node) (element : Node) : Prop :=
  ∃ better is worse, containers = better ++ is :: worse ∧ IsFirst is elements element ∧
    ∀ kind ∈ better, ∀ other ∈ elements, kind other = true → other.words = []

/-! ### The words of an element -/

theorem shownWords_append (texts more : List (List Node × String)) :
    shownWords (texts ++ more) = shownWords texts ++ shownWords more := by
  rw [shownWords, List.filter_append, List.flatMap_append]
  rfl

theorem shownWords_within (node : Node) (texts : List (List Node × String)) :
    shownWords (texts.map (within node)) = if node.isFurniture then [] else shownWords texts := by
  rw [shownWords, List.filter_map, List.flatMap_map]
  cases furnished : node.isFurniture with
  | true =>
    have hidden : (fun text : List Node × String => text.1.all (!·.isFurniture)) ∘ within node =
        fun _ => false := by
      funext text
      simp [within, furnished]
    rw [hidden, List.filter_false]
    rfl
  | false =>
    have same : (fun text : List Node × String => text.1.all (!·.isFurniture)) ∘ within node =
        fun text => text.1.all (!·.isFurniture) := by
      funext text
      simp [within, furnished]
    rw [same]
    rfl

mutual

theorem Node.words_gather (rest : List Char) : (node : Node) →
    Text.words (node.gather ++ rest) = shownWords node.texts ++ Text.words rest
  | .text content => by
    have own : shownWords [([], content)] = Text.words content.toList := List.append_nil _
    rw [Node.gather, List.append_assoc, List.singleton_append, Text.words_space, Node.texts, own]
  | .comment | .fragment _ => rfl
  | .element number name attributes children => by
    rw [Node.gather, Node.texts, shownWords_within]
    split
    next furnished =>
      rw [if_pos (by exact furnished)]
      rfl
    next kept =>
      rw [if_neg (by exact kept)]
      exact words_gatherAll rest children

theorem words_gatherAll (rest : List Char) : (nodes : List Node) →
    Text.words (gatherAll nodes ++ rest) = shownWords (textsOf nodes) ++ Text.words rest
  | [] => rfl
  | node :: others => by
    rw [gatherAll, textsOf, List.append_assoc, node.words_gather, words_gatherAll rest others,
      shownWords_append, List.append_assoc]

end

theorem Node.words_eq (element : Node) : element.words = Text.words (gatherAll element.children) := by
  have all := words_gatherAll [] element.children
  rw [List.append_nil] at all
  rw [all, Node.words]
  exact (List.append_nil _).symm

theorem containerText_eq (element : Node) :
    containerText element = Text.collapse (String.ofList (gatherAll element.children)) := by
  rw [containerText, Text.collapse, String.toList_ofList]

/-- The text of an element is the only tidy one with its words. -/
theorem tidy_words_iff {element : Node} {text : String} :
    Text.Tidy text ∧ Text.words text.toList = element.words ↔ text = containerText element := by
  constructor
  · rintro ⟨tidy, words⟩
    rw [containerText, ← element.words_eq, ← words]
    exact tidy.symm
  · rintro rfl
    refine ⟨containerText_eq element ▸ Text.tidy_collapse _, ?_⟩
    rw [containerText, String.toList_ofList, Text.words_joinWords_words, element.words_eq]

theorem readableText?_none_iff {element : Node} : readableText? element = none ↔ element.words = [] := by
  rw [readableText?_eq_none_iff, ← Text.words_eq_nil_iff, element.words_eq]

theorem readableText?_some_iff {element : Node} {text : String} :
    readableText? element = some text ↔ element.words ≠ [] ∧ text = containerText element := by
  rw [Ne, ← readableText?_none_iff, readableText?]
  split
  · simp
  · simp [eq_comm]

/-! ### The first element with words -/

/-- The article that is read of elements in some order. -/
def articleIn? (elements : List Node) : Option String :=
  containers.findSome? fun isContainer =>
    elements.findSome? fun e => if isContainer e then readableText? e else none

private theorem kindText_none_iff {is : Node → Bool} {element : Node} :
    (if is element then readableText? element else none) = none ↔ (is element = true → element.words = []) := by
  cases is element <;> simp [readableText?_none_iff]

theorem firstText_some_iff {is : Node → Bool} {elements : List Node} {text : String} :
    (elements.findSome? fun e => if is e then readableText? e else none) = some text ↔
      ∃ element, IsFirst is elements element ∧ text = containerText element := by
  simp only [List.findSome?_eq_some_iff, kindText_none_iff]
  constructor
  · rintro ⟨front, element, back, order, read, before⟩
    split at read
    next holds =>
      obtain ⟨some, rfl⟩ := readableText?_some_iff.mp read
      exact ⟨element, ⟨holds, some, front, back, order, before⟩, rfl⟩
    · cases read
  · rintro ⟨element, ⟨holds, some, front, back, order, before⟩, rfl⟩
    refine ⟨front, element, back, order, ?_, before⟩
    rw [if_pos holds, readableText?_some_iff]
    exact ⟨some, rfl⟩

theorem articleIn?_some_iff {elements : List Node} {text : String} :
    articleIn? elements = some text ↔ ∃ element, IsArticle elements element ∧ text = containerText element := by
  rw [articleIn?, List.findSome?_eq_some_iff]
  simp only [firstText_some_iff, List.findSome?_eq_none_iff, kindText_none_iff]
  constructor
  · rintro ⟨better, is, worse, kinds, ⟨element, first, rfl⟩, none⟩
    exact ⟨element, ⟨better, is, worse, kinds, first, none⟩, rfl⟩
  · rintro ⟨element, ⟨better, is, worse, kinds, first, none⟩, rfl⟩
    exact ⟨better, is, worse, kinds, ⟨element, first, rfl⟩, none⟩

theorem articleIn?_none_iff (elements : List Node) : articleIn? elements = none ↔
    ∀ element ∈ elements, element.isContainer = true → element.words = [] := by
  simp only [articleIn?, List.findSome?_eq_none_iff, kindText_none_iff, Node.isContainer, List.any_eq_true]
  constructor
  · rintro none element member ⟨is, kind, holds⟩
    exact none is kind element member holds
  · intro none is kind element member holds
    exact none element member ⟨is, kind, holds⟩

/-- What is read of elements, fragments and documents, by the words below each element. Elements are gone through
in the order in which they were opened. -/
theorem readings_by_words :
    (∀ (element : Node) (text : String),
      Text.Tidy text ∧ Text.words text.toList = element.words ↔ text = containerText element) ∧
    (∀ (fragment : String), (toText fragment = none ↔ (parseFragment fragment).words = []) ∧
      ∀ text, toText fragment = some text ↔
        (parseFragment fragment).words ≠ [] ∧ text = containerText (parseFragment fragment)) ∧
    ∀ (document : List Node),
      (Node.openedOf document).Perm (Node.elementsOf document) ∧
      (Node.openedOf document).Pairwise (·.number ≤ ·.number) ∧
      (articleText? document = none ↔
        ∀ element ∈ Node.elementsOf document, element.isContainer = true → element.words = []) ∧
      ∀ text, articleText? document = some text ↔
        ∃ element, IsArticle (Node.openedOf document) element ∧ text = containerText element := by
  refine ⟨fun _ _ => tidy_words_iff,
    fun _ => ⟨readableText?_none_iff, fun _ => readableText?_some_iff⟩, fun document => ?_⟩
  have none := articleIn?_none_iff (Node.openedOf document)
  simp only [Node.mem_openedOf] at none
  exact ⟨Node.openedOf_perm document, Node.openedOf_sorted document, none, fun _ => articleIn?_some_iff⟩

/-- The article that stands first in the document need not be the one that is read: what cannot stand in a table
is put in front of it. -/
theorem first_in_document_unread : ¬ ∀ (page text : String), extract page = some text ↔
    ∃ element, IsArticle (Node.elementsOf (parseDocument page)) element ∧ text = containerText element := by
  intro all
  have read := all "<table><tr><td><article>A</article></td></tr><article>B</article></table>" "B"
  rw [← articleIn?_some_iff] at read
  have first : articleIn? (Node.elementsOf (parseDocument
      "<table><tr><td><article>A</article></td></tr><article>B</article></table>")) = some "B" := by
    decide +kernel
  have opened : extract "<table><tr><td><article>A</article></td></tr><article>B</article></table>" = some "A" := by
    decide +kernel
  rw [read.mpr first] at opened
  exact absurd opened (by decide)

end Harvest.Html
