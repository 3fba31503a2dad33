import Harvest.Html.Reader
import Harvest.Proofs.Html.Order
import Harvest.Proofs.Text.Blank
import Mathlib.Data.List.Forall2

/-!
What an article's text depends on. Text below furniture does not count unless an element in between can hold
an article, for then that element is read by itself; and text outside of all such elements does not count
either. All other text counts: there is an article exactly if it has a word.
-/

namespace Harvest.Html

/-- Whether the element can hold an article. -/
def Node.isContainer (element : Node) : Bool := containers.any fun is => is element

/-- Whether the text below is skipped. The fragment in a template counts as furniture. -/
def Node.isFurniture : Node → Bool
  | .element _ name _ _ => furniture.contains name
  | .fragment _ => true
  | _ => false

/-- Whether text below an element is below furniture, given whether the element is. -/
def belowFurniture (hidden : Bool) (element : Node) : Bool := hidden || element.isFurniture

/-- Whether text below an element is out of reach, given whether the element is: whatever can hold an article
brings its own text into reach, and other furniture takes it away. -/
def outOfReach (hidden : Bool) (element : Node) : Bool :=
  !element.isContainer && (hidden || element.isFurniture)

mutual

/-- Whether two trees differ in hidden text only, where a rule says below which elements text is hidden. -/
def Node.alike (hides : Bool → Node → Bool) (hidden : Bool) : Node → Node → Bool
  | .text content, .text content' => hidden || content == content'
  | .comment, .comment => true
  | .fragment children, .fragment children' =>
    allAlike hides (hides hidden (.fragment children)) children children'
  | .element number name attributes children, .element number' name' attributes' children' =>
    number == number' && name == name' && attributes == attributes' &&
      allAlike hides (hides hidden (.element number name attributes children)) children children'
  | _, _ => false

def allAlike (hides : Bool → Node → Bool) (hidden : Bool) : List Node → List Node → Bool
  | [], [] => true
  | node :: rest, node' :: rest' => node.alike hides hidden node' && allAlike hides hidden rest rest'
  | _, _ => false

end

mutual

/-- The texts of a tree that are within reach. -/
def Node.reached (hidden : Bool) : Node → List String
  | .text content => if hidden then [] else [content]
  | .comment => []
  | .fragment children => allReached (outOfReach hidden (.fragment children)) children
  | .element number name attributes children =>
    allReached (outOfReach hidden (.element number name attributes children)) children

def allReached (hidden : Bool) : List Node → List String
  | [] => []
  | node :: rest => node.reached hidden ++ allReached hidden rest

end

/-! ### Text that is out of reach -/

theorem within_container {element : Node} (holds : element.isContainer = true) (hidden : Bool) :
    outOfReach hidden element = false := by
  simp [outOfReach, holds]

theorem fragment_outOfReach (hidden : Bool) (children : List Node) :
    outOfReach hidden (.fragment children) = true := by
  rw [outOfReach, Node.isFurniture, Bool.or_true, Bool.and_true]
  rfl

/-- What is within reach stays so below an element that is no furniture. -/
theorem within_unfurnished {name : String} (kept : ¬ furniture.contains name = true) (number : Nat)
    (attributes : List (String × String)) (children : List Node) :
    outOfReach false (.element number name attributes children) = false := by
  rw [outOfReach, Node.isFurniture, Bool.eq_false_iff.mpr kept, Bool.or_self, Bool.and_false]

mutual

/-- Text that is within reach is read by whatever is around it, down to the next piece of furniture. -/
theorem Node.gather_alike : (node node' : Node) → node.alike outOfReach false node' = true →
    node'.gather = node.gather
  | .text content, .text content', alike => by
    have same : content = content' := by simpa [Node.alike] using alike
    rw [same]
  | .comment, .comment, _ | .fragment _, .fragment _, _ => rfl
  | .element number name attributes children, .element number' name' attributes' children', alike => by
    simp only [Node.alike, Bool.and_eq_true, beq_iff_eq] at alike
    obtain ⟨⟨⟨rfl, rfl⟩, rfl⟩, children_alike⟩ := alike
    rw [Node.gather, Node.gather]
    split
    · rfl
    next kept =>
      rw [within_unfurnished kept] at children_alike
      exact gatherAll_alike children children' children_alike

theorem gatherAll_alike : (nodes nodes' : List Node) → allAlike outOfReach false nodes nodes' = true →
    gatherAll nodes' = gatherAll nodes
  | [], [], _ => rfl
  | node :: rest, node' :: rest', alike => by
    rw [allAlike, Bool.and_eq_true] at alike
    rw [gatherAll, gatherAll, node.gather_alike node' alike.1, gatherAll_alike rest rest' alike.2]

end

/-- An element of the one tree, and the one in its place in the other. -/
structure InPlace (element element' : Node) : Prop where
  number : element'.number = element.number
  kinds : ∀ is ∈ containers, is element' = is element
  text : element.isContainer = true → containerText element' = containerText element

theorem inPlace_of_alike {number : Nat} {name : String} {attributes : List (String × String)}
    {children children' : List Node} {hidden : Bool}
    (alike : allAlike outOfReach (outOfReach hidden (.element number name attributes children))
      children children' = true) :
    InPlace (.element number name attributes children) (.element number name attributes children') where
  number := rfl
  kinds := by
    intro is member
    simp only [containers, List.mem_cons, List.not_mem_nil, or_false] at member
    rcases member with rfl | rfl | rfl | rfl
    all_goals rfl
  text := by
    intro holds
    rw [within_container holds] at alike
    rw [containerText, containerText, Node.children, Node.children, gatherAll_alike children children' alike]

mutual

theorem Node.elements_alike (hidden : Bool) : (node node' : Node) → node.alike outOfReach hidden node' = true →
    List.Forall₂ InPlace node.elements node'.elements
  | .text _, .text _, _ => .nil
  | .comment, .comment, _ => .nil
  | .fragment children, .fragment children', alike => by
    rw [Node.alike] at alike
    exact elementsOf_alike _ children children' alike
  | .element number name attributes children, .element number' name' attributes' children', alike => by
    simp only [Node.alike, Bool.and_eq_true, beq_iff_eq] at alike
    obtain ⟨⟨⟨rfl, rfl⟩, rfl⟩, children_alike⟩ := alike
    exact .cons (inPlace_of_alike children_alike) (elementsOf_alike _ children children' children_alike)

theorem Node.elementsOf_alike (hidden : Bool) : (nodes nodes' : List Node) →
    allAlike outOfReach hidden nodes nodes' = true →
    List.Forall₂ InPlace (Node.elementsOf nodes) (Node.elementsOf nodes')
  | [], [], _ => .nil
  | node :: rest, node' :: rest', alike => by
    rw [allAlike, Bool.and_eq_true] at alike
    exact List.rel_append (node.elements_alike hidden node' alike.1)
      (elementsOf_alike hidden rest rest' alike.2)

end

/-- Elements in their places keep them when all are put in the order of opening. -/
private theorem insertionSort_inPlace {elements elements' : List Node}
    (places : List.Forall₂ InPlace elements elements') :
    List.Forall₂ InPlace (elements.insertionSort fun a b => a.number ≤ b.number)
      (elements'.insertionSort fun a b => a.number ≤ b.number) := by
  induction places with
  | nil => exact .nil
  | cons place _ ih => exact orderedInsert_inPlace place ih
where
  orderedInsert_inPlace {element element' : Node} (place : InPlace element element') {rest rest' : List Node}
      (places : List.Forall₂ InPlace rest rest') :
      List.Forall₂ InPlace (rest.orderedInsert (fun a b => a.number ≤ b.number) element)
        (rest'.orderedInsert (fun a b => a.number ≤ b.number) element') := by
    induction places with
    | nil => exact .cons place .nil
    | cons other others ih =>
      simp only [List.orderedInsert_cons, place.number, other.number]
      split
      · exact .cons place (.cons other others)
      · exact .cons other ih

theorem openedOf_alike {document document' : List Node}
    (alike : allAlike outOfReach true document document' = true) :
    List.Forall₂ InPlace (Node.openedOf document) (Node.openedOf document') := by
  rw [Node.openedOf_eq, Node.openedOf_eq]
  exact insertionSort_inPlace (Node.elementsOf_alike true document document' alike)

private theorem findSome?_inPlace {elements elements' : List Node}
    (places : List.Forall₂ InPlace elements elements')
    {is : Node → Bool} (kind : is ∈ containers) :
    (elements'.findSome? fun e => if is e then readableText? e else none) =
      elements.findSome? fun e => if is e then readableText? e else none := by
  induction places with
  | nil => rfl
  | @cons element element' _ _ place _ ih =>
    have read : (if is element' then readableText? element' else none) =
        if is element then readableText? element else none := by
      rw [place.kinds is kind]
      split
      next holds =>
        rw [readableText?, readableText?, place.text (List.any_eq_true.mpr ⟨is, kind, holds⟩)]
      · rfl
    rw [List.findSome?_cons, List.findSome?_cons, read, ih]

theorem articleText?_alike {document document' : List Node}
    (alike : allAlike outOfReach true document document' = true) :
    articleText? document' = articleText? document := by
  have places := openedOf_alike alike
  rw [articleText?, articleText?, ← List.head?_filterMap, ← List.head?_filterMap]
  exact congrArg List.head? (List.filterMap_congr fun is kind => findSome?_inPlace places kind)

/-! ### Text that is within reach -/

mutual

/-- A letter that is read stands in a text within reach. -/
theorem Node.reached_of_mem_gather {c : Char} (letter : Text.isBlank c = false) : (node : Node) →
    c ∈ node.gather → ∃ text ∈ node.reached false, c ∈ text.toList
  | .text content, member => by
    rw [Node.gather, List.mem_append, List.mem_singleton] at member
    rcases member with inside | rfl
    · exact ⟨content, List.mem_singleton_self content, inside⟩
    · exact absurd letter (by decide)
  | .element number name attributes children, member => by
    rw [Node.gather] at member
    split at member
    · cases member
    next kept =>
      rw [Node.reached, within_unfurnished kept]
      exact reached_of_mem_gatherAll letter children member

theorem reached_of_mem_gatherAll {c : Char} (letter : Text.isBlank c = false) : (nodes : List Node) →
    c ∈ gatherAll nodes → ∃ text ∈ allReached false nodes, c ∈ text.toList
  | node :: rest, member => by
    rw [gatherAll, List.mem_append] at member
    rw [allReached]
    rcases member with here | later
    · obtain ⟨text, reached, inside⟩ := node.reached_of_mem_gather letter here
      exact ⟨text, List.mem_append_left _ reached, inside⟩
    · obtain ⟨text, reached, inside⟩ := reached_of_mem_gatherAll letter rest later
      exact ⟨text, List.mem_append_right _ reached, inside⟩

end

mutual

/-- Whatever is within reach of an element that can hold an article is within reach in the whole tree. -/
theorem Node.reached_of_elements {element : Node} (holds : element.isContainer = true) {text : String}
    (reached : text ∈ allReached false element.children) (hidden : Bool) : (node : Node) →
    element ∈ node.elements → text ∈ node.reached hidden
  | .fragment children, member => by
    rw [Node.elements] at member
    rw [Node.reached]
    exact reached_of_elementsOf holds reached _ children member
  | .element number name attributes children, member => by
    rw [Node.elements, List.mem_cons] at member
    rw [Node.reached]
    rcases member with same | below
    · subst same
      rw [within_container holds]
      exact reached
    · exact reached_of_elementsOf holds reached _ children below

theorem Node.reached_of_elementsOf {element : Node} (holds : element.isContainer = true) {text : String}
    (reached : text ∈ allReached false element.children) (hidden : Bool) : (nodes : List Node) →
    element ∈ Node.elementsOf nodes → text ∈ allReached hidden nodes
  | node :: rest, member => by
    rw [Node.elementsOf, List.mem_append] at member
    rw [allReached]
    rcases member with here | later
    · exact List.mem_append_left _ (Node.reached_of_elements holds reached hidden node here)
    · exact List.mem_append_right _ (reached_of_elementsOf holds reached hidden rest later)

end

mutual

/-- A text within reach is read with the node, if that is not hidden, or with an element below it that can
hold an article. -/
theorem Node.read_of_reached {text : String} (hidden : Bool) : (node : Node) → text ∈ node.reached hidden →
    (hidden = false ∧ ∀ c ∈ text.toList, c ∈ node.gather) ∨
    ∃ element ∈ node.elements, element.isContainer = true ∧ ∀ c ∈ text.toList, c ∈ gatherAll element.children
  | .text content, reached => by
    rw [Node.reached] at reached
    split at reached
    · cases reached
    next shown =>
      rw [List.mem_singleton.mp reached]
      exact Or.inl ⟨Bool.eq_false_iff.mpr shown, fun c inside => List.mem_append_left _ inside⟩
  | .fragment children, reached => by
    rw [Node.reached] at reached
    rcases read_of_allReached _ children reached with ⟨within, -⟩ | ⟨element, below, holds, read⟩
    · exact absurd within (by rw [fragment_outOfReach]; decide)
    · exact Or.inr ⟨element, below, holds, read⟩
  | .element number name attributes children, reached => by
    rw [Node.reached] at reached
    rw [Node.elements]
    rcases read_of_allReached _ children reached with ⟨within, read⟩ | ⟨element, below, holds, read⟩
    · cases holds : (Node.element number name attributes children).isContainer with
      | true => exact Or.inr ⟨_, List.mem_cons_self, holds, read⟩
      | false =>
        simp only [outOfReach, holds, Node.isFurniture, Bool.not_false, Bool.true_and,
          Bool.or_eq_false_iff] at within
        refine Or.inl ⟨within.1, ?_⟩
        rw [Node.gather, if_neg (Bool.eq_false_iff.mp within.2)]
        exact read
    · exact Or.inr ⟨element, List.mem_cons_of_mem _ below, holds, read⟩

theorem read_of_allReached {text : String} (hidden : Bool) : (nodes : List Node) →
    text ∈ allReached hidden nodes →
    (hidden = false ∧ ∀ c ∈ text.toList, c ∈ gatherAll nodes) ∨
    ∃ element ∈ Node.elementsOf nodes, element.isContainer = true ∧
      ∀ c ∈ text.toList, c ∈ gatherAll element.children
  | node :: rest, reached => by
    rw [allReached, List.mem_append] at reached
    rw [gatherAll, Node.elementsOf]
    rcases reached with here | later
    · rcases node.read_of_reached hidden here with ⟨shown, read⟩ | ⟨element, below, holds, read⟩
      · exact Or.inl ⟨shown, fun c inside => List.mem_append_left _ (read c inside)⟩
      · exact Or.inr ⟨element, List.mem_append_left _ below, holds, read⟩
    · rcases read_of_allReached hidden rest later with ⟨shown, read⟩ | ⟨element, below, holds, read⟩
      · exact Or.inl ⟨shown, fun c inside => List.mem_append_right _ (read c inside)⟩
      · exact Or.inr ⟨element, List.mem_append_right _ below, holds, read⟩

end

theorem readableText?_eq_none_iff {element : Node} :
    readableText? element = none ↔ ∀ c ∈ gatherAll element.children, Text.isBlank c = true := by
  have empty : (containerText element).isEmpty = true ↔
      Text.joinWords (Text.words (gatherAll element.children)) = [] := by
    rw [String.isEmpty_iff, containerText, ← String.toList_eq_nil_iff, String.toList_ofList]
  rw [← Text.joinWords_words_eq_nil_iff, ← empty, readableText?]
  split
  next none => exact iff_of_true rfl none
  next some => exact iff_of_false (Option.some_ne_none _) some

theorem articleText?_eq_none_iff {document : List Node} : articleText? document = none ↔
    ∀ element ∈ Node.elementsOf document, element.isContainer = true →
      ∀ c ∈ gatherAll element.children, Text.isBlank c = true := by
  simp only [articleText?, List.findSome?_eq_none_iff, Node.mem_openedOf, Node.isContainer,
    List.any_eq_true]
  constructor
  · rintro none element member ⟨is, kind, holds⟩
    have unread := none is kind element member
    rw [if_pos holds] at unread
    exact readableText?_eq_none_iff.mp unread
  · intro blank is kind element member
    split
    next holds => exact readableText?_eq_none_iff.mpr (blank element member ⟨is, kind, holds⟩)
    · rfl

/-- Documents that differ only in text out of reach have the same article text, and a document has none exactly
if all text within reach is blank. -/
theorem article_depends_on_reached (document : List Node) :
    (∀ document', allAlike outOfReach true document document' = true →
      articleText? document' = articleText? document) ∧
    (articleText? document = none ↔ ∀ text ∈ allReached true document, Text.isBlankText text = true) := by
  refine ⟨fun document' alike => articleText?_alike alike, ?_⟩
  simp only [articleText?_eq_none_iff, Text.isBlankText, List.all_eq_true]
  constructor
  · intro blank text reached c inside
    rcases read_of_allReached true document reached with ⟨shown, -⟩ | ⟨element, below, holds, read⟩
    · cases shown
    · exact blank element below holds c (read c inside)
  · intro blank element below holds c member
    by_contra letter
    obtain ⟨text, reached, inside⟩ := reached_of_mem_gatherAll (Bool.eq_false_iff.mpr letter) _ member
    exact letter (blank text (Node.reached_of_elementsOf holds reached true document below) c inside)

/-- A menu inside the story is out of reach, and so is the title. -/
theorem article_depends_on_reached_menu :
    let page (menu : String) :=
      "<title>" ++ menu ++ "</title><article>Story<nav><form>" ++ menu ++ "</form></nav></article>"
    allAlike outOfReach true (parseDocument (page "Menu")) (parseDocument (page "Offers")) = true ∧
      extract (page "Offers") = extract (page "Menu") ∧ extract (page "Menu") = some "Story" := by
  intro page
  have alike : allAlike outOfReach true (parseDocument (page "Menu")) (parseDocument (page "Offers")) = true := by
    decide +kernel
  exact ⟨alike, (article_depends_on_reached (parseDocument (page "Menu"))).1 _ alike, by decide +kernel⟩

/-- Text below furniture is read where an element in between can hold an article. -/
theorem menu_article_read :
    let page (menu : String) := "<nav><article>" ++ menu ++ "</article></nav>"
    allAlike belowFurniture false (parseDocument (page "Menu")) (parseDocument (page "Offers")) = true ∧
      extract (page "Menu") = some "Menu" ∧ extract (page "Offers") = some "Offers" := by
  decide +kernel

end Harvest.Html
