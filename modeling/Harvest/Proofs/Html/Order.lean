import Harvest.Html.Node
import Mathlib.Data.List.Sort

/-!
Elements in the order in which they were opened: all elements of a document, and those opened earlier come first.
-/

namespace Harvest.Html.Node

theorem insertOpened_eq (element : Node) (rest : List Node) :
    insertOpened element rest = rest.orderedInsert (fun a b => a.number ≤ b.number) element := by
  induction rest with
  | nil => rfl
  | cons other rest ih => rw [insertOpened, List.orderedInsert_cons, ih]

theorem openedOf_eq (nodes : List Node) :
    openedOf nodes = (elementsOf nodes).insertionSort fun a b => a.number ≤ b.number := by
  rw [openedOf, funext₂ insertOpened_eq]
  rfl

theorem openedOf_perm (nodes : List Node) : (openedOf nodes).Perm (elementsOf nodes) := by
  rw [openedOf_eq]
  exact List.perm_insertionSort _ _

theorem openedOf_sorted (nodes : List Node) : (openedOf nodes).Pairwise (·.number ≤ ·.number) := by
  have total : Std.Total fun a b : Node => a.number ≤ b.number := ⟨fun a b => Nat.le_total a.number b.number⟩
  have trans : IsTrans Node fun a b => a.number ≤ b.number := ⟨fun _ _ _ => Nat.le_trans⟩
  rw [openedOf_eq]
  exact List.pairwise_insertionSort _ _

theorem mem_openedOf {nodes : List Node} {element : Node} :
    element ∈ openedOf nodes ↔ element ∈ elementsOf nodes :=
  (openedOf_perm nodes).mem_iff

end Harvest.Html.Node
