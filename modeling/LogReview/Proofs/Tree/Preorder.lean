import LogReview.Proofs.Tree.Chain
import Mathlib.Data.List.Flatten
import Mathlib.Logic.Relation

/-! All nodes of a tree in document order: a node before what is below it, and what is below one child before the next
child. Every child counts, named or not, comment or not; a walk meets a part of them in the same order. -/
namespace LogReview

/-- What a recursion over children lists is what one gets to by going down from children to children. -/
theorem mem_iff_reflTransGen {α : Type} {children below : α → List α} (wf : WellFounded fun c x => c ∈ children x)
    (below_eq : ∀ x, below x = x :: (children x).flatMap below) (x y : α) :
    y ∈ below x ↔ Relation.ReflTransGen (fun x c => c ∈ children x) x y := by
  induction x using wf.induction with
  | h x ih =>
    rw [below_eq, List.mem_cons, List.mem_flatMap, Relation.ReflTransGen.cases_head_iff, eq_comm]
    apply or_congr_right
    constructor
    · rintro ⟨c, hc, h⟩
      exact ⟨c, hc, (ih c hc).mp h⟩
    · rintro ⟨c, hc, h⟩
      exact ⟨c, hc, (ih c hc).mpr h⟩

namespace Node
variable {n m : Node}

mutual

/-- The node and all that is below it. -/
def preorder : Node → List Node
  | mk l cs => mk l cs :: preorders cs

def preorders : List Node → List Node
  | [] => []
  | n :: ns => n.preorder ++ preorders ns

end

theorem preorders_eq (ns : List Node) : preorders ns = ns.flatMap preorder := by
  induction ns with
  | nil => rfl
  | cons n ns ih => rw [preorders, ih, List.flatMap_cons]

theorem preorder_eq (n : Node) : n.preorder = n :: n.children.flatMap preorder := by
  cases n
  rw [preorder, preorders_eq, children_mk]

/-- One gets from `n` to `m` by going down from nodes to children. -/
def Contains : Node → Node → Prop := Relation.ReflTransGen fun n c => c ∈ n.children

theorem mem_preorder_iff : m ∈ n.preorder ↔ n.Contains m :=
  mem_iff_reflTransGen (Subrelation.wf size_lt_of_mem (measure size).wf) preorder_eq n m

end Node

/-- A walk passes over some nodes and keeps the order of the others. -/
theorem Place.walk_sublist_preorder (p : Place) : (p.walk.map (·.node)).Sublist p.node.preorder := by
  induction p using induction_on_children with
  | up p ih =>
    have shown : (p.children.map (·.node)).Sublist p.node.children := by
      rw [map_node_children]
      exact List.filter_sublist
    have below : ((p.children.flatMap walk).map (·.node)).Sublist ((p.children.map (·.node)).flatMap Node.preorder) := by
      rw [List.map_flatMap, List.flatMap_map]
      exact List.Sublist.flatMap_right _ ih
    rw [walk_eq, Node.preorder_eq, List.map_cons]
    exact (below.trans (shown.flatMap _)).cons_cons p.node

end LogReview
