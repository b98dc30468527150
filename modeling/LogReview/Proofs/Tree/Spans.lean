import LogReview.Proofs.Tree.Layout
import LogReview.Proofs.Tree.Preorder
import Mathlib.Data.List.Chain

/-! Trees whose spans are nested and ordered. Document order over such a tree never goes back in the source, neither by
bytes nor by lines, and no more does a walk. -/
namespace LogReview

/-- Lines do not go back where offsets do not. -/
theorem Source.row_le_row (src : Source) {i j : Nat} (h : i ≤ j) : src.row i ≤ src.row j := by
  simp only [row, ByteArray.data_extract, ← Array.count_toList, Array.toList_extract]
  exact (List.take_prefix_take_left (by omega)).sublist.count_le 10

namespace Node
variable {n m : Node}

/-- A node does not end before it starts, its children lie inside it, and each of them ends before the next one starts. -/
structure Ordered (n : Node) : Prop where
  forward : n.start ≤ n.stop
  inside : ∀ c ∈ n.children, n.start ≤ c.start ∧ c.stop ≤ n.stop
  apart : n.children.IsChain fun c e => c.stop ≤ e.start

instance : DecidablePred Ordered := fun n =>
  decidable_of_iff (n.start ≤ n.stop ∧ (∀ c ∈ n.children, n.start ≤ c.start ∧ c.stop ≤ n.stop) ∧
      n.children.IsChain fun c e => c.stop ≤ e.start)
    ⟨fun ⟨forward, inside, apart⟩ => ⟨forward, inside, apart⟩, fun h => ⟨h.forward, h.inside, h.apart⟩⟩

/-- Not only neighbours are apart: a child in between does not end before it starts. -/
theorem pairwise_children (h : n.Every Ordered) : n.children.Pairwise fun c e => c.stop ≤ e.start := by
  have forward : ∀ c ∈ n.children, c.start ≤ c.stop := fun c hc => (h.child hc).here.forward
  have apart := h.here.apart
  generalize n.children = cs at forward apart
  induction cs with
  | nil => exact .nil
  | cons c cs ih =>
    have later := ih (fun e he => forward e (List.mem_cons_of_mem c he)) apart.tail
    refine .cons ?_ later
    intro e he
    cases cs with
    | nil => cases he
    | cons next cs =>
      have step : c.stop ≤ next.start := apart.rel
      rcases List.mem_cons.mp he with rfl | he
      · exact step
      · have := forward next (by simp)
        have := List.rel_of_pairwise_cons later he
        omega

/-- All that a node contains starts inside its span. -/
theorem start_mem_span (h : n.Every Ordered) (hm : m ∈ n.preorder) : n.start ≤ m.start ∧ m.start ≤ n.stop := by
  induction n using induction_on_children with
  | up n ih =>
    rw [preorder_eq] at hm
    rcases List.mem_cons.mp hm with rfl | hm
    · exact ⟨Nat.le_refl _, h.here.forward⟩
    · obtain ⟨c, hc, hm⟩ := List.mem_flatMap.mp hm
      have inside := h.here.inside c hc
      have below := ih c hc (h.child hc) hm
      omega

/-- Document order meets the starts of the nodes in order. -/
theorem pairwise_start_preorder (h : n.Every Ordered) : n.preorder.Pairwise fun m k => m.start ≤ k.start := by
  induction n using induction_on_children with
  | up n ih =>
    have first : ∀ m ∈ n.preorder, n.start ≤ m.start := fun m hm => (start_mem_span h hm).1
    rw [preorder_eq] at first ⊢
    rw [List.pairwise_cons, List.pairwise_flatMap]
    refine ⟨fun m hm => first m (List.mem_cons_of_mem n hm), fun c hc => ih c hc (h.child hc), ?_⟩
    refine (pairwise_children h).imp_of_mem ?_
    intro c e hc he le m hm k hk
    have left := start_mem_span (h.child hc) hm
    have right := start_mem_span (h.child he) hk
    omega

def line (n : Node) (src : Source) : Nat := src.row n.start + 1

/-- So it goes down the lines of the source. -/
theorem pairwise_line_preorder (src : Source) (h : n.Every Ordered) :
    n.preorder.Pairwise fun m k => m.line src ≤ k.line src := by
  refine (pairwise_start_preorder h).imp ?_
  intro m k le
  exact Nat.succ_le_succ (src.row_le_row le)

end Node

theorem Place.pairwise_line_walk (src : Source) {p : Place} (h : p.node.Every Node.Ordered) :
    p.walk.Pairwise fun q r => q.line src ≤ r.line src := by
  have nodes := (Node.pairwise_line_preorder src h).sublist p.walk_sublist_preorder
  rwa [List.pairwise_map] at nodes

end LogReview
