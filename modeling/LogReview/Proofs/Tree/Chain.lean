import LogReview.Proofs.Tree.Walk
import Mathlib.Data.List.Perm.Basic

/-! Down and up in a tree. All that is met on the ways down from the places of a walk is met on the ways up from
them, each pair of places once; and every place of a walk but the first is a child of just one of them. -/
namespace LogReview

theorem flatMap_swap_perm {α β γ : Type} (xs : List α) (ys : List β) (f : α → β → List γ) :
    (xs.flatMap fun x => ys.flatMap (f x)).Perm (ys.flatMap fun y => xs.flatMap (f · y)) := by
  induction xs with
  | nil => simp
  | cons x xs ih =>
    simp only [List.flatMap_cons]
    exact (ih.append_left _).trans (List.flatMap_append_perm ys _ _)

namespace Place
variable {p q r : Place}

theorem ancestors_of_mem_allChildren (h : q ∈ p.allChildren) : q.ancestors = p :: p.ancestors := by
  obtain ⟨i, above⟩ := exists_index_of_mem_allChildren h
  rw [ancestors, above]
  rfl

theorem ancestors_of_mem_children (h : q ∈ p.children) : q.ancestors = p :: p.ancestors :=
  ancestors_of_mem_allChildren (List.mem_of_mem_filter h)

theorem node_mem_of_mem_children (h : q ∈ p.children) : q.node ∈ p.node.children := by
  rw [← p.map_node_allChildren]
  exact List.mem_map_of_mem (List.mem_of_mem_filter h)

theorem size_lt_of_mem_children (h : q ∈ p.children) : q.node.size < p.node.size :=
  Node.size_lt_of_mem (node_mem_of_mem_children h)

/-- What the children hand up holds of the place, and so of all places. -/
theorem induction_on_children {P : Place → Prop} (p : Place) (up : ∀ p, (∀ c ∈ p.children, P c) → P p) : P p :=
  up p fun c _ => induction_on_children c up
termination_by p.node.size
decreasing_by exact size_lt_of_mem_children ‹_›

theorem mem_walk_self (p : Place) : p ∈ p.walk := by
  rw [walk_eq]
  exact List.mem_cons_self

theorem mem_walk_of_mem_children (h : q ∈ p.children) (hr : r ∈ q.walk) : r ∈ p.walk := by
  rw [walk_eq]
  exact List.mem_cons_of_mem p (List.mem_flatMap.mpr ⟨q, h, hr⟩)

theorem mem_walk_trans (hq : q ∈ p.walk) (hr : r ∈ q.walk) : r ∈ p.walk := by
  induction p using induction_on_children with
  | up p ih =>
    rw [walk_eq] at hq
    rcases List.mem_cons.mp hq with rfl | hq
    · exact hr
    · obtain ⟨c, hc, hq⟩ := List.mem_flatMap.mp hq
      exact mem_walk_of_mem_children hc (ih c hc hq)

/-- Each place of a walk is where it starts or a child of another one. -/
theorem walk_perm_children (p : Place) : p.walk.Perm (p :: p.walk.flatMap children) := by
  induction p using induction_on_children with
  | up p ih =>
    have below : (p.children.flatMap walk).Perm
        (p.children ++ p.children.flatMap fun c => c.walk.flatMap children) := by
      refine (List.Perm.flatMap_left _ ih).trans ?_
      simpa using (List.map_append_flatMap_perm p.children id fun c => c.walk.flatMap children).symm
    rw [walk_eq, List.flatMap_cons, List.flatMap_assoc]
    exact below.cons p

/-- To go through the children of all places is to go through all places but the first. -/
theorem flatMap_walk_perm {α : Type} (p : Place) {g : Place → List α} (h : g p = []) :
    (p.walk.flatMap g).Perm (p.walk.flatMap fun q => q.children.flatMap g) := by
  have children := p.walk_perm_children.flatMap_right g
  rwa [List.flatMap_cons, h, List.nil_append, List.flatMap_assoc] at children

/-- The ways up from the places below `p` are the ways down from those places, and the ways that come from above. -/
theorem flatMap_ancestors_perm {α : Type} (f : Place → Place → List α) (p : Place) :
    (p.walk.flatMap fun c => (c :: c.ancestors).flatMap (f · c)).Perm
      ((p.walk.flatMap fun b => b.walk.flatMap (f b)) ++ p.ancestors.flatMap fun b => p.walk.flatMap (f b)) := by
  induction p using induction_on_children with
  | up p ih =>
    let within := p.children.flatMap fun q => q.walk.flatMap fun b => b.walk.flatMap (f b)
    let through (b : Place) := p.children.flatMap fun q => q.walk.flatMap (f b)
    have walks (b : Place) : p.walk.flatMap (f b) = f b p ++ through b := by
      rw [walk_eq, List.flatMap_cons, List.flatMap_assoc]
    have downs : (p.walk.flatMap fun b => b.walk.flatMap (f b)) = p.walk.flatMap (f p) ++ within := by
      rw [walk_eq, List.flatMap_cons, List.flatMap_assoc, ← walk_eq]
    -- What comes from above a child comes from `p` or from above `p`.
    have below : (p.children.flatMap fun q => q.walk.flatMap fun c => (c :: c.ancestors).flatMap (f · c)).Perm
        (within ++ (p :: p.ancestors).flatMap through) := by
      refine (List.Perm.flatMap_left _ ih).trans ?_
      refine (List.flatMap_append_perm _ _ _).symm.trans (List.Perm.append_left _ ?_)
      refine (List.Perm.of_eq ?_).trans (flatMap_swap_perm p.children (p :: p.ancestors) _)
      exact List.flatMap_congr fun q hq => by rw [ancestors_of_mem_children hq]
    calc p.walk.flatMap (fun c => (c :: c.ancestors).flatMap (f · c))
      _ = (p :: p.ancestors).flatMap (f · p) ++
            p.children.flatMap fun q => q.walk.flatMap fun c => (c :: c.ancestors).flatMap (f · c) := by
          rw [walk_eq, List.flatMap_cons, List.flatMap_assoc]
      List.Perm _ ((p :: p.ancestors).flatMap (f · p) ++ (within ++ (p :: p.ancestors).flatMap through)) :=
          below.append_left _
      List.Perm _ (within ++ ((p :: p.ancestors).flatMap (f · p) ++ (p :: p.ancestors).flatMap through)) :=
          List.perm_append_comm_assoc _ _ _
      List.Perm _ (within ++ (p :: p.ancestors).flatMap fun b => p.walk.flatMap (f b)) := by
          simp only [walks]
          exact (List.flatMap_append_perm _ _ _).append_left _
      List.Perm _ ((p.walk.flatMap fun b => b.walk.flatMap (f b)) ++
          p.ancestors.flatMap fun b => p.walk.flatMap (f b)) := by
          rw [downs, List.flatMap_cons, List.append_assoc]
          exact List.perm_append_comm_assoc _ _ _

/-- In a whole tree nothing comes from above. -/
theorem flatMap_ancestors_root_perm {α : Type} (f : Place → Place → List α) (n : Node) :
    ((root n).walk.flatMap fun c => (c :: c.ancestors).flatMap (f · c)).Perm
      ((root n).walk.flatMap fun b => b.walk.flatMap (f b)) := by
  simpa [root, ancestors, climb] using flatMap_ancestors_perm f (root n)

end Place
end LogReview
