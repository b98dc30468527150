import LogReview.Proofs.Tree.Descent
import Mathlib.Data.List.Nodup

/-! What is inside a place. No two places of a walk have the same way up, so each stands there once; and the walk of a
place is the part of the whole walk that has the place on its way up. -/
namespace LogReview

mutual

instance Node.decidableEq : (n m : Node) → Decidable (n = m)
  | .mk l cs, .mk k ds =>
    have := Node.decidableEqList cs ds
    decidable_of_iff (l = k ∧ cs = ds) (by simp)

instance Node.decidableEqList : (cs ds : List Node) → Decidable (cs = ds)
  | [], [] => .isTrue rfl
  | c :: cs, d :: ds =>
    have := Node.decidableEq c d
    have := Node.decidableEqList cs ds
    decidable_of_iff (c = d ∧ cs = ds) (by simp)
  | [], _ :: _ => .isFalse (by simp)
  | _ :: _, [] => .isFalse (by simp)

end

namespace Place
variable {a c e m p q : Place} {n : Node}

instance : DecidableEq Place := fun p q =>
  decidable_of_iff (p.node = q.node ∧ p.above = q.above) (by cases p; cases q; simp)

/-! ### Each place once -/

/-- Children may have equal nodes, but not the same number. -/
theorem nodup_children (p : Place) : p.children.Nodup := by
  have numbers : p.node.children.zipIdx.Pairwise fun x y => x.2 ≠ y.2 := by
    rw [← List.pairwise_map, List.zipIdx_map_snd]
    exact List.nodup_range'
  have all : p.allChildren.Nodup := by
    rw [allChildren, List.Nodup, List.pairwise_map]
    refine numbers.imp ?_
    intro x y different same
    have above := congrArg Place.above same
    exact different (by simpa [down] using above)
  exact all.sublist List.filter_sublist

/-- The way up from a place of a walk goes through the place where the walk starts. -/
theorem ancestors_isSuffix (h : q ∈ p.walk) : p :: p.ancestors <:+ q :: q.ancestors := by
  induction p using induction_on_children with
  | up p ih =>
    rw [walk_eq] at h
    rcases List.mem_cons.mp h with rfl | h
    · exact List.suffix_refl _
    · obtain ⟨c, hc, h⟩ := List.mem_flatMap.mp h
      have through := ih c hc h
      rw [ancestors_of_mem_children hc] at through
      exact (List.suffix_cons c _).trans through

theorem notMem_walk_of_mem_children (h : c ∈ p.children) : p ∉ c.walk := by
  intro below
  have length := (ancestors_isSuffix below).length_le
  rw [ancestors_of_mem_children h, List.length_cons, List.length_cons] at length
  omega

/-- The walks of two children have no place in common. -/
theorem eq_of_mem_walks (hc : c ∈ p.children) (he : e ∈ p.children) (h : q ∈ c.walk) (h' : q ∈ e.walk) : c = e := by
  have left := ancestors_isSuffix h
  have right := ancestors_isSuffix h'
  rw [ancestors_of_mem_children hc] at left
  rw [ancestors_of_mem_children he] at right
  have same := List.suffix_of_suffix_length_le left right (by simp)
  exact (List.cons.inj (same.eq_of_length (by simp))).1

theorem nodup_walk (p : Place) : p.walk.Nodup := by
  induction p using induction_on_children with
  | up p ih =>
    rw [walk_eq, List.nodup_cons, List.nodup_flatMap]
    refine ⟨?_, ih, p.nodup_children.imp_of_mem ?_⟩
    · intro again
      obtain ⟨c, hc, h⟩ := List.mem_flatMap.mp again
      exact notMem_walk_of_mem_children hc h
    · intro c e hc he different q h h'
      exact different (eq_of_mem_walks hc he h h')

theorem nodup_findAll (p : Place) (k : Kind) : (p.findAll k).Nodup := p.nodup_walk.filter _

/-! ### Inside and above -/

/-- In a whole tree, to be inside a place is to have it on the way up. -/
theorem mem_walk_iff (hc : c ∈ (root n).walk) : c ∈ m.walk ↔ m ∈ c :: c.ancestors := by
  constructor
  · intro inside
    exact (ancestors_isSuffix inside).subset List.mem_cons_self
  · intro above
    rcases List.mem_cons.mp above with rfl | above
    · exact m.mem_walk_self
    · exact (mem_walk_root hc above).2

/-- The walk of a place, picked out of the whole walk by the ways up. -/
theorem filter_walk_root (hm : m ∈ (root n).walk) : ((root n).walk.filter fun c => m ∈ c :: c.ancestors) = m.walk := by
  have inside : ((root n).walk.filter fun c => m ∈ c :: c.ancestors) = (root n).walk.filter (· ∈ m.walk) := by
    apply List.filter_congr
    intro c hc
    rw [decide_eq_decide, mem_walk_iff hc]
  obtain ⟨before, after, split⟩ := walk_isInfix hm
  have nodup := nodup_walk (root n)
  rw [← split, List.nodup_append, List.nodup_append] at nodup
  obtain ⟨⟨_, _, behind⟩, _, ahead⟩ := nodup
  have none_before : before.filter (· ∈ m.walk) = [] := by
    apply List.filter_eq_nil_iff.mpr
    intro c hc again
    exact behind c hc c (of_decide_eq_true again) rfl
  have none_after : after.filter (· ∈ m.walk) = [] := by
    apply List.filter_eq_nil_iff.mpr
    intro c hc again
    exact ahead c (List.mem_append_right _ (of_decide_eq_true again)) c hc rfl
  rw [inside, ← split, List.filter_append, List.filter_append, none_before, none_after]
  simp

/-- The way up from a place goes on as it does from each place on it. -/
theorem ancestors_isSuffix_of_mem (h : a ∈ p.ancestors) : a :: a.ancestors <:+ p.ancestors := by
  have climbed (ways : List (Node × Nat)) (h : a ∈ climb ways) : a :: a.ancestors <:+ climb ways := by
    induction ways with
    | nil => cases h
    | cons way ways ih =>
      rcases List.mem_cons.mp h with rfl | h
      · exact List.suffix_refl _
      · exact (ih h).trans (List.suffix_cons _ _)
  exact climbed p.above h

theorem mem_ancestors_trans (ha : a ∈ m.ancestors) (hm : m ∈ c.ancestors) : a ∈ c.ancestors :=
  (ancestors_isSuffix_of_mem hm).subset (List.mem_cons_of_mem m ha)

theorem ne_of_mem_ancestors (h : a ∈ p.ancestors) : p ≠ a := by
  rintro rfl
  have length := (ancestors_isSuffix_of_mem h).length_le
  rw [List.length_cons] at length
  omega

/-- What is above a place comes before it in the walk. -/
theorem sublist_walk_of_mem_ancestors (hm : m ∈ (root n).walk) (ha : a ∈ m.ancestors) : [a, m].Sublist (root n).walk := by
  obtain ⟨walked, inside⟩ := mem_walk_root hm ha
  refine List.Sublist.trans ?_ (walk_isInfix walked).sublist
  rw [walk_eq] at inside ⊢
  have below := (List.mem_cons.mp inside).resolve_left (ne_of_mem_ancestors ha)
  exact (List.singleton_sublist.mpr below).cons_cons a

end Place
end LogReview
