import LogReview.Proofs.Tree.Chain

/-! From the top down. The walk of a place is a part of the walks of all places above it. A pass hands a flag from each
place to its children and lists the places that it meets while the flag is set; what a place finds out by climbing, the
pass knows on its way down. -/
namespace LogReview.Place
variable {a p q : Place}

/-! ### Walks in walks -/

theorem walk_isInfix_of_mem_children (h : q ∈ p.children) : q.walk <:+: p.walk := by
  obtain ⟨before, after, split⟩ := List.append_of_mem h
  refine ⟨p :: before.flatMap walk, after.flatMap walk, ?_⟩
  rw [walk_eq p, split]
  simp

theorem walk_isInfix (h : q ∈ p.walk) : q.walk <:+: p.walk := by
  induction p using induction_on_children with
  | up p ih =>
    rw [walk_eq] at h
    rcases List.mem_cons.mp h with rfl | h
    · exact List.infix_refl _
    · obtain ⟨c, hc, h⟩ := List.mem_flatMap.mp h
      exact (ih c hc h).trans (walk_isInfix_of_mem_children hc)

/-- What is above a place of a walk is in the walk too, or above all of it. -/
theorem mem_walk_or_mem_ancestors (hq : q ∈ p.walk) (ha : a ∈ q.ancestors) :
    a ∈ p.walk ∧ q ∈ a.walk ∨ a ∈ p.ancestors := by
  induction p using induction_on_children with
  | up p ih =>
    rw [walk_eq] at hq
    rcases List.mem_cons.mp hq with rfl | hq
    · exact .inr ha
    · obtain ⟨c, hc, hqc⟩ := List.mem_flatMap.mp hq
      rcases ih c hc hqc with ⟨walked, below⟩ | above
      · exact .inl ⟨mem_walk_of_mem_children hc walked, below⟩
      · rw [ancestors_of_mem_children hc] at above
        rcases List.mem_cons.mp above with rfl | above
        · exact .inl ⟨a.mem_walk_self, mem_walk_of_mem_children hc hqc⟩
        · exact .inr above

theorem mem_walk_root {n : Node} (hq : q ∈ (root n).walk) (ha : a ∈ q.ancestors) :
    a ∈ (root n).walk ∧ q ∈ a.walk := by
  rcases mem_walk_or_mem_ancestors hq ha with walked | above
  · exact walked
  · simp [root, ancestors, climb] at above

/-! ### Passes -/

/-- The places at or below `p` that are met while the flag is set. On the way from a place into its children `enter`
sets the flag anew. -/
def pass (enter : Place → Bool → Bool) (flag : Bool) (p : Place) : List Place :=
  (if flag then [p] else []) ++ p.children.attach.flatMap fun ⟨c, _⟩ => pass enter (enter p flag) c
termination_by p.node.size
decreasing_by exact size_lt_of_mem_children ‹_›

theorem pass_eq (enter : Place → Bool → Bool) (flag : Bool) (p : Place) :
    pass enter flag p = (if flag then [p] else []) ++ p.children.flatMap (pass enter (enter p flag)) := by
  rw [pass, List.flatMap_subtype fun _ _ => rfl, List.unattach_attach]

/-- A flag that each child has from its parent is seen by the pass as it is seen at the places themselves. -/
theorem pass_eq_filter {enter : Place → Bool → Bool} {flagged : Place → Bool}
    (handed : ∀ p, ∀ c ∈ p.children, flagged c = enter p (flagged p)) (p : Place) :
    pass enter (flagged p) p = p.walk.filter flagged := by
  induction p using induction_on_children with
  | up p ih =>
    have below : p.children.flatMap (pass enter (enter p (flagged p))) =
        p.children.flatMap fun c => c.walk.filter flagged := by
      apply List.flatMap_congr
      intro c hc
      rw [← handed p c hc]
      exact ih c hc
    rw [pass_eq, below, walk_eq, List.filter_cons, List.filter_flatMap]
    cases flagged p <;> rfl

end LogReview.Place
