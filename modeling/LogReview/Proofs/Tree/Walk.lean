import LogReview.Tree.Place
import Mathlib.Data.List.Forall2

/-! Walks over trees, and pairs of places that are seen alike. Two places are related when their nodes are,
and the nodes above them one by one; the position of a child among its siblings plays no part. -/
namespace LogReview

namespace Node

theorem size_lt_of_mem {n c : Node} (h : c ∈ n.children) : c.size < n.size := by
  have hle (ns : List Node) (hc : c ∈ ns) : c.size ≤ sizes ns := by
    induction ns with
    | nil => cases hc
    | cons m ns ih =>
      rw [sizes]
      rcases List.mem_cons.mp hc with rfl | hc
      · omega
      · have := ih hc
        omega
  have := hle n.children h
  rw [size_eq n]
  omega

/-- What the children hand up holds of the whole tree. -/
theorem induction_on_children {P : Node → Prop} (n : Node) (up : ∀ n, (∀ c ∈ n.children, P c) → P n) : P n :=
  up n fun c _ => induction_on_children c up
termination_by n.size
decreasing_by
  exact size_lt_of_mem ‹_›

end Node

namespace Place

@[simp] theorem visit_nil : visit [] = [] := by rw [visit]

theorem visit_cons (p : Place) (rest : List Place) :
    visit (p :: rest) = p :: visit (p.children ++ rest) := by rw [visit]

/-- The places of a stack are visited one below the other. -/
theorem visit_append (ps qs : List Place) : visit (ps ++ qs) = visit ps ++ visit qs := by
  fun_induction visit ps with
  | case1 => rfl
  | case2 p rest ih =>
    rw [List.cons_append, visit_cons, ← List.append_assoc, ih, List.cons_append]

theorem visit_eq_flatMap (ps : List Place) : visit ps = ps.flatMap walk := by
  induction ps with
  | nil => simp
  | cons p ps ih =>
    rw [List.flatMap_cons, ← ih, walk, ← visit_append]
    rfl

/-- A walk is the place itself, and then the walks of its children in order. -/
theorem walk_eq (p : Place) : p.walk = p :: p.children.flatMap walk := by
  rw [walk, visit_cons, List.append_nil, visit_eq_flatMap]

theorem findAll_eq (p : Place) (k : Kind) :
    p.findAll k = (if p.kind == k then [p] else []) ++ p.children.flatMap (·.findAll k) := by
  rw [findAll, walk_eq, List.filter_cons, List.filter_flatMap]
  split <;> rfl

section Related
variable {N M : Node → Node → Prop} {p q : Place}

/-- The nodes of two places are related by `N`, and the nodes above them by `M`. -/
structure Related (N M : Node → Node → Prop) (p q : Place) : Prop where
  node : N p.node q.node
  above : List.Forall₂ (fun a b => M a.1 b.1) p.above q.above

theorem forall₂_imp_of_mem {α β : Type} {R S : α → β → Prop} {xs : List α} {ys : List β}
    (h : List.Forall₂ R xs ys) (hs : ∀ x ∈ xs, ∀ y ∈ ys, R x y → S x y) : List.Forall₂ S xs ys := by
  induction h with
  | nil => exact .nil
  | @cons x y xs ys hxy _ ih =>
    refine .cons (hs x (by simp) y (by simp) hxy) (ih ?_)
    intro x hx y hy
    exact hs x (by simp [hx]) y (by simp [hy])

theorem exists_index_of_mem_allChildren {c : Place} (hc : c ∈ p.allChildren) :
    ∃ i, c.above = (p.node, i) :: p.above := by
  obtain ⟨⟨n, i⟩, _, rfl⟩ := List.mem_map.mp hc
  exact ⟨i, rfl⟩

/-- Children go in pairs as soon as their nodes do. -/
theorem Related.filter_allChildren (h : Related N M p q) (hNM : ∀ n m, N n m → M n m)
    (keep : Node → Bool)
    (hcs : List.Forall₂ N (p.node.children.filter keep) (q.node.children.filter keep)) :
    List.Forall₂ (Related N M) (p.allChildren.filter fun c => keep c.node)
      (q.allChildren.filter fun c => keep c.node) := by
  have hnodes (r : Place) :
      (r.allChildren.filter fun c => keep c.node).map (·.node) = r.node.children.filter keep := by
    rw [← r.map_node_allChildren, List.filter_map]
    rfl
  rw [← hnodes p, ← hnodes q, List.forall₂_map_left_iff, List.forall₂_map_right_iff] at hcs
  refine forall₂_imp_of_mem hcs ?_
  intro c hc d hd hcd
  obtain ⟨i, hi⟩ := exists_index_of_mem_allChildren (List.mem_of_mem_filter hc)
  obtain ⟨j, hj⟩ := exists_index_of_mem_allChildren (List.mem_of_mem_filter hd)
  refine ⟨hcd, ?_⟩
  rw [hi, hj]
  exact .cons (hNM _ _ h.node) h.above

theorem Related.ancestors (h : Related N M p q) :
    List.Forall₂ (Related M M) p.ancestors q.ancestors := by
  have hclimb {as bs : List (Node × Nat)} (hs : List.Forall₂ (fun a b => M a.1 b.1) as bs) :
      List.Forall₂ (Related M M) (climb as) (climb bs) := by
    induction hs with
    | nil => exact .nil
    | cons hab hs ih => exact .cons ⟨hab, hs⟩ ih
  exact hclimb h.above

theorem find?_related {α β : Type} {R : α → β → Prop} {f : α → Bool} {g : β → Bool} {xs : List α}
    {ys : List β} (h : List.Forall₂ R xs ys) (hfg : ∀ x y, R x y → f x = g y) :
    Option.Rel R (xs.find? f) (ys.find? g) := by
  induction h with
  | nil => exact .none
  | @cons x y xs ys hxy _ ih =>
    rw [List.find?_cons, List.find?_cons, ← hfg x y hxy]
    cases f x with
    | true => exact .some hxy
    | false => exact ih

theorem Related.findAncestor? (h : Related N M p q) (hkind : ∀ n m, M n m → n.kind = m.kind) (k : Kind) :
    Option.Rel (Related M M) (p.findAncestor? k) (q.findAncestor? k) := by
  refine find?_related h.ancestors ?_
  intro a b hab
  rw [Place.kind, Place.kind, hkind _ _ hab.node]

theorem Related.hasAncestor (h : Related N M p q) (hkind : ∀ n m, M n m → n.kind = m.kind) (k : Kind) :
    p.hasAncestor k = q.hasAncestor k := by
  have hfind := h.findAncestor? hkind k
  rw [Place.hasAncestor, Place.hasAncestor]
  generalize p.findAncestor? k = a, q.findAncestor? k = b at hfind
  cases hfind with
  | none => rfl
  | some => rfl

end Related

section Pairs
variable {R : Place → Place → Prop}

/-- A relation that goes down to the children goes along the whole walk. -/
theorem visit_related (hdown : ∀ p q, R p q → List.Forall₂ R p.children q.children)
    {ps qs : List Place} (h : List.Forall₂ R ps qs) : List.Forall₂ R (visit ps) (visit qs) := by
  -- The stacks stay in step: each visit takes one pair off and puts the pairs of its children on.
  fun_induction visit ps generalizing qs with
  | case1 =>
    rw [List.forall₂_nil_left_iff] at h
    rw [h, visit_nil]
    exact .nil
  | case2 p rest ih =>
    obtain ⟨q, qs, hpq, hrest, rfl⟩ := List.forall₂_cons_left_iff.mp h
    rw [visit_cons]
    exact .cons hpq (ih (List.rel_append (hdown p q hpq) hrest))

theorem findAll_related (hdown : ∀ p q, R p q → List.Forall₂ R p.children q.children)
    (hkind : ∀ p q, R p q → p.kind = q.kind) {p q : Place} (h : R p q) (k : Kind) :
    List.Forall₂ R (p.findAll k) (q.findAll k) := by
  have hwalk : List.Forall₂ R p.walk q.walk := visit_related hdown (.cons h .nil)
  refine List.rel_filter ?_ hwalk
  intro a b hab
  simp only [hkind a b hab]

end Pairs

end Place

end LogReview
