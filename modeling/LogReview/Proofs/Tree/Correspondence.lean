import LogReview.Proofs.Tree.Tokens

/-! Nodes that correspond in two trees which differ in their layout only. A node is addressed by the way that leads to
it, where comments are passed over; at each address both trees have a node with the same canonical text, or neither tree
has one. -/
namespace LogReview

theorem getElem?_related {α β : Type} {R : α → β → Prop} {xs : List α} {ys : List β} (h : List.Forall₂ R xs ys)
    (i : Nat) : Option.Rel R xs[i]? ys[i]? := by
  induction h generalizing i with
  | nil => exact .none
  | cons hxy _ ih =>
    cases i with
    | zero => exact .some hxy
    | succ i => exact ih i

/-- Two trees that are alike as soon as all comments are deleted, with all that is below them. In both trees comments
have no field and stand beside something else, and the parts of a binary expression start at different bytes. -/
structure Node.LayoutEquivalent (s t : Source) (n m : Node) : Prop where
  left_tidy : n.Every Tidy
  right_tidy : m.Every Tidy
  alike : AllAlike s t (bares [n]) (bares [m])

/-- Either nothing is left of the two trees, or their roots match. -/
theorem Node.LayoutEquivalent.extra_or_matches {s t : Source} {n m : Node} (h : LayoutEquivalent s t n m) :
    n.solid = false ∧ m.solid = false ∨ Matches s t n m := by
  have alike := h.alike
  rw [bares_eq, bares_eq] at alike
  cases hn : n.solid <;> cases hm : m.solid <;> simp only [List.filter_cons, hn, hm] at alike
  case false.false => exact .inl ⟨rfl, rfl⟩
  case false.true => simp [AllAlike] at alike
  case true.false => simp [AllAlike] at alike
  case true.true => exact .inr ⟨h.left_tidy, h.right_tidy, hn, hm, by simpa [AllAlike] using alike⟩

namespace Place
variable {s t : Source} {p q : Place}

/-- The place at an address. Each step goes to the child with that number, where comments do not count, and nothing is
left of a comment. -/
def solidAt? (p : Place) (address : List Nat) : Option Place :=
  if p.node.solid then
    match address with
    | [] => some p
    | i :: rest => (p.allChildren.filter (·.node.solid))[i]?.bind (·.solidAt? rest)
  else none

theorem map_canonicalText_solidAt? (address : List Nat) (h : Related (Node.Matches s t) (Node.Matches s t) p q) :
    (p.solidAt? address).map (·.canonicalText s) = (q.solidAt? address).map (·.canonicalText t) := by
  induction address generalizing p q with
  | nil =>
    rw [solidAt?, solidAt?, if_pos h.node.left_solid, if_pos h.node.right_solid]
    simp only [Option.map_some, canonicalText, Canonical.tokens_eq_of_matches h.node]
  | cons i rest ih =>
    rw [solidAt?, solidAt?, if_pos h.node.left_solid, if_pos h.node.right_solid]
    have children := getElem?_related (h.filter_allChildren (fun _ _ => id) Node.solid h.node.solid_children) i
    generalize (p.allChildren.filter (·.node.solid))[i]? = a, (q.allChildren.filter (·.node.solid))[i]? = b at children
    cases children with
    | none => rfl
    | some hab => exact ih hab

/-- Layout does not change the canonical text of any node: at each address of two trees that differ in their layout only
there are nodes of the same canonical text, or none. -/
theorem canonicalText_of_layoutEquivalent {n m : Node} (h : Node.LayoutEquivalent s t n m) (address : List Nat) :
    ((root n).solidAt? address).map (·.canonicalText s) = ((root m).solidAt? address).map (·.canonicalText t) := by
  rcases h.extra_or_matches with ⟨left, right⟩ | roots
  · unfold solidAt?
    rw [if_neg (by simp [root, left]), if_neg (by simp [root, right])]
    rfl
  · exact map_canonicalText_solidAt? address ⟨roots, .nil⟩

end Place

/-- The tree of `b+c`. -/
def Node.plainSum : Node :=
  .mk { type := "binary_expression", start := 0, stop := 3 } [
    .mk { type := "identifier", start := 0, stop := 1, field := some "left" } [],
    .mk { type := "+", start := 1, stop := 2, named := false, field := some "operator" } [],
    .mk { type := "identifier", start := 2, stop := 3, field := some "right" } []]

/-- The tree of the same sum over two lines, with a comment in it. -/
def Node.spreadSum : Node :=
  .mk { type := "binary_expression", start := 0, stop := 9 } [
    .mk { type := "identifier", start := 0, stop := 1, field := some "left" } [],
    .mk { type := "line_comment", start := 2, stop := 5, extra := true } [],
    .mk { type := "+", start := 6, stop := 7, named := false, field := some "operator" } [],
    .mk { type := "identifier", start := 8, stop := 9, field := some "right" } []]

theorem Place.canonicalText_sums :
    Node.LayoutEquivalent "b+c".toUTF8 "b //x\n+ c".toUTF8 Node.plainSum Node.spreadSum ∧
      (∀ address, ((root Node.plainSum).solidAt? address).map (·.canonicalText "b+c".toUTF8) =
        ((root Node.spreadSum).solidAt? address).map (·.canonicalText "b //x\n+ c".toUTF8)) ∧
      (root Node.spreadSum).canonicalText "b //x\n+ c".toUTF8 = "b + c" := by
  have equivalent : Node.LayoutEquivalent "b+c".toUTF8 "b //x\n+ c".toUTF8 Node.plainSum Node.spreadSum := by
    constructor <;> decide +kernel
  exact ⟨equivalent, canonicalText_of_layoutEquivalent equivalent, by decide +kernel⟩

end LogReview
