import LogReview.Proofs.Tree.Layout
import Mathlib.Data.List.Nodup

/-! The tokens of a node, child by child, and that they do not depend on its layout. -/
namespace LogReview
namespace Canonical
variable {s t : Source}

@[simp] theorem collect_nil (src : Source) : collect src [] = [] := by rw [collect]

/-- The tokens of a stack are those of its nodes one after the other. -/
theorem collect_append (src : Source) (xs ys : List (Node × Bool)) :
    collect src (xs ++ ys) = collect src xs ++ collect src ys := by
  fun_induction collect src xs with
  | case1 => rfl
  | case2 n rest ih => rw [List.cons_append, collect, ih]; rfl
  | case3 n b rest hb hn ih => rw [List.cons_append, collect, if_neg hb, if_pos hn, ih]
  | case4 n b rest hb hn ha ih =>
    rw [List.cons_append, collect, if_neg hb, if_neg hn, if_pos ha, ih, List.cons_append]
  | case5 n b rest hb hn ha ih =>
    rw [List.cons_append, collect, if_neg hb, if_neg hn, if_neg ha, ← List.append_assoc, ih]

theorem collect_eq_flatMap (src : Source) (xs : List (Node × Bool)) :
    collect src xs = xs.flatMap fun x => collect src [x] := by
  induction xs with
  | nil => simp
  | cons x xs ih => rw [List.flatMap_cons, ← ih, ← collect_append]; rfl

/-- The tokens of one node on the stack. -/
theorem collect_operator (src : Source) (n : Node) : collect src [(n, true)] = [s!" {n.type} "] := by
  rw [collect, if_pos rfl, collect_nil]

theorem collect_extra (src : Source) (n : Node) (h : n.solid = false) : collect src [(n, false)] = [] := by
  have hextra : n.label.extra = true := by simpa [Node.solid] using h
  rw [collect, if_neg (by simp), if_pos hextra, collect_nil]

theorem tokens_atomic (src : Source) (n : Node) (h : n.solid) (ha : n.atomic) :
    tokens src n = [src.text n.start n.stop] := by
  have hextra : ¬ n.label.extra = true := by simpa [Node.solid] using h
  rw [tokens, collect, if_neg (by simp), if_neg hextra, if_pos ha, collect_nil]

theorem tokens_compound (src : Source) (n : Node) (h : n.solid) (ha : ¬ n.atomic) :
    tokens src n = n.marked.flatMap fun x => collect src [x] := by
  have hextra : ¬ n.label.extra = true := by simpa [Node.solid] using h
  rw [tokens, collect, if_neg (by simp), if_neg hextra, if_neg ha, List.append_nil, collect_eq_flatMap]

end Canonical

namespace Node
variable {s t : Source}

def isOperator (c : Node) : Bool := c.label.field == some "operator"

theorem childByField?_eq_solid {n : Node} (h : n.Every Tidy) (f : String) :
    n.childByField? f = (n.children.filter solid).find? fun c => c.label.field == some f :=
  find?_field_eq_solid id (fun _ hc => (h.child hc).here) f

theorem marks_find?_cons_self {c : Node} (hc : c.isOperator) (cs : List Node) (d : Node) :
    marks ((c :: cs).find? isOperator) d = (d.start == c.start && d.type == c.type) := by
  rw [List.find?_cons_of_pos hc]
  rfl

/-- A node that starts at no byte of these has no mark. -/
theorem marks_find?_of_not_mem {c : Node} {cs : List Node} (h : c.start ∉ cs.map start) :
    marks (cs.find? isOperator) c = false := by
  cases ho : cs.find? isOperator with
  | none => rfl
  | some o =>
    have hne : c.start ≠ o.start := by
      intro heq
      exact h (heq ▸ List.mem_map_of_mem (List.mem_of_find?_eq_some ho))
    simp [marks, hne]

/-- In lists of matching nodes the marks are at the same positions. -/
theorem marks_related {cs ds : List Node} (h : List.Forall₂ (Matches s t) cs ds)
    (hcs : (cs.map start).Nodup) (hds : (ds.map start).Nodup) :
    List.Forall₂ (fun c d => Matches s t c d ∧
      marks (cs.find? isOperator) c = marks (ds.find? isOperator) d) cs ds := by
  induction h with
  | nil => exact .nil
  | @cons c d cs ds hcd hrest ih =>
    rw [List.map_cons, List.nodup_cons] at hcs hds
    cases hc : c.isOperator with
    | true =>
      have hd : d.isOperator := by rw [isOperator, ← hcd.field_eq]; exact hc
      simp only [marks_find?_cons_self hc, marks_find?_cons_self hd]
      refine .cons ⟨hcd, by simp⟩ (Place.forall₂_imp_of_mem hrest ?_)
      -- Behind the operator nothing starts where it does.
      intro c' hc' d' hd' hm
      have hne : c'.start ≠ c.start := fun heq => hcs.1 (heq ▸ List.mem_map_of_mem hc')
      have hne' : d'.start ≠ d.start := fun heq => hds.1 (heq ▸ List.mem_map_of_mem hd')
      refine ⟨hm, ?_⟩
      rw [beq_eq_false_iff_ne.mpr hne, beq_eq_false_iff_ne.mpr hne', Bool.false_and, Bool.false_and]
    | false =>
      have hd : ¬ d.isOperator := by rw [isOperator, ← hcd.field_eq, ← isOperator, hc]; simp
      rw [List.find?_cons_of_neg (by simp [hc]), List.find?_cons_of_neg hd]
      refine .cons ⟨hcd, ?_⟩ (ih hcs.2 hds.2)
      rw [marks_find?_of_not_mem hcs.1, marks_find?_of_not_mem hds.1]

/-- The children that are no comments match, marks included. -/
theorem Matches.marked_children {n m : Node} (h : Matches s t n m) :
    List.Forall₂ (fun c d => Matches s t c d ∧ marks n.operator? c = marks m.operator? d)
      (n.children.filter solid) (m.children.filter solid) := by
  rw [operator?, operator?, ← h.type_eq]
  split
  case isTrue hb =>
    have hn : n.type = "binary_expression" := by simpa using hb
    have hl := h.left_tidy.here.starts hn
    have hr := h.right_tidy.here.starts (h.type_eq ▸ hn)
    rw [childByField?_eq_solid h.left_tidy, childByField?_eq_solid h.right_tidy]
    exact marks_related h.solid_children (hl.sublist (List.filter_sublist.map _))
      (hr.sublist (List.filter_sublist.map _))
  case isFalse =>
    refine h.solid_children.imp ?_
    intro c d hcd
    exact ⟨hcd, rfl⟩

/-- A comment has no mark, since the operator starts elsewhere. -/
theorem marks_operator?_extra {n c : Node} (h : n.Every Tidy) (hc : c ∈ n.children) (hextra : c.solid = false) :
    marks n.operator? c = false := by
  rw [operator?]
  split
  case isTrue hb =>
    have hstarts := h.here.starts (by simpa using hb)
    rw [childByField?_eq_solid h]
    refine marks_find?_of_not_mem ?_
    intro hmem
    obtain ⟨o, ho, heq⟩ := List.mem_map.mp hmem
    obtain ⟨ho, hsolid⟩ := List.mem_filter.mp ho
    have : o = c := List.inj_on_of_nodup_map hstarts ho hc heq
    rw [this, hextra] at hsolid
    cases hsolid
  case isFalse => rfl

end Node

namespace Canonical
variable {s t : Source}

/-- Where comments have no marks, the tokens of a node come from its other children. -/
theorem tokens_of_unmarked (src : Source) (n : Node) (h : n.solid) (ha : ¬ n.atomic)
    (unmarked : ∀ c ∈ n.children, c.solid = false → Node.marks n.operator? c = false) :
    tokens src n = (n.children.filter Node.solid).flatMap fun c => collect src [(c, Node.marks n.operator? c)] := by
  rw [tokens_compound src n h ha, Node.marked, List.flatMap_map]
  generalize n.children = cs at unmarked
  induction cs with
  | nil => rfl
  | cons c cs ih =>
    have hrest := ih fun d hd => unmarked d (by simp [hd])
    rw [List.flatMap_cons, hrest, List.filter_cons]
    cases hc : c.solid with
    | true => simp
    | false =>
      rw [unmarked c (by simp) hc, collect_extra src c hc]
      rfl

/-- The tokens of a node come from its children that are no comments. -/
theorem tokens_solid (src : Source) (n : Node) (h : n.solid) (ha : ¬ n.atomic) (htidy : n.Every Node.Tidy) :
    tokens src n = (n.children.filter Node.solid).flatMap fun c => collect src [(c, Node.marks n.operator? c)] :=
  tokens_of_unmarked src n h ha fun _ hc hextra => Node.marks_operator?_extra htidy hc hextra

theorem flatMap_eq_of_forall₂ {α β γ : Type} {f : α → List γ} {g : β → List γ} {xs : List α} {ys : List β}
    (h : List.Forall₂ (fun x y => f x = g y) xs ys) : xs.flatMap f = ys.flatMap g := by
  induction h with
  | nil => rfl
  | cons hxy _ ih => rw [List.flatMap_cons, List.flatMap_cons, hxy, ih]

/-- Matching nodes have the same tokens. -/
theorem tokens_eq_of_matches {n m : Node} (h : Node.Matches s t n m) : tokens s n = tokens t m := by
  induction n using Node.induction_on_children generalizing m with
  | up n ih =>
    by_cases ha : n.atomic
    · have hb : m.atomic := h.atomic_eq ▸ ha
      rw [tokens_atomic s n h.left_solid ha, tokens_atomic t m h.right_solid hb, h.text_eq ha]
    · have hb : ¬ m.atomic := h.atomic_eq ▸ ha
      rw [tokens_solid s n h.left_solid ha h.left_tidy, tokens_solid t m h.right_solid hb h.right_tidy]
      refine flatMap_eq_of_forall₂ (Place.forall₂_imp_of_mem h.marked_children ?_)
      intro c hc d _ ⟨hcd, hmarks⟩
      rw [← hmarks]
      cases Node.marks n.operator? c with
      | true => rw [collect_operator, collect_operator, hcd.type_eq]
      | false => exact ih c (List.mem_of_mem_filter hc) hcd

end Canonical
end LogReview
