import LogReview.Proofs.Tree.Rendering

/-! Binary expressions are written with the operator between the operands, however deep they are nested: the canonical
text of an expression is put together from those of its operands. -/
namespace LogReview

namespace Text
variable {w v mid : List Char}

theorem IsWord.strip_eq (h : IsWord w) : strip w = w := by
  have left : stripLeft w = w := by simpa using @IsWord.stripLeft_append w [] h
  have right : stripRight w = w := by simpa [stripRight, stripLeft] using @IsWord.stripRight_append [] w [] h
  rw [Text.strip_eq, left, right]

/-- Two words and whatever stands between them. -/
theorem IsWord.between (hw : IsWord w) (hv : IsWord v) : IsWord (w ++ (mid ++ v)) where
  nonempty := by simp [hw.nonempty]
  head := by
    intro c hc
    rw [List.head?_append_of_ne_nil _ hw.nonempty] at hc
    exact hw.head c hc
  last := by
    intro c hc
    rw [← List.append_assoc, List.getLast?_append_of_ne_nil _ hv.nonempty] at hc
    exact hv.last c hc

end Text

namespace Canonical
open Text
variable {base : List Char}

/-! ### Tokens behind an operator -/

/-- A text that runs together with nothing makes no difference to the tokens behind it. -/
theorem append_onto (apart : ∀ token, needsBlank base.head? token = false) (out token : List Char) :
    append (out ++ base) token = append out token ++ base := by
  have blank : needsBlank (out ++ base).head? token = needsBlank out.head? token := by
    cases out with
    | nil => rw [List.nil_append, apart, List.head?_nil, needsBlank_none]
    | cons c out => rfl
  rw [append, append, blank]
  split
  · rfl
  · split
    · rfl
    · split <;> simp

theorem foldl_append_onto (apart : ∀ token, needsBlank base.head? token = false) (tokens : List (List Char)) :
    tokens.foldl append base = (render tokens).reverse ++ base := by
  induction tokens using List.reverseRecOn with
  | nil => rfl
  | append_singleton tokens token ih =>
    have last : render (tokens ++ [token]) = (append (render tokens).reverse token).reverse := by simp [render]
    rw [List.foldl_append, ih, last, List.reverse_reverse]
    exact append_onto apart _ token

theorem render_operator (ts us : List (List Char)) (op : List Char) :
    render (ts ++ (' ' :: (op ++ [' '])) :: us) = render ts ++ (' ' :: (op ++ [' ']) ++ render us) := by
  have blank : isBlank ' ' := by decide
  have upTo : append (ts.foldl append []) (' ' :: (op ++ [' '])) = ' ' :: (op.reverse ++ ' ' :: ts.foldl append []) := by
    have free : needsBlank (ts.foldl append []).head? (' ' :: (op ++ [' '])) = false := by
      cases (ts.foldl append []).head? <;> simp [needsBlank, isWordChar_of_isBlank blank]
    simp [append, free]
  -- The operator ends with a blank, so that what follows is rendered as if it came first.
  have behind : us.foldl append (' ' :: (op.reverse ++ ' ' :: ts.foldl append [])) =
      (render us).reverse ++ ' ' :: (op.reverse ++ ' ' :: ts.foldl append []) := by
    apply foldl_append_onto
    exact needsBlank_of_last blank
  rw [render, List.foldl_append, List.foldl_cons, upTo, behind]
  simp [render]

end Canonical

namespace Place
open Text
variable {src : Source} {p left op right : Place} {operands : List Place}

/-- Comments aside, the parts of a binary expression are an operand, the operator and an operand. All parts start at
different bytes. -/
structure Joins (p left op right : Place) : Prop where
  type : p.node.type = "binary_expression"
  parts : p.allChildren.filter (·.node.solid) = [left, op, right]
  operator : p.childByField? "operator" = some op
  starts : (p.node.children.map Node.start).Nodup

/-- The canonical text with the blanks that its ends still have. -/
def rendering (p : Place) (src : Source) : List Char :=
  Canonical.render ((Canonical.tokens src p.node).map String.toList)

theorem canonicalText_of_isWord (h : IsWord (p.rendering src)) : p.canonicalText src = String.ofList (p.rendering src) :=
  congrArg String.ofList h.strip_eq

/-- A sum of operands, nested to the left. -/
inductive Adds : Place → List Place → Prop
  | single (p : Place) : Adds p [p]
  | plus {p left op right : Place} {operands : List Place} (joins : p.Joins left op right) (sign : op.node.type = "+")
      (rest : Adds left operands) : Adds p (operands ++ [right])

namespace Joins

theorem solid_children (h : p.Joins left op right) :
    p.node.children.filter Node.solid = [left.node, op.node, right.node] := by
  rw [← map_node_allChildren, List.filter_map]
  exact congrArg (List.map (·.node)) h.parts

theorem mem_children (h : p.Joins left op right) {c : Node} (hc : c ∈ [left.node, op.node, right.node]) :
    c ∈ p.node.children ∧ c.solid := by
  rw [← h.solid_children] at hc
  exact List.mem_filter.mp hc

theorem operator?_eq (h : p.Joins left op right) : p.node.operator? = some op.node := by
  have field := congrArg (Option.map (·.node)) h.operator
  rw [Node.operator?, if_pos (by simp [h.type]), Node.childByField?, ← map_node_allChildren, List.find?_map]
  exact field

theorem not_atomic (h : p.Joins left op right) : ¬ p.node.atomic := by
  have sort : p.node.literalSort? = none := by rw [Node.literalSort?, h.type]; decide
  have children : p.node.children ≠ [] := List.ne_nil_of_mem (h.mem_children List.mem_cons_self).1
  simp [Node.atomic, sort, children]

/-- Only the operator starts where the operator starts. -/
theorem marks_iff (h : p.Joins left op right) {c : Node} (hc : c ∈ p.node.children) :
    Node.marks p.node.operator? c ↔ c = op.node := by
  rw [h.operator?_eq]
  constructor
  · intro marked
    simp only [Node.marks, Bool.and_eq_true, beq_iff_eq] at marked
    exact List.inj_on_of_nodup_map h.starts hc (h.mem_children (by simp)).1 marked.1
  · rintro rfl
    simp [Node.marks]

theorem nodup_parts (h : p.Joins left op right) : [left.node, op.node, right.node].Nodup := by
  rw [← h.solid_children]
  exact h.starts.of_map.filter _

theorem tokens_eq (h : p.Joins left op right) (solid : p.node.solid) :
    Canonical.tokens src p.node =
      Canonical.tokens src left.node ++ s!" {op.node.type} " :: Canonical.tokens src right.node := by
  have other {c : Node} (hc : c ∈ p.node.children) (ne : c ≠ op.node) : Node.marks p.node.operator? c = false :=
    Bool.eq_false_iff.mpr (mt (h.marks_iff hc).mp ne)
  have unmarked : ∀ c ∈ p.node.children, c.solid = false → Node.marks p.node.operator? c = false := by
    intro c hc comment
    apply other hc
    rintro rfl
    simp [(h.mem_children (c := op.node) (by simp)).2] at comment
  have distinct := h.nodup_parts
  simp only [List.nodup_cons, List.mem_cons, not_or] at distinct
  rw [Canonical.tokens_of_unmarked src p.node solid h.not_atomic unmarked, h.solid_children, List.flatMap_cons,
    List.flatMap_cons, List.flatMap_singleton, other (h.mem_children (by simp)).1 distinct.1.1,
    other (h.mem_children (by simp)).1 (Ne.symm distinct.2.1.1), (h.marks_iff (h.mem_children (by simp)).1).mpr rfl,
    Canonical.collect_operator]
  rfl

theorem rendering_eq (h : p.Joins left op right) (solid : p.node.solid) :
    p.rendering src = left.rendering src ++ (' ' :: (op.node.type.toList ++ [' ']) ++ right.rendering src) := by
  have operator : (s!" {op.node.type} ").toList = ' ' :: (op.node.type.toList ++ [' ']) := by
    simp [toString]
  rw [rendering, h.tokens_eq solid, List.map_append, List.map_cons, operator, Canonical.render_operator]
  rfl

theorem isWord_rendering (h : p.Joins left op right) (solid : p.node.solid) (hl : IsWord (left.rendering src))
    (hr : IsWord (right.rendering src)) : IsWord (p.rendering src) := by
  rw [h.rendering_eq solid]
  exact hl.between hr

theorem canonicalText_eq (h : p.Joins left op right) (solid : p.node.solid) (hl : IsWord (left.rendering src))
    (hr : IsWord (right.rendering src)) :
    p.canonicalText src = left.canonicalText src ++ " " ++ op.node.type ++ " " ++ right.canonicalText src := by
  rw [canonicalText_of_isWord (h.isWord_rendering solid hl hr), canonicalText_of_isWord hl, canonicalText_of_isWord hr,
    h.rendering_eq solid]
  apply String.ext
  simp

end Joins

theorem Adds.ne_nil (h : p.Adds operands) : operands ≠ [] := by
  cases h <;> simp

/-- The invariant of the nesting: what has been added up is a word again, and so can be an operand. -/
theorem Adds.rendered (h : p.Adds operands) (solid : p.node.solid) (isWord : ∀ o ∈ operands, IsWord (o.rendering src)) :
    IsWord (p.rendering src) ∧ p.canonicalText src = " + ".intercalate (operands.map (·.canonicalText src)) := by
  induction h with
  | single p => exact ⟨isWord p (by simp), by simp⟩
  | @plus p left op right operands joins sign rest ih =>
    obtain ⟨word, text⟩ := ih (joins.mem_children (by simp)).2 fun o ho => isWord o (by simp [ho])
    have word' : IsWord (right.rendering src) := isWord right (by simp)
    refine ⟨joins.isWord_rendering solid word word', ?_⟩
    rw [joins.canonicalText_eq solid word word', text, sign, List.map_append,
      String.intercalate_append_of_ne_nil (by simpa using rest.ne_nil) (by simp)]
    simp [String.append_assoc]

/-- The canonical text of a binary expression that is no comment is that of its operands with the operator between them,
and that of a sum has a sign between any two operands. -/
theorem canonicalText_operands (src : Source) {p : Place} (solid : p.node.solid) :
    (∀ left op right, p.Joins left op right → IsWord (left.rendering src) → IsWord (right.rendering src) →
        p.canonicalText src = left.canonicalText src ++ " " ++ op.node.type ++ " " ++ right.canonicalText src) ∧
      ∀ operands, p.Adds operands → (∀ o ∈ operands, IsWord (o.rendering src)) →
        p.canonicalText src = " + ".intercalate (operands.map (·.canonicalText src)) := by
  constructor
  · intro left op right joins
    exact joins.canonicalText_eq solid
  · intro operands adds isWord
    exact (adds.rendered solid isWord).2

/-- The tree of a sum with a comment in it. -/
def innerSum : Node :=
  .mk { type := "binary_expression", start := 0, stop := 9, field := some "left" } [
    .mk { type := "identifier", start := 0, stop := 1, field := some "left" } [],
    .mk { type := "+", start := 1, stop := 2, named := false, field := some "operator" } [],
    .mk { type := "block_comment", start := 2, stop := 6, extra := true } [],
    .mk { type := "field_access", start := 6, stop := 9, field := some "right" } [
      .mk { type := "identifier", start := 6, stop := 7, field := some "object" } [],
      .mk { type := ".", start := 7, stop := 8, named := false } [],
      .mk { type := "identifier", start := 8, stop := 9, field := some "field" } []]]

/-- The tree of that sum with one more operand. -/
def nestedSum : Node :=
  .mk { type := "binary_expression", start := 0, stop := 15 } [
    innerSum,
    .mk { type := "+", start := 10, stop := 11, named := false, field := some "operator" } [],
    .mk { type := "string_literal", start := 12, stop := 15, field := some "right" } []]

def nestedSumSource : Source := "a+/**/x.y + \"b\"".toUTF8

/-- The inner sum is an operand of the outer one. -/
theorem canonicalText_nestedSum :
    ∃ inner plus b a sign xy, (root nestedSum).Joins inner plus b ∧ inner.Joins a sign xy ∧
      (root nestedSum).Adds [a, xy, b] ∧
      (root nestedSum).canonicalText nestedSumSource =
        inner.canonicalText nestedSumSource ++ " " ++ plus.node.type ++ " " ++ b.canonicalText nestedSumSource ∧
      (root nestedSum).canonicalText nestedSumSource =
        " + ".intercalate ([a, xy, b].map (·.canonicalText nestedSumSource)) ∧
      [inner, a, xy, b].map (·.canonicalText nestedSumSource) = ["a + x.y", "a", "x.y", "\"b\""] := by
  have solid : (root nestedSum).node.solid := by decide
  have outer : (root nestedSum).Joins _ _ _ := ⟨rfl, rfl, rfl, by decide⟩
  have inner : ((root nestedSum).down innerSum 0).Joins _ _ _ := ⟨rfl, rfl, rfl, by decide⟩
  have adds := Adds.plus outer rfl (.plus inner rfl (.single _))
  refine ⟨_, _, _, _, _, _, outer, inner, adds, ?_, ?_, by decide +kernel⟩
  · exact (canonicalText_operands nestedSumSource solid).1 _ _ _ outer (by decide +kernel) (by decide +kernel)
  · exact (canonicalText_operands nestedSumSource solid).2 _ adds (by decide +kernel)

/-- The tree of a sum that is marked as a comment. -/
def hiddenSum : Node :=
  .mk { type := "binary_expression", start := 0, stop := 3, extra := true } [
    .mk { type := "identifier", start := 0, stop := 1, field := some "left" } [],
    .mk { type := "+", start := 1, stop := 2, named := false, field := some "operator" } [],
    .mk { type := "identifier", start := 2, stop := 3, field := some "right" } []]

/-- Nothing is left of a sum that is marked as a comment. -/
theorem canonicalText_hiddenSum :
    ∃ a plus b, (root hiddenSum).Joins a plus b ∧
      IsWord (a.rendering "a+b".toUTF8) ∧ IsWord (b.rendering "a+b".toUTF8) ∧
      (root hiddenSum).canonicalText "a+b".toUTF8 ≠
        a.canonicalText "a+b".toUTF8 ++ " " ++ plus.node.type ++ " " ++ b.canonicalText "a+b".toUTF8 := by
  refine ⟨_, _, _, ⟨rfl, rfl, rfl, by decide⟩, ?_⟩
  decide +kernel

end Place
end LogReview
