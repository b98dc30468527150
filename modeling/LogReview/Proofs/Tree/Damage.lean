import LogReview.Proofs.Tree.Spans
import LogReview.Tree.Damage
import Mathlib.Order.Bounds.Basic

/-! The line that is named for a damaged tree. The search goes down the tree with a stack and stops at the first damaged
node; this is the first one in document order over all children. Where spans are nested and ordered, no damaged node of
the tree is on an earlier line. -/
namespace LogReview.Node
variable {n m : Node}

/-- What is searched is the document order of the nodes on the stack, one after the other. -/
theorem firstDamaged?_eq (stack : List Node) : firstDamaged? stack = (stack.flatMap preorder).find? damaged := by
  fun_induction firstDamaged? stack with
  | case1 => rfl
  | case2 n rest found =>
    rw [List.flatMap_cons, preorder_eq, List.cons_append, List.find?_cons_of_pos found]
  | case3 n rest whole ih =>
    rw [ih, List.flatMap_cons, preorder_eq, List.cons_append, List.find?_cons_of_neg whole, List.flatMap_append]

theorem errorLine_eq (src : Source) (n : Node) :
    n.errorLine src = ((n.preorder.find? damaged).getD n).line src := by
  rw [errorLine, firstDamaged?_eq, List.flatMap_singleton]
  rfl

/-- What comes first in document order is on no later line than what comes after it. -/
theorem line_le_of_find? (src : Source) (ordered : n.Every Ordered) {faulty : Node → Bool}
    (found : n.preorder.find? faulty = some m) : ∀ k ∈ n.preorder, faulty k → m.line src ≤ k.line src := by
  obtain ⟨_, before, after, split, none_before⟩ := List.find?_eq_some_iff_append.mp found
  have lines := pairwise_line_preorder src ordered
  rw [split] at lines ⊢
  intro k hk fault
  rcases List.mem_append.mp hk with hk | hk
  · have no_fault : faulty k = false := by simpa using none_before k hk
    rw [no_fault] at fault
    cases fault
  · rcases List.mem_cons.mp hk with rfl | hk
    · exact Nat.le_refl _
    · exact List.rel_of_pairwise_cons (List.pairwise_append.mp lines).2.1 hk

/-- The line named for a tree is that of its first damaged node in document order, or of the root if no node is damaged.
In a tree whose spans are nested and ordered it is the least line of all damaged nodes. -/
theorem errorLine_earliest (src : Source) (n : Node) :
    n.errorLine src = ((n.preorder.find? damaged).getD n).line src ∧
      ((∀ m, n.Contains m → m.damaged = false) → n.errorLine src = n.line src) ∧
      (n.Every Ordered → (∃ m, n.Contains m ∧ m.damaged) →
        IsLeast {line | ∃ m, n.Contains m ∧ m.damaged ∧ m.line src = line} (n.errorLine src)) := by
  simp only [← mem_preorder_iff]
  refine ⟨errorLine_eq src n, ?_, ?_⟩
  · intro whole
    have nothing : n.preorder.find? damaged = none := by simpa using whole
    rw [errorLine_eq, nothing, Option.getD_none]
  · rintro ordered ⟨k, hk, damage⟩
    obtain ⟨m, found⟩ := Option.isSome_iff_exists.mp (List.find?_isSome.mpr ⟨k, hk, damage⟩)
    rw [errorLine_eq, found, Option.getD_some]
    refine ⟨⟨m, List.mem_of_find?_eq_some found, List.find?_some found, rfl⟩, ?_⟩
    rintro line ⟨e, he, damage, rfl⟩
    exact line_le_of_find? src ordered found e he damage

-- Where spans are not in order, an earlier line may come later in the tree.
example :
    let fault (start : Nat) : Node := .mk { type := "ERROR", start, stop := 2 } []
    (Node.mk { type := "program", start := 0, stop := 2 } [fault 1, fault 0]).errorLine "\na".toUTF8 = 2 := by
  decide +kernel

/-- The tree of `a(\n#\n)`: a stray character among the arguments, and no end of the statement. -/
def strayCharacter : Node :=
  .mk { type := "expression_statement", start := 0, stop := 6 } [
    .mk { type := "method_invocation", start := 0, stop := 6 } [
      .mk { type := "identifier", start := 0, stop := 1, field := some "name" } [],
      .mk { type := "argument_list", start := 1, stop := 6, field := some "arguments" } [
        .mk { type := "(", start := 1, stop := 2, named := false } [],
        .mk { type := "ERROR", start := 3, stop := 4, extra := true } [],
        .mk { type := ")", start := 5, stop := 6, named := false } []]],
    .mk { type := ";", start := 6, stop := 6, named := false, missing := true } []]

theorem errorLine_strayCharacter :
    strayCharacter.Every Ordered ∧ (∃ m, strayCharacter.Contains m ∧ m.damaged) ∧
      IsLeast {line | ∃ m, strayCharacter.Contains m ∧ m.damaged ∧ m.line "a(\n#\n)".toUTF8 = line}
        (strayCharacter.errorLine "a(\n#\n)".toUTF8) ∧
      (strayCharacter.preorder.filter damaged).map (·.line "a(\n#\n)".toUTF8) = [2, 3] := by
  have evaluated : strayCharacter.Every Ordered ∧ (∃ m ∈ strayCharacter.preorder, m.damaged) ∧
      (strayCharacter.preorder.filter damaged).map (·.line "a(\n#\n)".toUTF8) = [2, 3] := by
    decide +kernel
  obtain ⟨ordered, ⟨m, hm, damage⟩, lines⟩ := evaluated
  have damaged_part : ∃ m, strayCharacter.Contains m ∧ m.damaged := ⟨m, mem_preorder_iff.mp hm, damage⟩
  exact ⟨ordered, damaged_part, (errorLine_earliest _ strayCharacter).2.2 ordered damaged_part, lines⟩

end LogReview.Node
