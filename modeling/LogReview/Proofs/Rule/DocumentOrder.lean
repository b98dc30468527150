import LogReview.Proofs.Rule.Provenance
import LogReview.Proofs.Tree.Spans
import LogReview.Java.Program

/-! Issues in the order of the file. The rules that go through calls or methods of the walk say nothing of an earlier line
after a later one. The rule on catch clauses is the only other one: it goes through what is inside a `try` again when it
comes to the clauses of an inner one. -/
namespace LogReview.Rule

theorem Tours.pairwise_line {rule : Rule} (h : rule.Tours) {d : Document} (ordered : d.root.Every Node.Ordered) :
    (rule.issuesOf d).Pairwise fun i j => i.line ≤ j.line := by
  obtain ⟨k, remarks, _, surveys, own⟩ := h
  have line (p : Place) (f : Finding) (hf : f ∈ remarks d.source p) :
      (issue rule.id d f).line = p.line d.source := by
    rw [issue, own _ p f hf]
  rw [surveys.issuesOf_eq, List.pairwise_map, List.pairwise_flatMap]
  constructor
  · intro p _
    refine List.pairwise_of_forall_mem_list fun f hf g hg => ?_
    exact Int.le_of_eq ((line p f hf).trans (line p g hg).symm)
  · have places : d.top.walk.Pairwise fun p q => p.line d.source ≤ q.line d.source :=
      Place.pairwise_line_walk d.source ordered
    refine (places.sublist List.filter_sublist).imp ?_
    intro p q le f hf g hg
    rw [line p f hf, line q g hg]
    exact Int.ofNat_le.mpr le

/-- In a tree whose spans are nested and ordered, the issues of every rule but one are listed by their lines. -/
theorem check_by_line (limits : Limits) (d : Document) (ordered : d.root.Every Node.Ordered) :
    ∀ rule ∈ battery limits, rule.id ≠ "caught-without-action" →
      ∃ issues, rule.check d = .ok issues ∧ issues.Pairwise fun i j => i.line ≤ j.line := by
  intro rule mem other
  refine ⟨rule.issuesOf d, check_of_mem_battery mem d, ?_⟩
  rcases tours_of_mem_battery mem with rfl | tours
  · exact absurd rfl other
  · exact tours.pairwise_line ordered

/-- A `try` in a catch clause, with a call in each clause. -/
def innerTry : Document :=
  let text := "try\x7b\x7dcatch(E e)\x7btry\x7b\x7dcatch(F f)\x7b\na.info(b);\x7d\na.warn(c);\x7d"
  ⟨⟨.relative, ["A.java"]⟩, text.toUTF8, Java.parse text.toUTF8⟩

/-- The calls are named in order where their messages are missed, and the rule on catch clauses goes back. -/
theorem check_innerTry :
    innerTry.root.Every Node.Ordered ∧ missingContext ∈ battery {} ∧ missingContext.id ≠ "caught-without-action" ∧
      (∃ issues, missingContext.check innerTry = .ok issues ∧ issues.Pairwise fun i j => i.line ≤ j.line) ∧
      (missingContext.issuesOf innerTry).map (·.line) = [2, 3] ∧
      (caughtWithoutAction.issuesOf innerTry).map (·.line) = [2, 3, 2] := by
  have evaluated : innerTry.root.Every Node.Ordered ∧ (missingContext.issuesOf innerTry).map (·.line) = [2, 3] ∧
      (caughtWithoutAction.issuesOf innerTry).map (·.line) = [2, 3, 2] := by
    decide +kernel
  obtain ⟨ordered, lines⟩ := evaluated
  have mem : missingContext ∈ battery {} := by simp [battery]
  have other : missingContext.id ≠ "caught-without-action" := by decide
  exact ⟨ordered, mem, other, check_by_line {} innerTry ordered missingContext mem other, lines⟩

end LogReview.Rule
