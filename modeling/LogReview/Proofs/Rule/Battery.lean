import LogReview.Rule.Battery
import Mathlib.Tactic.Common

/-! The battery never fails: what it lists is what its rules list, one after the other, and every issue carries
the file that was looked at and the rule that found it. -/
namespace LogReview.Rule

/-- What a rule lists, which is nothing where it fails. -/
def issuesOf (rule : Rule) (d : Document) : List Issue := (rule.check d).toOption.getD []

theorem exists_find_of_mem_battery {limits : Limits} {rule : Rule} (h : rule ∈ battery limits) :
    ∃ find, rule = ofFindings rule.id find := by
  simp only [battery, List.mem_cons, List.not_mem_nil, or_false] at h
  rcases h with rfl | rfl | rfl | rfl | rfl | rfl | rfl | rfl | rfl | rfl | rfl | rfl | rfl | rfl
  all_goals exact ⟨_, rfl⟩

theorem check_of_mem_battery {limits : Limits} {rule : Rule} (h : rule ∈ battery limits) (d : Document) :
    rule.check d = .ok (rule.issuesOf d) := by
  obtain ⟨find, hfind⟩ := exists_find_of_mem_battery h
  rw [issuesOf, hfind]
  rfl

theorem eq_of_mem_issuesOf {limits : Limits} {rule : Rule} (h : rule ∈ battery limits) {d : Document} {i : Issue}
    (hi : i ∈ rule.issuesOf d) : i.file = d.file.text ∧ i.rule = rule.id := by
  obtain ⟨find, hfind⟩ := exists_find_of_mem_battery h
  rw [issuesOf, hfind] at hi
  obtain ⟨f, _, rfl⟩ := List.mem_map.mp (show i ∈ (find d).map (issue rule.id d) from hi)
  exact ⟨rfl, rfl⟩

theorem checkAll_eq_ok {rules : List Rule} {d : Document} (h : ∀ rule ∈ rules, rule.check d = .ok (rule.issuesOf d)) :
    checkAll rules d = .ok (rules.flatMap (·.issuesOf d)) := by
  induction rules with
  | nil => rfl
  | cons rule rules ih =>
    rw [checkAll, h rule (by simp), ih fun r hr => h r (by simp [hr])]
    rfl

theorem checkAll_battery (limits : Limits) (d : Document) :
    checkAll (battery limits) d = .ok ((battery limits).flatMap (·.issuesOf d)) :=
  checkAll_eq_ok fun _ h => check_of_mem_battery h d

/-- Every issue it lists carries the file it looked at. -/
def Local (rule : Rule) : Prop := ∀ d issues, rule.check d = .ok issues → ∀ i ∈ issues, i.file = d.file.text

theorem local_of_mem_battery {limits : Limits} {rule : Rule} (h : rule ∈ battery limits) : rule.Local := by
  intro d issues hcheck i hi
  rw [check_of_mem_battery h] at hcheck
  cases hcheck
  exact (eq_of_mem_issuesOf h hi).1

theorem local_refusing (id start message : String) : (refusing id start message).Local := by
  intro d issues hcheck i hi
  simp only [refusing] at hcheck
  split at hcheck
  · cases hcheck
  · cases hcheck
    cases hi

theorem checkAll_local {rules : List Rule} (h : ∀ rule ∈ rules, rule.Local) {d : Document} {issues : List Issue}
    (hcheck : checkAll rules d = .ok issues) : ∀ i ∈ issues, i.file = d.file.text := by
  induction rules generalizing issues with
  | nil =>
    cases hcheck
    simp
  | cons rule rules ih =>
    rw [List.forall_mem_cons] at h
    match first : rule.check d, rest : checkAll rules d with
    | .ok own, .ok more =>
      simp only [checkAll, first, rest, bind, Except.bind, pure, Except.pure] at hcheck
      cases hcheck
      exact List.forall_mem_append.mpr ⟨h.1 d own first, ih h.2 rest⟩
    | .error _, _ => simp [checkAll, first, bind, Except.bind] at hcheck
    | .ok _, .error _ => simp [checkAll, first, rest, bind, Except.bind] at hcheck

end LogReview.Rule
