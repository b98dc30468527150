import LogReview.Review
import LogReview.Proofs.Rule.Battery

/-! A file is reviewed by all rules or by none: the first rule that fails takes with it what the others found, and
where it stands among them does not show. -/
namespace LogReview

namespace Rule
variable {d : Document} {rule : Rule} {before : List Rule}

/-- The rule does not fail on this file. -/
def Passes (rule : Rule) (d : Document) : Prop := rule.check d = .ok (rule.issuesOf d)

theorem passes_or_fails (rule : Rule) (d : Document) :
    rule.Passes d ∨ ∃ message, rule.check d = .error message := by
  match checked : rule.check d with
  | .ok issues => exact .inl (by rw [Passes, issuesOf, checked]; rfl)
  | .error message => exact .inr ⟨message, rfl⟩

theorem checkAll_append (before after : List Rule) (d : Document) :
    checkAll (before ++ after) d = do
      let first ← checkAll before d
      let rest ← checkAll after d
      return first ++ rest := by
  induction before with
  | nil =>
    simp only [List.nil_append, checkAll]
    cases checkAll after d <;> rfl
  | cons rule before ih =>
    simp only [List.cons_append, checkAll, ih]
    cases rule.check d with
    | error => rfl
    | ok =>
      cases checkAll before d with
      | error => rfl
      | ok =>
        cases checkAll after d with
        | error => rfl
        | ok => simp [bind, Except.bind, pure, Except.pure]

/-- The first failure is the one that is told. -/
theorem checkAll_eq_error (passed : ∀ r ∈ before, r.Passes d) {message : String}
    (failed : rule.check d = .error message) (after : List Rule) :
    checkAll (before ++ rule :: after) d = .error message := by
  rw [checkAll_append, checkAll_eq_ok passed, checkAll, failed]
  rfl

/-- A rule that finds nothing can be left out. -/
theorem checkAll_insert (silent : rule.check d = .ok []) (before after : List Rule) :
    checkAll (before ++ rule :: after) d = checkAll (before ++ after) d := by
  have skip : checkAll (rule :: after) d = checkAll after d := by
    rw [checkAll, silent]
    cases checkAll after d <;> rfl
  rw [checkAll_append, checkAll_append, skip]

theorem forall_passes_or_exists_first_failure (rules : List Rule) (d : Document) :
    (∀ rule ∈ rules, rule.Passes d) ∨
      ∃ before rule after message, rules = before ++ rule :: after ∧ (∀ r ∈ before, r.Passes d) ∧
        rule.check d = .error message := by
  induction rules with
  | nil => exact .inl (by simp)
  | cons rule rules ih =>
    rcases rule.passes_or_fails d with passes | ⟨message, failed⟩
    · rcases ih with all | ⟨before, culprit, after, message, rfl, passed, failed⟩
      · exact .inl (List.forall_mem_cons.mpr ⟨passes, all⟩)
      · exact .inr ⟨rule :: before, culprit, after, message, rfl, List.forall_mem_cons.mpr ⟨passes, passed⟩, failed⟩
    · exact .inr ⟨[], rule, rules, message, rfl, by simp, failed⟩

end Rule

namespace Review

theorem ofDocument_of_checkAll_ok {rules : List Rule} {d : Document} {issues : List Issue}
    (h : Rule.checkAll rules d = .ok issues) (file : Path) : ofDocument rules file (.ok d) = ⟨file, issues, none⟩ := by
  rw [ofDocument, h]

theorem ofDocument_of_checkAll_error {rules : List Rule} {d : Document} {message : String}
    (h : Rule.checkAll rules d = .error message) (file : Path) :
    ofDocument rules file (.ok d) = failed file (.ruleFailed message) := by
  rw [ofDocument, h]

/-- Either no rule fails and a file has the issues of all of them in order, or it has none and tells the first
failure. A rule that is added to the battery and fails gives the same report at every place in it, and one that
finds nothing gives the report of the battery. -/
theorem ofDocument_all_or_nothing (rules : List Rule) (file : Path) (d : Document) :
    ((∀ rule ∈ rules, rule.Passes d) ∧
        ofDocument rules file (.ok d) = ⟨file, rules.flatMap (·.issuesOf d), none⟩ ∨
      ∃ before rule after message, rules = before ++ rule :: after ∧
        (∀ r ∈ before, r.Passes d) ∧ rule.check d = .error message ∧
        ∃ failure, ofDocument rules file (.ok d) = ⟨file, [], some failure⟩ ∧ failure.file = file ∧
          failure.fault.reason = "analysis failed: " ++ message) ∧
    ∀ limits before after rule, Rule.battery limits = before ++ after →
      (∀ message, rule.check d = .error message →
        ofDocument (before ++ rule :: after) file (.ok d) = failed file (.ruleFailed message)) ∧
      (rule.check d = .ok [] →
        ofDocument (before ++ rule :: after) file (.ok d) = ofDocument (Rule.battery limits) file (.ok d)) := by
  refine ⟨?_, fun limits before after rule battery => ⟨fun message fails => ?_, fun silent => ?_⟩⟩
  · rcases Rule.forall_passes_or_exists_first_failure rules d with all | ⟨before, rule, after, message, rfl, passed, fails⟩
    · exact .inl ⟨all, ofDocument_of_checkAll_ok (Rule.checkAll_eq_ok all) file⟩
    · refine .inr ⟨before, rule, after, message, rfl, passed, fails, ⟨file, .ruleFailed message⟩, ?_, rfl, rfl⟩
      exact ofDocument_of_checkAll_error (Rule.checkAll_eq_error passed fails after) file
  · have passed : ∀ r ∈ before, r.Passes d := fun r hr =>
      @Rule.check_of_mem_battery limits r (by simp [battery, hr]) d
    exact ofDocument_of_checkAll_error (Rule.checkAll_eq_error passed fails after) file
  · rw [ofDocument, ofDocument, Rule.checkAll_insert silent, battery]

/-- A file with a call to report. -/
def printing (name : String) : Document :=
  let source := "class A \x7b void f() \x7b System.out.println(1); \x7d \x7d".toUTF8
  ⟨⟨.relative, [name]⟩, source, Java.parse source⟩

/-- Fails on one of two files that are alike but for their names, and is silent on the other. -/
def wary : Rule := .refusing "wary" "A" "refused"

/-- Wherever the rule stands, what the others find is dropped for the one file and kept for the other. -/
theorem ofDocument_wary :
    let found (name : String) : FileReport := ⟨(printing name).file,
      [⟨name, 1, "Uses System.out.println instead of structured logging", "console-output"⟩], none⟩
    wary.check (printing "A.java") = .error "refused" ∧ wary.check (printing "B.java") = .ok [] ∧
      (∀ name ∈ ["A.java", "B.java"],
        ofDocument (Rule.battery {}) (printing name).file (.ok (printing name)) = found name) ∧
      ∀ i, let rules := (Rule.battery {}).take i ++ wary :: (Rule.battery {}).drop i
        ofDocument rules (printing "A.java").file (.ok (printing "A.java")) =
          failed (printing "A.java").file (.ruleFailed "refused") ∧
        ofDocument rules (printing "B.java").file (.ok (printing "B.java")) = found "B.java" := by
  intro found
  have fails : wary.check (printing "A.java") = .error "refused" := by decide +kernel
  have silent : wary.check (printing "B.java") = .ok [] := by decide +kernel
  have reviewed : ∀ name ∈ ["A.java", "B.java"],
      ofDocument (Rule.battery {}) (printing name).file (.ok (printing name)) = found name := by
    decide +kernel
  have split (i : Nat) := (List.take_append_drop i (Rule.battery {})).symm
  refine ⟨fails, silent, reviewed, fun i => ⟨?_, ?_⟩⟩
  · exact ((ofDocument_all_or_nothing [] _ (printing "A.java")).2 {} _ _ wary (split i)).1 _ fails
  · rw [((ofDocument_all_or_nothing [] _ (printing "B.java")).2 {} _ _ wary (split i)).2 silent]
    exact reviewed _ (by simp)

end Review

end LogReview
