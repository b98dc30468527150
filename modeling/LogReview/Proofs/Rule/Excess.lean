import LogReview.Proofs.Tree.Enclosure
import LogReview.Java.Program
import LogReview.Rule.Volume

/-! Methods with many log calls. The rule counts down from each method. Seen from the calls, it counts those that have the
method on their way up; so a call inside several methods counts for each of them, and a method with too many calls makes
the methods around it have too many. -/
namespace LogReview.Rule
variable {d : Document} {a m : Place}

/-- The number of log calls that have the place on their way up. -/
def callsUnder (d : Document) (m : Place) : Nat := d.logCalls.countP fun c => m ∈ c.ancestors

/-- Counting down from a method and looking up from the calls come to the same. -/
theorem length_logCalls (hm : m ∈ d.methods) : (m.logCalls d.source).length = callsUnder d m := by
  obtain ⟨walked, isMethod⟩ := List.mem_filter.mp hm
  have kind : m.kind = .methodDeclaration := beq_iff_eq.mp isMethod
  rw [callsUnder, Document.logCalls, Place.logCalls_eq, Place.logCalls_eq, ← Place.filter_walk_root walked,
    List.countP_filter, List.filter_filter, ← List.countP_eq_length_filter]
  apply List.countP_congr
  intro c _
  -- A method is no call, and so the way up from a call starts somewhere else.
  have different (isCall : c.isLogCall d.source) : m ≠ c := by
    rintro rfl
    rw [Place.kind_of_isLogCall isCall] at kind
    cases kind
  simp only [Bool.and_eq_true, decide_eq_true_eq, List.mem_cons]
  constructor
  · rintro ⟨isCall, inside⟩
    exact ⟨inside.resolve_left (different isCall), isCall⟩
  · rintro ⟨above, isCall⟩
    exact ⟨isCall, .inr above⟩

theorem callsUnder_le (ha : a ∈ m.ancestors) : callsUnder d m ≤ callsUnder d a := by
  apply List.countP_mono_left
  intro c _ under
  rw [decide_eq_true_iff] at under ⊢
  exact Place.mem_ancestors_trans ha under

/-- The methods with more calls than the limit, in the order of the file. -/
def excessiveMethods (limit : Int) (d : Document) : List Place := d.methods.filter fun m => limit < callsUnder d m

/-- What the rule says of a method. -/
def excessIssue (d : Document) (m : Place) : Issue :=
  ⟨d.file.text, m.line d.source,
    s!"Excessive logging: {callsUnder d m} log statements in method {m.name d.source}", "excessive-logging"⟩

theorem check_excessiveLogging (limit : Int) (d : Document) :
    (excessiveLogging limit).check d = .ok ((excessiveMethods limit d).map (excessIssue d)) := by
  have reports : (d.methods.filterMap (excessiveOf limit d.source)).map (issue "excessive-logging" d) =
      (excessiveMethods limit d).map (excessIssue d) := by
    rw [excessiveMethods, ← List.filterMap_eq_map, ← List.filterMap_eq_map, List.filterMap_filterMap,
      List.filterMap_filter]
    apply List.filterMap_congr
    intro m hm
    rw [excessiveOf, length_logCalls hm]
    by_cases above : limit < callsUnder d m
    · simp only [above, if_true, decide_true]
      rfl
    · simp [above]
  exact congrArg Except.ok reports

theorem count_excessiveMethods (limit : Int) (hm : m ∈ d.methods) :
    (excessiveMethods limit d).count m = if limit < callsUnder d m then 1 else 0 := by
  have nodup : (excessiveMethods limit d).Nodup := (d.top.nodup_findAll .methodDeclaration).filter _
  split
  case isTrue above => exact List.count_eq_one_of_mem nodup (List.mem_filter.mpr ⟨hm, by simpa using above⟩)
  case isFalse below =>
    apply List.count_eq_zero_of_not_mem
    intro reported
    exact below (by simpa using (List.mem_filter.mp reported).2)

/-- The methods around a method with too many calls are reported before it. -/
theorem sublist_excessiveMethods {limit : Int} (hm : m ∈ excessiveMethods limit d) (ha : a ∈ m.ancestors)
    (kind : a.kind = .methodDeclaration) : [a, m].Sublist (excessiveMethods limit d) := by
  obtain ⟨isMethod, above⟩ := List.mem_filter.mp hm
  obtain ⟨walked, isMethod⟩ := List.mem_filter.mp isMethod
  have more : limit < callsUnder d a := by
    have le : callsUnder d m ≤ callsUnder d a := callsUnder_le ha
    rw [decide_eq_true_iff] at above
    omega
  have before := ((Place.sublist_walk_of_mem_ancestors walked ha).filter (·.kind == .methodDeclaration)).filter
    fun q => limit < callsUnder d q
  have kept : ([a, m].filter (·.kind == .methodDeclaration)).filter (fun q => limit < callsUnder d q) = [a, m] := by
    simp [kind, isMethod, more, of_decide_eq_true above]
  rw [kept] at before
  exact before

/-- A method is reported once if the calls under it are more than the limit, and not at all otherwise; the report tells
their number. Methods around a reported one are reported before it, with numbers at least as high. -/
theorem excessiveLogging_exact (limit : Int) (d : Document) :
    (excessiveLogging limit).check d = .ok ((excessiveMethods limit d).map (excessIssue d)) ∧
      (∀ m ∈ d.methods, (excessiveMethods limit d).count m = if limit < callsUnder d m then 1 else 0) ∧
      ∀ m ∈ excessiveMethods limit d, ∀ a ∈ m.ancestors, a.kind = .methodDeclaration →
        [a, m].Sublist (excessiveMethods limit d) ∧ callsUnder d m ≤ callsUnder d a := by
  refine ⟨check_excessiveLogging limit d, ?_, ?_⟩
  · intro m hm
    exact count_excessiveMethods limit hm
  · intro m hm a ha kind
    exact ⟨sublist_excessiveMethods hm ha kind, callsUnder_le ha⟩

/-- A method in a class without a name inside another method, with a call in each. -/
def innerMethod : Document :=
  let text := "void f()\x7ba.info(b);new X()\x7bvoid g()\x7ba.info(b);\x7d\x7d;\x7d"
  ⟨⟨.relative, ["A.java"]⟩, text.toUTF8, Java.parse text.toUTF8⟩

/-- The call in the inner method counts for both methods. -/
theorem excessiveLogging_innerMethod :
    (excessiveLogging 0).check innerMethod = .ok [
        ⟨"A.java", 1, "Excessive logging: 2 log statements in method f", "excessive-logging"⟩,
        ⟨"A.java", 1, "Excessive logging: 1 log statements in method g", "excessive-logging"⟩] ∧
      ∃ m ∈ excessiveMethods 0 innerMethod, ∃ a ∈ m.ancestors, a.kind = .methodDeclaration ∧
        [a, m].Sublist (excessiveMethods 0 innerMethod) ∧ callsUnder innerMethod m ≤ callsUnder innerMethod a := by
  have evaluated : (excessiveLogging 0).check innerMethod = .ok [
        ⟨"A.java", 1, "Excessive logging: 2 log statements in method f", "excessive-logging"⟩,
        ⟨"A.java", 1, "Excessive logging: 1 log statements in method g", "excessive-logging"⟩] ∧
      ∃ m ∈ excessiveMethods 0 innerMethod, ∃ a ∈ m.ancestors, a.kind = .methodDeclaration := by
    decide +kernel
  obtain ⟨reports, m, hm, a, ha, kind⟩ := evaluated
  exact ⟨reports, m, hm, a, ha, kind, (excessiveLogging_exact 0 innerMethod).2.2 m hm a ha kind⟩

end LogReview.Rule
