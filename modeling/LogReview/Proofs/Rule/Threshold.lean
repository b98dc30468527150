import LogReview.Proofs.Rule.Battery
import LogReview.Java.Program
import Mathlib.Data.List.Basic

/-! What the limits do. Two rules measure something, tell the number and report it if it is above their limit. With
higher limits the issues with a number up to the new limit are dropped, and nothing else changes. -/
namespace LogReview

/-- The number that a text has behind its first words. -/
def Text.numberAfter? (words text : String) : Option Nat :=
  let digits := (text.toList.drop words.toList.length).takeWhile Char.isDigit
  if words.toList.isPrefixOf text.toList && !digits.isEmpty then some (Nat.ofDigitChars 10 digits 0) else none

theorem Text.numberAfter?_append (words : String) (n : Nat) {rest : String} {c : Char} (h : rest.toList.head? = some c)
    (hc : c.isDigit = false) : numberAfter? words (words ++ n.repr ++ rest) = some n := by
  have digits : (Nat.toDigits 10 n ++ rest.toList).takeWhile Char.isDigit = Nat.toDigits 10 n := by
    obtain ⟨cs, hcs⟩ := List.head?_eq_some_iff.mp h
    rw [List.takeWhile_append_of_pos, hcs, List.takeWhile_cons_of_neg, List.append_nil]
    · simp [hc]
    · exact fun a ha => Nat.isDigit_of_mem_toDigits (by decide) (by decide) ha
  have split : (words ++ n.repr ++ rest).toList = words.toList ++ (Nat.toDigits 10 n ++ rest.toList) := by
    simp [Nat.toList_repr]
  simp only [numberAfter?, split, List.drop_left, digits]
  rw [if_pos (by simp [Nat.toDigits_ne_nil]), Nat.ofDigitChars_toDigits (by decide) (by decide)]

/-- The number of log calls or of characters that an issue of a rule with a limit tells. -/
def Issue.number? (i : Issue) : Option Nat :=
  if i.rule == "excessive-logging" then Text.numberAfter? "Excessive logging: " i.description
  else if i.rule == "verbose-message" then Text.numberAfter? "Overly verbose log message (" i.description
  else none

namespace Rule

/-! ### Rules that measure -/

/-- The rule tells numbers, and reports those above its limit. -/
def Gauges (rule : Int → Rule) : Prop :=
  ∃ measured : Document → List (Nat × Issue),
    (∀ limit d, (rule limit).issuesOf d = ((measured d).filter fun m => limit < m.1).map (·.2)) ∧
    ∀ d, ∀ m ∈ measured d, m.2.number? = some m.1

theorem gauges_ofFindings {id : String} {select : Document → List Place} {say : Int → Source → Place → Option Finding}
    (measure : Source → Place → Option Nat) (text : Source → Place → Nat → String)
    (say_eq : ∀ limit src p, say limit src p =
      (measure src p).bind fun n => if limit < n then some ⟨p, text src p n⟩ else none)
    (tells : ∀ d p n, (issue id d ⟨p, text d.source p n⟩).number? = some n) :
    Gauges fun limit => ofFindings id fun d => (select d).filterMap (say limit d.source) := by
  let measured (d : Document) (p : Place) : Option (Nat × Issue) :=
    (measure d.source p).map fun n => (n, issue id d ⟨p, text d.source p n⟩)
  refine ⟨fun d => (select d).filterMap (measured d), fun limit d => ?_, fun d m hm => ?_⟩
  · change ((select d).filterMap (say limit d.source)).map (issue id d) = _
    rw [List.map_filterMap, List.filter_filterMap, List.map_filterMap]
    refine List.filterMap_congr fun p _ => ?_
    rw [say_eq]
    cases measured? : measure d.source p with
    | none => simp [measured, measured?]
    | some n => by_cases above : limit < n <;> simp [measured, measured?, above, Option.filter]
  · obtain ⟨p, _, hm⟩ := List.mem_filterMap.mp hm
    obtain ⟨n, _, rfl⟩ := Option.map_eq_some_iff.mp hm
    exact tells d p n

theorem gauges_excessiveLogging : Gauges excessiveLogging := by
  refine gauges_ofFindings (fun src p => some (p.logCalls src).length)
    (fun src p n => s!"Excessive logging: {n} log statements in method {p.name src}") (fun _ _ _ => rfl) fun d p n => ?_
  have rest : (" log statements in method " ++ p.name d.source).toList.head? = some ' ' := by simp
  have told := Text.numberAfter?_append "Excessive logging: " n rest (by decide)
  rw [← String.append_assoc] at told
  rw [Issue.number?, if_pos (by simp [issue])]
  exact told

theorem gauges_verboseMessage : Gauges verboseMessage := by
  refine gauges_ofFindings
    (fun src p => p.arguments.head?.bind fun a => if a.isStringLiteral then some (a.stringValue src).length else none)
    (fun _ _ n => s!"Overly verbose log message ({n} chars)") (fun limit src p => ?_) fun d p n => ?_
  · rw [verboseOf]
    cases p.arguments with
    | nil => rfl
    | cons first => cases literal : first.isStringLiteral <;> simp [literal]
  · have rest : " chars)".toList.head? = some ' ' := by simp
    have told := Text.numberAfter?_append "Overly verbose log message (" n rest (by decide)
    rw [Issue.number?, if_neg (by simp [issue]), if_pos (by simp [issue])]
    exact told

section Raise
variable {rule : Int → Rule} {low high : Int}

theorem Gauges.lt_of_mem (h : Gauges rule) {d : Document} {i : Issue} (hi : i ∈ (rule low).issuesOf d) :
    ∃ n, i.number? = some n ∧ low < n := by
  obtain ⟨measured, selects, tells⟩ := h
  rw [selects] at hi
  obtain ⟨m, hm, rfl⟩ := List.mem_map.mp hi
  obtain ⟨hm, above⟩ := List.mem_filter.mp hm
  exact ⟨m.1, tells d m hm, of_decide_eq_true above⟩

/-- A higher limit drops the numbers up to it. -/
theorem Gauges.issuesOf_eq_filter (h : Gauges rule) (le : low ≤ high) (d : Document) :
    (rule high).issuesOf d = ((rule low).issuesOf d).filter fun i => !i.number?.any fun n => low < n && n ≤ high := by
  obtain ⟨measured, selects, tells⟩ := h
  rw [selects, selects, List.filter_map, List.filter_filter]
  congr 1
  refine List.filter_congr fun m hm => ?_
  simp only [Function.comp_apply, tells d m hm]
  by_cases above : high < m.1
  · have : low < m.1 := by omega
    simp [*]
  · have : (m.1 : Int) ≤ high := by omega
    simp [*]

end Raise

/-! ### The whole battery -/

theorem exists_battery_eq :
    ∃ before between after : List Rule,
      (∀ limits, battery limits = before ++ excessiveLogging limits.logCalls ::
        (between ++ verboseMessage limits.messageLength :: after)) ∧
      ∀ rule ∈ before ++ between ++ after, rule.id ≠ "excessive-logging" ∧ rule.id ≠ "verbose-message" := by
  refine ⟨[printStackTrace, logAndRethrow, completeObject],
    [consoleOutput, missingContext, hardcodedMessage, repeatedLog, logInLoop],
    [inconsistentLevel, caughtWithoutAction, stringConcatenation, stackTraceOveruse], fun _ => rfl, ?_⟩
  rw [← List.forall_mem_map (P := fun id => id ≠ "excessive-logging" ∧ id ≠ "verbose-message")]
  decide

/-- The issue tells a number that is above the limit of its rule, but not above the higher one. -/
def isBetween (limits higher : Limits) (i : Issue) : Bool :=
  i.number?.any fun n =>
    i.rule == "excessive-logging" && (limits.logCalls < n && n ≤ higher.logCalls) ||
      i.rule == "verbose-message" && (limits.messageLength < n && n ≤ higher.messageLength)

variable {limits higher : Limits} {d : Document}

theorem filter_of_ids {rules : List Rule} (own : ∀ rule ∈ rules, rule ∈ battery limits)
    (others : ∀ rule ∈ rules, rule.id ≠ "excessive-logging" ∧ rule.id ≠ "verbose-message") :
    (rules.flatMap (·.issuesOf d)).filter (!isBetween limits higher ·) = rules.flatMap (·.issuesOf d) := by
  refine List.filter_eq_self.mpr fun i hi => ?_
  obtain ⟨rule, hrule, hi⟩ := List.mem_flatMap.mp hi
  obtain ⟨notCalls, notLength⟩ := others rule hrule
  simp [isBetween, Issue.number?, (eq_of_mem_issuesOf (own rule hrule) hi).2, notCalls, notLength]

theorem filter_excessiveLogging (le : limits.logCalls ≤ higher.logCalls) :
    ((excessiveLogging limits.logCalls).issuesOf d).filter (!isBetween limits higher ·) =
      (excessiveLogging higher.logCalls).issuesOf d := by
  rw [gauges_excessiveLogging.issuesOf_eq_filter le]
  refine List.filter_congr fun i hi => ?_
  have id := (@eq_of_mem_issuesOf limits _ (by simp [battery]) d i hi).2
  simp [isBetween, id, excessiveLogging, ofFindings]

theorem filter_verboseMessage (le : limits.messageLength ≤ higher.messageLength) :
    ((verboseMessage limits.messageLength).issuesOf d).filter (!isBetween limits higher ·) =
      (verboseMessage higher.messageLength).issuesOf d := by
  rw [gauges_verboseMessage.issuesOf_eq_filter le]
  refine List.filter_congr fun i hi => ?_
  have id := (@eq_of_mem_issuesOf limits _ (by simp [battery]) d i hi).2
  simp [isBetween, id, verboseMessage, ofFindings]

/-- What the rules with limits report tells a number above the limit. -/
theorem lt_number_of_mem {i : Issue} (h : i ∈ (battery limits).flatMap (·.issuesOf d)) :
    (i.rule = "excessive-logging" → ∃ n, i.number? = some n ∧ limits.logCalls < n) ∧
      (i.rule = "verbose-message" → ∃ n, i.number? = some n ∧ limits.messageLength < n) := by
  obtain ⟨rule, hrule, hi⟩ := List.mem_flatMap.mp h
  have id := (eq_of_mem_issuesOf hrule hi).2
  obtain ⟨before, between, after, eq, others⟩ := exists_battery_eq
  rw [id]
  by_cases other : rule ∈ before ++ between ++ after
  · exact ⟨fun calls => absurd calls (others rule other).1, fun length => absurd length (others rule other).2⟩
  · simp only [eq, List.mem_append, List.mem_cons, not_or] at hrule other
    have measures : rule = excessiveLogging limits.logCalls ∨ rule = verboseMessage limits.messageLength := by tauto
    rcases measures with rfl | rfl
    · refine ⟨fun _ => gauges_excessiveLogging.lt_of_mem hi, fun length => absurd length ?_⟩
      simp [excessiveLogging, ofFindings]
    · refine ⟨fun calls => absurd calls ?_, fun _ => gauges_verboseMessage.lt_of_mem hi⟩
      simp [verboseMessage, ofFindings]

/-- With higher limits the same is found, in the same order, but for the numbers that are not above them any more. -/
theorem checkAll_of_limits_le (calls : limits.logCalls ≤ higher.logCalls)
    (length : limits.messageLength ≤ higher.messageLength) (d : Document) :
    ∃ is js, checkAll (battery limits) d = .ok is ∧ checkAll (battery higher) d = .ok js ∧
      js.Sublist is ∧ js = is.filter (!isBetween limits higher ·) ∧
      ∀ i ∈ is, (i.rule = "excessive-logging" → ∃ n, i.number? = some n ∧ limits.logCalls < n) ∧
        (i.rule = "verbose-message" → ∃ n, i.number? = some n ∧ limits.messageLength < n) := by
  have filtered : (battery higher).flatMap (·.issuesOf d) =
      ((battery limits).flatMap (·.issuesOf d)).filter (!isBetween limits higher ·) := by
    obtain ⟨before, between, after, eq, others⟩ := exists_battery_eq
    have unchanged {rules : List Rule} (part : ∀ rule ∈ rules, rule ∈ before ++ between ++ after) :
        (rules.flatMap (·.issuesOf d)).filter (!isBetween limits higher ·) = rules.flatMap (·.issuesOf d) := by
      refine filter_of_ids (fun rule hrule => ?_) fun rule hrule => others rule (part rule hrule)
      have := part rule hrule
      simp only [eq, List.mem_append, List.mem_cons] at this ⊢
      tauto
    rw [eq limits, eq higher]
    simp only [List.flatMap_append, List.flatMap_cons, List.filter_append, filter_excessiveLogging calls,
      filter_verboseMessage length]
    rw [unchanged (by simp +contextual), unchanged (by simp +contextual), unchanged (by simp +contextual)]
  refine ⟨_, _, checkAll_battery limits d, checkAll_battery higher d, ?_, filtered, fun i => lt_number_of_mem⟩
  rw [filtered]
  exact List.filter_sublist

/-- A method of two log calls, one of them with a message of two characters. -/
def busyMethod : Document :=
  let text := "void f() \x7b a.info(\"01\"); a.info(b); \x7d"
  ⟨⟨.relative, ["A.java"]⟩, text.toUTF8, Java.parse text.toUTF8⟩

/-- The issues about two calls and about two characters are dropped. -/
theorem checkAll_busyMethod :
    (1 : Int) ≤ 2 ∧ (1 : Int) ≤ 2 ∧
      (∃ is js, checkAll (battery ⟨1, 1⟩) busyMethod = .ok is ∧ checkAll (battery ⟨2, 2⟩) busyMethod = .ok js ∧
        js.Sublist is ∧ js = is.filter (!isBetween ⟨1, 1⟩ ⟨2, 2⟩ ·)) ∧
      (checkAll (battery ⟨1, 1⟩) busyMethod).toOption.map (·.map (·.rule)) =
        some ["excessive-logging", "missing-context", "hardcoded-message", "verbose-message"] ∧
      (checkAll (battery ⟨2, 2⟩) busyMethod).toOption.map (·.map (·.rule)) =
        some ["missing-context", "hardcoded-message"] := by
  have le : (1 : Int) ≤ 2 := by decide
  refine ⟨le, le, ?_, by decide +kernel⟩
  obtain ⟨is, js, low, high, sublist, filtered, _⟩ := @checkAll_of_limits_le ⟨1, 1⟩ ⟨2, 2⟩ le le busyMethod
  exact ⟨is, js, low, high, sublist, filtered⟩

end Rule
end LogReview
