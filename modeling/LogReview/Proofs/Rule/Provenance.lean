import LogReview.Proofs.Rule.Agreement
import LogReview.Proofs.Tree.Chain

/-! Where issues come from. Each is at the line of a call or a method of its file, issues stand in the order of the
rules, and what one rule says is found again among what all rules say. -/
namespace LogReview

theorem Source.row_le (src : Source) (offset : Nat) : src.row offset ≤ src.data.count 10 := by
  rw [row, ByteArray.data_extract, ← Array.count_toList, ← Array.count_toList, Array.toList_extract]
  exact ((List.take_sublist _ _).trans (List.drop_sublist _ _)).count_le 10

namespace Document

/-- A call or a method that is shown in the tree. -/
structure Site (d : Document) (p : Place) : Prop where
  walked : p ∈ d.top.walk
  kind : p.kind = .methodCall ∨ p.kind = .methodDeclaration

/-- A call below the body of a catch clause that is not shown in the tree. -/
structure HiddenCall (d : Document) (p : Place) : Prop where
  kind : p.kind = .methodCall
  below : ∃ clause ∈ d.top.findAll .catchClause, ∃ body ∈ clause.body?, body.node.shown = false ∧ p ∈ body.walk

end Document

namespace Rule

/-! ### Findings are about calls and methods -/

/-- The rule goes through calls or methods in the order of the walk, and what it says of one it says at that place. -/
def Tours (rule : Rule) : Prop :=
  ∃ k remarks, (k = .methodCall ∨ k = .methodDeclaration) ∧ rule.Surveys k remarks ∧
    ∀ src p, ∀ f ∈ remarks src p, f.place = p

/-- The calls or the methods that pass a test of their own. -/
def Picks (select : Document → List Place) : Prop :=
  ∃ (k : Kind) (keep : Source → Place → Bool), (k = .methodCall ∨ k = .methodDeclaration) ∧
    ∀ d, select d = (d.top.findAll k).filter (keep d.source)

theorem picks_calls : Picks Document.calls :=
  ⟨.methodCall, fun _ _ => true, .inl rfl, fun _ => (List.filter_true _).symm⟩

theorem picks_methods : Picks Document.methods :=
  ⟨.methodDeclaration, fun _ _ => true, .inr rfl, fun _ => (List.filter_true _).symm⟩

theorem picks_logCalls : Picks Document.logCalls := ⟨.methodCall, Place.isLogCall, .inl rfl, fun _ => rfl⟩

section Tours
variable {id text : String} {select : Document → List Place} (picks : Picks select)
include picks

theorem tours_flatMap {say : Source → Place → List Finding} (own : ∀ src p, ∀ f ∈ say src p, f.place = p) :
    (ofFindings id fun d => (select d).flatMap (say d.source)).Tours := by
  obtain ⟨k, keep, kinds, picked⟩ := picks
  refine ⟨k, fun src p => if keep src p then say src p else [], kinds, ?_, ?_⟩
  · intro d
    rw [← flatMap_filter, ← picked]
    rfl
  · intro src p f hf
    dsimp only at hf
    split at hf
    · exact own src p f hf
    · cases hf

theorem tours_filterMap {say : Source → Place → Option Finding} (own : ∀ src p, ∀ f ∈ say src p, f.place = p) :
    (ofFindings id fun d => (select d).filterMap (say d.source)).Tours := by
  simp only [List.filterMap_eq_flatMap_toList]
  exact tours_flatMap picks fun src p f hf => own src p f (Option.mem_toList.mp hf)

theorem tours_filter (test : Source → Place → Bool) :
    (ofFindings id fun d => ((select d).filter (test d.source)).map (⟨·, text⟩)).Tours := by
  have own (src : Source) (p : Place) : ∀ f ∈ (if test src p then [⟨p, text⟩] else [] : List Finding), f.place = p := by
    intro f hf
    split at hf
    · rw [List.mem_singleton.mp hf]
    · cases hf
  simp only [List.map_eq_flatMap, flatMap_filter]
  exact tours_flatMap picks own

end Tours

theorem place_of_mem_excessiveOf (limit : Int) (src : Source) (p : Place) :
    ∀ f ∈ excessiveOf limit src p, f.place = p := by
  intro f hf
  simp only [excessiveOf, Option.mem_def, Option.ite_none_right_eq_some, Option.some.injEq] at hf
  rw [← hf.2]

theorem place_of_mem_verboseOf (limit : Int) (src : Source) (p : Place) :
    ∀ f ∈ verboseOf limit src p, f.place = p := by
  intro f hf
  rw [Option.mem_def, verboseOf] at hf
  split at hf
  · cases hf
  · simp only [Option.ite_none_right_eq_some, Option.some.injEq] at hf
    rw [← hf.2]

theorem place_of_mem_consoleOf (src : Source) (p : Place) : ∀ f ∈ consoleOf src p, f.place = p := by
  intro f hf
  simp only [consoleOf, Option.mem_def, Option.ite_none_right_eq_some, Option.some.injEq] at hf
  rw [← hf.2]

theorem place_of_mem_missingContextOf (src : Source) (p : Place) : ∀ f ∈ missingContextOf src p, f.place = p := by
  intro f hf
  rw [Option.mem_def, missingContextOf] at hf
  repeat' split at hf
  all_goals cases hf <;> rfl

theorem place_of_mem_inconsistentLevelOf (src : Source) (p : Place) :
    ∀ f ∈ inconsistentLevelOf src p, f.place = p := by
  intro f hf
  rw [Option.mem_def, inconsistentLevelOf] at hf
  repeat' split at hf
  all_goals cases hf <;> rfl

theorem place_of_mem_completeObjectsOf (src : Source) (p : Place) : ∀ f ∈ completeObjectsOf src p, f.place = p := by
  intro f hf
  obtain ⟨⟨arg, i⟩, _, said⟩ := List.mem_filterMap.mp hf
  dsimp only at said
  repeat' split at said
  all_goals cases said <;> rfl

theorem place_of_mem_repeatedOf (src : Source) (p : Place) : ∀ f ∈ repeatedOf src p, f.place = p := by
  intro f hf
  obtain ⟨⟨text, count⟩, _, said⟩ := List.mem_filterMap.mp hf
  simp only [Option.ite_none_right_eq_some, Option.some.injEq] at said
  rw [← said.2]

/-- The rules that go through calls and methods of the walk alone. -/
theorem tours_of_mem_battery {limits : Limits} {rule : Rule} (h : rule ∈ battery limits) :
    rule = caughtWithoutAction ∨ rule.Tours := by
  simp only [battery, List.mem_cons, List.not_mem_nil, or_false] at h
  rcases h with rfl | rfl | rfl | rfl | rfl | rfl | rfl | rfl | rfl | rfl | rfl | rfl | rfl | rfl
  · exact .inr (tours_filter picks_calls fun src p => p.name src == "printStackTrace")
  · exact .inr (tours_filter picks_logCalls fun _ => isRethrown)
  · exact .inr (tours_flatMap picks_logCalls place_of_mem_completeObjectsOf)
  · exact .inr (tours_filterMap picks_methods (place_of_mem_excessiveOf _))
  · exact .inr (tours_filterMap picks_calls place_of_mem_consoleOf)
  · exact .inr (tours_filterMap picks_logCalls place_of_mem_missingContextOf)
  · exact .inr (tours_filter picks_logCalls isHardcoded)
  · exact .inr (tours_flatMap picks_methods place_of_mem_repeatedOf)
  · exact .inr (tours_filter picks_logCalls fun _ p => p.hasAncestor .loop)
  · exact .inr (tours_filterMap picks_logCalls (place_of_mem_verboseOf _))
  · exact .inr (tours_filterMap picks_calls place_of_mem_inconsistentLevelOf)
  · exact .inl rfl
  · exact .inr (tours_filter picks_logCalls fun _ => isConcatenation)
  · exact .inr (tours_filter picks_calls appendsException)

/-- Every issue of such a rule is at the line of a call or a method. -/
theorem Tours.exists_site {rule : Rule} (h : rule.Tours) {d : Document} {i : Issue} (hi : i ∈ rule.issuesOf d) :
    ∃ p, d.Site p ∧ i.line = p.line d.source := by
  obtain ⟨k, remarks, kinds, surveys, own⟩ := h
  rw [surveys.issuesOf_eq] at hi
  obtain ⟨f, hf, rfl⟩ := List.mem_map.mp hi
  obtain ⟨p, hp, said⟩ := List.mem_flatMap.mp hf
  obtain ⟨walked, isKind⟩ := List.mem_filter.mp hp
  refine ⟨p, ⟨walked, ?_⟩, ?_⟩
  · rw [beq_iff_eq.mp isKind]
    exact kinds
  · rw [issue, own _ p f said]

/-- A catch clause may have a body that is not shown, and the calls below are reported all the same. -/
theorem site_or_hiddenCall {d : Document} {i : Issue} (h : i ∈ caughtWithoutAction.issuesOf d) :
    ∃ p, i.line = p.line d.source ∧ (d.Site p ∨ d.HiddenCall p) := by
  obtain ⟨f, hf, rfl⟩ := List.mem_map.mp h
  obtain ⟨call, hcall, rfl⟩ := List.mem_map.mp hf
  obtain ⟨t, ht, hcall⟩ := List.mem_flatMap.mp hcall
  obtain ⟨clause, hclause, hcall⟩ := List.mem_flatMap.mp hcall
  obtain ⟨child, isClause⟩ := List.mem_filter.mp hclause
  have walked : clause ∈ d.top.walk :=
    Place.mem_walk_trans (List.mem_of_mem_filter ht) (Place.mem_walk_of_mem_children child clause.mem_walk_self)
  refine ⟨call, rfl, ?_⟩
  rw [idleCallsOf] at hcall
  split at hcall
  case h_2 => cases hcall
  case h_1 body found =>
    split at hcall
    · cases hcall
    · obtain ⟨below, kind⟩ := List.mem_filter.mp (List.mem_of_mem_filter hcall)
      have kind : call.kind = .methodCall := beq_iff_eq.mp kind
      cases shown : body.node.shown with
      | false => exact .inr ⟨kind, clause, List.mem_filter.mpr ⟨walked, isClause⟩, body, found, shown, below⟩
      | true =>
        have inClause : body ∈ clause.children := List.mem_filter.mpr ⟨List.mem_of_find?_eq_some found, shown⟩
        exact .inl ⟨Place.mem_walk_trans walked (Place.mem_walk_of_mem_children inClause below), .inl kind⟩

/-! ### The order of the rules -/

/-- The rules' names in their order. -/
def ids : List String :=
  ["print-stack-trace", "log-and-rethrow", "complete-object", "excessive-logging", "console-output", "missing-context",
   "hardcoded-message", "repeated-log", "log-in-loop", "verbose-message", "inconsistent-level",
   "caught-without-action", "string-concatenation", "stack-trace-overuse"]

theorem map_id_battery (limits : Limits) : (battery limits).map (·.id) = ids := rfl

theorem id_mem_ids {limits : Limits} {rule : Rule} (h : rule ∈ battery limits) : rule.id ∈ ids := by
  rw [← map_id_battery limits]
  exact List.mem_map_of_mem h

/-- Issues of one rule stand side by side, and those of a later rule after them. -/
theorem pairwise_flatMap_battery (limits : Limits) (d : Document) :
    ((battery limits).flatMap (·.issuesOf d)).Pairwise fun i j => ids.idxOf i.rule ≤ ids.idxOf j.rule := by
  have order : ((battery limits).map (·.id)).Pairwise fun a b => ids.idxOf a ≤ ids.idxOf b := by
    rw [map_id_battery]
    decide
  rw [List.pairwise_map] at order
  rw [List.pairwise_flatMap]
  constructor
  · intro rule hrule
    refine List.pairwise_of_forall_mem_list fun i hi j hj => Nat.le_of_eq ?_
    rw [(eq_of_mem_issuesOf hrule hi).2, (eq_of_mem_issuesOf hrule hj).2]
  · refine order.imp_of_mem ?_
    intro rule later hrule hlater le i hi j hj
    rw [(eq_of_mem_issuesOf hrule hi).2, (eq_of_mem_issuesOf hlater hj).2]
    exact le

/-! ### Each rule on its own -/

theorem filter_issuesOf {limits : Limits} {rule : Rule} (h : rule ∈ battery limits) (d : Document)
    (keep : String → Bool) :
    ((rule.issuesOf d).filter fun i => keep i.rule) = if keep rule.id then rule.issuesOf d else [] := by
  have same : ∀ i ∈ rule.issuesOf d, keep i.rule = keep rule.id := fun i hi => by rw [(eq_of_mem_issuesOf h hi).2]
  rw [List.filter_congr same]
  cases keep rule.id <;> simp

theorem filter_id_battery {limits : Limits} {rule : Rule} (h : rule ∈ battery limits) :
    (battery limits).filter (·.id == rule.id) = [rule] := by
  have nodup : ((battery limits).map (·.id)).Nodup := by
    rw [map_id_battery]
    decide
  generalize battery limits = rules at h nodup
  induction rules with
  | nil => cases h
  | cons r rules ih =>
    rw [List.map_cons, List.nodup_cons] at nodup
    rcases List.mem_cons.mp h with rfl | h
    · have others : rules.filter (·.id == rule.id) = [] := by
        refine List.filter_eq_nil_iff.mpr fun other hother same => nodup.1 ?_
        rw [← beq_iff_eq.mp same]
        exact List.mem_map_of_mem hother
      simp [others]
    · have different : r.id ≠ rule.id := fun same => nodup.1 (same ▸ List.mem_map_of_mem h)
      simp [different, ih h nodup.2]

/-- Among the issues of all rules, those of one rule are what it says alone. -/
theorem filter_rule_flatMap_battery {limits : Limits} {rule : Rule} (h : rule ∈ battery limits) (d : Document) :
    ((battery limits).flatMap (·.issuesOf d)).filter (·.rule == rule.id) = rule.issuesOf d := by
  rw [List.filter_flatMap, List.flatMap_congr fun r hr => filter_issuesOf hr d (· == rule.id), ← flatMap_filter,
    filter_id_battery h]
  simp

/-- What is known of an issue: its file, and a line of the source where a call or a method begins. Only below a catch
clause whose body is not shown can there be calls that are not shown themselves. -/
structure Traced (d : Document) (i : Issue) : Prop where
  file : i.file = d.file.text
  rule : i.rule ∈ ids
  first : 1 ≤ i.line
  last : i.line ≤ 1 + d.source.data.count 10
  site : ∃ p, i.line = p.line d.source ∧ (d.Site p ∨ i.rule = "caught-without-action" ∧ d.HiddenCall p)

theorem traced_of_mem_issuesOf {limits : Limits} {rule : Rule} (h : rule ∈ battery limits) {d : Document} {i : Issue}
    (hi : i ∈ rule.issuesOf d) : Traced d i := by
  obtain ⟨file, name⟩ := eq_of_mem_issuesOf h hi
  have site : ∃ p, i.line = p.line d.source ∧ (d.Site p ∨ i.rule = "caught-without-action" ∧ d.HiddenCall p) := by
    rcases tours_of_mem_battery h with rfl | tours
    · obtain ⟨p, line, site | hidden⟩ := site_or_hiddenCall hi
      · exact ⟨p, line, .inl site⟩
      · exact ⟨p, line, .inr ⟨name, hidden⟩⟩
    · obtain ⟨p, site, line⟩ := tours.exists_site hi
      exact ⟨p, line, .inl site⟩
  have ⟨p, line, _⟩ := site
  have row := d.source.row_le p.node.start
  refine ⟨file, name ▸ id_mem_ids h, ?_, ?_, site⟩
  · rw [line, Place.line]
    omega
  · rw [line, Place.line]
    omega

/-- Every issue of a file can be traced to a place in it and to a rule: issues follow the order of the rules, and those
of each rule are what it says by itself. -/
theorem checkAll_traced (limits : Limits) (d : Document) :
    ∃ issues, checkAll (battery limits) d = .ok issues ∧ (∀ i ∈ issues, Traced d i) ∧
      (issues.Pairwise fun i j => ids.idxOf i.rule ≤ ids.idxOf j.rule) ∧
      ∀ rule ∈ battery limits, rule.check d = .ok (issues.filter (·.rule == rule.id)) := by
  refine ⟨_, checkAll_battery limits d, fun i hi => ?_, pairwise_flatMap_battery limits d, fun rule hrule => ?_⟩
  · obtain ⟨rule, hrule, hi⟩ := List.mem_flatMap.mp hi
    exact traced_of_mem_issuesOf hrule hi
  · rw [filter_rule_flatMap_battery hrule, check_of_mem_battery hrule]

/-- A catch clause whose body counts as a comment, with a call in it. -/
def hiddenBody : Document where
  file := ⟨.relative, ["A.java"]⟩
  source := "try\ninfo".toUTF8
  root := .mk { type := "program", start := 0, stop := 8 } [
    .mk { type := "try_statement", start := 0, stop := 8 } [
      .mk { type := "catch_clause", start := 0, stop := 8 } [
        .mk { type := "block", start := 4, stop := 8, extra := true, field := some "body" } [
          .mk { type := "method_invocation", start := 4, stop := 8 } [
            .mk { type := "identifier", start := 4, stop := 8, field := some "name" } []]]]]]

theorem checkAll_hiddenBody :
    checkAll (battery {}) hiddenBody =
        .ok [⟨"A.java", 2, "Logging caught exception without action", "caught-without-action"⟩] ∧
      ∀ p ∈ hiddenBody.top.walk, p.kind ≠ .methodCall ∧ p.kind ≠ .methodDeclaration := by
  decide +kernel

end Rule
end LogReview
