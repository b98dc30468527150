import LogReview.Proofs.Tree.Descent
import LogReview.Java.Program
import LogReview.Rule.Exception

/-! Log calls beside a `throw`. The rule climbs from each call to the innermost block around it. One pass from the top,
which carries along whether the innermost block has a `throw` among its statements, reports the same calls in the same
order. -/
namespace LogReview
namespace Place
variable {c p : Place}

/-- In a block its own statements decide, and elsewhere what was decided outside. -/
def enterBlock (p : Place) (thrown : Bool) : Bool :=
  if p.kind == .block then p.children.any (·.kind == .throwStatement) else thrown

/-- The climb from a child ends at its parent if that is a block, and goes on from there if not. -/
theorem isRethrown_of_mem_children (h : c ∈ p.children) : Rule.isRethrown c = enterBlock p (Rule.isRethrown p) := by
  rw [Rule.isRethrown, Rule.isRethrown, enclosingBlock?, enclosingBlock?, findAncestor?, findAncestor?,
    ancestors_of_mem_children h, List.find?_cons, enterBlock]
  cases block : p.kind == .block with
  | true => simp [statements, block]
  | false => rfl

theorem isRethrown_root (n : Node) : Rule.isRethrown (root n) = false := rfl

/-- The places that have a `throw` beside them are those that the pass meets with its flag set. -/
theorem pass_enterBlock (n : Node) : pass enterBlock false (root n) = (root n).walk.filter Rule.isRethrown := by
  rw [← isRethrown_root n]
  apply pass_eq_filter
  intro p c hc
  exact isRethrown_of_mem_children hc

/-- Only the innermost block decides, through whatever else stands between it and the place. -/
theorem isRethrown_iff : Rule.isRethrown c ↔
    ∃ between block outer, c.ancestors = between ++ block :: outer ∧ (∀ a ∈ between, a.kind ≠ .block) ∧
      block.kind = .block ∧ ∃ s ∈ block.children, s.kind = .throwStatement := by
  constructor
  · intro rethrown
    rw [Rule.isRethrown] at rethrown
    split at rethrown
    case h_2 => cases rethrown
    case h_1 block found =>
      obtain ⟨isBlock, between, outer, split, others⟩ := List.find?_eq_some_iff_append.mp found
      have kind : block.kind = .block := beq_iff_eq.mp isBlock
      rw [statements, if_pos isBlock] at rethrown
      refine ⟨between, block, outer, split, ?_, kind, ?_⟩
      · intro a ha
        simpa using others a ha
      · simpa using rethrown
  · rintro ⟨between, block, outer, split, others, kind, thrown⟩
    have found : c.enclosingBlock? = some block := by
      apply List.find?_eq_some_iff_append.mpr
      refine ⟨beq_iff_eq.mpr kind, between, outer, split, ?_⟩
      intro a ha
      simpa using others a ha
    simp only [Rule.isRethrown, found, statements, kind]
    simpa using thrown

end Place

namespace Rule

/-- What the rule says of a call. -/
def rethrowIssue (d : Document) (call : Place) : Issue :=
  ⟨d.file.text, call.line d.source, "Logging and rethrowing detected", "log-and-rethrow"⟩

/-- The log calls that one pass from the top reports. -/
def rethrownCalls (d : Document) : List Place :=
  (Place.pass Place.enterBlock false d.top).filter (Place.isLogCall d.source)

/-- Climbing from each call is one pass from the top. So a call is never reported for a `throw` outside its own block,
and is reported for one inside it through any statements without braces. -/
theorem logAndRethrow_eq_pass (d : Document) :
    logAndRethrow.check d = .ok ((rethrownCalls d).map (rethrowIssue d)) ∧
      ∀ call, call ∈ rethrownCalls d ↔ call ∈ d.logCalls ∧
        ∃ between block outer, call.ancestors = between ++ block :: outer ∧ (∀ a ∈ between, a.kind ≠ .block) ∧
          block.kind = .block ∧ ∃ s ∈ block.children, s.kind = .throwStatement := by
  have calls : rethrownCalls d = d.logCalls.filter isRethrown := by
    rw [rethrownCalls, Document.top, Place.pass_enterBlock, Document.logCalls, Place.logCalls_eq, List.filter_filter,
      List.filter_filter]
    simp only [Bool.and_comm]
    rfl
  constructor
  · rw [calls]
    simp only [logAndRethrow, ofFindings, List.map_map]
    rfl
  · intro call
    rw [calls, List.mem_filter, Place.isRethrown_iff]

-- Without braces the call is beside the `throw`, and with braces it is not.
example :
    let text := "void f()\x7bif(x)a.info(b);\n\x7ba.info(c);\x7dthrow e;\x7d"
    let d : Document := ⟨⟨.relative, ["A.java"]⟩, text.toUTF8, Java.parse text.toUTF8⟩
    logAndRethrow.check d = .ok [⟨"A.java", 1, "Logging and rethrowing detected", "log-and-rethrow"⟩] := by
  decide +kernel

end Rule
end LogReview
