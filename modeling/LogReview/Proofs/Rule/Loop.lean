import LogReview.Proofs.Tree.Enclosure
import LogReview.Java.Program
import LogReview.Rule.Volume

/-! Log calls in loops. The rule climbs from each call and stops at the first loop. The calls that it reports are those in
the walks of all loops taken together; loops inside loops share calls, and none of them is reported twice. -/
namespace LogReview
namespace Place
variable {c p : Place} {n : Node} {k : Kind}

theorem hasAncestor_iff : p.hasAncestor k ↔ ∃ a ∈ p.ancestors, a.kind = k := by
  simp [hasAncestor, findAncestor?]

/-- Once inside a loop, a pass is inside a loop all the way down. -/
def enterLoop (p : Place) (inside : Bool) : Bool := p.kind == .loop || inside

theorem hasAncestor_of_mem_children (h : c ∈ p.children) :
    c.hasAncestor .loop = enterLoop p (p.hasAncestor .loop) := by
  apply Bool.eq_iff_iff.mpr
  simp [hasAncestor_iff, ancestors_of_mem_children h, enterLoop]

/-- The places that have a loop above them are those that the pass meets with its flag set. -/
theorem pass_enterLoop (n : Node) : pass enterLoop false (root n) = (root n).walk.filter (·.hasAncestor .loop) := by
  have outside : (root n).hasAncestor .loop = false := rfl
  rw [← outside]
  refine @pass_eq_filter enterLoop (·.hasAncestor .loop) ?_ (root n)
  intro p c hc
  exact hasAncestor_of_mem_children hc

/-- A place of another kind has one of this kind above it just if it is inside one. -/
theorem hasAncestor_iff_mem_walk (hc : c ∈ (root n).walk) (other : c.kind ≠ k) :
    c.hasAncestor k ↔ ∃ l ∈ (root n).findAll k, c ∈ l.walk := by
  rw [hasAncestor_iff]
  constructor
  · rintro ⟨l, above, kind⟩
    obtain ⟨walked, inside⟩ := mem_walk_root hc above
    exact ⟨l, List.mem_filter.mpr ⟨walked, beq_iff_eq.mpr kind⟩, inside⟩
  · rintro ⟨l, found, inside⟩
    have kind : l.kind = k := beq_iff_eq.mp (List.mem_filter.mp found).2
    have different : l ≠ c := by
      rintro rfl
      exact other kind
    exact ⟨l, (List.mem_cons.mp ((mem_walk_iff hc).mp inside)).resolve_left different, kind⟩

end Place

namespace Rule

/-- The log calls that are in the walk of at least one loop, in the order of the file. -/
def loopedCalls (d : Document) : List Place :=
  d.logCalls.filter fun c => ∃ l ∈ d.top.findAll .loop, c ∈ l.walk

/-- What the rule says of a call. -/
def loopIssue (d : Document) (call : Place) : Issue :=
  ⟨d.file.text, call.line d.source, "Logging inside loop (potential log flood)", "log-in-loop"⟩

theorem loopedCalls_eq (d : Document) : loopedCalls d = d.logCalls.filter (·.hasAncestor .loop) := by
  apply List.filter_congr
  intro c hc
  rw [Document.logCalls, Place.logCalls_eq] at hc
  obtain ⟨walked, isLogCall⟩ := List.mem_filter.mp hc
  have other : c.kind ≠ .loop := by
    rw [Place.kind_of_isLogCall isLogCall]
    decide
  rw [Bool.eq_iff_iff, decide_eq_true_iff, Place.hasAncestor_iff_mem_walk walked other]
  rfl

/-- The calls in loops are reported in the order of the file, each of them once however many loops it is in; and one pass
from the top that knows whether it is inside a loop reports the same. -/
theorem logInLoop_eq_union (d : Document) :
    logInLoop.check d = .ok ((loopedCalls d).map (loopIssue d)) ∧
      (loopedCalls d).Nodup ∧
      (Place.pass Place.enterLoop false d.top).filter (Place.isLogCall d.source) = loopedCalls d := by
  refine ⟨?_, ?_, ?_⟩
  · rw [loopedCalls_eq]
    simp only [logInLoop, ofFindings, List.map_map]
    rfl
  · have calls : d.logCalls.Nodup := (d.top.nodup_findAll .methodCall).filter _
    exact calls.filter _
  · rw [loopedCalls_eq, Document.top, Place.pass_enterLoop, Document.logCalls, Place.logCalls_eq, List.filter_filter,
      List.filter_filter]
    simp only [Bool.and_comm]
    rfl

-- The head of a loop is inside it, a call in two loops is reported once, and a `do` loop does not count.
example :
    let text := "for(;a.info(b);)while(c)\na.warn(e);\ndo a.info(b);while(c);"
    let d : Document := ⟨⟨.relative, ["A.java"]⟩, text.toUTF8, Java.parse text.toUTF8⟩
    (logInLoop.check d).toOption.map (·.map (·.line)) = some [1, 2] := by
  decide +kernel

end Rule
end LogReview
