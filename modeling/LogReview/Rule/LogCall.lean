import LogReview.Rule.Basic

/-! Calls, and among them the log calls: those named like a severity, whatever the receiver. -/
namespace LogReview

def severities : List String := ["debug", "info", "warn", "error", "trace", "fatal"]

namespace Place

def isLogCall (src : Source) (p : Place) : Bool :=
  p.kind == .methodCall && severities.contains (p.name src)

/-- The log calls at or below a place, in document order. -/
def logCalls (src : Source) (p : Place) : List Place :=
  (p.findAll .methodCall).filter (isLogCall src)

theorem kind_of_isLogCall {src : Source} {p : Place} (h : p.isLogCall src) : p.kind = .methodCall := by
  rw [isLogCall, Bool.and_eq_true] at h
  exact beq_iff_eq.mp h.1

theorem logCalls_eq (src : Source) (p : Place) : p.logCalls src = p.walk.filter (isLogCall src) := by
  rw [logCalls, findAll, List.filter_filter]
  refine List.filter_congr fun c _ => ?_
  rw [isLogCall]
  cases c.kind == .methodCall <;> simp

end Place

namespace Document

def logCalls (d : Document) : List Place := d.top.logCalls d.source

def calls (d : Document) : List Place := d.top.findAll .methodCall

def methods (d : Document) : List Place := d.top.findAll .methodDeclaration

end Document

end LogReview
