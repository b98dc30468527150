import LogReview.Issue

/-! An ordered collection of issues that only grows. -/
namespace LogReview

structure Collector where
  issues : List Issue := []
deriving Repr, DecidableEq

namespace Collector

def empty : Collector := {}

def toList (c : Collector) : List Issue := c.issues

def size (c : Collector) : Nat := c.issues.length

def add (c : Collector) (i : Issue) : Collector := ⟨c.issues ++ [i]⟩

def extend (c : Collector) (batch : List Issue) : Collector := ⟨c.issues ++ batch⟩

/-- Adds each issue of the collector to it, one after the other. -/
def growEach (c : Collector) : Collector := c.toList.foldl add c

@[simp] theorem toList_add (c : Collector) (i : Issue) : (c.add i).toList = c.toList ++ [i] := rfl

@[simp] theorem toList_extend (c : Collector) (batch : List Issue) :
    (c.extend batch).toList = c.toList ++ batch := rfl

/-- One step of a client that also keeps a copy of the contents. -/
inductive Step where
  | add (i : Issue)
  | extend (batch : List Issue)
  | extendSelf
  | keep
  | clearKept
  | extendKept
  | growEach
deriving Repr, DecidableEq

/-- A collector and the copy that a client keeps of it. -/
structure Session where
  collector : Collector := {}
  kept : List Issue := []
deriving Repr, DecidableEq

def Session.step (s : Session) : Step → Session
  | .add i => { s with collector := s.collector.add i }
  | .extend batch => { s with collector := s.collector.extend batch }
  | .extendSelf => { s with collector := s.collector.extend s.collector.toList }
  | .keep => { s with kept := s.collector.toList }
  | .clearKept => { s with kept := [] }
  | .extendKept => { s with collector := s.collector.extend s.kept }
  | .growEach => { s with collector := s.collector.growEach }

end Collector

end LogReview
