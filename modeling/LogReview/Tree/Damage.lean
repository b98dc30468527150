import LogReview.Tree.Reading

/-! Where a damaged tree shows its first fault. -/
namespace LogReview

namespace Node

/-- An error node, or one that stands for a token that is not there. -/
def damaged (n : Node) : Bool := n.type == "ERROR" || n.label.missing

/-- The first damaged node of a stack, in document order over all children. -/
def firstDamaged? : List Node → Option Node
  | [] => none
  | n :: rest => if n.damaged then some n else firstDamaged? (n.children ++ rest)
termination_by stack => sizes stack
decreasing_by
  simp only [sizes_append, sizes, size_eq n]
  omega

def isDamaged (root : Node) : Bool := (firstDamaged? [root]).isSome

/-- The line of the first damaged node, or else of the root. -/
def errorLine (root : Node) (src : Source) : Nat :=
  src.row ((firstDamaged? [root]).getD root).start + 1

end Node

end LogReview
