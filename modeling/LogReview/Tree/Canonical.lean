import LogReview.Text.Alnum
import LogReview.Text.Blank
import LogReview.Tree.Reading

/-! The text of a node without its layout: comments are dropped, binary operators and commas have fixed
blanks around them, and words that would run together are kept apart. -/
namespace LogReview

namespace Node

/-- Literals are never taken apart. -/
def atomic (n : Node) : Bool := n.literalSort?.isSome || n.children.isEmpty

def operator? (n : Node) : Option Node :=
  if n.type == "binary_expression" then n.childByField? "operator" else none

/-- Whether `c` stands where the operator of its parent stands. -/
def marks (operator : Option Node) (c : Node) : Bool :=
  match operator with
  | some o => c.start == o.start && c.type == o.type
  | none => false

/-- The children of a node, each with the mark of an operator. -/
def marked (n : Node) : List (Node × Bool) :=
  n.children.map fun c => (c, marks n.operator? c)

theorem map_fst_marked (n : Node) : n.marked.map (·.1) = n.children := by
  simp [marked, Function.comp_def]

end Node

namespace Canonical

/-- The tokens below the nodes of a stack, the top first. -/
def collect (src : Source) : List (Node × Bool) → List String
  | [] => []
  | (n, isOperator) :: rest =>
    if isOperator then s!" {n.type} " :: collect src rest
    else if n.label.extra then collect src rest
    else if n.atomic then src.text n.start n.stop :: collect src rest
    else collect src (n.marked ++ rest)
termination_by stack => Node.sizes (stack.map (·.1))
decreasing_by
  all_goals
    simp only [List.map_append, Node.sizes_append, List.map_cons, Node.sizes, Node.map_fst_marked,
      Node.size_eq n]
    omega

def tokens (src : Source) (n : Node) : List String := collect src [(n, false)]

def isWordChar (c : Char) : Bool := Text.isAlnum c || c == '_' || c == '$'

/-- A blank is needed between two characters that would make one word. -/
def needsBlank (last? : Option Char) (token : List Char) : Bool :=
  match last?, token.head? with
  | some a, some b => isWordChar a && isWordChar b
  | _, _ => false

/-- One more token at the end of a text that is kept backwards. -/
def append (out : List Char) (token : List Char) : List Char :=
  if token.isEmpty then out
  else if token == [','] then ' ' :: ',' :: out
  else if needsBlank out.head? token then token.reverse ++ ' ' :: out
  else token.reverse ++ out

def render (tokens : List (List Char)) : List Char := (tokens.foldl append []).reverse

end Canonical

namespace Place

def canonicalText (p : Place) (src : Source) : String :=
  String.ofList (Text.strip (Canonical.render ((Canonical.tokens src p.node).map String.toList)))

end Place

end LogReview
