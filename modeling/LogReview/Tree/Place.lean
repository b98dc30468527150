import LogReview.Tree.Kind

/-! Nodes in their tree. A place is a node together with the nodes above it, so that one can go down
(`children`, `walk`) and up (`parent?`, `ancestors`). -/
namespace LogReview

/-- A node and the nodes above it, innermost first, each with the index of the child that leads down. -/
structure Place where
  node : Node
  above : List (Node × Nat) := []
deriving Repr, Inhabited

namespace Place

def root (n : Node) : Place := ⟨n, []⟩

def kind (p : Place) : Kind := p.node.kind

/-- The child with index `i` and node `c`. -/
def down (p : Place) (c : Node) (i : Nat) : Place := ⟨c, (p.node, i) :: p.above⟩

def allChildren (p : Place) : List Place :=
  p.node.children.zipIdx.map fun (c, i) => p.down c i

/-- The children that are named and no comments. -/
def children (p : Place) : List Place :=
  p.allChildren.filter (·.node.shown)

def childByField? (p : Place) (field : String) : Option Place :=
  p.allChildren.find? fun c => c.node.label.field == some field

def climb : List (Node × Nat) → List Place
  | [] => []
  | (n, _) :: rest => ⟨n, rest⟩ :: climb rest

/-- The places above, innermost first. -/
def ancestors (p : Place) : List Place := climb p.above

def parent? (p : Place) : Option Place := p.ancestors.head?

def findAncestor? (p : Place) (k : Kind) : Option Place :=
  p.ancestors.find? fun a => a.kind == k

def hasAncestor (p : Place) (k : Kind) : Bool :=
  (p.findAncestor? k).isSome

def enclosingBlock? (p : Place) : Option Place := p.findAncestor? .block

def enclosingMethod? (p : Place) : Option Place := p.findAncestor? .methodDeclaration

theorem map_node_allChildren (p : Place) : p.allChildren.map (·.node) = p.node.children := by
  simp [allChildren, down, Function.comp_def]

theorem map_node_children (p : Place) : p.children.map (·.node) = p.node.children.filter (·.shown) := by
  rw [← p.map_node_allChildren, children, List.filter_map]
  rfl

theorem sizes_children_lt (p : Place) : Node.sizes (p.children.map (·.node)) < p.node.size := by
  have := Node.sizes_filter_le (·.shown) p.node.children
  rw [map_node_children, Node.size_eq]
  omega

/-- Visits the places of a stack: the top first, then the children of the top, then the rest. -/
def visit : List Place → List Place
  | [] => []
  | p :: rest => p :: visit (p.children ++ rest)
termination_by stack => Node.sizes (stack.map (·.node))
decreasing_by
  have := sizes_children_lt p
  simp only [List.map_append, Node.sizes_append, List.map_cons, Node.sizes]
  omega

/-- The place itself and all that is shown below it, in document order. -/
def walk (p : Place) : List Place := visit [p]

def findAll (p : Place) (k : Kind) : List Place :=
  p.walk.filter fun q => q.kind == k

end Place

end LogReview
