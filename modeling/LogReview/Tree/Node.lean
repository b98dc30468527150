/-! Syntax trees over the bytes of one file. -/
namespace LogReview

/-- What a tree says about one node: its type, the bytes it spans, whether it is named, extra (a comment)
or missing, and the field it has in its parent. -/
structure Label where
  type : String
  start : Nat
  stop : Nat
  named : Bool := true
  extra : Bool := false
  missing : Bool := false
  field : Option String := none
deriving Repr, DecidableEq, Inhabited

inductive Node where
  | mk (label : Label) (children : List Node)
deriving Repr, Inhabited

namespace Node

def label : Node → Label
  | mk l _ => l

/-- All children, named or not, comments included. -/
def children : Node → List Node
  | mk _ cs => cs

def type (n : Node) : String := n.label.type
def start (n : Node) : Nat := n.label.start
def stop (n : Node) : Nat := n.label.stop

/-- Named and not a comment: the nodes that a reader of the tree is shown. -/
def shown (n : Node) : Bool := n.label.named && !n.label.extra

mutual

def size : Node → Nat
  | mk _ cs => 1 + sizes cs

def sizes : List Node → Nat
  | [] => 0
  | n :: ns => n.size + sizes ns

end

@[simp] theorem label_mk (l : Label) (cs : List Node) : (mk l cs).label = l := rfl
@[simp] theorem children_mk (l : Label) (cs : List Node) : (mk l cs).children = cs := rfl

theorem size_eq (n : Node) : n.size = 1 + sizes n.children := by
  cases n
  rw [size, children]

theorem sizes_append (ms ns : List Node) : sizes (ms ++ ns) = sizes ms + sizes ns := by
  induction ms with
  | nil => simp [sizes]
  | cons m ms ih => simp [sizes, ih, Nat.add_assoc]

theorem sizes_filter_le (p : Node → Bool) (ns : List Node) : sizes (ns.filter p) ≤ sizes ns := by
  induction ns with
  | nil => simp
  | cons n ns ih =>
    by_cases h : p n <;> simp [h, sizes] <;> omega

/-- The first child with the given field. -/
def childByField? (n : Node) (field : String) : Option Node :=
  n.children.find? fun c => c.label.field == some field

end Node

end LogReview
