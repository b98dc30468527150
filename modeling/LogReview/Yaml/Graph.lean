import LogReview.Yaml.Node
import LogReview.Yaml.Resolve

/-! The value of a node. A name can stand for one node at several places, so that nodes make a graph. Scalars have
their values at once; collections are begun empty and filled in turn, and what is merged into a mapping is put in before
its entries have values. What is wrong first in this order is what is told. -/
namespace LogReview.Yaml

/-- What a node holds; other nodes are given by their numbers. -/
inductive Content where
  | scalar (text : String)
  | sequence (items : List Nat)
  | mapping (entries : List (Nat × Nat))
deriving Repr

structure Cell where
  tag : Tag
  content : Content
deriving Repr

/-- Nodes by their numbers. -/
abbrev Cells := List Cell

namespace Cells

def tag? (cells : Cells) (n : Nat) : Option Tag := cells[n]?.map (·.tag)

def content? (cells : Cells) (n : Nat) : Option Content := cells[n]?.map (·.content)

def entries (cells : Cells) (n : Nat) : List (Nat × Nat) :=
  match cells.content? n with
  | some (.mapping entries) => entries
  | _ => []

/-- The number of entries in all mappings. -/
def size : Cells → Nat
  | [] => 0
  | ⟨_, .mapping entries⟩ :: cells => entries.length + size cells
  | _ :: cells => size cells

def setContent (cells : Cells) (n : Nat) (content : Content) : Cells := cells.modify n ({ · with content })

def setTag (cells : Cells) (n : Nat) (tag : Tag) : Cells := cells.modify n ({ · with tag })

end Cells

/-! ### From nodes to a graph -/

/-- The nodes so far, and those that have names. -/
structure Graph where
  cells : Cells := []
  names : List (String × Nat) := []

namespace Graph

/-- A new node, under its name if it has one. -/
def add (g : Graph) (anchor : Option String) (cell : Cell) : Nat × Graph :=
  let n := g.cells.length
  let names := match anchor with
    | some a => (a, n) :: g.names
    | none => g.names
  (n, ⟨g.cells ++ [cell], names⟩)

/-- A tag that is not given, or left open, is told by the node itself. -/
def tagOr (own : Tag) : Option String → Tag
  | none => own
  | some "!" => own
  | some tag => Tag.ofUri tag

mutual

/-- A collection has its number before its parts have theirs, since they can name it. -/
def addNode : Node → Graph → Nat × Graph
  | .alias a, g => (((g.names.find? (·.1 == a)).map (·.2)).getD 0, g)
  | .scalar anchor tag style text, g =>
    g.add anchor ⟨tagOr (if style == .plain then plainTag text else .text) tag, .scalar text⟩
  | .sequence anchor tag items, g =>
    let (n, g) := g.add anchor ⟨tagOr .sequence tag, .sequence []⟩
    let (items, g) := addItems items g
    (n, { g with cells := g.cells.setContent n (.sequence items) })
  | .mapping anchor tag entries, g =>
    let (n, g) := g.add anchor ⟨tagOr .mapping tag, .mapping []⟩
    let (entries, g) := addEntries entries g
    (n, { g with cells := g.cells.setContent n (.mapping entries) })

def addItems : Items → Graph → List Nat × Graph
  | .nil, g => ([], g)
  | .cons item rest, g =>
    let (n, g) := addNode item g
    let (items, g) := addItems rest g
    (n :: items, g)

def addEntries : Entries → Graph → List (Nat × Nat) × Graph
  | .nil, g => ([], g)
  | .cons key value rest, g =>
    let (k, g) := addNode key g
    let (v, g) := addNode value g
    let (entries, g) := addEntries rest g
    ((k, v) :: entries, g)

end

end Graph

/-! ### Merging -/

namespace Cells

/-- The first entry under `<<`, and the entries without it. -/
def splitMerge? (cells : Cells) : List (Nat × Nat) → Option (Nat × List (Nat × Nat))
  | [] => none
  | (k, v) :: entries =>
    if cells.tag? k == some .merge then some (v, entries)
    else (splitMerge? cells entries).map fun (merged, rest) => (merged, (k, v) :: rest)

/-- A key `=` is taken for a text from now on. -/
def settleKeys (cells : Cells) (entries : List (Nat × Nat)) : Cells :=
  entries.foldl (fun cells (k, _) => if cells.tag? k == some .default then cells.setTag k .text else cells) cells

/-- Puts the entries of the mappings under `<<` in front of the others; `merged` are those found already. Each round
takes one `<<` out of a mapping for good, so that they run out. -/
def flatten : Nat → Nat → List (Nat × Nat) → Cells → Except Fault Cells
  | 0, _, _, _ => .error .malformed
  | fuel + 1, n, merged, cells =>
    match splitMerge? cells (cells.entries n) with
    | none => .ok ((cells.settleKeys (cells.entries n)).setContent n (.mapping (merged ++ cells.entries n)))
    | some (v, rest) =>
      let cells := cells.setContent n (.mapping rest)
      match cells.content? v with
      | some (.mapping _) => do
        let cells ← flatten fuel v [] cells
        flatten fuel n (merged ++ cells.entries v) cells
      | some (.sequence items) => do
        let (cells, batches) ← items.foldlM (fun (cells, batches) item =>
          match content? cells item with
          | some (.mapping _) => do
            let cells ← flatten fuel item [] cells
            return (cells, cells.entries item :: batches)
          | _ => throw .malformed) (cells, [])
        -- Of several mappings the first counts most, so it comes last.
        flatten fuel n (merged ++ batches.flatten) cells
      | _ => .error .malformed

/-- The text of a scalar. A mapping with a key `=` stands for the value under it. -/
def scalarText (cells : Cells) : Nat → Nat → Except Fault String
  | 0, _ => .error .endless
  | fuel + 1, n =>
    match cells.content? n with
    | some (.scalar text) => .ok text
    | some (.mapping entries) =>
      match entries.find? (cells.tag? ·.1 == some .default) with
      | some (_, v) => scalarText cells fuel v
      | none => .error .malformed
    | _ => .error .malformed

end Cells

/-! ### Values -/

def Tag.isCollection : Tag → Bool
  | .sequence | .pairs | .mapping | .set => true
  | _ => false

/-- What a node has become. -/
inductive Made where
  | value (v : Value)
  | list (items : List Nat)
  | pairs (entries : List (Nat × Nat))
  | set (items : List Nat)
  | map (entries : List (Nat × Nat))

/-- The nodes that have been begun, what they have become, and the collections that wait to be filled. -/
structure Build where
  cells : Cells
  begun : List Nat := []
  made : List (Nat × Made) := []
  waiting : List Nat := []

namespace Build

def make (b : Build) (n : Nat) (m : Made) : Build := { b with made := (n, m) :: b.made }

def scalar (b : Build) (n : Nat) (tag : Tag) : Except Fault Value := do
  let text ← b.cells.scalarText (b.cells.length + 1) n
  match tag, b.cells.content? n with
  | .moment, some (.mapping _) => throw .notScalar
  | _, _ => scalarValue text tag

/-- A node is begun once. -/
def begin (b : Build) (n : Nat) : Except Fault Build :=
  if b.begun.contains n then .ok b
  else
    let b := { b with begun := n :: b.begun }
    match b.cells.tag? n with
    | none | some .unknown | some .merge | some .default => .error .malformed
    | some tag =>
      if tag.isCollection then .ok { b with waiting := b.waiting ++ [n] }
      else do return b.make n (.value (← b.scalar n tag))

/-- Collections are no keys. -/
def beginEntry (b : Build) (entry : Nat × Nat) : Except Fault Build := do
  let b ← b.begin entry.1
  if (b.cells.tag? entry.1).any Tag.isCollection then throw .malformed
  b.begin entry.2

/-- An item that is a mapping of one key. -/
def beginPair (b : Build) (item : Nat) : Except Fault Build :=
  match b.cells.content? item with
  | some (.mapping [(k, v)]) => do (← b.begin k).begin v
  | _ => .error .malformed

def fillMapping (b : Build) (n : Nat) (made : List (Nat × Nat) → Made) : Except Fault Build := do
  let cells ← b.cells.flatten (b.cells.size + 1) n []
  let b ← (cells.entries n).foldlM beginEntry { b with cells := cells }
  return b.make n (made (cells.entries n))

def fill (b : Build) (n : Nat) : Except Fault Build :=
  match b.cells.tag? n, b.cells.content? n with
  | some .sequence, some (.sequence items) => do return (← items.foldlM begin b).make n (.list items)
  | some .pairs, some (.sequence items) => do
    return (← items.foldlM beginPair b).make n (.pairs (items.flatMap b.cells.entries))
  | some .mapping, some (.mapping _) => b.fillMapping n .map
  | some .set, some (.mapping _) => b.fillMapping n fun entries => .set (entries.map (·.1))
  | _, _ => .error .malformed

/-- Fills the collections in the order in which they were begun; each waits once. -/
def fillAll : Nat → Build → Except Fault Build
  | 0, b => .ok b
  | fuel + 1, b =>
    match b.waiting with
    | [] => .ok b
    | n :: rest => do fillAll fuel (← fill { b with waiting := rest } n)

/-- The value of a node below the nodes of `path`. A collection that comes back to itself a second time is cut off. -/
def value (b : Build) : Nat → List Nat → Nat → Value
  | 0, _, _ => .null
  | fuel + 1, path, n =>
    let inner := value b fuel (n :: path)
    let whole := path.count n < 2
    match b.made.find? (·.1 == n) with
    | none => .null
    | some (_, .value v) => v
    | some (_, .list items) => .list (if whole then items.map inner else [])
    | some (_, .pairs entries) => .list (if whole then entries.map fun (k, v) => .list [inner k, inner v] else [])
    | some (_, .set items) => .set (if whole then items.map inner else [])
    | some (_, .map entries) => .map (if whole then entries.map fun (k, v) => (inner k, inner v) else [])

end Build

def valueOf (root : Node) : Except Fault Value := do
  let (n, graph) := Graph.addNode root {}
  let b ← Build.begin { cells := graph.cells } n
  let b ← b.fillAll graph.cells.length
  return b.value (2 * graph.cells.length + 1) [] n

end LogReview.Yaml
