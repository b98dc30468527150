import LogReview.Proofs.Tree.Enclosure
import LogReview.Proofs.Tree.Preorder
import Mathlib.Logic.Function.Iterate

/-! Going down and going up agree. Downwards a walk keeps a stack and passes over comments and unnamed nodes; upwards each
place has the one above it, whatever it is. The walk is the recursive pre-order, the walks inside it are parts of it that
lie in or beside each other, and they tell the same as the ways up. -/
namespace LogReview

namespace Node

mutual

/-- A tree in pre-order, where `above` is what is above it: the node, then one by one the children that are shown. -/
def places (above : List (Node × Nat)) : Node → List Place
  | mk l cs => ⟨mk l cs, above⟩ :: placesFrom (mk l cs) above 0 cs

/-- The children of a node from number `i` on. -/
def placesFrom (n : Node) (above : List (Node × Nat)) (i : Nat) : List Node → List Place
  | [] => []
  | c :: cs => (if c.shown then c.places ((n, i) :: above) else []) ++ placesFrom n above (i + 1) cs

end

theorem placesFrom_eq (n : Node) (above : List (Node × Nat)) (i : Nat) (cs : List Node) :
    placesFrom n above i cs =
      (((cs.zipIdx i).map fun (c, j) => Place.down ⟨n, above⟩ c j).filter (·.node.shown)).flatMap
        fun q => q.node.places q.above := by
  induction cs generalizing i with
  | nil => rfl
  | cons c cs ih =>
    rw [placesFrom, ih, List.zipIdx_cons, List.map_cons, List.filter_cons]
    cases h : c.shown <;> simp [Place.down, h]

end Node

namespace Place
variable {a b m p q : Place} {n : Node}

/-! ### The recursive pre-order -/

def preorder (p : Place) : List Place := p.node.places p.above

theorem preorder_eq (p : Place) : p.preorder = p :: p.children.flatMap preorder := by
  obtain ⟨⟨l, cs⟩, above⟩ := p
  rw [preorder, Node.places, Node.placesFrom_eq]
  rfl

theorem walk_eq_preorder (p : Place) : p.walk = p.preorder := by
  induction p using induction_on_children with
  | up p ih => rw [walk_eq, preorder_eq, List.flatMap_congr ih]

/-- One gets from `p` to `q` by going down from places to children that are shown. -/
def Shows : Place → Place → Prop := Relation.ReflTransGen fun p c => c ∈ p.children

theorem mem_walk_iff_shows : q ∈ p.walk ↔ p.Shows q :=
  mem_iff_reflTransGen (Subrelation.wf size_lt_of_mem_children (measure fun p : Place => p.node.size).wf) walk_eq p q

/-! ### The loop -/

/-- A walk in the middle of its work: the places it has yielded, and those it has put off, the next one last. -/
structure Loop where
  yielded : List Place
  stack : List Place

namespace Loop

def start (p : Place) : Loop := ⟨[], [p]⟩

/-- One round yields the last place of the stack and puts its children there, the first one last. The loop rests when the
stack is empty. -/
def step (l : Loop) : Loop :=
  match l.stack.getLast? with
  | none => l
  | some p => ⟨l.yielded ++ [p], l.stack.dropLast ++ p.children.reverse⟩

/-- What the loop has still to yield. -/
def ahead (l : Loop) : List Place := visit l.stack.reverse

theorem ahead_eq_nil_iff (l : Loop) : l.ahead = [] ↔ l.stack = [] := by
  rw [ahead, ← @List.reverse_eq_nil_iff _ l.stack]
  cases l.stack.reverse with
  | nil => simp
  | cons p rest => simp [visit_cons]

/-- A round yields the first of the places ahead, and the others are ahead after it. -/
theorem step_spec (l : Loop) : l.step.yielded = l.yielded ++ l.ahead.take 1 ∧ l.step.ahead = l.ahead.drop 1 := by
  obtain ⟨out, stack⟩ := l
  rcases List.eq_nil_or_concat stack with rfl | ⟨rest, p, rfl⟩
  · simp [step, ahead]
  · simp [step, ahead, visit_cons]

theorem iterate_step_spec (l : Loop) (k : Nat) :
    (step^[k] l).yielded = l.yielded ++ l.ahead.take k ∧ (step^[k] l).ahead = l.ahead.drop k := by
  induction k with
  | zero => simp
  | succ k ih =>
    obtain ⟨yielded, ahead⟩ := (step^[k] l).step_spec
    rw [Function.iterate_succ_apply', yielded, ahead, ih.1, ih.2, List.drop_drop, List.append_assoc,
      ← List.take_add]
    exact ⟨rfl, rfl⟩

/-- After `k` rounds the loop has yielded the first `k` places of the pre-order, and it ends when all of them are out. -/
theorem iterate_step_start (p : Place) (k : Nat) :
    (step^[k] (start p)).yielded = p.preorder.take k ∧
      ((step^[k] (start p)).stack = [] ↔ p.preorder.length ≤ k) := by
  have ahead : (start p).ahead = p.preorder := p.walk_eq_preorder
  have rounds := (start p).iterate_step_spec k
  rw [ahead] at rounds
  refine ⟨rounds.1, ?_⟩
  rw [← ahead_eq_nil_iff, rounds.2, List.drop_eq_nil_iff]

end Loop

/-! ### Walks inside a walk -/

theorem walks_nested_or_disjoint (ha : a ∈ (root n).walk) (hb : b ∈ (root n).walk) :
    a.walk <:+: b.walk ∨ b.walk <:+: a.walk ∨ a.walk.Disjoint b.walk := by
  by_cases meet : ∃ q, q ∈ a.walk ∧ q ∈ b.walk
  · -- Both are on the way up from the common place, so one of them is on the way up from the other.
    obtain ⟨q, hqa, hqb⟩ := meet
    rcases List.suffix_or_suffix_of_suffix (ancestors_isSuffix hqa) (ancestors_isSuffix hqb) with up | up
    · have inside : b ∈ a.walk := (mem_walk_iff hb).mpr (up.subset List.mem_cons_self)
      exact .inr (.inl (walk_isInfix inside))
    · have inside : a ∈ b.walk := (mem_walk_iff ha).mpr (up.subset List.mem_cons_self)
      exact .inl (walk_isInfix inside)
  · refine .inr (.inr ?_)
    intro q hqa hqb
    exact meet ⟨q, hqa, hqb⟩

/-! ### The way up -/

theorem parent?_of_mem_allChildren (h : q ∈ p.allChildren) : q.parent? = some p := by
  rw [parent?, ancestors_of_mem_allChildren h]
  rfl

/-- The way up goes from place to place above it, until there is none. -/
theorem ancestors_eq (p : Place) : p.ancestors = p.parent?.elim [] fun a => a :: a.ancestors := by
  obtain ⟨node, above⟩ := p
  cases above with
  | nil => rfl
  | cons way above => rfl

/-- A walk meets the places on the way up to one of its places from the top down. -/
theorem exists_way (h : m ∈ p.walk) :
    ∃ way, way.Sublist p.walk ∧ (m :: m.ancestors).reverse = p.ancestors.reverse ++ way := by
  induction p using induction_on_children with
  | up p ih =>
    rw [walk_eq] at h ⊢
    rcases List.mem_cons.mp h with rfl | h
    · exact ⟨[m], by simp, by simp⟩
    · obtain ⟨c, hc, h⟩ := List.mem_flatMap.mp h
      obtain ⟨way, sublist, up⟩ := ih c hc h
      have below : c.walk.Sublist (p.children.flatMap walk) := List.sublist_flatten_of_mem (List.mem_map_of_mem hc)
      refine ⟨p :: way, (sublist.trans below).cons_cons p, ?_⟩
      rw [up, ancestors_of_mem_children hc]
      simp

theorem filter_ancestors_walk (hm : m ∈ (root n).walk) :
    ((root n).walk.filter fun a => a ∈ m.ancestors) = m.ancestors.reverse := by
  obtain ⟨way, sublist, up⟩ := exists_way hm
  have top : (root n).ancestors = [] := rfl
  rw [top, List.reverse_nil, List.nil_append, List.reverse_cons] at up
  have reversed : m.ancestors.reverse.Sublist (root n).walk := by
    rw [← up] at sublist
    exact (List.sublist_append_left _ _).trans sublist
  have nodup := nodup_walk (root n)
  refine (nodup.perm_iff_eq_of_sublist List.filter_sublist reversed).mp ?_
  rw [List.perm_ext_iff_of_nodup (nodup.filter _) (nodup.sublist reversed)]
  intro a
  have walked : a ∈ m.ancestors → a ∈ (root n).walk := fun ha => (mem_walk_root hm ha).1
  simpa using walked

/-- The nearest place of a kind above is the last one of this kind that the walk meets on the way to the place. -/
theorem findAncestor?_eq_getLast? (hm : m ∈ (root n).walk) (k : Kind) :
    m.findAncestor? k = ((root n).walk.filter fun a => a ∈ m.ancestors ∧ a.kind = k).getLast? := by
  have both : ((root n).walk.filter fun a => a ∈ m.ancestors ∧ a.kind = k) =
      ((root n).walk.filter fun a => a ∈ m.ancestors).filter fun a => a.kind == k := by
    rw [List.filter_filter]
    apply List.filter_congr
    intro a _
    rw [Bool.decide_and, Bool.and_comm, beq_eq_decide]
  rw [both, filter_ancestors_walk hm, List.getLast?_filter, List.reverse_reverse]
  rfl

/-- Downwards, the loop ends and yields the recursive pre-order, each place that is shown once; the walk of a place in it is
a part of it that starts with the place, and two such parts lie one in the other or have nothing in common. Upwards,
parents undo children of any sort. The places inside a place are itself and those that have it on their way up, and the
nearest place of a kind above is the last one of this kind that is met on the way down. -/
theorem walk_agrees_with_ancestors (n : Node) :
    (∀ p : Place, p.walk = p.preorder ∧ ∀ k,
      (Loop.step^[k] (.start p)).yielded = p.preorder.take k ∧
        ((Loop.step^[k] (.start p)).stack = [] ↔ p.preorder.length ≤ k)) ∧
    ((root n).walk.Nodup ∧ ∀ q, q ∈ (root n).walk ↔ (root n).Shows q) ∧
    (∀ a ∈ (root n).walk, a.walk <:+: (root n).walk ∧ a.walk.head? = some a) ∧
    (∀ a ∈ (root n).walk, ∀ b ∈ (root n).walk,
      a.walk <:+: b.walk ∨ b.walk <:+: a.walk ∨ a.walk.Disjoint b.walk) ∧
    (∀ p : Place, (∀ c ∈ p.allChildren, c.parent? = some p) ∧
      p.ancestors = p.parent?.elim [] fun a => a :: a.ancestors) ∧
    (∀ a ∈ (root n).walk, ∀ m ∈ (root n).walk, m ∈ a.walk ↔ a = m ∨ a ∈ m.ancestors) ∧
    (∀ m ∈ (root n).walk, ∀ k,
      m.findAncestor? k = ((root n).walk.filter fun a => a ∈ m.ancestors ∧ a.kind = k).getLast?) := by
  refine ⟨fun p => ⟨p.walk_eq_preorder, Loop.iterate_step_start p⟩, ⟨nodup_walk _, fun q => mem_walk_iff_shows⟩, ?_,
    fun a ha b hb => walks_nested_or_disjoint ha hb, fun p => ⟨fun c => parent?_of_mem_allChildren, p.ancestors_eq⟩,
    ?_, fun m hm k => findAncestor?_eq_getLast? hm k⟩
  · intro a ha
    refine ⟨walk_isInfix ha, ?_⟩
    rw [walk_eq]
    rfl
  · intro a _ m hm
    rw [mem_walk_iff hm, List.mem_cons]

/-- The tree of `{b}`, somewhere in a file. -/
def innerBlock : Node :=
  .mk { type := "block", start := 6, stop := 9 } [
    .mk { type := "\x7b", start := 6, stop := 7, named := false } [],
    .mk { type := "identifier", start := 7, stop := 8 } [],
    .mk { type := "\x7d", start := 8, stop := 9, named := false } []]

/-- The tree of `{/*a*/{b}}`, where the comment has a part of its own. -/
def outerBlock : Node :=
  .mk { type := "block", start := 0, stop := 10 } [
    .mk { type := "\x7b", start := 0, stop := 1, named := false } [],
    .mk { type := "block_comment", start := 1, stop := 6, extra := true } [
      .mk { type := "identifier", start := 3, stop := 4 } []],
    innerBlock,
    .mk { type := "\x7d", start := 9, stop := 10, named := false } []]

theorem walk_agrees_blocks :
    let top := root outerBlock
    let inner := top.down innerBlock 2
    let name := inner.down (.mk { type := "identifier", start := 7, stop := 8 } []) 1
    top.walk = [top, inner, name] ∧
      inner.walk <:+: top.walk ∧ (name ∈ inner.walk ↔ inner = name ∨ inner ∈ name.ancestors) ∧
      name.findAncestor? .block = (top.walk.filter fun a => a ∈ name.ancestors ∧ a.kind = .block).getLast? ∧
      name.findAncestor? .block = some inner := by
  intro top inner name
  have walk : top.walk = [top, inner, name] := by decide +kernel
  have inner_mem : inner ∈ top.walk := by simp [walk]
  have name_mem : name ∈ top.walk := by simp [walk]
  obtain ⟨_, _, parts, _, _, inside, nearest⟩ := walk_agrees_with_ancestors outerBlock
  exact ⟨walk, (parts inner inner_mem).1, inside inner inner_mem name name_mem, nearest name name_mem .block,
    by decide +kernel⟩

end Place
end LogReview
