import LogReview.Proofs.Rule.Agreement

/-! Files are reviewed declaration by declaration: what a rule says of a file is what it says of the first
declarations, and then what it says of the others. -/
namespace LogReview
namespace Place
variable {p q : Place}

/-- Nodes that may stand for each other above a place: the same, or both of no kind of interest. -/
def Peer (n m : Node) : Prop := n = m ∨ n.kind = .other ∧ m.kind = .other

/-- The same node, below nodes that may stand for each other. -/
def Peers : Place → Place → Prop := Related Eq Peer

theorem peer_kind (n m : Node) (h : Peer n m) : n.kind = m.kind := by
  rcases h with rfl | ⟨hn, hm⟩
  · rfl
  · rw [hn, hm]

theorem Peers.filter_allChildren (h : Peers p q) (keep : Node → Bool) :
    List.Forall₂ Peers (p.allChildren.filter fun c => keep c.node) (q.allChildren.filter fun c => keep c.node) := by
  refine Related.filter_allChildren h (fun _ _ => .inl) keep ?_
  rw [h.node]
  exact List.forall₂_refl _

theorem Peers.children (h : Peers p q) : List.Forall₂ Peers p.children q.children :=
  h.filter_allChildren Node.shown

theorem Peers.childByField? (h : Peers p q) (f : String) :
    Option.Rel Peers (p.childByField? f) (q.childByField? f) := by
  have hall := h.filter_allChildren fun _ => true
  rw [List.filter_true, List.filter_true] at hall
  refine find?_related hall ?_
  intro c d hcd
  rw [hcd.node]

theorem Peers.text (h : Peers p q) (src : Source) : p.text src = q.text src := by
  rw [Place.text, Place.text, h.node]

theorem Peers.name (h : Peers p q) (src : Source) : p.name src = q.name src := by
  have hfield := h.childByField? "name"
  rw [Place.name, Place.name]
  generalize p.childByField? "name" = a, q.childByField? "name" = b at hfield
  cases hfield with
  | none => rfl
  | some hcd => exact hcd.text src

/-- The innermost blocks are the same, since a block is of interest. -/
theorem Peers.enclosingBlock? (h : Peers p q) : Option.Rel Peers p.enclosingBlock? q.enclosingBlock? := by
  have hblock := h.findAncestor? peer_kind .block
  rw [Place.enclosingBlock?, Place.enclosingBlock?]
  generalize ha : p.findAncestor? .block = a, q.findAncestor? .block = b at hblock
  cases hblock with
  | none => exact .none
  | @some a b hab =>
    have hkind : a.kind = .block := by simpa using List.find?_some ha
    rcases hab.node with hnode | ⟨hother, _⟩
    · exact .some ⟨hnode, hab.above⟩
    · rw [Place.kind, hother] at hkind
      cases hkind

theorem peers_agreement (src : Source) : Rule.Agreement src src Peers where
  type _ _ h := congrArg Node.type h.node
  children _ _ h := h.children
  field _ _ h := h.childByField?
  name _ _ h := h.name src
  text _ _ h _ := h.text src
  canonical _ _ h := by rw [canonicalText, canonicalText, h.node]
  rethrown _ _ h := Rule.isRethrown_eq (fun _ _ h => congrArg Node.kind h.node) (fun _ _ h => h.children)
    h.enclosingBlock?
  looped _ _ h := h.hasAncestor peer_kind .loop

/-- The same nodes below two nodes, wherever they stand among their siblings. -/
theorem forall₂_peers_down {n m : Node} (h : Peer n m) (cs : List Node) (i j : Nat) :
    List.Forall₂ Peers ((cs.zipIdx i).map fun (c, k) => (root n).down c k)
      ((cs.zipIdx j).map fun (c, k) => (root m).down c k) := by
  induction cs generalizing i j with
  | nil => exact .nil
  | cons c cs ih => exact .cons ⟨rfl, .cons h .nil⟩ (ih (i + 1) (j + 1))

section Root
variable {l : Label} (hl : Kind.ofType l.type = .other)
include hl

/-- The children of a node of no interest, one part after the other. -/
theorem children_append (cs ds : List Node) :
    List.Forall₂ Peers (root (.mk l (cs ++ ds))).children
      ((root (.mk l cs)).children ++ (root (.mk l ds)).children) := by
  have hpeer (ns ms : List Node) : Peer (.mk l ns) (.mk l ms) := .inr ⟨hl, hl⟩
  have hall : List.Forall₂ Peers (root (.mk l (cs ++ ds))).allChildren
      ((root (.mk l cs)).allChildren ++ (root (.mk l ds)).allChildren) := by
    rw [allChildren, root, Node.children_mk, List.zipIdx_append, List.map_append]
    exact List.rel_append (forall₂_peers_down (hpeer _ _) cs 0 0) (forall₂_peers_down (hpeer _ _) ds _ 0)
  rw [children, children, children, ← List.filter_append]
  refine List.rel_filter ?_ hall
  intro c d hcd
  have hnode : c.node = d.node := hcd.node
  simp only [hnode]

theorem findAll_root {k : Kind} (hk : k ≠ .other) (cs : List Node) :
    (root (.mk l cs)).findAll k = (root (.mk l cs)).children.flatMap (·.findAll k) := by
  have hkind : ((root (.mk l cs)).kind == k) = false := by
    rw [beq_eq_false_iff_ne]
    exact fun heq => hk (heq.symm.trans hl)
  rw [findAll_eq, hkind]
  rfl

/-- The places of one kind below a node of no interest, one part of its children after the other. -/
theorem findAll_append {k : Kind} (hk : k ≠ .other) (cs ds : List Node) :
    List.Forall₂ Peers ((root (.mk l (cs ++ ds))).findAll k)
      ((root (.mk l cs)).findAll k ++ (root (.mk l ds)).findAll k) := by
  rw [findAll_root hl hk, findAll_root hl hk, findAll_root hl hk, ← List.flatMap_append]
  refine List.rel_flatMap (children_append hl cs ds) ?_
  intro c d hcd
  exact findAll_related (fun _ _ => Peers.children) (fun _ _ h => congrArg Node.kind h.node) hcd k

end Root
end Place

namespace Rule

theorem Respects.issuesOf_append {src : Source} {rule : Rule} (h : Respects src src Place.Peers rule) (file : Path)
    {l : Label} (hl : Kind.ofType l.type = .other) (cs ds : List Node) :
    rule.issuesOf ⟨file, src, .mk l (cs ++ ds)⟩ =
      rule.issuesOf ⟨file, src, .mk l cs⟩ ++ rule.issuesOf ⟨file, src, .mk l ds⟩ := by
  obtain ⟨k, remarks, hk, hsurvey, hremarks⟩ := h
  have hfindings := List.rel_flatMap (Place.findAll_append hl hk cs ds) hremarks
  -- An issue has its line from the node alone, so that the tree around it does not count.
  have hissue (n : Node) : issue rule.id ⟨file, src, n⟩ = issue rule.id ⟨file, src, .mk l (cs ++ ds)⟩ := rfl
  rw [hsurvey.issuesOf_eq, hsurvey.issuesOf_eq, hsurvey.issuesOf_eq, hissue (.mk l cs), hissue (.mk l ds),
    ← List.map_append, ← List.flatMap_append, ← List.forall₂_eq_eq_eq]
  refine List.rel_map ?_ hfindings
  intro f g hfg
  rw [issue, issue, Place.line, Place.line, hfg.1.node, hfg.2]

/-- What a rule of the battery says of a file is what it says of the first declarations, and then what it says
of the rest: no count and no surrounding is carried over. -/
theorem check_append_declarations (limits : Limits) (rule : Rule) (hrule : rule ∈ battery limits) (file : Path)
    (src : Source) (l : Label) (hl : Kind.ofType l.type = .other) (cs ds : List Node) :
    ∃ is js, rule.check ⟨file, src, .mk l cs⟩ = .ok is ∧ rule.check ⟨file, src, .mk l ds⟩ = .ok js ∧
      rule.check ⟨file, src, .mk l (cs ++ ds)⟩ = .ok (is ++ js) := by
  have hagree := Place.peers_agreement src
  have htext (p q : Place) (hpq : Place.Peers p q) : p.text src = q.text src := hpq.text src
  have hrespects : Respects src src Place.Peers rule := by
    rcases battery_respects hagree limits hrule with rfl | rfl | h
    · exact completeObject_respects hagree htext
    · exact consoleOutput_respects hagree htext
    · exact h
  refine ⟨_, _, check_of_mem_battery hrule _, check_of_mem_battery hrule _, ?_⟩
  rw [check_of_mem_battery hrule, hrespects.issuesOf_append file hl]

/-- A method that logs once, at `start`. -/
def loneCall (start : Nat) : Node :=
  .mk { type := "method_declaration", start, stop := start + 7 } [
    .mk { type := "method_invocation", start, stop := start + 7 } [
      .mk { type := "identifier", start, stop := start + 4, field := some "name" } []]]

theorem check_append_loneCalls :
    repeatedLog ∈ battery {} ∧ Kind.ofType "program" = .other ∧
    ∃ is js,
      repeatedLog.check ⟨⟨.relative, ["A.java"]⟩, "info(a)info(a)".toUTF8,
        .mk { type := "program", start := 0, stop := 14 } [loneCall 0]⟩ = .ok is ∧
      repeatedLog.check ⟨⟨.relative, ["A.java"]⟩, "info(a)info(a)".toUTF8,
        .mk { type := "program", start := 0, stop := 14 } [loneCall 7]⟩ = .ok js ∧
      repeatedLog.check ⟨⟨.relative, ["A.java"]⟩, "info(a)info(a)".toUTF8,
        .mk { type := "program", start := 0, stop := 14 } ([loneCall 0] ++ [loneCall 7])⟩ = .ok (is ++ js) := by
  have hmem : repeatedLog ∈ battery {} := by simp [battery]
  have hkind : Kind.ofType "program" = .other := by decide
  exact ⟨hmem, hkind, check_append_declarations {} repeatedLog hmem _ _ _ hkind [loneCall 0] [loneCall 7]⟩

end Rule
end LogReview
