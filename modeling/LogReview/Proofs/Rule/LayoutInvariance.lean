import LogReview.Proofs.Rule.Agreement
import LogReview.Proofs.Rule.Battery
import LogReview.Proofs.Tree.Tokens

/-! Layout changes nothing but line numbers. A file may be indented anew, and comments may come and go: as long
as the trees are alike without comments, the rules say the same, in the same order. -/
namespace LogReview

theorem Kind.literal_of_ofType {type : String} (h : Kind.ofType type = .literal) :
    (LiteralSort.ofType? type).isSome := by
  by_contra hsort
  unfold Kind.ofType at h
  rw [if_neg hsort] at h
  split at h <;> cases h

theorem Kind.identifier_of_ofType {type : String} (h : Kind.ofType type = .identifier) : type = "identifier" := by
  unfold Kind.ofType at h
  split at h
  · cases h
  · split at h <;> first | rfl | cases h

namespace Document

/-- Two files whose trees are alike without their comments. In both trees comments have no field and stand
beside something else, the parts of a binary expression start at different bytes, and names have no parts. -/
structure SameButLayout (d e : Document) : Prop where
  left_solid : d.root.solid
  right_solid : e.root.solid
  left_tidy : d.root.Every Node.Tidy
  right_tidy : e.root.Every Node.Tidy
  left_names : d.root.Every Node.PlainName
  right_names : e.root.Every Node.PlainName
  alike : Node.Alike d.source e.source d.root.bare e.root.bare

end Document

namespace Place
variable {s t : Source} {p q : Place}

/-- Matching nodes of trees whose names have no parts. -/
def Twin (s t : Source) (n m : Node) : Prop := Node.Matches s t n m ∧ n.Every Node.PlainName

/-- Places with matching nodes, at them and above them. -/
def Twins (s t : Source) : Place → Place → Prop := Related (Twin s t) (Twin s t)

theorem forall₂_twin {n m : Node} (hn : n.Every Node.PlainName) {keep : Node → Bool}
    (h : List.Forall₂ (Node.Matches s t) (n.children.filter keep) (m.children.filter keep)) :
    List.Forall₂ (Twin s t) (n.children.filter keep) (m.children.filter keep) := by
  refine forall₂_imp_of_mem h ?_
  intro c hc d _ hcd
  exact ⟨hcd, hn.child (List.mem_of_mem_filter hc)⟩

theorem Twins.children (h : Twins s t p q) : List.Forall₂ (Twins s t) p.children q.children :=
  h.filter_allChildren (fun _ _ => id) Node.shown (forall₂_twin h.node.2 h.node.1.shown_children)

theorem childByField?_eq_solid (hp : p.node.Every Node.Tidy) (f : String) :
    p.childByField? f =
      (p.allChildren.filter fun c => c.node.solid).find? fun c => c.node.label.field == some f := by
  refine Node.find?_field_eq_solid Place.node ?_ f
  intro c hc
  have hmem : c.node ∈ p.node.children := by
    rw [← p.map_node_allChildren]
    exact List.mem_map_of_mem hc
  exact (hp.child hmem).here

theorem Twins.childByField? (h : Twins s t p q) (f : String) :
    Option.Rel (Twins s t) (p.childByField? f) (q.childByField? f) := by
  rw [childByField?_eq_solid h.node.1.left_tidy, childByField?_eq_solid h.node.1.right_tidy]
  refine find?_related
    (h.filter_allChildren (fun _ _ => id) Node.solid (forall₂_twin h.node.2 h.node.1.solid_children)) ?_
  intro c d hcd
  rw [hcd.node.1.field_eq]

theorem Twins.text (h : Twins s t p q) (hp : p.node.atomic) : p.text s = q.text t :=
  h.node.1.text_eq hp

theorem Twins.name (h : Twins s t p q) : p.name s = q.name t := by
  have hfield := h.childByField? "name"
  rw [Place.name, Place.name]
  generalize hc : p.childByField? "name" = a, q.childByField? "name" = b at hfield
  cases hfield with
  | none => rfl
  | @some c d hcd =>
    have hname : c.node.label.field = some "name" := by simpa using List.find?_some hc
    have hplain := hcd.node.2.here.name hname
    exact hcd.text (by simp [Node.atomic, hplain])

/-- Literals and identifiers are read as they are written. -/
theorem Twins.atomic (h : Twins s t p q) (hp : p.kind = .literal ∨ p.kind = .identifier) : p.node.atomic := by
  rw [Node.atomic, Bool.or_eq_true]
  rcases hp with hp | hp
  · exact .inl (Kind.literal_of_ofType hp)
  · have hplain := h.node.2.here.identifier (Kind.identifier_of_ofType hp)
    exact .inr (by simp [hplain])

theorem Twins.canonicalText (h : Twins s t p q) : p.canonicalText s = q.canonicalText t := by
  rw [Place.canonicalText, Place.canonicalText, Canonical.tokens_eq_of_matches h.node.1]

theorem twin_kind (n m : Node) (h : Twin s t n m) : n.kind = m.kind := h.1.kind_eq

/-- Twins agree on all that most rules look at. -/
theorem twins_agreement (s t : Source) : Rule.Agreement s t (Twins s t) where
  type _ _ h := h.node.1.type_eq
  children _ _ h := h.children
  field _ _ h := h.childByField?
  name _ _ h := h.name
  text _ _ h hp := h.text (h.atomic hp)
  canonical _ _ h := h.canonicalText
  rethrown _ _ h := Rule.isRethrown_eq (fun _ _ h => twin_kind _ _ h.node) (fun _ _ => Twins.children)
    (h.findAncestor? twin_kind .block)
  looped _ _ h := h.hasAncestor twin_kind .loop

end Place

namespace Rule

/-- The rules that look at the text of whole expressions, as it is written. -/
def textual : List String := ["complete-object", "console-output"]

/-- What a file is told of, without the lines: each time the rule and what it says. -/
def remarks (issues : List Issue) : List (String × String) :=
  (issues.filter fun i => !textual.contains i.rule).map fun i => (i.rule, i.description)

/-- A rule that sees the same says the same. -/
theorem Respects.remarks_eq {s t : Source} {R : Place → Place → Prop} {rule : Rule} (hrule : Respects s t R rule)
    (h : Agreement s t R) {d e : Document} (hd : d.source = s) (he : e.source = t) (htop : R d.top e.top) :
    (rule.issuesOf d).map (fun i => (i.rule, i.description)) =
      (rule.issuesOf e).map fun i => (i.rule, i.description) := by
  obtain ⟨k, remarks, _, hsurvey, hremarks⟩ := hrule
  subst hd
  subst he
  have hplaces := Place.findAll_related h.children (fun _ _ => h.kind) htop k
  have hfindings := List.rel_flatMap hplaces hremarks
  rw [hsurvey.issuesOf_eq, hsurvey.issuesOf_eq, List.map_map, List.map_map, ← List.forall₂_eq_eq_eq]
  refine List.rel_map ?_ hfindings
  intro f g hfg
  simp only [Function.comp_apply, issue, hfg.2]

theorem remarks_flatMap (rules : List Rule) (f : Rule → List Issue) :
    remarks (rules.flatMap f) = rules.flatMap fun rule => remarks (f rule) := by
  rw [remarks, List.filter_flatMap, List.map_flatMap]
  rfl

/-- The issues of one rule are all left out or all kept. -/
theorem remarks_issuesOf {limits : Limits} {rule : Rule} (h : rule ∈ battery limits) (d : Document) :
    remarks (rule.issuesOf d) =
      if textual.contains rule.id then [] else (rule.issuesOf d).map fun i => (i.rule, i.description) := by
  have hids : ∀ i ∈ rule.issuesOf d, (!textual.contains i.rule) = !textual.contains rule.id :=
    fun i hi => by rw [(eq_of_mem_issuesOf h hi).2]
  rw [remarks, List.filter_congr hids]
  cases textual.contains rule.id with
  | true =>
    rw [Bool.not_true, List.filter_false]
    rfl
  | false =>
    rw [Bool.not_false, List.filter_true]
    rfl

/-- Layout changes nothing that the rules say, for all rules but the two that look at the text of whole
expressions: what is found is the same, in the same order. -/
theorem remarks_eq_of_sameButLayout (limits : Limits) (d e : Document) (h : d.SameButLayout e) :
    ∃ is js, checkAll (battery limits) d = .ok is ∧ checkAll (battery limits) e = .ok js ∧
      remarks is = remarks js := by
  refine ⟨_, _, checkAll_battery limits d, checkAll_battery limits e, ?_⟩
  have hagree := Place.twins_agreement d.source e.source
  have htop : Place.Twins d.source e.source d.top e.top :=
    ⟨⟨⟨h.left_tidy, h.right_tidy, h.left_solid, h.right_solid, h.alike⟩, h.left_names⟩, .nil⟩
  rw [remarks_flatMap, remarks_flatMap]
  refine List.flatMap_congr ?_
  intro rule hrule
  rw [remarks_issuesOf hrule, remarks_issuesOf hrule]
  split
  case isTrue => rfl
  case isFalse hid =>
    rcases battery_respects hagree limits hrule with rfl | rfl | hrespects
    · exact absurd (by decide) hid
    · exact absurd (by decide) hid
    · exact hrespects.remarks_eq hagree rfl rfl htop

/-- A leaf of a tree. -/
def leaf (type : String) (start stop : Nat) (named : Bool) (field : Option String) : Node :=
  .mk { type, start, stop, named, field } []

/-- A call that logs a sum, on one line. -/
def compactCall : Document where
  file := ⟨.relative, ["A.java"]⟩
  source := "log.info(a+b)".toUTF8
  root := .mk { type := "program", start := 0, stop := 13 } [
    .mk { type := "method_invocation", start := 0, stop := 13 } [
      leaf "identifier" 0 3 true (some "object"), leaf "." 3 4 false none,
      leaf "identifier" 4 8 true (some "name"),
      .mk { type := "argument_list", start := 8, stop := 13, field := some "arguments" } [
        leaf "(" 8 9 false none,
        .mk { type := "binary_expression", start := 9, stop := 12 } [
          leaf "identifier" 9 10 true (some "left"), leaf "+" 10 11 false (some "operator"),
          leaf "identifier" 11 12 true (some "right")],
        leaf ")" 12 13 false none]]]

/-- The same call over three lines, with a comment in the sum. -/
def spreadCall : Document where
  file := ⟨.relative, ["B.java"]⟩
  source := "\nlog\n .info(a /*c*/ + b)".toUTF8
  root := .mk { type := "program", start := 1, stop := 24 } [
    .mk { type := "method_invocation", start := 1, stop := 24 } [
      leaf "identifier" 1 4 true (some "object"), leaf "." 6 7 false none,
      leaf "identifier" 7 11 true (some "name"),
      .mk { type := "argument_list", start := 11, stop := 24, field := some "arguments" } [
        leaf "(" 11 12 false none,
        .mk { type := "binary_expression", start := 12, stop := 23 } [
          leaf "identifier" 12 13 true (some "left"),
          .mk { type := "block_comment", start := 14, stop := 19, extra := true } [],
          leaf "+" 20 21 false (some "operator"), leaf "identifier" 22 23 true (some "right")],
        leaf ")" 23 24 false none]]]

theorem sameButLayout_calls : compactCall.SameButLayout spreadCall where
  left_solid := by decide
  right_solid := by decide
  left_tidy := by decide +kernel
  right_tidy := by decide +kernel
  left_names := by decide +kernel
  right_names := by decide +kernel
  alike := by decide +kernel

theorem remarks_eq_of_calls : compactCall.SameButLayout spreadCall ∧
    (∃ is js, checkAll (battery {}) compactCall = .ok is ∧ checkAll (battery {}) spreadCall = .ok js ∧
      remarks is = remarks js) ∧
    (checkAll (battery {}) spreadCall).toOption.map remarks =
      some [("missing-context", "Logging exception without message"),
        ("string-concatenation", "String concatenation instead of placeholders")] :=
  ⟨sameButLayout_calls, remarks_eq_of_sameButLayout {} compactCall spreadCall sameButLayout_calls,
    by decide +kernel⟩

end Rule
end LogReview
