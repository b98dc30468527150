import LogReview.Proofs.Tree.Walk
import LogReview.Tree.Canonical
import Mathlib.Data.List.Find

/-! Trees that differ in their layout only. Comments are cut off with all that is below them; what is left
has to have the same shape in both trees, and the same text wherever a node is read as it is written. -/
namespace LogReview
namespace Node

/-- No comment. -/
def solid (n : Node) : Bool := !n.label.extra

mutual

/-- The tree without its comments. -/
def bare : Node → Node
  | mk l cs => mk l (bares cs)

def bares : List Node → List Node
  | [] => []
  | n :: ns => if n.label.extra then bares ns else n.bare :: bares ns

end

theorem bares_eq (ns : List Node) : bares ns = (ns.filter solid).map bare := by
  induction ns with
  | nil => rfl
  | cons n ns ih =>
    rw [bares, ih, List.filter_cons]
    cases h : n.label.extra <;> simp [solid, h]

@[simp] theorem label_bare (n : Node) : n.bare.label = n.label := by
  cases n
  rw [bare]
  rfl

theorem children_bare (n : Node) : n.bare.children = (n.children.filter solid).map bare := by
  cases n
  rw [bare, children_mk, bares_eq, children_mk]

mutual

/-- Two trees of one shape over two sources. Literals and nodes without children have the same text. -/
def Alike (s t : Source) : Node → Node → Prop
  | mk l cs, mk m ds =>
    l.type = m.type ∧ l.named = m.named ∧ l.field = m.field ∧
      ((mk l cs).atomic → s.text l.start l.stop = t.text m.start m.stop) ∧ AllAlike s t cs ds

def AllAlike (s t : Source) : List Node → List Node → Prop
  | [], [] => True
  | c :: cs, d :: ds => Alike s t c d ∧ AllAlike s t cs ds
  | [], _ :: _ => False
  | _ :: _, [] => False

end

mutual

instance decidableAlike (s t : Source) : (n m : Node) → Decidable (Alike s t n m)
  | mk l cs, mk m ds =>
    have := decidableAllAlike s t cs ds
    inferInstanceAs (Decidable (l.type = m.type ∧ l.named = m.named ∧ l.field = m.field ∧
      ((mk l cs).atomic → s.text l.start l.stop = t.text m.start m.stop) ∧ AllAlike s t cs ds))

instance decidableAllAlike (s t : Source) : (cs ds : List Node) → Decidable (AllAlike s t cs ds)
  | [], [] => inferInstanceAs (Decidable True)
  | c :: cs, d :: ds =>
    have := decidableAlike s t c d
    have := decidableAllAlike s t cs ds
    inferInstanceAs (Decidable (Alike s t c d ∧ AllAlike s t cs ds))
  | [], _ :: _ => inferInstanceAs (Decidable False)
  | _ :: _, [] => inferInstanceAs (Decidable False)

end

theorem allAlike_iff (s t : Source) (cs ds : List Node) :
    AllAlike s t cs ds ↔ List.Forall₂ (Alike s t) cs ds := by
  induction cs generalizing ds with
  | nil => cases ds <;> simp [AllAlike]
  | cons c cs ih => cases ds <;> simp [AllAlike, ih]

mutual

/-- What holds of all nodes of a tree, comments and their parts included. -/
def Every (P : Node → Prop) : Node → Prop
  | mk l cs => P (mk l cs) ∧ EveryIn P cs

def EveryIn (P : Node → Prop) : List Node → Prop
  | [] => True
  | n :: ns => n.Every P ∧ EveryIn P ns

end

mutual

instance decidableEvery (P : Node → Prop) [DecidablePred P] : (n : Node) → Decidable (n.Every P)
  | mk l cs =>
    have := decidableEveryIn P cs
    inferInstanceAs (Decidable (P (mk l cs) ∧ EveryIn P cs))

instance decidableEveryIn (P : Node → Prop) [DecidablePred P] : (ns : List Node) → Decidable (EveryIn P ns)
  | [] => inferInstanceAs (Decidable True)
  | n :: ns =>
    have := decidableEvery P n
    have := decidableEveryIn P ns
    inferInstanceAs (Decidable (n.Every P ∧ EveryIn P ns))

end

theorem everyIn_iff (P : Node → Prop) (ns : List Node) : EveryIn P ns ↔ ∀ n ∈ ns, n.Every P := by
  induction ns with
  | nil => simp [EveryIn]
  | cons n ns ih => simp [EveryIn, ih]

theorem every_iff (P : Node → Prop) (n : Node) : n.Every P ↔ P n ∧ ∀ c ∈ n.children, c.Every P := by
  cases n
  rw [Every, everyIn_iff]
  rfl

/-- Comments have no field and no place of their own: where one stands, something else does too. The parts of
a binary expression start at different bytes. -/
structure Tidy (n : Node) : Prop where
  field_of_extra : n.label.extra → n.label.field = none
  solid_of_extra : (∃ c ∈ n.children, c.label.extra) → ∃ c ∈ n.children, c.solid
  starts : n.type = "binary_expression" → (n.children.map start).Nodup

instance (n : Node) : Decidable n.Tidy :=
  decidable_of_iff ((n.label.extra → n.label.field = none) ∧
      ((∃ c ∈ n.children, c.label.extra) → ∃ c ∈ n.children, c.solid) ∧
      (n.type = "binary_expression" → (n.children.map start).Nodup))
    ⟨fun ⟨h₁, h₂, h₃⟩ => ⟨h₁, h₂, h₃⟩, fun h => ⟨h.field_of_extra, h.solid_of_extra, h.starts⟩⟩

/-- Names have no parts. -/
structure PlainName (n : Node) : Prop where
  identifier : n.type = "identifier" → n.children = []
  name : n.label.field = some "name" → n.children = []

instance (n : Node) : Decidable n.PlainName :=
  decidable_of_iff ((n.type = "identifier" → n.children.isEmpty) ∧
      (n.label.field = some "name" → n.children.isEmpty))
    ⟨fun ⟨h₁, h₂⟩ => ⟨fun h => List.isEmpty_iff.mp (h₁ h), fun h => List.isEmpty_iff.mp (h₂ h)⟩,
      fun h => ⟨fun hi => List.isEmpty_iff.mpr (h.identifier hi), fun hn => List.isEmpty_iff.mpr (h.name hn)⟩⟩

theorem Every.here {P : Node → Prop} {n : Node} (h : n.Every P) : P n := ((every_iff P n).mp h).1

theorem Every.child {P : Node → Prop} {n c : Node} (h : n.Every P) (hc : c ∈ n.children) : c.Every P :=
  ((every_iff P n).mp h).2 c hc

theorem Tidy.solid_children (n : Node) (h : n.Tidy) : (n.children.filter solid).isEmpty = n.children.isEmpty := by
  cases hcs : n.children with
  | nil => rfl
  | cons c cs =>
    have hsolid : ∃ c ∈ n.children, c.solid := by
      cases hc : c.label.extra with
      | true => exact h.solid_of_extra ⟨c, by simp [hcs], hc⟩
      | false => exact ⟨c, by simp [hcs], by simp [solid, hc]⟩
    obtain ⟨d, hd, hds⟩ := hsolid
    rw [hcs] at hd
    have : d ∈ (c :: cs).filter solid := List.mem_filter.mpr ⟨hd, hds⟩
    rw [List.isEmpty_eq_false_iff.mpr (List.ne_nil_of_mem this)]
    rfl

/-- Comments have no field, so that a field is looked up among the other nodes. -/
theorem find?_field_eq_solid {α : Type} (node : α → Node) {xs : List α} (h : ∀ x ∈ xs, (node x).Tidy) (f : String) :
    (xs.find? fun x => (node x).label.field == some f) =
      (xs.filter fun x => (node x).solid).find? fun x => (node x).label.field == some f := by
  rw [List.find?_filter]
  refine List.find?_congr ?_
  intro x hx
  cases hextra : (node x).label.extra with
  | true => simp [(h x hx).field_of_extra hextra]
  | false => by_cases hf : (node x).label.field = some f <;> simp [solid, hextra, hf]

/-- Literals and nodes without children stay what they are without comments. -/
theorem Tidy.atomic_bare (n : Node) (h : n.Tidy) : n.bare.atomic = n.atomic := by
  have hempty : n.bare.children.isEmpty = n.children.isEmpty := by
    rw [children_bare, List.isEmpty_map, h.solid_children]
  rw [atomic, atomic, hempty, literalSort?, literalSort?, type, label_bare]
  rfl

/-- Two nodes that are no comments, of tidy trees that are alike without comments. -/
structure Matches (s t : Source) (n m : Node) : Prop where
  left_tidy : n.Every Tidy
  right_tidy : m.Every Tidy
  left_solid : n.solid
  right_solid : m.solid
  alike : Alike s t n.bare m.bare

namespace Matches
variable {s t : Source} {n m : Node}

theorem shape (h : Matches s t n m) :
    n.type = m.type ∧ n.label.named = m.label.named ∧ n.label.field = m.label.field ∧
      (n.bare.atomic → s.text n.start n.stop = t.text m.start m.stop) ∧
      List.Forall₂ (Alike s t) n.bare.children m.bare.children := by
  have hal := h.alike
  cases n
  cases m
  rw [bare, bare, Alike, allAlike_iff] at hal
  exact hal

theorem type_eq (h : Matches s t n m) : n.type = m.type := h.shape.1

theorem named_eq (h : Matches s t n m) : n.label.named = m.label.named := h.shape.2.1

theorem field_eq (h : Matches s t n m) : n.label.field = m.label.field := h.shape.2.2.1

theorem kind_eq (h : Matches s t n m) : n.kind = m.kind := by rw [kind, kind, h.type_eq]

theorem literalSort?_eq (h : Matches s t n m) : n.literalSort? = m.literalSort? := by
  rw [literalSort?, literalSort?, h.type_eq]

/-- The children that are no comments match one by one. -/
theorem solid_children (h : Matches s t n m) :
    List.Forall₂ (Matches s t) (n.children.filter solid) (m.children.filter solid) := by
  have hcs := h.shape.2.2.2.2
  rw [children_bare, children_bare, List.forall₂_map_left_iff, List.forall₂_map_right_iff] at hcs
  refine Place.forall₂_imp_of_mem hcs ?_
  intro c hc d hd hcd
  obtain ⟨hc, hcs⟩ := List.mem_filter.mp hc
  obtain ⟨hd, hds⟩ := List.mem_filter.mp hd
  exact ⟨h.left_tidy.child hc, h.right_tidy.child hd, hcs, hds, hcd⟩

theorem shown_children (h : Matches s t n m) :
    List.Forall₂ (Matches s t) (n.children.filter shown) (m.children.filter shown) := by
  have hsplit (ns : List Node) : ns.filter shown = (ns.filter solid).filter (·.label.named) := by
    rw [List.filter_filter]
    rfl
  rw [hsplit, hsplit]
  refine List.rel_filter ?_ h.solid_children
  intro c d hcd
  simp only [hcd.named_eq]

theorem atomic_eq (h : Matches s t n m) : n.atomic = m.atomic := by
  have hl := h.left_tidy.here.solid_children
  have hr := h.right_tidy.here.solid_children
  have hlength := h.solid_children.length_eq
  have hempty : n.children.isEmpty = m.children.isEmpty := by
    rw [← hl, ← hr, Bool.eq_iff_iff, List.isEmpty_iff_length_eq_zero, List.isEmpty_iff_length_eq_zero,
      hlength]
  rw [atomic, atomic, h.literalSort?_eq, hempty]

theorem text_eq (h : Matches s t n m) (hn : n.atomic) : s.text n.start n.stop = t.text m.start m.stop := by
  exact h.shape.2.2.2.1 (h.left_tidy.here.atomic_bare.trans hn)

end Matches
end Node
end LogReview
