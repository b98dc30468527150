import LogReview.Proofs.Tree.Rendering
import LogReview.Java.Program
import LogReview.Rule.Volume

/-! How log statements that count as the same are written. Their tokens are the same, unless at the first difference a
token of one statement is the beginning of a longer token of the other: operators that are kept apart by blanks in one
statement and are one operator in the other are rendered alike. -/
namespace LogReview
namespace Node

mutual

/-- The tokens of a tree as they are written: the texts of literals, which are taken whole, and of all other nodes
without children. Comments are left out. -/
def spellings (src : Source) : Node → List String
  | mk l cs =>
    if l.extra then [] else if (mk l cs).atomic then [src.text l.start l.stop] else spellingsIn src cs

def spellingsIn (src : Source) : List Node → List String
  | [] => []
  | n :: ns => n.spellings src ++ spellingsIn src ns

end

section Spellings
variable {src : Source} {n : Node}

theorem spellingsIn_eq (src : Source) (ns : List Node) : spellingsIn src ns = ns.flatMap (spellings src) := by
  induction ns with
  | nil => rfl
  | cons n ns ih => rw [spellingsIn, ih, List.flatMap_cons]

theorem spellings_eq (src : Source) (n : Node) : n.spellings src =
    if n.label.extra then []
    else if n.atomic then [src.text n.start n.stop]
    else n.children.flatMap (spellings src) := by
  cases n
  rw [spellings, spellingsIn_eq]
  rfl

theorem spellings_atomic (h : n.solid) (ha : n.atomic) : n.spellings src = [src.text n.start n.stop] := by
  have extra : ¬ n.label.extra = true := by simpa [solid] using h
  rw [spellings_eq, if_neg extra, if_pos ha]

end Spellings

/-- What stands where an operator is expected is a token that is written as its type is named. -/
def SpelledOperator (src : Source) (n : Node) : Prop :=
  ∀ c ∈ n.children, marks n.operator? c → c.solid ∧ c.atomic ∧ src.text c.start c.stop = c.type

instance (src : Source) : DecidablePred (SpelledOperator src) := fun n =>
  inferInstanceAs (Decidable (∀ c ∈ n.children, marks n.operator? c →
    c.solid ∧ c.atomic ∧ src.text c.start c.stop = c.type))

/-- The tokens of a tree are tokens of a text: operators have their own spelling, and no token is empty or has a blank
at an end. -/
structure WellSpelled (src : Source) (n : Node) : Prop where
  operators : n.Every (SpelledOperator src)
  tokens : ∀ w ∈ n.spellings src, w ≠ "" ∧ Text.strip w.toList = w.toList

instance (src : Source) (n : Node) : Decidable (n.WellSpelled src) :=
  decidable_of_iff (n.Every (SpelledOperator src) ∧
      ∀ w ∈ n.spellings src, w ≠ "" ∧ Text.strip w.toList = w.toList)
    ⟨fun ⟨operators, tokens⟩ => ⟨operators, tokens⟩, fun h => ⟨h.operators, h.tokens⟩⟩

end Node

namespace Canonical
variable {src : Source} {n : Node}

/-- Where operators have their own spelling, the tokens of the tree are those that are written. -/
theorem lexemes_eq_spellings (h : n.Every (Node.SpelledOperator src)) : n.lexemes src = n.spellings src := by
  induction n using Node.induction_on_children with
  | up n ih =>
    have children : (n.children.flatMap fun c => if Node.marks n.operator? c then [c.type] else c.lexemes src) =
        n.children.flatMap (Node.spellings src) := by
      apply List.flatMap_congr
      intro c hc
      split
      case isTrue marks =>
        obtain ⟨solid, atomic, spelled⟩ := h.here c hc marks
        rw [Node.spellings_atomic solid atomic, spelled]
      case isFalse => exact ih c hc (h.child hc)
    rw [Node.lexemes_eq, Node.spellings_eq, children]

theorem words_tokens (h : n.WellSpelled src) :
    words ((tokens src n).map String.toList) = (n.spellings src).map String.toList := by
  have trimmed : ∀ w ∈ n.spellings src, Text.strip w.toList = w.toList := fun w hw => (h.tokens w hw).2
  rw [words_lexemes, lexemes_eq_spellings h.operators, words, List.map_map]
  change ((n.spellings src).map fun t => Text.strip t.toList).filter _ = _
  rw [List.map_congr_left trimmed]
  apply List.filter_eq_self.mpr
  intro cs hcs
  obtain ⟨w, hw, rfl⟩ := List.mem_map.mp hcs
  simpa using (h.tokens w hw).1

end Canonical

namespace Rule

/-- Log calls that count as the same statement are written with the same characters, and with the same tokens unless at
the first difference a token of one call is cut out of a longer token of the other. -/
theorem rereads_spellings (src : Source) (m : Place) :
    ∀ c ∈ m.logCalls src, ∀ e ∈ m.logCalls src, c.node.WellSpelled src → e.node.WellSpelled src →
      c.canonicalText src = e.canonicalText src →
        Canonical.Rereads ((c.node.spellings src).map String.toList) ((e.node.spellings src).map String.toList) := by
  intro c _ e _ written written' same
  rw [← Canonical.words_tokens written, ← Canonical.words_tokens written']
  exact Canonical.rereads_words (String.ofList_injective same)

/-- A sign twice in front of a name, and the operator that looks like it. -/
def signs : Document :=
  let text := "void f()\x7ba.info(- -b);a.info(--b);\x7d"
  ⟨⟨.relative, ["A.java"]⟩, text.toUTF8, Java.parse text.toUTF8⟩

/-- The two calls are reported as one statement that is repeated, and are not written alike. -/
theorem repeatedLog_signs :
    repeatedLog.check signs =
        .ok [⟨"A.java", 1, "Repeated log statement (2 times) in method f: a.info(--b)", "repeated-log"⟩] ∧
      signs.methods.map (fun m => (m.logCalls signs.source).map (·.node.spellings signs.source)) =
        [[["a", ".", "info", "(", "-", "-", "b", ")"], ["a", ".", "info", "(", "--", "b", ")"]]] := by
  decide +kernel

/-- The first sign is cut out of the operator. -/
theorem rereads_signs : ∃ m ∈ signs.methods, ∃ c ∈ m.logCalls signs.source, ∃ e ∈ m.logCalls signs.source,
    c.node.WellSpelled signs.source ∧ e.node.WellSpelled signs.source ∧
      c.canonicalText signs.source = e.canonicalText signs.source ∧
      c.node.spellings signs.source ≠ e.node.spellings signs.source ∧
      Canonical.Rereads ((c.node.spellings signs.source).map String.toList)
        ((e.node.spellings signs.source).map String.toList) := by
  have found : ∃ m ∈ signs.methods, ∃ c ∈ m.logCalls signs.source, ∃ e ∈ m.logCalls signs.source,
      c.node.WellSpelled signs.source ∧ e.node.WellSpelled signs.source ∧
        c.canonicalText signs.source = e.canonicalText signs.source ∧
        c.node.spellings signs.source ≠ e.node.spellings signs.source := by
    decide +kernel
  obtain ⟨m, hm, c, hc, e, he, written, written', same, different⟩ := found
  exact ⟨m, hm, c, hc, e, he, written, written', same, different,
    rereads_spellings signs.source m c hc e he written written' same⟩

end Rule
end LogReview
