import LogReview.Proofs.Tree.Spacing
import LogReview.Proofs.Tree.Tokens

/-! What canonical texts keep. The canonical text of a node has the characters of its tokens in order, but for blanks; and
it has blanks between any two tokens that would make one word. -/
namespace LogReview

namespace Text
variable {c : Char} {cs : List Char}

theorem getLast?_strip (h : cs.getLast? = some c) (hc : isBlank c = false) : (strip cs).getLast? = some c := by
  obtain ⟨lead, trail, blank, blank', split⟩ := exists_strip cs
  have outside (gap : List Char) (blank : Blank gap) : gap.getLast? ≠ some c := by
    intro last
    simp [blank c (List.mem_of_getLast? last)] at hc
  rw [split, List.getLast?_append, List.getLast?_append] at h
  cases ht : trail.getLast? with
  | some a => exact absurd (by simpa [ht] using h) (outside trail blank')
  | none =>
    cases hs : (strip cs).getLast? with
    | some a => simpa [ht, hs] using h
    | none => exact absurd (by simpa [ht, hs] using h) (outside lead blank)

theorem head?_strip (h : cs.head? = some c) (hc : isBlank c = false) : (strip cs).head? = some c := by
  obtain ⟨lead, trail, blank, blank', split⟩ := exists_strip cs
  have outside (gap : List Char) (blank : Blank gap) : gap.head? ≠ some c := by
    intro first
    simp [blank c (List.mem_of_head? first)] at hc
  rw [split, List.head?_append, List.head?_append] at h
  cases hl : lead.head? with
  | some a => exact absurd (by simpa [hl] using h) (outside lead blank)
  | none =>
    cases hs : (strip cs).head? with
    | some a => simpa [hl, hs] using h
    | none => exact absurd (by simpa [hl, hs] using h) (outside trail blank')

end Text

namespace Canonical
open Text
variable {text w v : List Char} {ws vs : List (List Char)}

/-! ### Words and tokens -/

theorem ink_words (tokens : List (List Char)) : ink (words tokens).flatten = ink tokens.flatten := by
  induction tokens with
  | nil => rfl
  | cons token tokens ih =>
    have first : ink (words [token]).flatten = ink token := by
      by_cases empty : strip token = []
      · rw [← ink_strip token, empty]
        simp [words, empty]
      · simp [words, empty, ink_strip]
    rw [← List.singleton_append, words_append, List.flatten_append, ink_append, first, ih]
    simp

/-- Empty tokens make no words. -/
theorem words_filter (tokens : List (List Char)) : words (tokens.filter (· ≠ [])) = words tokens := by
  induction tokens with
  | nil => rfl
  | cons token tokens ih =>
    by_cases empty : token = []
    · subst empty
      simpa [words, strip, stripLeft] using ih
    · rw [List.filter_cons_of_pos (by simpa using empty), ← List.singleton_append, words_append, ih, ← words_append]
      rfl

/-! ### Words in a text without blank ends -/

theorem Laid.stripRight (h : Laid ws text) (isWord : ∀ w ∈ ws, IsWord w) : Laid ws (Text.stripRight text) := by
  induction h with
  | @nil gap blank =>
    apply Laid.nil
    intro c hc
    exact blank c ((stripRight_isPrefix gap).subset hc)
  | @cons gap w rest ws blank apart _ ih =>
    rw [(isWord w (by simp)).stripRight_append]
    exact .cons blank (needsBlank_of_isPrefix (stripRight_isPrefix rest) apart)
      (ih fun w hw => isWord w (by simp [hw]))

theorem laid_strip_render (tokens : List (List Char)) : Laid (words tokens) (strip (render tokens)) := by
  have isWord : ∀ w ∈ words tokens, IsWord w := fun _ => isWord_of_mem_words
  exact ((laid_render tokens).stripLeft isWord).stripRight isWord

/-! ### Words kept apart -/

/-- There are blanks in the text between what comes from the first tokens and what comes from the others. -/
def Parted (front back : List (List Char)) (text : List Char) : Prop :=
  ∃ left gap right, text = left ++ gap ++ right ∧ gap ≠ [] ∧ Blank gap ∧
    ink left = ink front.flatten ∧ ink right = ink back.flatten

/-- Two words that would run together have blanks between them wherever they stand. -/
theorem Laid.exists_gap (h : Laid (ws ++ w :: v :: vs) text) (touching : needsBlank w.getLast? v) :
    ∃ left gap right, text = left ++ gap ++ right ∧ gap ≠ [] ∧ Blank gap ∧ Laid (ws ++ [w]) left ∧
      Laid (v :: vs) right := by
  induction ws generalizing text with
  | nil =>
    obtain _ | @⟨lead, _, rest, _, blank, apart, later⟩ := h
    obtain _ | @⟨gap, _, rest, _, blank', apart', later⟩ := later
    refine ⟨lead ++ w, gap, v ++ rest, by simp, ?_, blank', ?_, ?_⟩
    -- Without a gap the rest would begin with the second word, which the first one has to be apart from.
    · rintro rfl
      have joined : needsBlank w.getLast? v = false := needsBlank_of_isPrefix ⟨rest, by simp⟩ apart
      simp [joined] at touching
    · have single : Laid [w] (lead ++ (w ++ [])) := .cons blank (needsBlank_nil _) (.nil blank_nil)
      simpa using single
    · have front : Laid (v :: vs) ([] ++ (v ++ rest)) := .cons blank_nil apart' later
      exact front
  | cons x ws ih =>
    obtain _ | @⟨lead, _, rest, _, blank, apart, later⟩ := h
    obtain ⟨left, gap, right, rfl, nonempty, blank', front, back⟩ := ih later
    refine ⟨lead ++ (x ++ left), gap, right, by simp, nonempty, blank', .cons blank ?_ front, back⟩
    exact needsBlank_of_isPrefix ⟨gap ++ right, by simp⟩ apart

theorem isBlank_of_isWordChar {c : Char} (h : isWordChar c) : isBlank c = false := by
  cases blank : isBlank c with
  | false => rfl
  | true => simp [isWordChar_of_isBlank blank] at h

theorem words_cons {t : List Char} (h : strip t ≠ []) (ts : List (List Char)) :
    words (t :: ts) = strip t :: words ts := by
  simp [words, h]

/-- So do two tokens next to each other, where empty tokens do not count. -/
theorem Laid.parted {tokens before after : List (List Char)} {t u : List Char} {a b : Char}
    (h : Laid (words tokens) text) (split : tokens.filter (· ≠ []) = before ++ t :: u :: after)
    (ha : t.getLast? = some a) (hb : u.head? = some b) (left : isWordChar a) (right : isWordChar b) :
    Parted (before ++ [t]) (u :: after) text := by
  have last : (strip t).getLast? = some a := getLast?_strip ha (isBlank_of_isWordChar left)
  have first : (strip u).head? = some b := head?_strip hb (isBlank_of_isWordChar right)
  have touching : needsBlank (strip t).getLast? (strip u) := by simp [needsBlank, last, first, left, right]
  have front := words_cons (List.ne_nil_of_mem (List.mem_of_getLast? last))
  have back := words_cons (List.ne_nil_of_mem (List.mem_of_head? first))
  rw [← words_filter, split, words_append, front, back] at h
  obtain ⟨left, gap, right, text, nonempty, blank, laid, laid'⟩ := h.exists_gap touching
  refine ⟨left, gap, right, text, nonempty, blank, ?_, ?_⟩
  · rw [laid.ink_eq, ← ink_words (before ++ [t]), words_append, front]
    rfl
  · rw [laid'.ink_eq, ← ink_words (u :: after), back]

end Canonical

namespace Node

mutual

/-- The tokens of a tree in the order of the source: the texts of literals, which are taken whole, and of all other nodes
without children. Comments are left out. A node where the operator of a binary expression stands has its type as its token,
even if it is a comment. -/
def lexemes (src : Source) : Node → List String
  | mk l cs =>
    if l.extra then []
    else if (mk l cs).atomic then [src.text l.start l.stop]
    else lexemesIn src (mk l cs).operator? cs

def lexemesIn (src : Source) (operator : Option Node) : List Node → List String
  | [] => []
  | n :: ns => (if marks operator n then [n.type] else n.lexemes src) ++ lexemesIn src operator ns

end

theorem lexemesIn_eq (src : Source) (operator : Option Node) (ns : List Node) :
    lexemesIn src operator ns = ns.flatMap fun n => if marks operator n then [n.type] else n.lexemes src := by
  induction ns with
  | nil => rfl
  | cons n ns ih => rw [lexemesIn, ih, List.flatMap_cons]

theorem lexemes_eq (src : Source) (n : Node) : n.lexemes src =
    if n.label.extra then []
    else if n.atomic then [src.text n.start n.stop]
    else n.children.flatMap fun c => if marks n.operator? c then [c.type] else c.lexemes src := by
  cases n
  rw [lexemes, lexemesIn_eq]
  rfl

end Node

namespace Canonical
open Text
variable {src : Source} {n : Node}

theorem strip_operator (type : String) : strip (s!" {type} ").toList = strip type.toList := by
  have blank : Blank [' '] := by simp [Blank]; decide
  have split : (" " ++ type ++ " ").toList = [' '] ++ (type.toList ++ [' ']) := by simp
  change strip (" " ++ type ++ " ").toList = _
  rw [split, strip_blank_append blank, strip_append_blank blank]

/-- But for blanks at their ends the tokens that are rendered are those of the tree. -/
theorem map_strip_lexemes (src : Source) (n : Node) :
    (tokens src n).map (fun t => strip t.toList) = (n.lexemes src).map fun t => strip t.toList := by
  induction n using Node.induction_on_children with
  | up n ih =>
    rw [Node.lexemes_eq]
    split
    case isTrue extra => rw [tokens, collect_extra src n (by simp [Node.solid, extra])]
    case isFalse solid =>
      have solid : n.solid := by simpa [Node.solid] using solid
      split
      case isTrue atomic => rw [tokens_atomic src n solid atomic]
      case isFalse compound =>
        rw [tokens_compound src n solid compound, Node.marked, List.flatMap_map, List.map_flatMap, List.map_flatMap]
        apply List.flatMap_congr
        intro c hc
        cases Node.marks n.operator? c with
        | true =>
          rw [collect_operator]
          exact congrArg (fun t => [t]) (strip_operator c.type)
        | false => exact ih c hc

theorem words_lexemes (src : Source) (n : Node) :
    words ((tokens src n).map String.toList) = words ((n.lexemes src).map String.toList) := by
  rw [words, words, List.map_map, List.map_map]
  exact congrArg (List.filter _) (map_strip_lexemes src n)

theorem laid_canonicalText (src : Source) (p : Place) :
    Laid (words ((p.node.lexemes src).map String.toList)) (p.canonicalText src).toList := by
  rw [Place.canonicalText, String.toList_ofList, ← words_lexemes]
  exact laid_strip_render _

/-- A canonical text has the characters of the tokens in order, and has blanks where two tokens next to each other would
make one word. -/
theorem canonicalText_keeps_lexemes (src : Source) (p : Place) :
    ink (p.canonicalText src).toList = ink ((p.node.lexemes src).map String.toList).flatten ∧
      ∀ before t u after, (p.node.lexemes src).filter (· ≠ "") = before ++ t :: u :: after →
        ∀ a ∈ t.toList.getLast?, ∀ b ∈ u.toList.head?, isWordChar a → isWordChar b →
          Parted ((before ++ [t]).map String.toList) ((u :: after).map String.toList) (p.canonicalText src).toList := by
  have laid := laid_canonicalText src p
  constructor
  · rw [laid.ink_eq, ink_words]
  · intro before t u after split a ha b hb left right
    have split' : ((p.node.lexemes src).map String.toList).filter (· ≠ []) =
        before.map String.toList ++ t.toList :: u.toList :: after.map String.toList := by
      have nonempty : ((fun cs : List Char => decide (cs ≠ [])) ∘ String.toList) = fun t => decide (t ≠ "") := by
        funext t
        simp
      rw [List.filter_map, nonempty, split]
      simp
    have parted := laid.parted split' ha hb left right
    simpa using parted

/-- The tree of a statement where only a comment is between the first two words. -/
def returned : Node :=
  .mk { type := "return_statement", start := 0, stop := 14 } [
    .mk { type := "return", start := 0, stop := 6, named := false } [],
    .mk { type := "block_comment", start := 6, stop := 10, extra := true } [],
    .mk { type := "binary_expression", start := 10, stop := 13 } [
      .mk { type := "identifier", start := 10, stop := 11, field := some "left" } [],
      .mk { type := "+", start := 11, stop := 12, named := false, field := some "operator" } [],
      .mk { type := "identifier", start := 12, stop := 13, field := some "right" } []],
    .mk { type := ";", start := 13, stop := 14, named := false } []]

theorem canonicalText_returned :
    returned.lexemes "return/**/b+c;".toUTF8 = ["return", "b", "+", "c", ";"] ∧
      (Place.root returned).canonicalText "return/**/b+c;".toUTF8 = "return b + c;" ∧
      Parted ["return".toList] ["b".toList, "+".toList, "c".toList, ";".toList] "return b + c;".toList := by
  have lexemes : returned.lexemes "return/**/b+c;".toUTF8 = ["return", "b", "+", "c", ";"] := by decide +kernel
  have text : (Place.root returned).canonicalText "return/**/b+c;".toUTF8 = "return b + c;" := by decide +kernel
  have parted := (canonicalText_keeps_lexemes "return/**/b+c;".toUTF8 (Place.root returned)).2 [] "return" "b" ["+", "c", ";"]
    (by decide +kernel) 'n' (by decide +kernel) 'b' (by decide +kernel) (by decide +kernel) (by decide +kernel)
  rw [text] at parted
  exact ⟨lexemes, text, parted⟩

end Canonical
end LogReview
