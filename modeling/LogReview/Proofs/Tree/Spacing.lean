import LogReview.Tree.Canonical
import Mathlib.Data.List.Induction

/-! Words with blanks between them. A rendered text has the words of its tokens in order, and blanks wherever two of
them would run together. The words can be read off the text again, up to a place where a word of one reading is the
beginning of a longer word of another. -/
namespace LogReview

namespace Text

/-! ### Blanks at the ends -/

/-- Ranges that do not overlap have no character in common. -/
theorem inRanges_eq_false {rs ss : List (Nat × Nat)}
    (disjoint : (rs.all fun r => ss.all fun s => s.2 < r.1 || r.2 < s.1) = true) {c : Char} (h : inRanges rs c) :
    inRanges ss c = false := by
  obtain ⟨r, hr, within⟩ := List.any_eq_true.mp h
  apply List.any_eq_false.mpr
  intro s hs
  have apart := List.all_eq_true.mp (List.all_eq_true.mp disjoint r hr) s hs
  simp only [Bool.and_eq_true, Bool.or_eq_true, decide_eq_true_eq] at within apart ⊢
  omega

/-- Nothing but blanks. -/
def Blank (cs : List Char) : Prop := ∀ c ∈ cs, isBlank c

/-- There is something, and no blank at either end. -/
structure IsWord (w : List Char) : Prop where
  nonempty : w ≠ []
  head : ∀ c ∈ w.head?, isBlank c = false
  last : ∀ c ∈ w.getLast?, isBlank c = false

instance (w : List Char) : Decidable (IsWord w) :=
  decidable_of_iff (!w.isEmpty && w.head?.all (!isBlank ·) && w.getLast?.all (!isBlank ·)) <| by
    simp only [Bool.and_eq_true, Bool.not_eq_true', List.isEmpty_eq_false_iff, Option.all_eq_true, and_assoc]
    exact ⟨fun ⟨nonempty, head, last⟩ => ⟨nonempty, head, last⟩, fun h => ⟨h.nonempty, h.head, h.last⟩⟩

def stripRight (cs : List Char) : List Char := (stripLeft cs.reverse).reverse

theorem strip_eq (cs : List Char) : strip cs = stripRight (stripLeft cs) := rfl

variable {gap cs w xs : List Char}

theorem blank_nil : Blank [] := by simp [Blank]

theorem stripLeft_blank_append (h : Blank gap) : stripLeft (gap ++ cs) = stripLeft cs :=
  List.dropWhile_append_of_pos h

theorem stripLeft_blank (h : Blank gap) : stripLeft gap = [] := by
  rw [← List.append_nil gap, stripLeft_blank_append h]
  rfl

theorem strip_blank_append (h : Blank gap) : strip (gap ++ cs) = strip cs := by
  rw [strip_eq, strip_eq, stripLeft_blank_append h]

theorem strip_append_blank (h : Blank gap) : strip (cs ++ gap) = strip cs := by
  have reversed : Blank gap.reverse := by
    intro c hc
    exact h c (List.mem_reverse.mp hc)
  rw [strip_eq, strip_eq, stripLeft, stripLeft, List.dropWhile_append]
  split
  case isTrue empty =>
    rw [List.isEmpty_iff.mp empty, ← stripLeft, stripLeft_blank h]
  case isFalse =>
    rw [stripRight, List.reverse_append, stripLeft_blank_append reversed]
    rfl

/-- The characters that are no blanks. -/
def ink (cs : List Char) : List Char := cs.filter (!isBlank ·)

@[simp] theorem ink_append (cs xs : List Char) : ink (cs ++ xs) = ink cs ++ ink xs := List.filter_append cs xs

@[simp] theorem ink_blank (h : Blank gap) : ink gap = [] := by
  apply List.filter_eq_nil_iff.mpr
  intro c hc
  simp [h c hc]

theorem stripLeft_of_head (h : ∀ c ∈ cs.head?, isBlank c = false) : stripLeft cs = cs := by
  cases cs with
  | nil => rfl
  | cons c cs => exact List.dropWhile_cons_of_neg (by simp [h c rfl])

theorem head_stripLeft (cs : List Char) : ∀ c ∈ (stripLeft cs).head?, isBlank c = false := by
  intro c hc
  have first := List.head?_dropWhile_not isBlank cs
  rw [Option.mem_def, stripLeft] at hc
  rwa [hc] at first

theorem stripRight_isPrefix (cs : List Char) : stripRight cs <+: cs := by
  have suffix : stripLeft cs.reverse <:+ cs.reverse := List.dropWhile_suffix isBlank
  simpa [stripRight] using List.reverse_prefix.mpr suffix

theorem stripRight_append (h : ∀ c ∈ cs.getLast?, isBlank c = false) : stripRight (cs ++ xs) = cs ++ stripRight xs := by
  have kept : cs.reverse.dropWhile isBlank = cs.reverse := stripLeft_of_head (by simpa using h)
  rw [stripRight, stripRight, List.reverse_append, stripLeft, stripLeft, List.dropWhile_append]
  split
  case isTrue empty =>
    rw [kept, List.isEmpty_iff.mp empty]
    simp
  case isFalse => simp

theorem isWord_strip (h : strip cs ≠ []) : IsWord (strip cs) := by
  refine ⟨h, ?_, ?_⟩
  · intro c hc
    apply head_stripLeft cs c
    obtain ⟨rest, split⟩ := stripRight_isPrefix (stripLeft cs)
    rw [← split, ← strip_eq]
    simp [Option.mem_def.mp hc]
  · intro c hc
    rw [strip, List.getLast?_reverse] at hc
    exact head_stripLeft _ c hc

/-- A text is its inner part with blanks around it. -/
theorem exists_strip (cs : List Char) : ∃ lead trail, Blank lead ∧ Blank trail ∧ cs = lead ++ strip cs ++ trail := by
  have taken (xs : List Char) : Blank (xs.takeWhile isBlank) := by
    intro c hc
    exact List.all_eq_true.mp List.all_takeWhile c hc
  refine ⟨cs.takeWhile isBlank, ((stripLeft cs).reverse.takeWhile isBlank).reverse, taken cs, ?_, ?_⟩
  · intro c hc
    exact taken _ c (List.mem_reverse.mp hc)
  · have right : stripLeft cs = strip cs ++ ((stripLeft cs).reverse.takeWhile isBlank).reverse := by
      rw [strip, ← List.reverse_append, stripLeft, stripLeft, List.takeWhile_append_dropWhile, List.reverse_reverse]
    rw [List.append_assoc, ← right, stripLeft, List.takeWhile_append_dropWhile]

theorem ink_strip (cs : List Char) : ink (strip cs) = ink cs := by
  obtain ⟨lead, trail, blank, blank', split⟩ := exists_strip cs
  conv_rhs => rw [split]
  simp [ink_blank blank, ink_blank blank']

theorem IsWord.stripLeft_append (h : IsWord w) : stripLeft (w ++ xs) = w ++ xs := by
  apply stripLeft_of_head
  intro c hc
  obtain ⟨a, rest, rfl⟩ := List.exists_cons_of_ne_nil h.nonempty
  exact h.head c hc

theorem IsWord.stripRight_append (h : IsWord w) : stripRight (cs ++ (w ++ xs)) = cs ++ (w ++ stripRight xs) := by
  have last : ∀ c ∈ (cs ++ w).getLast?, isBlank c = false := by
    intro c hc
    rw [List.getLast?_append, List.getLast?_eq_some_getLast h.nonempty] at hc
    apply h.last c
    rw [List.getLast?_eq_some_getLast h.nonempty]
    exact hc
  rw [← List.append_assoc, Text.stripRight_append last, List.append_assoc]

end Text

namespace Canonical
open Text
variable {gap rest text w x y : List Char} {ws vs : List (List Char)} {last? : Option Char}

/-! ### Words that would run together -/

theorem isWordChar_of_isBlank {c : Char} (h : isBlank c) : isWordChar c = false := by
  have alnum : isAlnum c = false := inRanges_eq_false (by decide +kernel) h
  have notLow : c ≠ '_' := by
    rintro rfl
    revert h
    decide
  have notDollar : c ≠ '$' := by
    rintro rfl
    revert h
    decide
  simp [isWordChar, alnum, notLow, notDollar]

theorem needsBlank_none (token : List Char) : needsBlank none token = false := rfl

theorem needsBlank_nil (last? : Option Char) : needsBlank last? [] = false := by
  cases last? <;> rfl

/-- Blanks never run together with anything. -/
theorem needsBlank_of_last {c : Char} (h : isBlank c) (token : List Char) : needsBlank (some c) token = false := by
  cases token <;> simp [needsBlank, isWordChar_of_isBlank h]

theorem needsBlank_blank (h : Blank gap) : needsBlank last? gap = false := by
  cases gap with
  | nil => exact needsBlank_nil last?
  | cons c gap =>
    have blank : isWordChar c = false := isWordChar_of_isBlank (h c (by simp))
    cases last? <;> simp [needsBlank, blank]

theorem needsBlank_of_isPrefix {cs : List Char} (h : cs <+: rest) (apart : needsBlank last? rest = false) :
    needsBlank last? cs = false := by
  obtain ⟨xs, rfl⟩ := h
  cases cs with
  | nil => exact needsBlank_nil last?
  | cons c cs => exact apart

/-! ### Words laid out in a text -/

/-- The text has these words in order, with nothing but blanks around and between them; where two words would run
together there are blanks. -/
inductive Laid : List (List Char) → List Char → Prop
  | nil {gap : List Char} (blank : Blank gap) : Laid [] gap
  | cons {gap w rest : List Char} {ws : List (List Char)} (blank : Blank gap)
      (apart : needsBlank w.getLast? rest = false) (later : Laid ws rest) : Laid (w :: ws) (gap ++ (w ++ rest))

theorem Laid.append_blank (h : Laid ws text) (blank : Blank gap) : Laid ws (text ++ gap) := by
  induction h with
  | nil blank' =>
    apply Laid.nil
    intro c hc
    exact (List.mem_append.mp hc).elim (blank' c) (blank c)
  | @cons gap' w rest ws blank' apart _ ih =>
    rw [List.append_assoc, List.append_assoc]
    refine .cons blank' ?_ ih
    cases rest with
    | nil => exact needsBlank_blank blank
    | cons c rest => exact apart

theorem Laid.append_word (h : Laid ws text) (apart : needsBlank text.getLast? w = false) :
    Laid (ws ++ [w]) (text ++ w) := by
  induction h with
  | @nil gap blank =>
    have single : Laid [w] (gap ++ (w ++ [])) := .cons blank (needsBlank_nil _) (.nil blank_nil)
    simpa using single
  | @cons gap v rest ws blank apart' _ ih =>
    rw [List.append_assoc, List.append_assoc]
    cases rest with
    | nil =>
      refine .cons blank ?_ (ih (needsBlank_none w))
      cases hv : v.getLast? with
      | none => exact needsBlank_none _
      | some c =>
        rw [List.append_nil, List.getLast?_append, hv] at apart
        exact apart
    | cons c rest =>
      refine .cons blank apart' (ih ?_)
      rw [List.getLast?_append, List.getLast?_append, List.getLast?_cons] at apart
      rw [List.getLast?_cons]
      exact apart

/-- Nothing but blanks is in a text beside its words. -/
theorem Laid.ink_eq (h : Laid ws text) : ink text = ink ws.flatten := by
  induction h with
  | nil blank =>
    rw [ink_blank blank]
    rfl
  | cons blank _ _ ih => simp [ink_blank blank, ih]

/-- The words that tokens are rendered with. -/
def words (tokens : List (List Char)) : List (List Char) := (tokens.map strip).filter (!·.isEmpty)

theorem words_append (ts us : List (List Char)) : words (ts ++ us) = words ts ++ words us := by
  simp [words]

theorem isWord_of_mem_words {tokens : List (List Char)} (h : w ∈ words tokens) : IsWord w := by
  obtain ⟨mem, nonempty⟩ := List.mem_filter.mp h
  obtain ⟨token, _, rfl⟩ := List.mem_map.mp mem
  exact isWord_strip (by simpa using nonempty)

theorem Laid.append_token (h : Laid ws text) {token : List Char} (apart : needsBlank text.getLast? token = false) :
    Laid (ws ++ words [token]) (text ++ token) := by
  obtain ⟨lead, trail, blank, blank', split⟩ := exists_strip token
  have before : Laid ws (text ++ lead) := h.append_blank blank
  by_cases empty : strip token = []
  · have none : words [token] = [] := by simp [words, empty]
    rw [empty, List.append_nil] at split
    rw [none, List.append_nil, split, ← List.append_assoc]
    exact before.append_blank blank'
  · have touching : needsBlank (text ++ lead).getLast? (strip token) = false := by
      rw [List.getLast?_append]
      cases hl : lead.getLast? with
      | none =>
        rw [List.getLast?_eq_none_iff.mp hl, List.nil_append] at split
        exact needsBlank_of_isPrefix ⟨trail, split.symm⟩ apart
      | some c => exact needsBlank_of_last (blank c (List.mem_of_getLast? hl)) _
    have within := (before.append_word touching).append_blank blank'
    rw [List.append_assoc, List.append_assoc, ← List.append_assoc lead, ← split] at within
    simpa [words, empty] using within

/-- One more token is one more word at the end of the text. -/
theorem Laid.append {out : List Char} (h : Laid ws out.reverse) (token : List Char) :
    Laid (ws ++ words [token]) (Canonical.append out token).reverse := by
  have last (xs : List Char) : xs.reverse.getLast? = xs.head? := List.getLast?_reverse
  have blank : Blank [' '] := by simp [Blank]; decide
  rw [Canonical.append]
  split
  case isTrue empty =>
    rw [List.isEmpty_iff.mp empty]
    simpa [words, strip, stripLeft] using h
  case isFalse =>
    split
    case isTrue comma =>
      rw [beq_iff_eq.mp comma]
      have mark : isWordChar ',' = false := by decide +kernel
      have apart : needsBlank out.reverse.getLast? [','] = false := by
        rw [last]
        cases out.head? <;> simp [needsBlank, mark]
      have laid := (h.append_token apart).append_blank blank
      simpa using laid
    case isFalse =>
      split
      case isTrue =>
        have apart : needsBlank (out.reverse ++ [' ']).getLast? token = false := by
          rw [List.getLast?_concat]
          exact needsBlank_of_last (by decide) token
        simpa using (h.append_blank blank).append_token apart
      case isFalse needless =>
        have apart : needsBlank out.reverse.getLast? token = false := by
          rw [last]
          simpa using needless
        simpa using h.append_token apart

/-- A rendered text is laid out with the words of its tokens. -/
theorem laid_render (tokens : List (List Char)) : Laid (words tokens) (render tokens) := by
  induction tokens using List.reverseRecOn with
  | nil => exact .nil blank_nil
  | append_singleton tokens token ih =>
    rw [words_append, render, List.foldl_append]
    exact ih.append token

/-! ### Reading the words again -/

/-- At the first difference the word of the first list is only the beginning of the word of the second list, cut off
where its two parts would not run together. -/
def splits : List (List Char) → List (List Char) → Bool
  | w :: ws, v :: vs => if w = v then splits ws vs else w.isPrefixOf v && !needsBlank w.getLast? (v.drop w.length)
  | _, _ => false

theorem splits_cons (w : List Char) (ws vs : List (List Char)) : splits (w :: ws) (w :: vs) = splits ws vs := by
  simp [splits]

/-- A word that goes on with the beginning of what stands behind a shorter one. -/
theorem eq_nil_or_splits {rest' tail : List Char} (apart : needsBlank w.getLast? rest = false)
    (rests : stripRight rest = tail ++ stripRight rest') : tail = [] ∨ splits (w :: ws) ((w ++ tail) :: vs) := by
  by_cases nonempty : tail = []
  · exact .inl nonempty
  · have begins : tail <+: rest := (List.prefix_append tail _).trans (rests ▸ stripRight_isPrefix rest)
    right
    simp [splits, nonempty, needsBlank_of_isPrefix begins apart]

theorem Laid.stripLeft (h : Laid ws text) (isWord : ∀ w ∈ ws, IsWord w) : Laid ws (Text.stripLeft text) := by
  cases h with
  | nil blank =>
    rw [stripLeft_blank blank]
    exact .nil blank_nil
  | cons blank apart later =>
    rw [stripLeft_blank_append blank, (isWord _ (by simp)).stripLeft_append]
    have laid := Laid.cons blank_nil apart later
    exact laid

theorem stripLeft_stripRight (isWord : IsWord w) (blank : Blank gap) :
    Text.stripLeft (stripRight (gap ++ (w ++ rest))) = w ++ stripRight rest := by
  rw [isWord.stripRight_append, stripLeft_blank_append blank, isWord.stripLeft_append]

theorem stripLeft_stripRight_blank (blank : Blank gap) : Text.stripLeft (stripRight gap) = [] := by
  apply stripLeft_blank
  intro c hc
  exact blank c ((stripRight_isPrefix gap).subset hc)

/-- Two lists of words that are laid out in one text are equal, up to a word of one that begins a longer one of the
other. -/
theorem eq_or_splits (hx : Laid ws x) (hy : Laid vs y) (isWord : ∀ w ∈ ws, IsWord w) (isWord' : ∀ v ∈ vs, IsWord v)
    (same : stripRight x = stripRight y) : ws = vs ∨ splits ws vs ∨ splits vs ws := by
  induction hx generalizing vs y with
  | nil blank =>
    cases hy with
    | nil => exact .inl rfl
    | @cons gap v rest vs blank' _ _ =>
      have word := isWord' v (by simp)
      have texts := congrArg Text.stripLeft same
      rw [stripLeft_stripRight_blank blank, stripLeft_stripRight word blank'] at texts
      exact absurd (List.append_eq_nil_iff.mp texts.symm).1 word.nonempty
  | @cons gap w rest ws blank apart _ ih =>
    have word := isWord w (by simp)
    have texts := congrArg Text.stripLeft same
    rw [stripLeft_stripRight word blank] at texts
    cases hy with
    | nil blank' =>
      rw [stripLeft_stripRight_blank blank'] at texts
      exact absurd (List.append_eq_nil_iff.mp texts).1 word.nonempty
    | @cons gap' v rest' vs blank' apart' later' =>
      rw [stripLeft_stripRight (isWord' v (by simp)) blank'] at texts
      have further (rests : stripRight rest = stripRight rest') :=
        ih later' (fun w hw => isWord w (by simp [hw])) (fun v hv => isWord' v (by simp [hv])) rests
      -- One of the two words is the beginning of the other; what is left of that one begins the rest of the text.
      rcases List.append_eq_append_iff.mp texts with ⟨tail, rfl, rests⟩ | ⟨tail, rfl, rests⟩
      · rcases eq_nil_or_splits apart rests with rfl | cut
        · rw [List.append_nil, List.cons_inj_right, splits_cons, splits_cons]
          exact further rests
        · exact .inr (.inl cut)
      · rcases eq_nil_or_splits apart' rests with rfl | cut
        · rw [List.append_nil, List.cons_inj_right, splits_cons, splits_cons]
          exact further rests.symm
        · exact .inr (.inr cut)

/-- Two ways to read one text: the same characters but for blanks, and the same words up to a word of one that begins a
longer one of the other. -/
structure Rereads (ws vs : List (List Char)) : Prop where
  ink : ink ws.flatten = ink vs.flatten
  words : ws = vs ∨ splits ws vs ∨ splits vs ws

/-- Texts that are rendered alike are two ways to read one text. -/
theorem rereads_words {ts us : List (List Char)} (same : strip (render ts) = strip (render us)) :
    Rereads (words ts) (words us) := by
  have isWord (tokens : List (List Char)) : ∀ w ∈ words tokens, IsWord w := fun _ => isWord_of_mem_words
  constructor
  · rw [← (laid_render ts).ink_eq, ← (laid_render us).ink_eq, ← ink_strip, same, ink_strip]
  · exact eq_or_splits ((laid_render ts).stripLeft (isWord ts)) ((laid_render us).stripLeft (isWord us))
      (isWord ts) (isWord us) same

end Canonical
end LogReview
