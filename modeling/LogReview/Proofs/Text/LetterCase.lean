import LogReview.Text.Lower
import LogReview.Text.Occurrence
import Mathlib.Data.List.Infix

/-! Lowercase forms part by part. What a character is mapped to may depend on what stands around it, and may be longer than
one character; but the lowercase form of a text is put together from those of its parts, each in its surroundings, and a
part in ASCII has the same lowercase form in all surroundings. -/
namespace LogReview.Text

/-- The lowercase form of `c`, where `before` is reversed. -/
def lowerAt (before : List Char) (c : Char) (after : List Char) : List Char :=
  if c == 'Σ' then [if endsWord before after then 'ς' else 'σ'] else lowerChar c

/-- The lowercase form of a part of a text, where `before` is reversed. -/
def lowerWithin (before after : List Char) : List Char → List Char
  | [] => []
  | c :: rest => lowerAt before c (rest ++ after) ++ lowerWithin (c :: before) after rest

theorem lowerAfter_append (before cs after : List Char) :
    lowerAfter before (cs ++ after) = lowerWithin before after cs ++ lowerAfter (cs.reverse ++ before) after := by
  induction cs generalizing before with
  | nil => rfl
  | cons c cs ih =>
    have next := ih (c :: before)
    rw [List.append_cons, ← List.reverse_cons] at next
    rw [List.cons_append, lowerAfter, next, lowerWithin, List.append_assoc]
    rfl

/-! ### ASCII -/

theorem ne_of_ascii {c d : Char} (h : c.toNat < 128) (beyond : 128 ≤ d.toNat) : c ≠ d := by
  rintro rfl
  omega

/-- All runs but that of the ASCII capitals lie beyond ASCII. -/
theorem find?_lowerRuns_of_ascii {c : Char} (h : c.toNat < 128) :
    (lowerRuns.find? fun (first, last, step, _) => inRun first last step c) =
      if 0x41 ≤ c.toNat ∧ c.toNat ≤ 0x5a then some (0x41, 0x5a, 1, 32) else none := by
  have capitals : lowerRuns = (0x41, 0x5a, 1, 32) :: lowerRuns.tail := rfl
  have beyond : ∀ run ∈ lowerRuns.tail, 128 ≤ run.1 := by decide +kernel
  have others : (lowerRuns.tail.find? fun (first, last, step, _) => inRun first last step c) = none := by
    rw [List.find?_eq_none]
    rintro ⟨first, last, step, offset⟩ mem
    have := beyond _ mem
    simp only [inRun, Bool.and_eq_true, decide_eq_true_eq]
    omega
  have first : inRun 0x41 0x5a 1 c = decide (0x41 ≤ c.toNat ∧ c.toNat ≤ 0x5a) := by simp [inRun, Nat.mod_one]
  rw [capitals, List.find?_cons, others]
  simp only [first]
  by_cases capital : 0x41 ≤ c.toNat ∧ c.toNat ≤ 0x5a <;> simp [capital]

theorem lowerChar_of_ascii {c : Char} (h : c.toNat < 128) : lowerChar c = [c.toLower] := by
  have no_dotted : c ≠ 'İ' := ne_of_ascii h (by decide)
  have letters : ∀ i < 128,
      (if 0x41 ≤ i ∧ i ≤ 0x5a then Char.ofNat (i + 32) else Char.ofNat i) = (Char.ofNat i).toLower := by
    decide
  have letter := letters c.toNat h
  rw [Char.ofNat_toNat] at letter
  rw [lowerChar, if_neg (by simpa using no_dotted), find?_lowerRuns_of_ascii h, ← letter]
  split_ifs <;> rfl

theorem lowerAt_of_ascii (before after : List Char) {c : Char} (h : c.toNat < 128) :
    lowerAt before c after = [c.toLower] := by
  have no_sigma : c ≠ 'Σ' := ne_of_ascii h (by decide)
  rw [lowerAt, if_neg (by simpa using no_sigma), lowerChar_of_ascii h]

theorem lowerWithin_of_ascii (before after : List Char) {w : List Char} (h : ∀ c ∈ w, c.toNat < 128) :
    lowerWithin before after w = w.map Char.toLower := by
  induction w generalizing before with
  | nil => rfl
  | cons c w ih =>
    rw [lowerWithin, lowerAt_of_ascii before _ (h c List.mem_cons_self), ih]
    · rfl
    · intro d hd
      exact h d (List.mem_cons_of_mem c hd)

theorem toLower_of_le {c : Char} (h : 128 ≤ c.toNat) : c.toLower = c := by
  refine dif_neg ?_
  rintro ⟨_, upper⟩
  have le : c.toNat ≤ 90 := upper
  omega

/-- What is in ASCII in lowercase was in ASCII before. -/
theorem ascii_of_toLower {c : Char} (h : c.toLower.toNat < 128) : c.toNat < 128 := by
  by_contra beyond
  have high : 128 ≤ c.toNat := by omega
  rw [toLower_of_le high] at h
  omega

/-- A word in ASCII is found in lowercase form wherever it stands. -/
theorem map_toLower_isInfix_lower (before after : List Char) {w : List Char}
    (ascii : ∀ c ∈ w.map Char.toLower, c.toNat < 128) : w.map Char.toLower <:+: lower (before ++ w ++ after) := by
  have letters : ∀ c ∈ w, c.toNat < 128 := fun c hc => ascii_of_toLower (ascii _ (List.mem_map_of_mem hc))
  rw [lower, List.append_assoc, lowerAfter_append, lowerAfter_append, lowerWithin_of_ascii _ _ letters,
    ← List.append_assoc]
  exact List.infix_append _ _ _

/-! ### Occurrences -/

theorem occurs_iff (w cs : List Char) : occurs w cs ↔ w <:+: cs := by
  induction cs with
  | nil => simp [occurs]
  | cons c cs ih => rw [occurs, Bool.or_eq_true, List.isPrefixOf_iff_prefix, ih, List.infix_cons_iff]

end LogReview.Text
