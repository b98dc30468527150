import LogReview.Proofs.Text.LetterCase
import LogReview.Rule.Hint

/-! Hints in the text of an argument. They are looked for in its lowercase form, so a hint counts in any letter case and
wherever it stands: a hint at a scalar always decides, a hint at a collection decides where no scalar is hinted at. -/
namespace LogReview.Hint

theorem mentions_iff (hints : List String) (text : List Char) :
    mentions hints text ↔ ∃ h ∈ hints, h.toList <:+: text := by
  simp only [mentions, List.any_eq_true, Text.occurs_iff]

/-- Hints in ASCII are found in all letter cases and in all surroundings. -/
theorem mentions_lower {hints : List String} (ascii : ∀ h ∈ hints, h.toList.all fun c => c.toNat < 128)
    (before after : String) {w : String} (hw : w.toLower ∈ hints) :
    mentions hints (Text.lower (before ++ w ++ after).toList) := by
  have spelled : w.toLower.toList = w.toList.map Char.toLower := String.toList_map
  have letters : ∀ c ∈ w.toList.map Char.toLower, c.toNat < 128 := by simpa [spelled] using ascii _ hw
  have found := Text.map_toLower_isInfix_lower before.toList after.toList letters
  rw [mentions_iff, String.toList_append, String.toList_append]
  exact ⟨w.toLower, hw, spelled ▸ found⟩

theorem completeObject_iff (text : String) :
    completeObject text ↔ (mentions collectionHints (Text.lower text.toList) ∨ text.toList.any Text.isUpper) ∧
      ¬ mentions scalarHints (Text.lower text.toList) := by
  simp [completeObject]

/-- A word that spells a hint at a scalar, with any of its ASCII letters as capitals and between any two texts, makes no
complete object. One that spells a hint at a collection makes one just if no hint at a scalar stands in the lowercase form
of the whole. -/
theorem completeObject_of_hint (before w after : String) :
    (w.toLower ∈ scalarHints → completeObject (before ++ w ++ after) = false) ∧
      (w.toLower ∈ collectionHints →
        (completeObject (before ++ w ++ after) = true ↔
          ∀ h ∈ scalarHints, ¬ h.toList <:+: Text.lower (before ++ w ++ after).toList)) := by
  constructor
  · intro hw
    have scalar := mentions_lower (by decide) before after hw
    rw [Bool.eq_false_iff, Ne, completeObject_iff]
    exact fun complete => complete.2 scalar
  · intro hw
    have collection := mentions_lower (by decide) before after hw
    rw [completeObject_iff, mentions_iff scalarHints]
    constructor
    · rintro ⟨_, no_scalar⟩ h hh found
      exact no_scalar ⟨h, hh, found⟩
    · intro no_scalar
      refine ⟨.inl collection, ?_⟩
      rintro ⟨h, hh, found⟩
      exact no_scalar h hh found

/-- A sigma that ends a word, and a letter whose lowercase form is longer, around the words. -/
theorem completeObject_of_hint_amongGreek :
    "nAmE".toLower ∈ scalarHints ∧ completeObject ("ΟΔΟΣ İ" ++ "nAmE" ++ "Σ") = false ∧
      "LiSt".toLower ∈ collectionHints ∧
      (completeObject ("ΟΔΟΣ İ" ++ "LiSt" ++ "Σ") = true ↔
        ∀ h ∈ scalarHints, ¬ h.toList <:+: Text.lower ("ΟΔΟΣ İ" ++ "LiSt" ++ "Σ").toList) ∧
      completeObject ("ΟΔΟΣ İ" ++ "LiSt" ++ "Σ") = true ∧
      Text.lower ("ΟΔΟΣ İ" ++ "LiSt" ++ "Σ").toList = "οδος i̇listς".toList := by
  have name : "nAmE".toLower ∈ scalarHints := by decide +kernel
  have list : "LiSt".toLower ∈ collectionHints := by decide +kernel
  exact ⟨name, (completeObject_of_hint _ _ _).1 name, list, (completeObject_of_hint _ _ _).2 list, by decide +kernel,
    by decide +kernel⟩

-- Other letters may fall together with ASCII letters or not: the sign for kelvin spells `key`, a dotted capital no `id`.
example : completeObject "Key" = false ∧ completeObject "İd" = true := by decide +kernel

end LogReview.Hint
