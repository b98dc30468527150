import LogReview.Scan
import Mathlib.Data.List.Infix

/-! Extensions that make no pattern. A pattern is refused when two stars stand side by side in a part of it that has
something else as well; a project then has no list of files. -/
namespace LogReview

/-- A list of questions has no answers exactly if one of them has none. -/
theorem mapM_eq_none_iff {α β : Type} {f : α → Option β} {as : List α} :
    as.mapM f = none ↔ ∃ a ∈ as, f a = none := by
  induction as with
  | nil => simp
  | cons a as ih =>
    simp only [List.mapM_cons, Option.bind_eq_bind, Option.pure_def, List.exists_mem_cons_iff, ← ih]
    cases f a with
    | none => simp
    | some b => cases as.mapM f <;> simp

namespace Glob

theorem hasDoubleStar_iff {cs : List Char} : hasDoubleStar cs ↔ ['*', '*'] <:+: cs := by
  fun_induction hasDoubleStar cs with
  | case1 cs => exact iff_of_true rfl ⟨[], cs, rfl⟩
  | case2 c cs other ih =>
    rw [ih, List.infix_cons_iff, or_iff_right]
    rintro ⟨rest, eq⟩
    cases eq
    exact other rest rfl rfl
  | case3 => simp

/-- Two stars side by side in a part that is more than those two. -/
def Misplaced (part : List Char) : Prop := ['*', '*'] <:+: part ∧ part ≠ ['*', '*']

instance (part : List Char) : Decidable (Misplaced part) := inferInstanceAs (Decidable (_ ∧ _))

theorem partOf?_eq_none_iff {part : List Char} : partOf? part = none ↔ Misplaced part := by
  rw [partOf?, Misplaced, ← hasDoubleStar_iff]
  by_cases deep : part = ['*', '*']
  · simp [deep]
  · rw [if_neg (by simpa using deep)]
    cases hasDoubleStar part with
    | true => simp [deep]
    | false =>
      simp only [Bool.false_eq_true, if_false, false_and, iff_false]
      split <;> simp

theorem ofText?_eq_none_iff {s : String} :
    ofText? s = none ↔ ∃ part ∈ Path.splitSlashes s.toList, Misplaced part := by
  have kept {part : List Char} (h : Misplaced part) : !Path.isEmptyPart part := by
    -- A part with two stars is neither empty nor a dot.
    have long : 2 ≤ part.length := h.1.length_le
    match part with
    | [] => simp at long
    | [c] => simp at long
    | c :: d :: cs => simp [Path.isEmptyPart]
  have parts : ofText? s = none ↔
      ((Path.splitSlashes s.toList).filter (!Path.isEmptyPart ·)).mapM partOf? = none := by
    simp only [ofText?]
    split <;> simp_all
  rw [parts, mapM_eq_none_iff]
  constructor
  · rintro ⟨part, hpart, refused⟩
    exact ⟨part, (List.mem_filter.mp hpart).1, partOf?_eq_none_iff.mp refused⟩
  · rintro ⟨part, hpart, misplaced⟩
    exact ⟨part, List.mem_filter.mpr ⟨hpart, kept misplaced⟩, partOf?_eq_none_iff.mpr misplaced⟩

end Glob

namespace Discovery

/-- The extension cannot be looked for. -/
def Unsearchable (extension : String) : Prop :=
  ∃ part ∈ Path.splitSlashes ('*' :: extension.toList), Glob.Misplaced part

instance (extension : String) : Decidable (Unsearchable extension) :=
  inferInstanceAs (Decidable (∃ part ∈ Path.splitSlashes _, Glob.Misplaced part))

theorem withExtension?_eq_none_iff {disk : Entry} {top : List String} {extension : String} :
    withExtension? disk top extension = none ↔ Unsearchable extension := by
  have star : ("*" ++ extension).toList = '*' :: extension.toList := by
    rw [String.toList_append]
    rfl
  rw [Unsearchable, ← star, ← Glob.ofText?_eq_none_iff, withExtension?]
  split
  · next refused => simp [refused]
  · next found => split <;> simp [found]

theorem files?_eq_none_iff {disk : Entry} {top extensions : List String} :
    files? disk top extensions = none ↔ ∃ extension ∈ extensions, Unsearchable extension := by
  have usual : ¬Unsearchable ".java" := by decide
  have all : files? disk top extensions = none ↔ ∃ extension ∈ effective extensions, Unsearchable extension := by
    simp only [← @withExtension?_eq_none_iff disk top, ← mapM_eq_none_iff, files?]
    split <;> simp_all
  rw [all, effective]
  cases extensions with
  | nil => simp [usual]
  | cons extension rest => rfl

end Discovery

theorem Reviewer.scan?_eq_none_iff {top : List String} {settings : Settings} {disk : Entry} {several : Bool} :
    (ofSettings top settings).scan? disk several = none ↔
      ∃ extension ∈ settings.extensions, Discovery.Unsearchable extension := by
  rw [scan?, Option.map_eq_none_iff, files?, Option.map_eq_none_iff, ofSettings, Discovery.files?_eq_none_iff]

end LogReview
