import LogReview.Proofs.Tree.Descent
import LogReview.Java.Program
import LogReview.Rule.Volume
import Mathlib.Algebra.BigOperators.Group.List.Lemmas
import Mathlib.Algebra.Ring.Nat

/-! Log statements that are repeated in a method. Counting up one statement after the other gives the different texts in
the order of their first occurrence, each with the number of its occurrences. A method around another one has all log
calls of the inner one, and so all its repetitions. -/
namespace LogReview
namespace Rule

/-! ### Counts -/

section Counts
variable {t : String} {xs : List String} (count : String → Nat)

theorem countUp_of_notMem (h : t ∉ xs) :
    countUp t (xs.map fun x => (x, count x)) = (xs.map fun x => (x, count x)) ++ [(t, 1)] := by
  induction xs with
  | nil => rfl
  | cons x xs ih =>
    rw [List.mem_cons, not_or] at h
    simp [countUp, Ne.symm h.1, ih h.2]

theorem map_raised_of_notMem (h : t ∉ xs) :
    (xs.map fun x => (x, if x = t then count x + 1 else count x)) = xs.map fun x => (x, count x) := by
  apply List.map_congr_left
  intro x hx
  have other : x ≠ t := fun same => h (same ▸ hx)
  rw [if_neg other]

theorem countUp_of_mem (h : t ∈ xs) (nodup : xs.Nodup) :
    countUp t (xs.map fun x => (x, count x)) = xs.map fun x => (x, if x = t then count x + 1 else count x) := by
  induction xs with
  | nil => cases h
  | cons x xs ih =>
    rw [List.nodup_cons] at nodup
    by_cases same : x = t
    · subst same
      rw [List.map_cons, List.map_cons, map_raised_of_notMem count nodup.1]
      simp [countUp]
    · have later : t ∈ xs := (List.mem_cons.mp h).resolve_left (Ne.symm same)
      simp [countUp, same, ih later nodup.2]

end Counts

section Texts
variable (ts : List String)

theorem eraseDups_concat (t : String) :
    (ts ++ [t]).eraseDups = if t ∈ ts then ts.eraseDups else ts.eraseDups ++ [t] := by
  rw [List.eraseDups_append]
  by_cases h : t ∈ ts <;> simp [List.removeAll, h, List.eraseDups_cons]

theorem nodup_eraseDups : ts.eraseDups.Nodup := by
  induction ts using List.reverseRecOn with
  | nil => simp
  | append_singleton ts t ih =>
    rw [eraseDups_concat]
    split
    case isTrue => exact ih
    case isFalse new =>
      have fresh : ∀ x ∈ ts.eraseDups, x ≠ t := by
        intro x hx same
        exact new (same ▸ List.mem_eraseDups.mp hx)
      simpa [List.nodup_append, ih] using fresh

theorem count_concat (t x : String) : (ts ++ [t]).count x = if x = t then ts.count x + 1 else ts.count x := by
  rw [List.count_append, List.count_singleton]
  by_cases h : x = t
  · simp [h]
  · simp [h, Ne.symm h]

/-- Each text has its number of occurrences, in the order of first occurrence. -/
theorem tally_eq : tally ts = ts.eraseDups.map fun t => (t, ts.count t) := by
  induction ts using List.reverseRecOn with
  | nil => rfl
  | append_singleton ts t ih =>
    have step : tally (ts ++ [t]) = countUp t (tally ts) := by simp [tally]
    rw [step, ih, eraseDups_concat]
    simp only [count_concat]
    split
    case isTrue old =>
      exact countUp_of_mem _ (List.mem_eraseDups.mpr old) (nodup_eraseDups ts)
    case isFalse new =>
      have fresh : t ∉ ts.eraseDups := mt List.mem_eraseDups.mp new
      rw [countUp_of_notMem _ fresh, List.map_append, map_raised_of_notMem _ fresh]
      simp [List.count_eq_zero_of_not_mem new]

/-- The counts of some of the different texts add up to the number of their occurrences. -/
theorem sum_count_filter (keep : String → Bool) :
    ((ts.eraseDups.filter keep).map ts.count).sum = ts.countP keep := by
  have same : ts.eraseDups.Perm ts.dedup := by
    apply (List.perm_ext_iff_of_nodup (nodup_eraseDups ts) (List.nodup_dedup ts)).mpr
    simp
  rw [((same.filter keep).map ts.count).sum_eq, List.sum_map_count_dedup_filter_eq_countP]

end Texts
end Rule

namespace Place
variable (src : Source)

/-- The log statements of a method, each as its text without layout. -/
def logTexts (m : Place) : List String := (m.logCalls src).map (·.canonicalText src)

/-- How often a text is logged in a method. -/
def occurrences (m : Place) (text : String) : Nat := (m.logTexts src).count text

/-- The texts that are logged at least twice, in the order of their first occurrence. -/
def repeatedTexts (m : Place) : List String := (m.logTexts src).eraseDups.filter (2 ≤ m.occurrences src ·)

variable {src} {a m : Place} {text : String}

theorem mem_repeatedTexts : text ∈ m.repeatedTexts src ↔ 2 ≤ m.occurrences src text := by
  rw [repeatedTexts, List.mem_filter, List.mem_eraseDups, decide_eq_true_iff, and_iff_right_iff_imp]
  intro twice
  apply List.count_pos_iff.mp
  rw [← occurrences]
  omega

theorem nodup_repeatedTexts (src : Source) (m : Place) : (m.repeatedTexts src).Nodup :=
  (Rule.nodup_eraseDups _).filter _

/-- Every log call is counted once: with the repetitions of its text, or as the only one with its text. -/
theorem sum_occurrences (src : Source) (m : Place) :
    ((m.repeatedTexts src).map (m.occurrences src)).sum + (m.logTexts src).countP (m.occurrences src · = 1) =
      (m.logCalls src).length := by
  have counts : (m.logTexts src).count = m.occurrences src := rfl
  have single : (m.logTexts src).countP (m.occurrences src · = 1) =
      (m.logTexts src).countP fun x => ¬ (decide (2 ≤ m.occurrences src x) = true) := by
    apply List.countP_congr
    intro x hx
    have once : 0 < m.occurrences src x := List.count_pos_iff.mpr hx
    simp only [decide_eq_true_eq]
    omega
  have length : (m.logTexts src).length = (m.logCalls src).length := List.length_map _
  rw [repeatedTexts, ← counts, Rule.sum_count_filter, counts, single, ← length]
  exact (List.length_eq_countP_add_countP _).symm

/-- A place has all log statements of the places below it. -/
theorem occurrences_le (h : m ∈ a.walk) (text : String) : m.occurrences src text ≤ a.occurrences src text := by
  have calls : (m.logCalls src).Sublist (a.logCalls src) := by
    rw [logCalls_eq, logCalls_eq]
    exact (walk_isInfix h).sublist.filter _
  exact (calls.map _).count_le text

end Place

namespace Rule

/-- What the rule says of a text in a method. -/
def repeatIssue (d : Document) (m : Place) (text : String) : Issue :=
  ⟨d.file.text, m.line d.source,
    s!"Repeated log statement ({m.occurrences d.source text} times) in method {m.name d.source}: {text}",
    "repeated-log"⟩

theorem repeatedOf_eq (src : Source) (m : Place) :
    repeatedOf src m = (m.repeatedTexts src).map fun text =>
      ⟨m, s!"Repeated log statement ({m.occurrences src text} times) in method {m.name src}: {text}"⟩ := by
  rw [repeatedOf, ← Place.logTexts, tally_eq, List.filterMap_map, Place.repeatedTexts, ← List.filterMap_eq_map,
    List.filterMap_filter]
  apply List.filterMap_congr
  intro text _
  have least : (1 < (m.logTexts src).count text) = (2 ≤ m.occurrences src text) := rfl
  by_cases twice : 2 ≤ m.occurrences src text
  · simp only [Function.comp_apply, least, twice, if_true, decide_true]
    rfl
  · simp [least, twice]

/-- For each method, in the order of the file, each text that is logged at least twice is reported once, with its exact
number of occurrences; no log call of the method is left out of the counts; and what is repeated in a method inside
another one is repeated, at least as often, in that one too. -/
theorem repeatedLog_exact (d : Document) :
    repeatedLog.check d =
        .ok (d.methods.flatMap fun m => (m.repeatedTexts d.source).map (repeatIssue d m)) ∧
      (∀ m : Place, (m.repeatedTexts d.source).Nodup ∧
        ((m.repeatedTexts d.source).map (m.occurrences d.source)).sum +
          (m.logTexts d.source).countP (m.occurrences d.source · = 1) = (m.logCalls d.source).length) ∧
      ∀ m ∈ d.methods, ∀ a ∈ m.ancestors, a.kind = .methodDeclaration → a ∈ d.methods ∧
        ∀ text ∈ m.repeatedTexts d.source, text ∈ a.repeatedTexts d.source ∧
          m.occurrences d.source text ≤ a.occurrences d.source text := by
  refine ⟨?_, ?_, ?_⟩
  · simp only [repeatedLog, ofFindings, repeatedOf_eq, List.map_flatMap, List.map_map]
    rfl
  · intro m
    exact ⟨m.nodup_repeatedTexts d.source, m.sum_occurrences d.source⟩
  · intro m hm a ha kind
    obtain ⟨walked, below⟩ := Place.mem_walk_root (List.mem_of_mem_filter hm) ha
    refine ⟨List.mem_filter.mpr ⟨walked, beq_iff_eq.mpr kind⟩, ?_⟩
    intro text repeated
    have le : m.occurrences d.source text ≤ a.occurrences d.source text := Place.occurrences_le below text
    rw [Place.mem_repeatedTexts] at repeated ⊢
    exact ⟨by omega, le⟩

/-- A method in a class without a name inside another method. -/
def nestedMethods : Document :=
  let text := "void f()\x7ba.info(b);new X()\x7bvoid g()\x7ba.info( b );a.info(b);\x7d\x7d;\x7d"
  ⟨⟨.relative, ["A.java"]⟩, text.toUTF8, Java.parse text.toUTF8⟩

/-- The outer method has the two calls of the inner one and one of its own. -/
theorem repeatedLog_nestedMethods :
    repeatedLog.check nestedMethods = .ok [
      ⟨"A.java", 1, "Repeated log statement (3 times) in method f: a.info(b)", "repeated-log"⟩,
      ⟨"A.java", 1, "Repeated log statement (2 times) in method g: a.info(b)", "repeated-log"⟩] := by
  rw [(repeatedLog_exact nestedMethods).1]
  decide +kernel

end Rule
end LogReview
