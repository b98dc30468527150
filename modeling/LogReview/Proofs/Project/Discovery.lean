import LogReview.Project.Discovery
import LogReview.Proofs.Project.Contents
import Mathlib.Data.List.Induction
import Mathlib.Data.List.Lex
import Mathlib.Data.String.Basic

/-! The files of a project are listed in the order of their paths, each path once, and whatever the files hold. -/
namespace LogReview

namespace Glob

theorem select_outline (root : Entry) (parts : List Part) (path : List String) :
    select root.outline parts path = select root parts path := by
  induction parts generalizing path with
  | nil => rfl
  | cons part rest ih =>
    cases part with
    | directory => rfl
    | exact name => simp [select, Entry.get?_outline, Option.any_map, ih]
    | wild name =>
      simp only [select, Entry.get?_outline, ih]
      cases root.get? path <;> simp [List.filter_map, List.flatMap_map, Function.comp_def]
    | deep =>
      have same : select root.outline rest = select root rest := funext ih
      simp only [select, Entry.get?_outline, same]
      cases root.get? path <;> simp [Entry.directoriesFrom_outline]

end Glob

namespace Discovery

theorem before_iff_lt (as bs : List String) : before as bs ↔ as < bs := by
  fun_induction before as bs with
  | case1 => simp
  | case2 => simp
  | case3 => simp
  | case4 a as b bs ih => simp [List.cons_lt_cons_iff, ih]

theorem mem_insert {path p : List String} {ps : List (List String)} : p ∈ insert path ps ↔ p = path ∨ p ∈ ps := by
  fun_induction insert path ps with
  | case1 => simp
  | case2 => simp
  | case3 q ps _ same => simp [beq_iff_eq.mp same]
  | case4 q ps _ _ ih =>
    rw [List.mem_cons, ih, List.mem_cons]
    exact or_left_comm

theorem pairwise_insert {path : List String} {ps : List (List String)} (h : ps.Pairwise (· < ·)) :
    (insert path ps).Pairwise (· < ·) := by
  fun_induction insert path ps with
  | case1 => simp
  | case2 q ps first =>
    have lt := (before_iff_lt path q).mp first
    refine List.pairwise_cons.mpr ⟨?_, h⟩
    exact List.forall_mem_cons.mpr ⟨lt, fun p hp => lt.trans (List.rel_of_pairwise_cons h hp)⟩
  | case3 => exact h
  | case4 q ps first other ih =>
    -- Neither before nor the same, so behind.
    have lt : q < path := by
      rw [before_iff_lt] at first
      exact lt_of_le_of_ne (not_lt.mp first) (by simpa using other)
    obtain ⟨hq, hps⟩ := List.pairwise_cons.mp h
    refine List.pairwise_cons.mpr ⟨fun p hp => ?_, ih hps⟩
    rcases mem_insert.mp hp with rfl | hp
    · exact lt
    · exact hq p hp

theorem ordered_append (ps : List (List String)) (p : List String) : ordered (ps ++ [p]) = insert p (ordered ps) := by
  simp [ordered]

theorem mem_ordered {p : List String} {ps : List (List String)} : p ∈ ordered ps ↔ p ∈ ps := by
  induction ps using List.reverseRecOn with
  | nil => rfl
  | append_singleton ps q ih => rw [ordered_append, mem_insert, ih, List.mem_append, List.mem_singleton, or_comm]

theorem pairwise_ordered (ps : List (List String)) : (ordered ps).Pairwise (· < ·) := by
  induction ps using List.reverseRecOn with
  | nil => exact .nil
  | append_singleton ps q ih => rw [ordered_append]; exact pairwise_insert ih

section Files
variable {disk : Entry} {top : List String} {extensions : List String} {ps : List (List String)}

theorem files?_eq_some : files? disk top extensions = some ps ↔
    ∃ found, (effective extensions).mapM (withExtension? disk top) = some found ∧ ordered found.flatten = ps := by
  rw [files?]
  split <;> simp_all

theorem pairwise_of_files? (h : files? disk top extensions = some ps) : ps.Pairwise (· < ·) := by
  obtain ⟨found, _, rfl⟩ := files?_eq_some.mp h
  exact pairwise_ordered _

theorem nodup_of_files? (h : files? disk top extensions = some ps) : ps.Nodup :=
  (pairwise_of_files? h).imp ne_of_lt

theorem hasFile_of_withExtension? {extension : String} (h : withExtension? disk top extension = some ps)
    {p : List String} (hp : p ∈ ps) : disk.hasFile p := by
  rw [withExtension?] at h
  split at h
  · cases h
  · split at h
    · cases h
      exact (List.mem_filter.mp hp).2
    · cases h
      cases hp

theorem exists_of_mem_mapM {α β : Type} {f : α → Option β} {as : List α} {bs : List β} (h : as.mapM f = some bs)
    {b : β} (hb : b ∈ bs) : ∃ a ∈ as, f a = some b := by
  induction as generalizing bs with
  | nil => simp_all
  | cons a as ih =>
    simp only [List.mapM_cons, Option.bind_eq_bind, Option.bind_eq_some_iff, Option.pure_def,
      Option.some.injEq] at h
    obtain ⟨first, hfirst, rest, hrest, rfl⟩ := h
    rcases List.mem_cons.mp hb with rfl | hb
    · exact ⟨a, by simp, hfirst⟩
    · obtain ⟨c, hc, eq⟩ := ih hrest hb
      exact ⟨c, by simp [hc], eq⟩

theorem exists_mem_mapM {α β : Type} {f : α → Option β} {as : List α} {bs : List β} (h : as.mapM f = some bs) {a : α}
    (ha : a ∈ as) : ∃ b ∈ bs, f a = some b := by
  induction as generalizing bs with
  | nil => cases ha
  | cons first as ih =>
    simp only [List.mapM_cons, Option.bind_eq_bind, Option.bind_eq_some_iff, Option.pure_def, Option.some.injEq] at h
    obtain ⟨b, hb, rest, hrest, rfl⟩ := h
    rcases List.mem_cons.mp ha with rfl | ha
    · exact ⟨b, by simp, hb⟩
    · obtain ⟨c, hc, eq⟩ := ih hrest ha
      exact ⟨c, by simp [hc], eq⟩

theorem hasFile_of_files? (h : files? disk top extensions = some ps) {p : List String} (hp : p ∈ ps) :
    disk.hasFile p := by
  obtain ⟨found, each, rfl⟩ := files?_eq_some.mp h
  obtain ⟨batch, hbatch, hp⟩ := List.mem_flatten.mp (mem_ordered.mp hp)
  obtain ⟨extension, _, eq⟩ := exists_of_mem_mapM each hbatch
  exact hasFile_of_withExtension? eq hp

theorem files?_outline (disk : Entry) (top extensions : List String) :
    files? disk.outline top extensions = files? disk top extensions := by
  have same : withExtension? disk.outline top = withExtension? disk top := by
    funext extension
    simp only [withExtension?, Entry.hasDirectory_outline, Glob.select_outline, Entry.hasFile_outline]
  rw [files?, files?, same]

end Files

end Discovery

end LogReview
