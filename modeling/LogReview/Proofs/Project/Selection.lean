import LogReview.Proofs.Project.Discovery
import LogReview.Proofs.Project.Names
import LogReview.Proofs.Project.Pattern
import Mathlib.Data.List.Sort

/-! Which files of a project are listed. An extension without signs of patterns stands for the names that end with it; the
list has the files with such names at any depth, each once, and does not depend on how the extensions are listed. -/
namespace LogReview

namespace Wildcard
variable {cs name : List Char}

/-- Nothing in a text that has a meaning in patterns. -/
def Plain (cs : List Char) : Prop := ∀ c ∈ cs, c ∉ ['*', '?', '[', '/']

instance (cs : List Char) : Decidable (Plain cs) := List.decidableBAll _ cs

theorem mem_suffixes {suffix : List Char} : suffix ∈ suffixes cs ↔ suffix <:+ cs := by
  induction cs with
  | nil => simp [suffixes]
  | cons c cs ih => rw [suffixes, List.mem_cons, ih, List.suffix_cons_iff]

theorem fitsAll_map_char : fitsAll (cs.map char) name ↔ name = cs := by
  induction cs generalizing name with
  | nil => simp [fitsAll]
  | cons c cs ih => cases name <;> simp [fitsAll, fits, ih]

theorem fitsAll_run : fitsAll (run :: cs.map char) name ↔ cs <:+ name := by
  simp [fitsAll, fitsAll_map_char, mem_suffixes]

theorem readWith_of_plain (h : Plain cs) {fuel : Nat} (enough : cs.length ≤ fuel) : readWith fuel cs = cs.map char := by
  induction cs generalizing fuel with
  | nil => cases fuel <;> simp [readWith]
  | cons c cs ih =>
    obtain ⟨fuel, rfl⟩ : ∃ n, fuel = n + 1 := ⟨fuel - 1, by simp at enough; omega⟩
    have hc := h c (by simp)
    simp only [List.mem_cons, not_or] at hc
    rw [readWith, ih (fun d hd => h d (by simp [hd])) (by simpa using enough), List.map_cons]
    all_goals simp_all

theorem ofText_star (h : Plain cs) : ofText ('*' :: cs) = run :: cs.map char := by
  rw [ofText, List.length_cons, readWith, readWith_of_plain h le_rfl]

end Wildcard

namespace Glob
open Wildcard

theorem partOf?_star {cs : List Char} (h : Plain cs) : partOf? ('*' :: cs) = some (.wild (run :: cs.map char)) := by
  have starless : '*' ∉ cs := fun hc => h '*' hc (by decide)
  have single : ¬ hasDoubleStar ('*' :: cs) := by
    intro double
    have two := (hasDoubleStar_iff.mp double).sublist.count_le '*'
    simp [List.count_eq_zero_of_not_mem starless] at two
  have notDeep : ¬ (('*' :: cs) == ['*', '*']) := by
    intro deep
    have second : cs = ['*'] := by simpa using deep
    simp [second] at starless
  rw [partOf?, if_neg notDeep, if_neg single, if_pos (by simp), ofText_star h]

theorem ofText?_star {extension : String} (h : Plain extension.toList) :
    ofText? ("*" ++ extension) = some [.wild (run :: extension.toList.map char)] := by
  have star : ("*" ++ extension).toList = '*' :: extension.toList := by simp
  have slashless : '/' ∉ '*' :: extension.toList := by
    simp only [List.mem_cons, not_or]
    exact ⟨by decide, fun hc => h '/' hc (by decide)⟩
  have closed : ('*' :: extension.toList).getLast? ≠ some '/' := fun last => slashless (List.mem_of_getLast? last)
  simp [ofText?, star, Path.splitSlashes_of_notMem slashless, Path.isEmptyPart, partOf?_star h, closed]

end Glob

namespace Entry
variable {root e f : Entry} {rel : List String}

/-! ### Ways that lead down -/

theorem at?_append (e : Entry) (xs ys : List String) : e.at? (xs ++ ys) = (e.at? xs).bind (·.at? ys) := by
  induction xs generalizing e with
  | nil => rfl
  | cons part xs ih =>
    rw [List.cons_append, at?, at?]
    cases e.entries.find? (·.name == part) with
    | none => rfl
    | some f => exact ih f

theorem exists_of_at?_cons {part : String} (h : e.at? (part :: rel) = some f) :
    ∃ g ∈ e.entries, g.name = part ∧ g.at? rel = some f := by
  rw [at?] at h
  split at h
  · next g found => exact ⟨g, List.mem_of_find?_eq_some found, by simpa using List.find?_some found, h⟩
  · cases h

theorem toOption_follow (h : ".." ∉ rel) (above : List Entry) (e : Entry) :
    (follow above e rel).toOption = e.at? rel := by
  induction rel generalizing above e with
  | nil => rfl
  | cons part rel ih =>
    simp only [List.mem_cons, not_or] at h
    cases e with
    | file => rfl
    | directory name es =>
      have down : ¬ (part == "..") = true := by simpa using Ne.symm h.1
      cases found : es.find? (·.name == part) with
      | none => simp only [follow, if_neg down, at?, entries, found, Except.toOption]
      | some f =>
        simp only [follow, if_neg down, at?, entries, found]
        exact ih h.2 _ f

theorem follow_append (h : ".." ∉ rel) (above : List Entry) (e : Entry) (top : List String) :
    (follow above e (top ++ rel)).toOption = (follow above e top).toOption.bind (·.at? rel) := by
  fun_induction follow above e top with
  | case1 above e => exact toOption_follow h above e
  | case2 => rfl
  | case3 part parts name es up ih => rw [← ih, List.cons_append, follow, if_pos up]
  | case4 part parts name es up outer above ih => rw [← ih, List.cons_append, follow, if_pos up]
  | case5 above part parts name es down e found ih =>
    simpa only [List.cons_append, follow, if_neg down, found] using ih
  | case6 above part parts name es down missing =>
    simp only [List.cons_append, follow, if_neg down, missing]
    rfl

/-- From any place, names lead to what the directory there holds. -/
theorem get?_append (h : ".." ∉ rel) (root : Entry) (top : List String) :
    root.get? (top ++ rel) = (root.get? top).bind (·.at? rel) :=
  follow_append h [] root top

mutual

/-- Whether all names below an entry lead down, as names other than `..` do. -/
def leadsDown : Entry → Bool
  | file .. => true
  | directory _ es => allLeadDown es

def allLeadDown : List Entry → Bool
  | [] => true
  | e :: es => e.name != ".." && e.leadsDown && allLeadDown es

end

theorem leadsDown_of_mem (h : e.leadsDown) (hf : f ∈ e.entries) : f.name ≠ ".." ∧ f.leadsDown := by
  cases e with
  | file => cases hf
  | directory name es =>
    rw [leadsDown] at h
    rw [entries] at hf
    induction es with
    | nil => cases hf
    | cons g es ih =>
      simp only [allLeadDown, Bool.and_eq_true, bne_iff_ne] at h
      rcases List.mem_cons.mp hf with rfl | hf
      · exact h.1
      · exact ih h.2 hf

theorem leadsDown_of_at? (down : e.leadsDown) (h : e.at? rel = some f) : ".." ∉ rel ∧ f.leadsDown := by
  induction rel generalizing e with
  | nil =>
    cases h
    exact ⟨by simp, down⟩
  | cons part rel ih =>
    obtain ⟨g, hg, rfl, rest⟩ := exists_of_at?_cons h
    obtain ⟨name, below⟩ := leadsDown_of_mem down hg
    obtain ⟨further, here⟩ := ih below rest
    exact ⟨by simp [Ne.symm name, further], here⟩

/-! ### All directories of a project -/

theorem mem_directoriesIn {parts p : List String} {es : List Entry} :
    p ∈ directoriesIn parts es ↔ ∃ e ∈ es, p ∈ directoriesFrom (parts ++ [e.name]) e := by
  induction es with
  | nil => simp [directoriesIn]
  | cons e es ih => simp [directoriesIn, ih]

mutual

theorem exists_of_mem_directoriesFrom {parts p : List String} :
    (e : Entry) → e.leadsDown → p ∈ directoriesFrom parts e → ∃ rel, ".." ∉ rel ∧ p = parts ++ rel
  | file .., _, h => by simp [directoriesFrom] at h
  | directory _ es, down, h => by
    rw [directoriesFrom, List.mem_cons] at h
    rcases h with rfl | h
    · exact ⟨[], by simp, by simp⟩
    · exact exists_of_mem_directoriesIn es down h

theorem exists_of_mem_directoriesIn {parts p : List String} :
    (es : List Entry) → allLeadDown es → p ∈ directoriesIn parts es → ∃ rel, ".." ∉ rel ∧ p = parts ++ rel
  | [], _, h => by simp [directoriesIn] at h
  | e :: es, down, h => by
    simp only [allLeadDown, Bool.and_eq_true, bne_iff_ne] at down
    rw [directoriesIn, List.mem_append] at h
    rcases h with h | h
    · obtain ⟨rel, further, rfl⟩ := exists_of_mem_directoriesFrom e down.1.2 h
      exact ⟨e.name :: rel, by simp [Ne.symm down.1.1, further], by simp⟩
    · exact exists_of_mem_directoriesIn es down.2 h

end

theorem isDirectory_of_mem_entries (h : f ∈ e.entries) : e.isDirectory := by
  cases e with
  | file => cases h
  | directory => rfl

theorem mem_directoriesFrom_of_at? (h : e.at? rel = some f) (isDirectory : f.isDirectory) (parts : List String) :
    parts ++ rel ∈ directoriesFrom parts e := by
  induction rel generalizing e parts with
  | nil =>
    cases h
    cases f with
    | file => cases isDirectory
    | directory name es => simp [directoriesFrom]
  | cons part rel ih =>
    obtain ⟨g, hg, rfl, rest⟩ := exists_of_at?_cons h
    have inner := ih rest (parts ++ [g.name])
    rw [List.append_assoc, List.singleton_append] at inner
    cases e with
    | file => cases hg
    | directory name es =>
      rw [directoriesFrom]
      exact List.mem_cons_of_mem _ (mem_directoriesIn.mpr ⟨g, hg, inner⟩)

/-- A file below a directory is held by a directory. -/
theorem exists_of_at?_file (isDirectory : e.isDirectory) (h : e.at? rel = some f) (isFile : f.isFile) :
    ∃ outer d, rel = outer ++ [f.name] ∧ e.at? outer = some d ∧ f ∈ d.entries := by
  rcases List.eq_nil_or_concat rel with rfl | ⟨outer, part, rfl⟩
  · cases h
    cases e with
    | file => cases isDirectory
    | directory => cases isFile
  · have found := h
    rw [List.concat_eq_append, at?_append, Option.bind_eq_some_iff] at found
    obtain ⟨d, outside, _⟩ := found
    rw [List.concat_eq_append, at?_concat outside] at h
    have named : f.name = part := by simpa using List.find?_some h
    exact ⟨outer, d, by simp [named], outside, List.mem_of_find?_eq_some h⟩

theorem not_hasDirectory_of_hasFile (h : root.hasFile rel) : ¬ root.hasDirectory rel := by
  obtain ⟨name, content, located⟩ := locate_of_hasFile h
  simp [hasDirectory, get?, located, Except.toOption, isDirectory]

end Entry

theorem Glob.mem_select_deep_wild {disk project : Entry} {top p : List String} (located : disk.get? top = some project)
    {name : List Wildcard} : p ∈ select disk [.deep, .wild name] top ↔ ∃ path ∈ project.directoriesFrom top,
      ∃ d, disk.get? path = some d ∧ ∃ e ∈ d.entries, Wildcard.fitsAll name e.name.toList ∧ p = path ++ [e.name] := by
  have inDirectory (path : List String) : p ∈ select disk [.wild name] path ↔ ∃ d, disk.get? path = some d ∧
      ∃ e ∈ d.entries, Wildcard.fitsAll name e.name.toList ∧ p = path ++ [e.name] := by
    cases found : disk.get? path <;> simp [select, found, and_assoc]
  rw [select, located, Option.map_some, Option.getD_some, List.mem_flatMap]
  simp only [inDirectory]

namespace Discovery
open Entry
variable {disk project : Entry} {top : List String} {extension : String}

/-- The files of one extension are those whose names end with it. -/
theorem exists_withExtension? (located : disk.get? top = some project) (isDirectory : project.isDirectory)
    (down : project.leadsDown) (plain : Wildcard.Plain extension.toList) :
    ∃ ps, withExtension? disk top extension = some ps ∧ ∀ p, p ∈ ps ↔
      ∃ rel f, p = top ++ rel ∧ project.at? rel = some f ∧ f.isFile ∧ extension.toList <:+ f.name.toList := by
  have there : disk.hasDirectory top := by simp [hasDirectory, located, isDirectory]
  rw [withExtension?, Glob.ofText?_star plain, there]
  refine ⟨_, rfl, fun p => ?_⟩
  rw [List.mem_filter, Glob.mem_select_deep_wild located]
  constructor
  · rintro ⟨⟨path, hpath, d, found, e, he, fits, rfl⟩, isFile⟩
    obtain ⟨rel, names, rfl⟩ := exists_of_mem_directoriesFrom project down hpath
    rw [get?_append names, located, Option.bind_some] at found
    have name := (leadsDown_of_mem (leadsDown_of_at? down found).2 he).1
    have names' : ".." ∉ rel ++ [e.name] := by simp [names, Ne.symm name]
    rw [hasFile, List.append_assoc, get?_append names', located, Option.bind_some, at?_concat found,
      Option.any_eq_true] at isFile
    obtain ⟨f, first, isFile⟩ := isFile
    have same : f.name = e.name := by simpa using List.find?_some first
    refine ⟨rel ++ [e.name], f, by simp, (at?_concat found e.name).trans first, isFile, ?_⟩
    rw [same]
    exact Wildcard.fitsAll_run.mp fits
  · rintro ⟨rel, f, rfl, found, isFile, ends⟩
    have names := (leadsDown_of_at? down found).1
    refine ⟨?_, by simp [hasFile, get?_append names, located, found, isFile]⟩
    obtain ⟨outer, d, rfl, outside, hf⟩ := exists_of_at?_file isDirectory found isFile
    have names' := (leadsDown_of_at? down outside).1
    refine ⟨top ++ outer, mem_directoriesFrom_of_at? outside (isDirectory_of_mem_entries hf) top, d, ?_, f, hf,
      Wildcard.fitsAll_run.mpr ends, by simp⟩
    rw [get?_append names', located, Option.bind_some, outside]

/-! ### Several extensions -/

theorem mem_files? {extensions : List String} {ps : List (List String)} (h : files? disk top extensions = some ps)
    {p : List String} :
    p ∈ ps ↔ ∃ x ∈ effective extensions, ∃ found, withExtension? disk top x = some found ∧ p ∈ found := by
  obtain ⟨batches, each, rfl⟩ := files?_eq_some.mp h
  rw [mem_ordered, List.mem_flatten]
  constructor
  · rintro ⟨found, hfound, hp⟩
    obtain ⟨x, hx, eq⟩ := exists_of_mem_mapM each hfound
    exact ⟨x, hx, found, eq, hp⟩
  · rintro ⟨x, hx, found, eq, hp⟩
    obtain ⟨batch, hbatch, eq'⟩ := exists_mem_mapM each hx
    cases eq.symm.trans eq'
    exact ⟨found, hbatch, hp⟩

theorem effective_of_ne_nil {extensions : List String} (h : extensions ≠ []) : effective extensions = extensions := by
  simp [effective, h]

/-- Only the set of the extensions matters. -/
theorem files?_congr {xs ys : List String} (hx : xs ≠ []) (hy : ys ≠ []) (same : ∀ x, x ∈ xs ↔ x ∈ ys) :
    files? disk top xs = files? disk top ys := by
  cases listed : files? disk top xs with
  | none =>
    rw [files?_eq_none_iff] at listed
    simp only [same] at listed
    exact (files?_eq_none_iff.mpr listed).symm
  | some ps =>
    cases listed' : files? disk top ys with
    | none =>
      rw [files?_eq_none_iff] at listed'
      simp only [← same] at listed'
      cases listed.symm.trans (files?_eq_none_iff.mpr listed')
    | some qs =>
      -- Two ordered lists without repetitions that have the same elements.
      congr 1
      refine (pairwise_of_files? listed).eq_of_mem_iff (pairwise_of_files? listed') fun p => ?_
      rw [mem_files? listed, mem_files? listed', effective_of_ne_nil hx, effective_of_ne_nil hy]
      simp only [same]

/-- With extensions that are free of patterns, a project has a list of files. It is strictly ordered part by part, has
exactly the files at any depth whose names end with one of the extensions, and is the same for all lists of the same
extensions. -/
theorem files?_exact (located : disk.get? top = some project) (isDirectory : project.isDirectory)
    (down : project.leadsDown) {extensions : List String} (nonempty : extensions ≠ [])
    (plain : ∀ x ∈ extensions, Wildcard.Plain x.toList) :
    ∃ ps, files? disk top extensions = some ps ∧ ps.Pairwise (· < ·) ∧
      (∀ p, p ∈ ps ↔ ∃ rel f, p = top ++ rel ∧ project.at? rel = some f ∧ f.isFile ∧
        ∃ x ∈ extensions, x.toList <:+ f.name.toList) ∧
      (∀ p ∈ ps, ¬ disk.hasDirectory p) ∧
      ∀ others, others ≠ [] → (∀ x, x ∈ others ↔ x ∈ extensions) → files? disk top others = some ps := by
  have each {x : String} (hx : x ∈ extensions) := exists_withExtension? located isDirectory down (plain x hx)
  cases listed : files? disk top extensions with
  | none =>
    obtain ⟨x, hx, refused⟩ := files?_eq_none_iff.mp listed
    obtain ⟨found, eq, _⟩ := each hx
    cases eq.symm.trans (withExtension?_eq_none_iff.mpr refused)
  | some ps =>
    refine ⟨ps, rfl, pairwise_of_files? listed, fun p => ?_, ?_, ?_⟩
    · rw [mem_files? listed, effective_of_ne_nil nonempty]
      constructor
      · rintro ⟨x, hx, found, eq, hp⟩
        obtain ⟨found', eq', members⟩ := each hx
        cases eq.symm.trans eq'
        obtain ⟨rel, f, rfl, there, isFile, ends⟩ := (members p).mp hp
        exact ⟨rel, f, rfl, there, isFile, x, hx, ends⟩
      · rintro ⟨rel, f, rfl, there, isFile, x, hx, ends⟩
        obtain ⟨found, eq, members⟩ := each hx
        exact ⟨x, hx, found, eq, (members _).mpr ⟨rel, f, rfl, there, isFile, ends⟩⟩
    · intro p hp
      exact not_hasDirectory_of_hasFile (hasFile_of_files? listed hp)
    · intro others nonempty' same
      rw [files?_congr nonempty' nonempty same, listed]

/-- A project with a hidden file, a directory that is named like a source, and names that order differently as texts. -/
def mixedProject : Entry :=
  .directory "p" [
    .file "a.java" (.ok .empty), .directory "a" [.file "z.java" (.ok .empty)], .file ".java" (.error .denied),
    .directory "b.java" [.file "c.jav" (.ok .empty)], .file "d.java.txt" (.ok .empty)]

theorem files?_mixedProject :
    mixedProject.isDirectory ∧ mixedProject.leadsDown ∧
      files? (.directory "" [mixedProject]) ["p"] [".java", "a.java", "jav"] =
        some [["p", ".java"], ["p", "a", "z.java"], ["p", "a.java"], ["p", "b.java", "c.jav"]] ∧
      (∀ p, p ∈ [["p", ".java"], ["p", "a", "z.java"], ["p", "a.java"], ["p", "b.java", "c.jav"]] ↔
        ∃ rel f, p = ["p"] ++ rel ∧ mixedProject.at? rel = some f ∧ f.isFile ∧
          ∃ x ∈ [".java", "a.java", "jav"], x.toList <:+ f.name.toList) ∧
      files? (.directory "" [mixedProject]) ["p"] ["jav", "a.java", "jav", ".java"] =
        files? (.directory "" [mixedProject]) ["p"] [".java", "a.java", "jav"] := by
  have located : (Entry.directory "" [mixedProject]).get? ["p"] = some mixedProject := rfl
  have isDirectory : mixedProject.isDirectory := rfl
  have down : mixedProject.leadsDown := by decide
  have plain : ∀ x ∈ [".java", "a.java", "jav"], Wildcard.Plain x.toList := by decide
  obtain ⟨ps, listed, _, members, _, others⟩ := files?_exact located isDirectory down (by simp) plain
  have computed : files? (.directory "" [mixedProject]) ["p"] [".java", "a.java", "jav"] =
      some [["p", ".java"], ["p", "a", "z.java"], ["p", "a.java"], ["p", "b.java", "c.jav"]] := by
    decide +kernel
  cases computed.symm.trans listed
  exact ⟨isDirectory, down, computed, members, (others _ (by simp) (by grind)).trans listed.symm⟩

end Discovery
end LogReview
