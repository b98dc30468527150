import LogReview.Scan
import LogReview.Proofs.Project.Discovery
import LogReview.Proofs.Project.Names
import LogReview.Proofs.Rule.Battery
import Mathlib.Data.List.Nodup

/-! A scan loses, doubles and mixes nothing: each file has its own failure or its own issues in the result, in the
order of the files, and what one file holds does not show in the issues and failures of the others. -/
namespace LogReview

/-- All that a report says is about `p`, and a failed one says nothing else. -/
structure FileReport.About (p : Path) (report : FileReport) : Prop where
  failure : ∀ failure, report.failure = some failure → failure.file = p
  whole : report.failure ≠ none → report.issues = []
  issues : ∀ i ∈ report.issues, i.file = p.text

theorem Review.about_failed (p : Path) (fault : Fault) : (failed p fault).About p where
  failure := by simp [failed]
  whole := by simp [failed]
  issues := by simp [failed]

theorem Review.about_ofSource {rules : List Rule} (h : ∀ rule ∈ rules, rule.Local) (p : Path) (src : Source) :
    (ofSource rules p src).About p := by
  rw [ofSource, Document.ofSource]
  split
  · exact about_failed p _
  · rw [ofDocument]
    split
    · next issues checked => exact ⟨by simp, by simp, Rule.checkAll_local h checked⟩
    · exact about_failed p _

theorem Reviewer.about_file {r : Reviewer} (h : ∀ rule ∈ r.rules, rule.Local) (disk : Entry) (p : Path) :
    (r.file disk p).About p := by
  rw [file]
  split
  · exact Review.about_ofSource h p _
  · exact Review.about_failed p _

namespace ScanResult

/-- The issues and failures that are about some of the files. -/
def about (result : ScanResult) (paths : List Path) : List Issue × List Failure :=
  (result.issues.filter fun i => paths.any (·.text == i.file), result.failures.filter (paths.contains ·.file))

/-- Nothing is lost, doubled or mixed between the reports of the files and the result. -/
structure Faithful (report : Path → FileReport) (paths : List Path) (result : ScanResult) : Prop where
  scanned : result.filesScanned = paths.length
  failures : result.failures = paths.filterMap fun p => (report p).failure
  failed : result.failures.map (·.file) = paths.filter fun p => (report p).failure.isSome
  issues : result.issues = (paths.filter fun p => (report p).failure.isNone).flatMap fun p => (report p).issues
  own : ∀ p ∈ paths, result.issues.filter (·.file == p.text) = (report p).issues
  apart : ∀ failure ∈ result.failures, ∀ i ∈ result.issues, i.file ≠ failure.file.text

theorem issues_ofReports (reports : List FileReport) :
    (ofReports reports).issues = (reports.filter (·.failure.isNone)).flatMap (·.issues) := by
  suffices ∀ (whole : List FileReport) (c : Collector),
      (whole.foldl (fun c r => c.extend r.issues) c).toList = c.toList ++ whole.flatMap (·.issues) from
    this _ {}
  intro whole
  induction whole with
  | nil => simp
  | cons r whole ih => simp [ih]

/-- Where the elements of each `g x` are kept or dropped with `x`, filtering them filters the `x`s. -/
theorem filter_flatMap_of_keep {α β : Type} {g : α → List β} {keep : α → Bool} {test : β → Bool} {xs : List α}
    (h : ∀ x ∈ xs, ∀ y ∈ g x, test y = keep x) : (xs.flatMap g).filter test = (xs.filter keep).flatMap g := by
  induction xs with
  | nil => rfl
  | cons x xs ih =>
    rw [List.forall_mem_cons] at h
    rw [List.flatMap_cons, List.filter_append, ih h.2, List.filter_cons]
    cases kept : keep x with
    | true => simp [List.filter_eq_self.mpr fun y hy => (h.1 y hy).trans kept]
    | false => simpa using fun y hy => (h.1 y hy).trans kept

section Reports
variable {report : Path → FileReport} {paths : List Path} (about : ∀ p ∈ paths, (report p).About p)
include about

/-- Failed files have no issues, so that leaving them out changes nothing. -/
theorem issues_ofReports_map :
    (ofReports (paths.map report)).issues = paths.flatMap fun p => (report p).issues := by
  rw [issues_ofReports, List.filter_map, List.flatMap_map]
  induction paths with
  | nil => rfl
  | cons p paths ih =>
    rw [List.forall_mem_cons] at about
    cases failed : (report p).failure with
    | none => simp [failed, ih about.2]
    | some failure => simp [failed, ih about.2, about.1.whole (by simp [failed])]

variable (told : ∀ p ∈ paths, ∀ q ∈ paths, p.text = q.text → p = q)
include told

/-- What the result says about a selection of the files is what their own reports say. -/
theorem about_filter (keep : Path → Bool) :
    (ofReports (paths.map report)).about (paths.filter keep) =
      ((paths.filter keep).flatMap fun p => (report p).issues,
        (paths.filter keep).filterMap fun p => (report p).failure) := by
  refine Prod.ext ?_ ?_
  · rw [ScanResult.about, issues_ofReports_map about]
    refine filter_flatMap_of_keep fun p hp i hi => ?_
    -- An issue carries the text of its file, and no other file has the same.
    rw [(about p hp).issues i hi, Bool.eq_iff_iff, List.any_eq_true]
    constructor
    · rintro ⟨q, hq, same⟩
      obtain ⟨hq, keeps⟩ := List.mem_filter.mp hq
      rwa [told p hp q hq (beq_iff_eq.mp same).symm]
    · exact fun keeps => ⟨p, List.mem_filter.mpr ⟨hp, keeps⟩, beq_self_eq_true _⟩
  · simp only [ScanResult.about, ofReports, List.filterMap_eq_flatMap_toList, List.flatMap_map]
    refine filter_flatMap_of_keep fun p hp failure hfailure => ?_
    rw [(about p hp).failure failure (by simpa using hfailure), List.contains_eq_mem]
    simp [hp]

theorem filter_issues_ofReports (nodup : paths.Nodup) {p : Path} (hp : p ∈ paths) :
    (ofReports (paths.map report)).issues.filter (·.file == p.text) = (report p).issues := by
  have own : ∀ q ∈ paths, ∀ i ∈ (report q).issues, (i.file == p.text) = (q == p) := by
    intro q hq i hi
    rw [(about q hq).issues i hi, Bool.eq_iff_iff, beq_iff_eq, beq_iff_eq]
    exact ⟨told q hq p hp, congrArg Path.text⟩
  rw [issues_ofReports_map about, filter_flatMap_of_keep own, List.filter_beq, List.count_eq_one_of_mem nodup hp]
  simp

theorem faithful_ofReports (nodup : paths.Nodup) : (ofReports (paths.map report)).Faithful report paths where
  scanned := by simp [ofReports]
  failures := by simp [ofReports, List.filterMap_map]
  failed := by
    simp only [ofReports, List.filterMap_map, List.map_filterMap, ← List.filterMap_eq_filter]
    refine List.filterMap_congr fun p hp => ?_
    cases failed : (report p).failure with
    | none => simp [failed, Option.guard]
    | some failure => simp [failed, Option.guard, (about p hp).failure failure failed]
  issues := by simp [issues_ofReports, List.filter_map, List.flatMap_map, Function.comp_def]
  own p hp := filter_issues_ofReports about told nodup hp
  apart failure hfailure i hi same := by
    simp only [ofReports, List.filterMap_map, List.mem_filterMap, Function.comp_apply] at hfailure
    obtain ⟨p, hp, failed⟩ := hfailure
    rw [(about p hp).failure failure failed] at same
    have own := filter_issues_ofReports about told nodup hp
    rw [(about p hp).whole (by simp [failed]), List.filter_eq_nil_iff] at own
    exact own i hi (beq_iff_eq.mpr same)

end Reports

/-- Where the reports of some files stay, so does what the result says about them. -/
theorem about_filter_congr {report report' : Path → FileReport} {paths : List Path}
    (about : ∀ p ∈ paths, (report p).About p) (about' : ∀ p ∈ paths, (report' p).About p)
    (told : ∀ p ∈ paths, ∀ q ∈ paths, p.text = q.text → p = q) {keep : Path → Bool}
    (same : ∀ p ∈ paths.filter keep, report' p = report p) :
    (ofReports (paths.map report')).about (paths.filter keep) =
      (ofReports (paths.map report)).about (paths.filter keep) := by
  rw [about_filter about' told, about_filter about told]
  refine Prod.ext ?_ ?_
  · exact List.flatMap_congr fun p hp => by rw [same p hp]
  · exact List.filterMap_congr fun p hp => by rw [same p hp]

end ScanResult

namespace Reviewer

theorem exists_of_mem_files? {r : Reviewer} {disk : Entry} {paths : List Path} (h : r.files? disk = some paths)
    {p : Path} (hp : p ∈ paths) : p = .ofPlace p.parts ∧ disk.hasFile p.parts := by
  obtain ⟨places, found, rfl⟩ := Option.map_eq_some_iff.mp h
  obtain ⟨place, hplace, rfl⟩ := List.mem_map.mp hp
  exact ⟨rfl, Discovery.hasFile_of_files? found hplace⟩

theorem nodup_of_files? {r : Reviewer} {disk : Entry} {paths : List Path} (h : r.files? disk = some paths) :
    paths.Nodup := by
  obtain ⟨places, found, rfl⟩ := Option.map_eq_some_iff.mp h
  exact (Discovery.nodup_of_files? found).map fun _ _ same => congrArg Path.parts same

/-- The texts of the paths tell the files of a project apart. -/
theorem text_injective_of_files? {r : Reviewer} {disk : Entry} (proper : disk.isProper) {paths : List Path}
    (h : r.files? disk = some paths) : ∀ p ∈ paths, ∀ q ∈ paths, p.text = q.text → p = q := by
  intro p hp q hq same
  obtain ⟨hp, pfile⟩ := exists_of_mem_files? h hp
  obtain ⟨hq, qfile⟩ := exists_of_mem_files? h hq
  rw [hp, hq] at same ⊢
  rw [Path.text_ofPlace_injective (Entry.isName_of_hasFile proper pfile) (Entry.isName_of_hasFile proper qfile) same]

theorem scan?_eq_some {r : Reviewer} {disk : Entry} {paths : List Path} (h : r.files? disk = some paths)
    (several : Bool) : r.scan? disk several = some (.ofReports (paths.map (r.file disk))) := by
  rw [scan?, h, Option.map_some, reports_eq_map]

theorem files?_eq_of_outline_eq (r : Reviewer) {disk after : Entry} (h : after.outline = disk.outline) :
    r.files? after = r.files? disk := by
  rw [files?, files?, ← Discovery.files?_outline, h, Discovery.files?_outline]

theorem file_eq_of_read_eq (r : Reviewer) {disk after : Entry} {p : Path}
    (h : after.read p.parts = disk.read p.parts) : r.file after p = r.file disk p := by
  rw [file, file, h]

/-- The result of a scan is faithful to the files. Whatever is written to one of them, the same files are found, and
the issues and failures of those at other places stay as they are. -/
theorem scan_faithful {r : Reviewer} {disk : Entry} (proper : disk.isProper)
    (rules : ∀ rule ∈ r.rules, (∃ limits, rule ∈ Rule.battery limits) ∨ rule.Local)
    {paths : List Path} (found : r.files? disk = some paths) (several : Bool) :
    paths.Nodup ∧ ∃ result, r.scan? disk several = some result ∧ result.Faithful (r.file disk) paths ∧
      ∀ f ∈ paths, ∀ content, ∃ after result',
        disk.write content (f.place []) = .ok after ∧ after.read f.parts = .ok content ∧
        r.files? after = some paths ∧ r.scan? after several = some result' ∧
        result'.Faithful (r.file after) paths ∧
        let others := paths.filter (·.place [] != f.place [])
        result'.about others = result.about others := by
  have aboutIn (d : Entry) (p : Path) (_ : p ∈ paths) : (r.file d p).About p := by
    refine about_file (fun rule hrule => ?_) d p
    rcases rules rule hrule with ⟨limits, h⟩ | h
    · exact Rule.local_of_mem_battery h
    · exact h
  have nodup := nodup_of_files? found
  have told := text_injective_of_files? proper found
  refine ⟨nodup, _, scan?_eq_some found several, ScanResult.faithful_ofReports (aboutIn disk) told nodup, ?_⟩
  intro f hf content
  obtain ⟨hf, isFile⟩ := exists_of_mem_files? found hf
  obtain ⟨after, written, outline, reads, others⟩ := Entry.read_write isFile content
  have found' : r.files? after = some paths := (r.files?_eq_of_outline_eq outline).trans found
  refine ⟨after, _, ?_, reads, found', scan?_eq_some found' several,
    ScanResult.faithful_ofReports (aboutIn after) told nodup, ?_⟩
  · rw [hf]
    exact written
  · refine ScanResult.about_filter_congr (aboutIn disk) (aboutIn after) told fun p hp => ?_
    obtain ⟨hp, elsewhere⟩ := List.mem_filter.mp hp
    rw [(exists_of_mem_files? found hp).1, hf, bne_iff_ne] at elsewhere
    exact r.file_eq_of_read_eq (others p.parts elsewhere)

/-- Two files with a call to report, one that may not be read, and one that is no program. -/
def mixedFiles : Entry :=
  let printing := "class A \x7b void f() \x7b System.out.println(1); \x7d \x7d".toUTF8
  .directory "" [.directory "p" [.file "A.java" (.ok printing), .file "B.java" (.error .denied),
    .file "C.java" (.ok "\x7d".toUTF8), .file "D.java" (.ok printing)]]

/-- All rules, and behind them one that fails on the first of the files. -/
def cautious : Reviewer :=
  { ofSettings ["p"] {} with rules := Rule.battery {} ++ [Rule.refusing "refusing" "A" "refused"] }

/-- Three files fail, each in its own way, and what was found in the first is dropped. -/
theorem scan_faithful_mixedFiles :
    let path (name : String) : Path := .ofPlace ["p", name]
    let paths := [path "A.java", path "B.java", path "C.java", path "D.java"]
    cautious.files? mixedFiles = some paths ∧
      ∃ result, cautious.scan? mixedFiles true = some result ∧ result.Faithful (cautious.file mixedFiles) paths ∧
        result.issues.map (fun i => (i.file, i.rule)) = [("/p/D.java", "console-output")] ∧
        result.failures.map (·.fault) = [.ruleFailed "refused",
          .unreadable "[Errno 13] Permission denied: '/p/B.java'", .malformed 1] ∧
        ∀ content, ∃ after result', mixedFiles.write content ["p", "B.java"] = .ok after ∧
          cautious.scan? after true = some result' ∧
          let others := [path "A.java", path "C.java", path "D.java"]
          result'.about others = result.about others := by
  intro path paths
  have found : cautious.files? mixedFiles = some paths := by decide +kernel
  have rules : ∀ rule ∈ cautious.rules, (∃ limits, rule ∈ Rule.battery limits) ∨ rule.Local := by
    intro rule h
    rcases List.mem_append.mp h with h | h
    · exact .inl ⟨{}, h⟩
    · rw [List.mem_singleton.mp h]
      exact .inr (Rule.local_refusing _ _ _)
  obtain ⟨_, result, scanned, faithful, others⟩ := scan_faithful (by decide +kernel) rules found true
  have told : (cautious.scan? mixedFiles true).map
      (fun r => (r.issues.map fun i => (i.file, i.rule), r.failures.map (·.fault))) =
      some ([("/p/D.java", "console-output")], [.ruleFailed "refused",
        .unreadable "[Errno 13] Permission denied: '/p/B.java'", .malformed 1]) := by
    decide +kernel
  rw [scanned, Option.map_some, Option.some.injEq, Prod.mk.injEq] at told
  refine ⟨found, result, scanned, faithful, told.1, told.2, fun content => ?_⟩
  obtain ⟨after, result', written, _, _, rescanned, _, same⟩ := others (path "B.java") (by simp [paths]) content
  exact ⟨after, result', written, rescanned, same⟩

end Reviewer

end LogReview
