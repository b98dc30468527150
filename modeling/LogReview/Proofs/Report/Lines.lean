import LogReview.Command
import LogReview.Proofs.Project.Places
import LogReview.Proofs.Report.Quotation
import LogReview.Proofs.Scan.Isolation

/-! The lines of a printed report. Neither its own words nor the places of the files bring line ends of their own, so
that it has a line for each issue and four more, and beyond that as many as there are line ends in what is quoted. -/
namespace LogReview

open Text

@[simp] theorem Text.lineEnds_toString_int (n : Int) : lineEnds (toString n) = 0 := by
  rw [Int.toString_eq_repr, Int.repr_eq_if]
  split
  · exact lineEnds_repr _
  · rw [lineEnds_append, lineEnds_repr]
    decide

theorem Text.lineEnds_join (ts : List String) : lineEnds (String.join ts) = lineEndsIn ts := by
  rw [lineEnds, String.toList_join]
  induction ts with
  | nil => rfl
  | cons t ts ih => rw [List.flatMap_cons, List.count_append, ih, lineEndsIn_cons, lineEnds]

namespace Terminal

theorem count_expandTabs (seen cs : List Char) : (expandTabs seen cs).count '\n' = cs.count '\n' := by
  fun_induction expandTabs seen cs with
  | case1 => rfl
  | case2 _ cs ih => simp [ih]
  | case3 seen cs ih => simp [ih, List.count_replicate]
  | case4 seen c cs _ _ ih => simp [List.count_cons, ih]

/-- What is dropped from a line and the blanks in place of tabs are no line ends. -/
@[simp] theorem lineEnds_plain (line : String) : lineEnds (plain line) = lineEnds line := by
  rw [plain, lineEnds, String.toList_ofList, shown, count_expandTabs, List.count_filter (by decide), lineEnds]

theorem lineEndsIn_map_plain (lines : List String) : lineEndsIn (lines.map plain) = lineEndsIn lines := by
  induction lines with
  | nil => rfl
  | cons line lines ih => rw [List.map_cons, lineEndsIn_cons, lineEnds_plain, ih, lineEndsIn_cons]

end Terminal

namespace Path

theorem mem_of_mem_splitSlashes {cs part : List Char} (h : part ∈ splitSlashes cs) {c : Char} (hc : c ∈ part) :
    c ∈ cs := by
  induction cs generalizing part with
  | nil => simp_all [splitSlashes]
  | cons d cs ih =>
    rw [splitSlashes] at h
    split at h
    · rcases List.mem_cons.mp h with rfl | h
      · cases hc
      · exact List.mem_cons_of_mem d (ih h hc)
    · split at h
      · next first rest split =>
        rcases List.mem_cons.mp h with rfl | h
        · rcases List.mem_cons.mp hc with rfl | hc
          · exact List.mem_cons_self
          · exact List.mem_cons_of_mem d (ih (split ▸ List.mem_cons_self) hc)
        · exact List.mem_cons_of_mem d (ih (split ▸ List.mem_cons_of_mem first h) hc)
      · simp_all

theorem mem_of_mem_parts_ofText {s part : String} (h : part ∈ (ofText s).parts) {c : Char} (hc : c ∈ part.toList) :
    c ∈ s.toList := by
  rw [parts_ofText, List.mem_map] at h
  obtain ⟨cs, hcs, rfl⟩ := h
  exact mem_of_mem_splitSlashes (List.mem_filter.mp hcs).1 (by simpa using hc)

theorem mem_of_mem_foldl_step {base parts : List String} {part : String} (h : part ∈ parts.foldl step base) :
    part ∈ base ∨ part ∈ parts := by
  induction parts generalizing base with
  | nil => exact .inl h
  | cons p parts ih =>
    rcases ih h with h | h
    · rw [step] at h
      split at h
      · exact .inl (List.mem_of_mem_tail h)
      · rcases List.mem_cons.mp h with rfl | h
        · exact .inr List.mem_cons_self
        · exact .inl h
    · exact .inr (List.mem_cons_of_mem p h)

/-- A path from the root names a place by its own parts, wherever it is read. -/
theorem mem_of_mem_place {p : Path} (absolute : p.isAbsolute) {cwd : List String} {part : String}
    (h : part ∈ p.place cwd) : part ∈ p.parts := by
  rw [place, if_pos absolute, follow, List.mem_reverse] at h
  simpa using mem_of_mem_foldl_step h

theorem lineEnds_text_ofPlace (place : List String) : lineEnds (ofPlace place).text = lineEndsIn place := by
  have joined : lineEnds (String.intercalate "/" place) = lineEndsIn place := by
    rw [lineEnds, String.toList_intercalate, show "/".toList = ['/'] from rfl]
    induction place with
    | nil => rfl
    | cons part place ih =>
      cases place with
      | nil => simp [lineEnds]
      | cons next place =>
        rw [List.map_cons] at ih
        rw [List.map_cons, List.map_cons, List.intercalate_cons_cons, List.count_append, List.count_append, ih]
        simp [lineEnds]
  rw [text, ofPlace, lineEnds_append, joined, show lineEnds "/" = 0 by decide, Nat.zero_add]

end Path

namespace Report

/-- A report as it is printed: every line is ended. -/
def printed (lines : List String) : String := String.join (lines.map (· ++ "\n"))

theorem lineEnds_printed (lines : List String) : lineEnds (printed lines) = lines.length + lineEndsIn lines := by
  rw [printed, lineEnds_join]
  induction lines with
  | nil => rfl
  | cons line lines ih =>
    have ended : lineEnds "\n" = 1 := by decide
    rw [List.map_cons, lineEndsIn_cons, ih, lineEnds_append, ended, List.length_cons, lineEndsIn_cons]
    omega

/-- The places of files are shown without line ends if they have none. -/
theorem lineEnds_line (cwd : List String) {i : Issue} {p : Path} (file : i.file = p.text) (place : p = .ofPlace p.parts)
    (flat : '\n' ∉ p.text.toList) : lineEnds (line cwd i) = lineEnds i.description := by
  have absolute : (Path.ofText i.file).isAbsolute := by
    rw [file, place]
    exact Path.isAbsolute_ofText_text_ofPlace p.parts
  have shown : lineEnds (Path.ofPlace ((Path.ofText i.file).place cwd)).text = 0 := by
    rw [Path.lineEnds_text_ofPlace, lineEndsIn_eq_zero_iff]
    intro part hpart newline
    have inText := Path.mem_of_mem_parts_ofText (Path.mem_of_mem_place absolute hpart) newline
    rw [file] at inText
    exact flat inText
  simp only [line, lineEnds_append, lineEnds_toString, lineEnds_toString_int, shown]
  simp [lineEnds]

/-- How many lines a report with so many issues should have. -/
def expected (issues : List Issue) : Nat := if issues.isEmpty then 3 else issues.length + 4

theorem length_lines (cwd : List String) (issues : List Issue) : (lines cwd issues).length = expected issues := by
  rw [lines, expected]
  split
  · rfl
  · simp

theorem lineEndsIn_lines {cwd : List String} {issues : List Issue}
    (h : ∀ i ∈ issues, lineEnds (line cwd i) = lineEnds i.description) :
    lineEndsIn (lines cwd issues) = lineEndsIn (issues.map (·.description)) := by
  have own : lineEnds header = 0 ∧ lineEnds "" = 0 ∧ lineEnds "No issues found." = 0 ∧
      lineEnds "Total issues found: " = 0 := by decide
  rw [lines]
  split
  · next none => simp [own, List.isEmpty_iff.mp none]
  · simp [own, lineEndsIn_map_congr h]

end Report

namespace Reviewer

/-- All that the report quotes from the file at `p`; a file that is skipped is not quoted. -/
def quotationsAt (limits : Limits) (disk : Entry) (p : Path) : List String :=
  match (disk.read p.parts).toOption.bind fun src => (Document.ofSource p src).toOption with
  | some d => Rule.quotations limits d
  | none => []

theorem lineEndsIn_file (top : List String) (settings : Settings) (disk : Entry) (p : Path) :
    lineEndsIn (((ofSettings top settings).file disk p).issues.map (·.description)) =
      lineEndsIn (quotationsAt settings.limits disk p) := by
  rw [file, quotationsAt]
  cases disk.read p.parts with
  | error o => rfl
  | ok src =>
    simp only [source, Review.ofSource, ofSettings, Except.toOption, Option.bind_some]
    cases Document.ofSource p src with
    | error fault => rfl
    | ok d => simp only [Review.ofDocument, Rule.checkAll_battery, Rule.lineEndsIn_issues]

section Scan
variable {top : List String} {settings : Settings} {disk : Entry} {paths : List Path}

theorem about_battery (p : Path) : ((ofSettings top settings).file disk p).About p :=
  about_file (fun _ => Rule.local_of_mem_battery) disk p

theorem lineEndsIn_descriptions :
    lineEndsIn ((ScanResult.ofReports (paths.map ((ofSettings top settings).file disk))).issues.map (·.description)) =
      lineEndsIn (paths.flatMap (quotationsAt settings.limits disk)) := by
  rw [ScanResult.issues_ofReports_map fun p _ => about_battery p, List.map_flatMap]
  exact lineEndsIn_flatMap_congr fun p _ => lineEndsIn_file top settings disk p

/-- In the lines of the report nothing but the descriptions can bring line ends. -/
theorem lineEndsIn_report (found : (ofSettings top settings).files? disk = some paths)
    (flat : ∀ p ∈ paths, '\n' ∉ p.text.toList) (cwd : List String) :
    lineEndsIn (Report.lines cwd (ScanResult.ofReports (paths.map ((ofSettings top settings).file disk))).issues) =
      lineEndsIn (paths.flatMap (quotationsAt settings.limits disk)) := by
  rw [← @lineEndsIn_descriptions top]
  refine Report.lineEndsIn_lines fun i hi => ?_
  rw [ScanResult.issues_ofReports_map fun p _ => about_battery p] at hi
  obtain ⟨p, hp, hi⟩ := List.mem_flatMap.mp hi
  exact Report.lineEnds_line cwd ((about_battery p).issues i hi) (exists_of_mem_files? found hp).1 (flat p hp)

end Scan

/-- The report of a scan is printed on a line for each issue and four more, or three if there are none, and on one
more for every line end in what the rules quote; so its lines are whole exactly if no quotation has a line end. For
one tree the same holds of the descriptions. A quoted statement can have line ends inside its tokens only. -/
theorem lineEnds_printed_scan (top : List String) (settings : Settings) (disk : Entry) {paths : List Path}
    (found : (ofSettings top settings).files? disk = some paths) (flat : ∀ p ∈ paths, '\n' ∉ p.text.toList)
    (several verbose : Bool) (cwd : List String) :
    (∃ result, (ofSettings top settings).scan? disk several = some result ∧
      let quoted := paths.flatMap (quotationsAt settings.limits disk)
      lineEnds (Report.printed ((Command.Outcome.scanned result verbose).report cwd)) =
          Report.expected result.issues + lineEndsIn quoted ∧
        ((∀ line ∈ Report.lines cwd result.issues, '\n' ∉ line.toList) ↔ ∀ q ∈ quoted, '\n' ∉ q.toList)) ∧
    ∀ d : Document, (∃ issues, Rule.checkAll (Rule.battery settings.limits) d = .ok issues ∧
        ((∀ i ∈ issues, '\n' ∉ i.description.toList) ↔ ∀ q ∈ Rule.quotations settings.limits d, '\n' ∉ q.toList)) ∧
      ∀ p : Place, (∀ token ∈ Canonical.tokens d.source p.node, '\n' ∉ token.toList) →
        '\n' ∉ (p.canonicalText d.source).toList := by
  refine ⟨⟨_, scan?_eq_some found several, ?_, ?_⟩, fun d => ⟨⟨_, Rule.checkAll_battery settings.limits d, ?_⟩, ?_⟩⟩
  · rw [Report.lineEnds_printed, Command.Outcome.report, List.length_map, Report.length_lines,
      Terminal.lineEndsIn_map_plain, lineEndsIn_report found flat]
  · rw [← lineEndsIn_eq_zero_iff, ← lineEndsIn_eq_zero_iff, lineEndsIn_report found flat]
  · rw [← lineEndsIn_eq_zero_iff, ← Rule.lineEndsIn_issues, lineEndsIn_eq_zero_iff, List.forall_mem_map]
  · intro p tokens
    have none : lineEndsIn (Canonical.tokens d.source p.node) = 0 := lineEndsIn_eq_zero_iff.mpr tokens
    have le := p.lineEnds_canonicalText_le d.source
    exact lineEnds_eq_zero_iff.mp (by omega)

/-- A project of one file, where the receiver of a call goes over two lines. -/
def twoLines : Entry :=
  let text := "class A \x7b void f() \x7b g(\n System.out).println(1); \x7d \x7d"
  .directory "" [.directory "p" [.file "A.java" (.ok text.toUTF8)]]

theorem lineEnds_printed_scan_twoLines :
    (ofSettings ["p"] {}).files? twoLines = some [.ofPlace ["p", "A.java"]] ∧
      ∃ result, (ofSettings ["p"] {}).scan? twoLines false = some result ∧
        lineEnds (Report.printed ((Command.Outcome.scanned result false).report [])) =
          Report.expected result.issues + 1 := by
  have found : (ofSettings ["p"] {}).files? twoLines = some [.ofPlace ["p", "A.java"]] := by decide +kernel
  have quoted : lineEndsIn ([Path.ofPlace ["p", "A.java"]].flatMap (quotationsAt ({} : Settings).limits twoLines)) = 1 := by
    decide +kernel
  obtain ⟨result, scanned, printed, _⟩ :=
    (lineEnds_printed_scan ["p"] {} twoLines found (by decide +kernel) false false []).1
  exact ⟨found, result, scanned, by rw [printed, quoted]⟩

/-- No path there has a line end, but the description of the one issue has: the report takes six lines instead of
five. -/
theorem report_twoLines :
    let issue : Issue :=
      ⟨"/p/A.java", 1, "Uses g(\n System.out).println instead of structured logging", "console-output"⟩
    (ofSettings ["p"] {}).files? twoLines = some [.ofPlace ["p", "A.java"]] ∧
      '\n' ∉ (Path.ofPlace ["p", "A.java"]).text.toList ∧
      (ofSettings ["p"] {}).scan? twoLines false = some ⟨[issue], [], 1⟩ ∧
      (∃ line ∈ Report.lines [] [issue], '\n' ∈ line.toList) ∧
      lineEnds (Report.printed ((Command.Outcome.scanned ⟨[issue], [], 1⟩ false).report [])) = 6 := by
  decide +kernel

end Reviewer

end LogReview
