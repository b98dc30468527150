import LogReview.Collector
import LogReview.Project.Discovery
import LogReview.Review
import LogReview.Settings.Basic

/-! The review of a project: its files one after the other, or several at a time. -/
namespace LogReview

/-- What is fixed when a review is set up: where the project is, which rules look at it, and which
files it has. -/
structure Reviewer where
  top : List String
  rules : List Rule
  extensions : List String

/-- What a scan gives. -/
structure ScanResult where
  issues : List Issue
  failures : List Failure
  filesScanned : Nat
deriving Repr, DecidableEq

namespace ScanResult

/-- Findings and skipped files do not make a scan fail. -/
def exitCode (_ : ScanResult) : Nat := 0

/-- The reports of the files in order. -/
def ofReports (reports : List FileReport) : ScanResult :=
  let whole := reports.filter (·.failure.isNone)
  ⟨(whole.foldl (fun (c : Collector) r => c.extend r.issues) {}).toList, reports.filterMap (·.failure), reports.length⟩

end ScanResult

namespace Reviewer

def ofSettings (top : List String) (settings : Settings) : Reviewer :=
  ⟨top, Rule.battery settings.limits, settings.extensions⟩

/-- The review of a text as the file `file`. -/
def source (r : Reviewer) (file : Path) (src : Source) : FileReport := Review.ofSource r.rules file src

/-- The review of a file, whose path is seen from the root of `disk`. -/
def file (r : Reviewer) (disk : Entry) (path : Path) : FileReport :=
  match disk.read path.parts with
  | .ok src => r.source path src
  | .error o => Review.failed path (.unreadable (o.message path.text))

def files? (r : Reviewer) (disk : Entry) : Option (List Path) :=
  (Discovery.files? disk r.top r.extensions).map (·.map Path.ofPlace)

/-- One report for each path. With several jobs each report is a task of its own. -/
def reports (r : Reviewer) (disk : Entry) (several : Bool) (paths : List Path) : List FileReport :=
  if several then (paths.map fun p => Task.spawn fun _ => r.file disk p).map Task.get
  else paths.map (r.file disk)

/-- Tasks change nothing about the reports. -/
@[simp] theorem reports_eq_map (r : Reviewer) (disk : Entry) (several : Bool) (paths : List Path) :
    r.reports disk several paths = paths.map (r.file disk) := by
  cases several
  · rfl
  · simp only [reports, if_true, List.map_map]
    rfl

/-- The scan of the whole project; none if an extension makes no pattern. -/
def scan? (r : Reviewer) (disk : Entry) (several : Bool) : Option ScanResult :=
  (r.files? disk).map fun paths => ScanResult.ofReports (r.reports disk several paths)

end Reviewer

end LogReview
