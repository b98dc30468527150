import LogReview.Issue
import LogReview.Number.Integer
import LogReview.Project.Path

/-! The report: a head, one line for each issue, and the total. -/
namespace LogReview.Report

def header : String := "Logging Issues Report:"

/-- The line of an issue, with a number of any size. Files are shown by their absolute places, seen from the directory
`cwd`. -/
def line (cwd : List String) (i : Issue) : String :=
  let file := (Path.ofPlace ((Path.ofText i.file).place cwd)).text
  s!"file://{file}:{i.line} - {i.description}"

def lines (cwd : List String) (issues : List Issue) : List String :=
  if issues.isEmpty then [header, "", "No issues found."]
  else
    let total := issues.length
    [header, ""] ++ issues.map (line cwd) ++ ["", s!"Total issues found: {total}"]

end LogReview.Report
