import LogReview.Proofs.Report.Lines

/-! What a report tells. If the places of the files have no colons, the lines of a report can be taken apart again: the
place ends at the first colon, the number at the next blank, and the rest is the description. Only a number with too
many digits keeps a report from being given. -/
namespace LogReview.Report
open LogReview.Path (IsPlace Leads)

/-- The absolute path that stands for the file of an issue. -/
def shown (cwd : List String) (i : Issue) : String := (Path.ofPlace ((Path.ofText i.file).place cwd)).text

/-- What the report tells of an issue; its rule is left out. -/
def told (cwd : List String) (i : Issue) : String × Int × String := (shown cwd i, i.line, i.description)

/-- How many decimal digits the line number of an issue has. -/
def digits (i : Issue) : Nat := (Nat.toDigits 10 i.line.natAbs).length

section Apart

end Apart

section Lists
variable {cwd : List String} {xs ys : List Issue}

end Lists

/-- A path with a colon can be taken for a shorter one with a longer description. -/
example :
    let long : Issue := ⟨"/a:1 - b", 2, "c", ""⟩
    let short : Issue := ⟨"/a", 1, "b:2 - c", ""⟩
    lines [] [long] = lines [] [short] ∧ told [] long ≠ told [] short := by
  decide +kernel

end LogReview.Report
