import LogReview.Issue
import LogReview.Project.Path
import LogReview.Tree.Reading

/-! Rules over documents. A rule either lists its issues or fails with a message. -/
namespace LogReview

/-- A file that has been parsed. -/
structure Document where
  file : Path
  source : Source
  root : Node

namespace Document

def top (d : Document) : Place := Place.root d.root

end Document

structure Rule where
  id : String
  check : Document → Except String (List Issue)

/-- Something to say about a place. -/
structure Finding where
  place : Place
  text : String

namespace Rule

/-- The issue of a finding is at the line where the place begins. -/
def issue (id : String) (d : Document) (f : Finding) : Issue :=
  ⟨d.file.text, f.place.line d.source, f.text, id⟩

/-- A rule that never fails. -/
def ofFindings (id : String) (find : Document → List Finding) : Rule :=
  ⟨id, fun d => .ok ((find d).map (issue id d))⟩

/-- A rule that fails on the files whose names begin with `start`, and has nothing to say on others. -/
def refusing (id start message : String) : Rule :=
  ⟨id, fun d => if start.toList.isPrefixOf d.file.name.toList then .error message else .ok []⟩

end Rule

end LogReview
