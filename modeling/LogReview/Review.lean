import LogReview.Java.Program
import LogReview.Rule.Battery
import LogReview.Tree.Damage

/-! The review of one file: its issues, or why there are none. -/
namespace LogReview

/-- Why a file could not be reviewed. -/
inductive Fault where
  | malformed (line : Nat)
  | unreadable (message : String)
  | ruleFailed (message : String)
deriving Repr, DecidableEq

namespace Fault

def reason : Fault → String
  | malformed line => s!"syntax error near line {line}"
  | unreadable message => s!"unreadable: {message}"
  | ruleFailed message => s!"analysis failed: {message}"

end Fault

/-- A file that was skipped. -/
structure Failure where
  file : Path
  fault : Fault
deriving Repr, DecidableEq

/-- What is known about one file. -/
structure FileReport where
  file : Path
  issues : List Issue := []
  failure : Option Failure := none
deriving Repr, DecidableEq

namespace Document

/-- A text whose tree is whole is a document. -/
def ofSource (file : Path) (src : Source) : Except Fault Document :=
  let root := Java.parse src
  if root.isDamaged then .error (.malformed (root.errorLine src)) else .ok ⟨file, src, root⟩

end Document

namespace Review

def failed (file : Path) (fault : Fault) : FileReport := ⟨file, [], some ⟨file, fault⟩⟩

/-- A file is reviewed by all rules or skipped. -/
def ofDocument (rules : List Rule) (file : Path) : Except Fault Document → FileReport
  | .error fault => failed file fault
  | .ok d =>
    match Rule.checkAll rules d with
    | .ok issues => ⟨file, issues, none⟩
    | .error message => failed file (.ruleFailed message)

def ofSource (rules : List Rule) (file : Path) (src : Source) : FileReport :=
  ofDocument rules file (Document.ofSource file src)

end Review

end LogReview
