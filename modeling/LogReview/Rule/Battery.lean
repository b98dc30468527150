import LogReview.Rule.Exception
import LogReview.Rule.Message
import LogReview.Rule.Volume

/-! The fourteen rules in their order, and what they say together. -/
namespace LogReview

/-- The limits that some rules take. -/
structure Limits where
  logCalls : Int := 5
  messageLength : Int := 200
deriving Repr, DecidableEq

namespace Rule

def battery (limits : Limits) : List Rule :=
  [printStackTrace, logAndRethrow, completeObject, excessiveLogging limits.logCalls, consoleOutput,
   missingContext, hardcodedMessage, repeatedLog, logInLoop, verboseMessage limits.messageLength,
   inconsistentLevel, caughtWithoutAction, stringConcatenation, stackTraceOveruse]

/-- All issues of a document, rule after rule; the first rule that fails ends the list. -/
def checkAll : List Rule → Document → Except String (List Issue)
  | [], _ => .ok []
  | r :: rs, d => do
    let issues ← r.check d
    let rest ← checkAll rs d
    return issues ++ rest

def find? (id : String) (limits : Limits) : Option Rule :=
  (battery limits).find? (·.id == id)

end Rule

end LogReview
