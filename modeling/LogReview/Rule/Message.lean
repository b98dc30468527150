import LogReview.Rule.Hint
import LogReview.Rule.LogCall
import LogReview.Text.Blank

/-! Rules on what is given to a log call: its message and its other arguments. -/
namespace LogReview.Rule

/-- Objects given whole, one finding for each such argument. -/
def completeObjectsOf (src : Source) (call : Place) : List Finding :=
  call.arguments.zipIdx.filterMap fun (arg, i) =>
    if arg.kind == .literal || arg.kind == .binaryExpression then none
    else if !Hint.completeObject (arg.text src) then none
    else if i == 0 then some ⟨call, "Logging complete object as message"⟩
    else some ⟨call, "Logging potentially large object as argument"⟩

def completeObject : Rule :=
  ofFindings "complete-object" fun d => d.logCalls.flatMap (completeObjectsOf d.source)

/-- A first argument that is no text, or a blank one. -/
def missingContextOf (src : Source) (call : Place) : Option Finding :=
  match call.arguments with
  | [] => none
  | first :: _ =>
    if !first.isStringLiteral then some ⟨call, "Logging exception without message"⟩
    else if (Text.strip (first.stringValue src).toList).isEmpty then
      some ⟨call, "Logging without meaningful context (empty message)"⟩
    else none

def missingContext : Rule :=
  ofFindings "missing-context" fun d => d.logCalls.filterMap (missingContextOf d.source)

/-- The only argument is a text without placeholders. -/
def isHardcoded (src : Source) (call : Place) : Bool :=
  match call.arguments with
  | [arg] => arg.isStringLiteral && !Hint.placeholder (arg.stringValue src)
  | _ => false

def hardcodedMessage : Rule :=
  ofFindings "hardcoded-message" fun d =>
    (d.logCalls.filter (isHardcoded d.source)).map (⟨·, "Hardcoded log message without placeholders"⟩)

/-- The message, in characters, is longer than the limit. -/
def verboseOf (limit : Int) (src : Source) (call : Place) : Option Finding :=
  match call.arguments with
  | [] => none
  | first :: _ =>
    let length := (first.stringValue src).length
    if first.isStringLiteral && limit < length then
      some ⟨call, s!"Overly verbose log message ({length} chars)"⟩
    else none

def verboseMessage (limit : Int) : Rule :=
  ofFindings "verbose-message" fun d => d.logCalls.filterMap (verboseOf limit d.source)

/-- The only argument is a sum. -/
def isConcatenation (call : Place) : Bool :=
  match call.arguments with
  | [arg] => arg.kind == .binaryExpression && arg.operator == "+"
  | _ => false

def stringConcatenation : Rule :=
  ofFindings "string-concatenation" fun d =>
    (d.logCalls.filter isConcatenation).map (⟨·, "String concatenation instead of placeholders"⟩)

end LogReview.Rule
