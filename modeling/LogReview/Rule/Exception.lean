import LogReview.Rule.Hint
import LogReview.Rule.LogCall

/-! Rules on how exceptions are handled and shown. -/
namespace LogReview.Rule

def printStackTrace : Rule :=
  ofFindings "print-stack-trace" fun d =>
    (d.calls.filter (·.name d.source == "printStackTrace")).map
      (⟨·, "Uses e.printStackTrace() instead of structured logging"⟩)

/-- A `throw` stands directly in the innermost block around the call. -/
def isRethrown (call : Place) : Bool :=
  match call.enclosingBlock? with
  | some block => block.statements.any (·.kind == .throwStatement)
  | none => false

def logAndRethrow : Rule :=
  ofFindings "log-and-rethrow" fun d =>
    (d.logCalls.filter isRethrown).map (⟨·, "Logging and rethrowing detected"⟩)

def isExceptionName (src : Source) (arg : Place) : Bool :=
  arg.kind == .identifier && Hint.exception (arg.text src)

def inconsistentLevelOf (src : Source) (call : Place) : Option Finding :=
  match call.name src, call.arguments with
  | "info", _ :: second :: _ =>
    if isExceptionName src second then some ⟨call, "Inconsistent log level: info used for exception"⟩
    else none
  | "warn", [first] =>
    if first.isStringLiteral && Text.occurs "minor".toList (first.stringValue src).toList then
      some ⟨call, "Inconsistent log level: warn used for minor issue"⟩
    else none
  | _, _ => none

def inconsistentLevel : Rule :=
  ofFindings "inconsistent-level" fun d => d.calls.filterMap (inconsistentLevelOf d.source)

/-- A statement that does something about an exception. -/
def isAction (statement : Place) : Bool :=
  [Kind.throwStatement, .returnStatement, .breakStatement].contains statement.kind

/-- The log calls of a catch clause that does nothing else about its exception. -/
def idleCallsOf (src : Source) (clause : Place) : List Place :=
  match clause.body? with
  | some block => if block.statements.any isAction then [] else block.logCalls src
  | none => []

def caughtWithoutAction : Rule :=
  ofFindings "caught-without-action" fun d =>
    ((d.top.findAll .tryStatement).flatMap fun t => t.catchClauses.flatMap (idleCallsOf d.source)).map
      (⟨·, "Logging caught exception without action"⟩)

/-- A serious call with an exception after its message. -/
def appendsException (src : Source) (call : Place) : Bool :=
  ["error", "warn"].contains (call.name src) &&
    match call.arguments with
    | _ :: second :: rest => isExceptionName src ((second :: rest).getLastD second)
    | _ => false

def stackTraceOveruse : Rule :=
  ofFindings "stack-trace-overuse" fun d =>
    (d.calls.filter (appendsException d.source)).map (⟨·, "Overuse of exception stack trace in log"⟩)

end LogReview.Rule
