import LogReview.Rule.LogCall
import LogReview.Text.Occurrence
import LogReview.Tree.Canonical

/-! Rules on how much is logged, and where to. -/
namespace LogReview.Rule

def excessiveOf (limit : Int) (src : Source) (method : Place) : Option Finding :=
  let count := (method.logCalls src).length
  let name := method.name src
  if limit < count then
    some ⟨method, s!"Excessive logging: {count} log statements in method {name}"⟩
  else none

def excessiveLogging (limit : Int) : Rule :=
  ofFindings "excessive-logging" fun d => d.methods.filterMap (excessiveOf limit d.source)

/-- One more occurrence of a text. -/
def countUp (t : String) : List (String × Nat) → List (String × Nat)
  | [] => [(t, 1)]
  | (u, n) :: rest => if u == t then (u, n + 1) :: rest else (u, n) :: countUp t rest

/-- The different texts in the order of their first occurrence, each with its count. -/
def tally (ts : List String) : List (String × Nat) :=
  ts.foldl (fun counts t => countUp t counts) []

def repeatedOf (src : Source) (method : Place) : List Finding :=
  let name := method.name src
  (tally ((method.logCalls src).map (·.canonicalText src))).filterMap fun (text, count) =>
    if 1 < count then
      some ⟨method, s!"Repeated log statement ({count} times) in method {name}: {text}"⟩
    else none

def repeatedLog : Rule :=
  ofFindings "repeated-log" fun d => d.methods.flatMap (repeatedOf d.source)

/-- The head of a loop counts as a part of it. -/
def logInLoop : Rule :=
  ofFindings "log-in-loop" fun d =>
    (d.logCalls.filter (·.hasAncestor .loop)).map (⟨·, "Logging inside loop (potential log flood)"⟩)

def consoleStreams : List String := ["System.out", "System.err"]

def consoleOf (src : Source) (call : Place) : Option Finding :=
  let scope := match call.scope? with
    | some s => s.text src
    | none => ""
  if call.name src == "println" && consoleStreams.any (fun s => Text.occurs s.toList scope.toList) then
    some ⟨call, s!"Uses {scope}.println instead of structured logging"⟩
  else none

def consoleOutput : Rule :=
  ofFindings "console-output" fun d => d.calls.filterMap (consoleOf d.source)

end LogReview.Rule
