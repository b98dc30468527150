import LogReview.Number.Integer
import LogReview.Project.Configuration
import LogReview.Report
import LogReview.Scan
import LogReview.Terminal.Basic

/-! The command: what its arguments ask for, and what comes of it. -/
namespace LogReview.Command

/-- What the arguments say, in their own words. Of an option given twice the last counts. -/
structure Arguments where
  config : Option String := none
  jobs : Option String := none
  verbose : Bool := false
  help : Bool := false
  operands : List String := []
deriving Repr, DecidableEq

/-- Options with a value. -/
inductive Setting where
  | config | jobs
deriving Repr, DecidableEq

/-- The arguments read so far: an option may wait for its value, and options may have been ended. -/
structure Reading where
  arguments : Arguments := {}
  waiting : Option Setting := none
  ended : Bool := false
deriving Repr, DecidableEq

namespace Reading

def set (r : Reading) (s : Setting) (v : String) : Reading :=
  match s with
  | .config => { r with arguments := { r.arguments with config := some v }, waiting := none }
  | .jobs => { r with arguments := { r.arguments with jobs := some v }, waiting := none }

/-- An option with the value behind its equals sign, or with the next argument as its value. -/
def setting (r : Reading) (s : Setting) : Option String → Reading
  | some v => r.set s v
  | none => { r with waiting := some s }

def verbose (r : Reading) : Reading := { r with arguments := { r.arguments with verbose := true } }

def help (r : Reading) : Reading := { r with arguments := { r.arguments with help := true } }

def operand (r : Reading) (arg : String) : Reading :=
  { r with arguments := { r.arguments with operands := r.arguments.operands ++ [arg] } }

/-- Short options side by side; what follows one that takes a value is its value. -/
def shorts (r : Reading) : List Char → Option Reading
  | [] => some r
  | 'v' :: cs => shorts r.verbose cs
  | 'c' :: cs => some (r.setting .config (if cs.isEmpty then none else some (String.ofList cs)))
  | 'j' :: cs => some (r.setting .jobs (if cs.isEmpty then none else some (String.ofList cs)))
  | _ => none

/-- Splits an option at its first equals sign. -/
def splitValue (cs : List Char) : String × Option String :=
  let name := String.ofList (cs.takeWhile (· != '='))
  match cs.dropWhile (· != '=') with
  | [] => (name, none)
  | _ :: v => (name, some (String.ofList v))

def option (r : Reading) (cs : List Char) : Option Reading :=
  match splitValue cs with
  | ("--config", v) => some (r.setting .config v)
  | ("--jobs", v) => some (r.setting .jobs v)
  | ("--verbose", none) => some r.verbose
  | ("--help", none) => some r.help
  | _ =>
    match cs with
    | '-' :: '-' :: _ => none
    | _ => r.shorts cs.tail

/-- One argument more; none if it is no option of the command. -/
def next (r : Reading) (arg : String) : Option Reading :=
  match r.waiting with
  | some s => some (r.set s arg)
  | none =>
    if r.ended then some (r.operand arg)
    else if arg == "--" then some { r with ended := true }
    else match arg.toList with
      | '-' :: c :: cs => r.option ('-' :: c :: cs)
      | _ => some (r.operand arg)

end Reading

namespace Arguments

def read? (args : List String) : Option Arguments :=
  match args.foldlM Reading.next {} with
  | some r => if r.waiting.isSome then none else some r.arguments
  | none => none

end Arguments

/-- What is asked for. -/
structure Options where
  project : Option Path := none
  config : Option Path := none
  jobs : Option Int := none
  verbose : Bool := false
deriving Repr, DecidableEq

inductive Request where
  | help
  | scan (options : Options)
deriving Repr, DecidableEq

namespace Request

/-- A number of jobs is at least one. -/
def jobs? (text : String) : Option Int := (Number.read? text.toList).filter (1 ≤ ·)

/-- Help goes before values that are not right. -/
def ofArguments? (a : Arguments) : Option Request :=
  if a.help then some .help
  else
    let jobs : Option (Option Int) := match a.jobs with
      | none => some none
      | some text => (jobs? text).map some
    match jobs, a.operands with
    | some jobs, [] => some (.scan ⟨none, a.config.map Path.ofText, jobs, a.verbose⟩)
    | some jobs, [p] => some (.scan ⟨some (Path.ofText p), a.config.map Path.ofText, jobs, a.verbose⟩)
    | _, _ => none

def read? (args : List String) : Option Request := (Arguments.read? args).bind ofArguments?

end Request

/-- What the command did not foresee. -/
inductive Crash where
  | configuration (fault : Configuration.Fault)
  | pattern

inductive Outcome where
  | misused
  | helped
  | noProject
  | noDirectory (path : Path)
  | misconfigured (fault : Configuration.Fault)
  | crashed (crash : Crash)
  | scanned (result : ScanResult) (verbose : Bool)

/-- Whether a fault of the configuration is foreseen and told to the user. -/
def foreseen : Configuration.Fault → Bool
  | .missing _ => true
  | .unreadable o _ => o == .missing
  | .notText => false
  | .document .malformed => true
  | .document _ => false
  | .refused (.invalid _) => true
  | .refused _ => false

/-- The parts of a path from the root, as they are written. -/
def partsFrom (cwd : List String) (p : Path) : List String :=
  if p.isAbsolute then p.parts else cwd ++ p.parts

def scan (disk : Entry) (cwd : List String) (o : Options) : Outcome :=
  match o.project with
  | none => .noProject
  | some project =>
    if disk.hasDirectory (partsFrom cwd project) then
      let top := project.place cwd
      match Configuration.load disk.file? (o.config.map (·.place cwd)) top with
      | .error fault => if foreseen fault then .misconfigured fault else .crashed (.configuration fault)
      | .ok settings =>
        match (Reviewer.ofSettings top settings).scan? disk (1 < o.jobs.getD settings.jobs) with
        | some result => .scanned result o.verbose
        | none => .crashed .pattern
    else .noDirectory project

/-- The command with its arguments, in the directory `cwd`. -/
def run (disk : Entry) (cwd : List String) (args : List String) : Outcome :=
  match Request.read? args with
  | none => .misused
  | some .help => .helped
  | some (.scan o) => scan disk cwd o

namespace Outcome

def exitCode : Outcome → Nat
  | misused => 2
  | helped => 0
  | noProject | noDirectory _ | misconfigured _ | crashed _ => 1
  | scanned result _ => result.exitCode

/-- The lines of the report. No file has so many lines that their numbers could not be written. -/
def report (cwd : List String) : Outcome → List String
  | scanned result _ => (Report.lines cwd result.issues).map Terminal.plain
  | _ => []

/-- What is told about a configuration behind the sign of an error. -/
def configurationText : Configuration.Fault → String
  | .missing place =>
    let path := (Path.ofPlace place).text
    s!"Invalid configuration: Config file not found: {path}"
  | .refused (.invalid problems) =>
    let n := problems.length
    let noun := if n == 1 then "error" else "errors"
    s!"Invalid configuration: {n} validation {noun} for LogAuditSettings"
  | _ => "Invalid configuration"

def skipped (f : Failure) : String :=
  let file := f.file.text
  let reason := f.fault.reason
  Terminal.message '⚠' s!"Skipped {file}: {reason}"

/-- The messages beside the report. -/
def messages : Outcome → List String
  | misused | helped | crashed _ => []
  | noProject => ["Usage: logaudit <project-directory>"]
  | noDirectory path =>
    let shown := path.text
    [Terminal.message '✖' s!"Error: {shown} is not a valid directory"]
  | misconfigured fault => [Terminal.message '✖' (configurationText fault)]
  | scanned result verbose =>
    if verbose then
      let files := result.filesScanned
      let failed := result.failures.length
      result.failures.map skipped ++ [Terminal.message 'ℹ' s!"{files} file(s) scanned, {failed} skipped"]
    else []

end Outcome

end LogReview.Command
