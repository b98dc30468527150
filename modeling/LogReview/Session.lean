import LogReview.Scan

/-! One review of a project over time: the directory changes, settings are assigned, and files are reviewed
in between. What was set up at the start stays. -/
namespace LogReview

/-- Settings as they were assigned, which may be any values. -/
structure Assigned where
  logCalls : Value
  messageLength : Value
  extensions : Value
  jobs : Value

namespace Assigned

def ofSettings (s : Settings) : Assigned :=
  ⟨.int s.limits.logCalls, .int s.limits.messageLength, .list (s.extensions.map .text), .int s.jobs⟩

/-- Whether the jobs are more than one; only numbers can be compared. -/
def severalJobs (a : Assigned) : Except Value.Shape Bool :=
  match a.jobs with
  | .bool _ => .ok false
  | .int n => .ok (1 < n)
  | .float x => .ok (!x.isAtMostOne)
  | v => .error v.shape

end Assigned

namespace Session

inductive Section where
  | rules | scan
deriving Repr, DecidableEq

inductive Step where
  | write (name : String) (content : Source)
  | delete (name : String)
  | makeDirectory (name : String)
  | assign (part : Section) (field : String) (value : Value)
  | source (content : Source) (path : String)
  | file (name : String)
  | scan
  | rules
  | dropRules

inductive Answer where
  | done
  | settings (assigned : Assigned)
  | report (report : FileReport)
  | scanned (result : ScanResult)
  | ruleIds (ids : List String)
  | ruleCount (n : Nat)

/-- Why a step has no answer. -/
inductive Fault where
  | obstacle (o : Obstacle) (path : Path)
  | noField (part : Section) (field : String)
  | notComparable (shape : Value.Shape)
  | noPattern
deriving Repr, DecidableEq

end Session

/-- A project on a disk, how it is reviewed, and the settings as they are now. -/
structure Session where
  disk : Entry
  reviewer : Reviewer
  assigned : Assigned

namespace Session

/-- A review that has just been set up. `extra` changes its rules. -/
def start (disk : Entry) (top : List String) (settings : Settings) (extra : List Rule → List Rule) : Session :=
  let reviewer := Reviewer.ofSettings top settings
  ⟨disk, { reviewer with rules := extra reviewer.rules }, .ofSettings settings⟩

/-- The path of an entry of the project. -/
def path (s : Session) (name : String) : Path := (Path.ofPlace s.reviewer.top).join (Path.ofText name)

/-- The disk after a change at `path`. -/
def changed (s : Session) (path : Path) : Except Obstacle Entry → Session × Except Fault Answer
  | .ok disk => ({ s with disk := disk }, .ok .done)
  | .error o => (s, .error (.obstacle o path))

/-- The directories around a file are made before it is written. Who may not read it may not write it either. -/
def write (s : Session) (name : String) (content : Source) : Session × Except Fault Answer :=
  let path := s.path name
  let parent : Path := { path with parts := path.parts.dropLast }
  match s.disk.makeDirectory (parent.place []) with
  | .error o => (s, .error (.obstacle o parent))
  | .ok disk =>
    let s := { s with disk := disk }
    match disk.read (path.place []) with
    | .error .denied => (s, .error (.obstacle .denied path))
    | _ => s.changed path (disk.write content (path.place []))

def assign (s : Session) (part : Section) (field : String) (v : Value) : Session × Except Fault Answer :=
  let set (a : Assigned) : Session × Except Fault Answer := ({ s with assigned := a }, .ok (.settings a))
  match part, field with
  | .rules, "excessive_log_threshold" => set { s.assigned with logCalls := v }
  | .rules, "max_message_length" => set { s.assigned with messageLength := v }
  | .scan, "extensions" => set { s.assigned with extensions := v }
  | .scan, "jobs" => set { s.assigned with jobs := v }
  | part, field => (s, .error (.noField part field))

def scan (s : Session) : Except Fault Answer :=
  match s.assigned.severalJobs with
  | .error shape => .error (.notComparable shape)
  | .ok several =>
    match s.reviewer.scan? s.disk several with
    | some result => .ok (.scanned result)
    | none => .error .noPattern

/-- A step leads to the next state, and answers or fails. -/
def step (s : Session) : Step → Session × Except Fault Answer
  | .write name content => s.write name content
  | .delete name => s.changed (s.path name) (s.disk.delete ((s.path name).place []))
  | .makeDirectory name => s.changed (s.path name) (s.disk.makeDirectory ((s.path name).place []))
  | .assign part field v => s.assign part field v
  | .source content path => (s, .ok (.report (s.reviewer.source (Path.ofText path) content)))
  | .file name => (s, .ok (.report (s.reviewer.file s.disk (s.path name))))
  | .scan => (s, s.scan)
  | .rules => (s, .ok (.ruleIds (s.reviewer.rules.map (·.id))))
  | .dropRules => (s, .ok (.ruleCount s.reviewer.rules.length))

/-- The answers of the steps in order. -/
def run (s : Session) : List Step → List (Except Fault Answer)
  | [] => []
  | step :: steps =>
    let (s, answer) := s.step step
    answer :: run s steps

end Session

end LogReview
