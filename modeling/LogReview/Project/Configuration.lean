import LogReview.Project.Directory
import LogReview.Settings.Basic
import LogReview.Yaml.Load

/-! The configuration in effect: the file that is asked for, or the nearest one around the project. -/
namespace LogReview.Configuration

/-- The names a configuration can have, the first ones preferred. -/
def names : List String := ["logaudit.yaml", "logaudit.yml", ".logaudit.yaml", ".logaudit.yml"]

/-- A directory and those around it up to the root; `inner` are its parts from the innermost out. -/
def climb : List String → List (List String)
  | [] => [[]]
  | part :: inner => (part :: inner).reverse :: climb inner

/-- The places where a configuration for `dir` can be, the nearest directory first. -/
def candidates (dir : List String) : List (List String) :=
  (climb dir.reverse).flatMap fun d => names.map fun n => d ++ [n]

/-- What reading gives, for the places where files are. -/
abbrev Files := List String → Option (Except Obstacle Source)

/-- The place of the configuration for `dir`. -/
def find? (files : Files) (dir : List String) : Option (List String) :=
  (candidates dir).find? fun place => (files place).isSome

/-- Why there are no settings. -/
inductive Fault where
  | missing (place : List String)
  | unreadable (obstacle : Obstacle) (place : List String)
  | notText
  | document (fault : Yaml.Fault)
  | refused (refusal : Settings.Refusal)

/-- Line ends of all kinds become line feeds. -/
def lineFeeds : List Char → List Char
  | '\r' :: '\n' :: cs => '\n' :: lineFeeds cs
  | '\r' :: cs => '\n' :: lineFeeds cs
  | c :: cs => c :: lineFeeds cs
  | [] => []

/-- An empty value stands for a configuration without entries. -/
def settingsOf (v : Value) : Except Fault Settings :=
  match Settings.ofValue (if v.isVoid then .map [] else v) with
  | .ok s => .ok s
  | .error r => .error (.refused r)

def ofSource (content : Source) : Except Fault Settings :=
  match String.fromUTF8? content with
  | none => .error .notText
  | some text =>
    match Yaml.load (lineFeeds text.toList) with
    | .ok v => settingsOf v
    | .error f => .error (.document f)

/-- The settings of the file at `place`. -/
def ofFile (files : Files) (place : List String) : Except Fault Settings :=
  match files place with
  | some (.ok content) => ofSource content
  | some (.error o) => .error (.unreadable o place)
  | none => .error (.missing place)

/-- The settings for a directory; without a configuration they are the usual ones. -/
def near (files : Files) (dir : List String) : Except Fault Settings :=
  match find? files dir with
  | some place => ofFile files place
  | none => settingsOf (.map [])

/-- The settings for `dir`, from the file at `place` if one is asked for. -/
def load (files : Files) (place : Option (List String)) (dir : List String) : Except Fault Settings :=
  match place with
  | some p => ofFile files p
  | none => near files dir

end LogReview.Configuration
