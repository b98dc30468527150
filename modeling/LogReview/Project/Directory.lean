import LogReview.Project.Path
import LogReview.Text.Quoted
import LogReview.Tree.Reading

/-! Directories with their files. Places are reached part by part, so `..` has to leave a directory that exists. -/
namespace LogReview

/-- Why an entry cannot be reached, read or changed. -/
inductive Obstacle where
  | missing | denied | exists | notDirectory | isDirectory
deriving Repr, DecidableEq

namespace Obstacle

def code : Obstacle → Nat
  | missing => 2
  | denied => 13
  | .exists => 17
  | notDirectory => 20
  | isDirectory => 21

def description : Obstacle → String
  | missing => "No such file or directory"
  | denied => "Permission denied"
  | .exists => "File exists"
  | notDirectory => "Not a directory"
  | isDirectory => "Is a directory"

def message (o : Obstacle) (path : String) : String :=
  let code := o.code
  let text := o.description
  let shown := Text.quoted path
  s!"[Errno {code}] {text}: {shown}"

end Obstacle

/-- A file has its content, or the reason why it cannot be read. -/
inductive Entry where
  | file (name : String) (content : Except Obstacle Source)
  | directory (name : String) (entries : List Entry)
deriving Inhabited

namespace Entry

def name : Entry → String
  | file name _ => name
  | directory name _ => name

def isFile : Entry → Bool
  | file .. => true
  | directory .. => false

def isDirectory : Entry → Bool
  | file .. => false
  | directory .. => true

/-- What a directory holds; a file holds nothing. -/
def entries : Entry → List Entry
  | file .. => []
  | directory _ es => es

/-- The entry reached from `here` by `parts`; `above` are the directories around it, innermost first. -/
def follow (above : List Entry) (here : Entry) : List String → Except Obstacle Entry
  | [] => .ok here
  | part :: parts =>
    match here with
    | file .. => .error .notDirectory
    | directory _ es =>
      if part == ".." then
        match above with
        | [] => follow [] here parts
        | outer :: above => follow above outer parts
      else
        match es.find? (·.name == part) with
        | some e => follow (here :: above) e parts
        | none => .error .missing

/-- The entry with these parts below a directory. -/
def locate (root : Entry) (parts : List String) : Except Obstacle Entry := follow [] root parts

def get? (root : Entry) (parts : List String) : Option Entry := (root.locate parts).toOption

def hasDirectory (root : Entry) (parts : List String) : Bool := (root.get? parts).any (·.isDirectory)

def hasFile (root : Entry) (parts : List String) : Bool := (root.get? parts).any (·.isFile)

def read (root : Entry) (parts : List String) : Except Obstacle Source :=
  match root.locate parts with
  | .error o => .error o
  | .ok (.directory ..) => .error .isDirectory
  | .ok (.file _ content) => content

/-- What reading gives, if there is a file with these parts. -/
def file? (root : Entry) (parts : List String) : Option (Except Obstacle Source) :=
  if root.hasFile parts then some (root.read parts) else none

/-- The entry `e` takes the place of the one with its name, or comes last. -/
def put (e : Entry) : List Entry → List Entry
  | [] => [e]
  | f :: fs => if f.name == e.name then e :: fs else f :: put e fs

/-- Makes a directory and the ones around it. -/
def makeDirectory (here : Entry) : List String → Except Obstacle Entry
  | [] => if here.isDirectory then .ok here else .error .exists
  | part :: parts =>
    match here with
    | file .. => .error .notDirectory
    | directory name es =>
      match makeDirectory ((es.find? (·.name == part)).getD (directory part [])) parts with
      | .ok e => .ok (directory name (put e es))
      | .error o => .error o

/-- Puts a file with this content in a directory that exists, or gives it to the file that is there. -/
def store (here : Entry) (content : Except Obstacle Source) : List String → Except Obstacle Entry
  | [] =>
    match here with
    | file name _ => .ok (file name content)
    | directory .. => .error .isDirectory
  | part :: parts =>
    match here with
    | file .. => .error .notDirectory
    | directory name es =>
      match es.find? (·.name == part), parts with
      | none, [] => .ok (directory name (put (file part content) es))
      | none, _ :: _ => .error .missing
      | some e, _ =>
        match store e content parts with
        | .ok e => .ok (directory name (put e es))
        | .error o => .error o

/-- Writes a file, which can be read then whatever was there. -/
def write (here : Entry) (content : Source) (parts : List String) : Except Obstacle Entry :=
  here.store (.ok content) parts

/-- Removes a file. -/
def delete (here : Entry) : List String → Except Obstacle Entry
  | [] => .error .isDirectory
  | part :: parts =>
    match here with
    | file .. => .error .notDirectory
    | directory name es =>
      match es.find? (·.name == part), parts with
      | none, _ => .error .missing
      | some (file ..), [] => .ok (directory name (es.filter (·.name != part)))
      | some e, parts =>
        match delete e parts with
        | .ok e => .ok (directory name (put e es))
        | .error o => .error o

mutual

/-- The parts of all directories from `here` down, outer ones first; `parts` are those of `here`. -/
def directoriesFrom (parts : List String) : Entry → List (List String)
  | file .. => []
  | directory _ es => parts :: directoriesIn parts es

def directoriesIn (parts : List String) : List Entry → List (List String)
  | [] => []
  | e :: es => directoriesFrom (parts ++ [e.name]) e ++ directoriesIn parts es

end

end Entry

end LogReview
