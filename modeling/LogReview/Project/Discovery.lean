import LogReview.Project.Glob

/-! The files of a project that are to be reviewed, in the order of their paths. -/
namespace LogReview.Discovery

/-- Paths are compared part by part. -/
def before : List String → List String → Bool
  | [], [] => false
  | [], _ :: _ => true
  | _ :: _, [] => false
  | a :: as, b :: bs => a < b || (a == b && before as bs)

/-- Adds a path to an ordered list that has each path once. -/
def insert (path : List String) : List (List String) → List (List String)
  | [] => [path]
  | p :: ps => if before path p then path :: p :: ps else if p == path then p :: ps else p :: insert path ps

def ordered (paths : List (List String)) : List (List String) := paths.foldl (fun ps p => insert p ps) []

/-- The extensions in effect. -/
def effective (extensions : List String) : List String := if extensions.isEmpty then [".java"] else extensions

/-- The files of one extension, at any depth below `top`; none if the extension makes no glob. -/
def withExtension? (disk : Entry) (top : List String) (extension : String) : Option (List (List String)) :=
  match Glob.ofText? ("*" ++ extension) with
  | none => none
  | some parts =>
    if disk.hasDirectory top then some ((Glob.select disk (.deep :: parts) top).filter disk.hasFile) else some []

/-- The files to review below `top`. -/
def files? (disk : Entry) (top : List String) (extensions : List String) : Option (List (List String)) :=
  match (effective extensions).mapM (withExtension? disk top) with
  | none => none
  | some found => some (ordered found.flatten)

end LogReview.Discovery
