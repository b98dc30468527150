import LogReview.Command

/-! The command line: reads the project and its configuration, and prints what comes of the command. -/
namespace LogReview.Main

/-- Files with what reading them gives, and directories without, by their places. -/
abbrev Found := List (List String × Option (Except Obstacle Source))

/-- What fails to be read counts as a file that may not be read. -/
def contentOf (read : IO Source) : IO (Except Obstacle Source) := do
  try return .ok (← read) catch _ => return .error .denied

/-- Links to directories are not followed. -/
partial def collect (place : List String) (entry : IO.FS.DirEntry) : IO Found := do
  let place := place ++ [entry.fileName]
  let info ← entry.path.symlinkMetadata
  if info.type == .dir then
    let mut found : Found := [(place, none)]
    for inner in ← entry.path.readDir do
      found := found ++ (← collect place inner)
    return found
  else if (← entry.path.pathExists) && !(← entry.path.isDir) then
    return [(place, some (← contentOf (IO.FS.readBinFile entry.path)))]
  else return []

def textOf (place : List String) : String := (Path.ofPlace place).text

def collectProject (place : List String) : IO Found := do
  let dir := (← IO.currentDir) / textOf place
  if ← dir.isDir then
    let mut found : Found := [(place, none)]
    for inner in ← dir.readDir do
      found := found ++ (← collect place inner)
    return found
  else return []

def collectFile (place : List String) : IO Found := do
  let path := (← IO.currentDir) / textOf place
  if (← path.pathExists) && !(← path.isDir) then return [(place, some (← contentOf (IO.FS.readBinFile path)))] else return []

def add (disk : Entry) : List String × Option (Except Obstacle Source) → Entry
  | (place, none) => (disk.makeDirectory place).toOption.getD disk
  | (place, some content) =>
    let disk := (disk.makeDirectory place.dropLast).toOption.getD disk
    (disk.store content place).toOption.getD disk

/-- What the command can look at: the project, and the files a configuration can be in. -/
def diskFor (cwd : List String) (args : List String) : IO Entry := do
  let empty := (Entry.directory "" []).makeDirectory cwd |>.toOption.getD (.directory "" [])
  match Command.Request.read? args with
  | some (.scan ⟨some project, config, _, _⟩) =>
    let top := project.place cwd
    let files := Configuration.candidates top ++ (config.map (·.place cwd)).toList
    let found := (← collectProject top) ++ (← files.mapM collectFile).flatten
    return found.foldl add empty
  | _ => return empty

def usage : String := "Usage: logaudit [--config FILE] [--jobs N] [--verbose] [--help] <project-directory>"

/-- What is printed where the outcome itself has no words. -/
def remark : Command.Outcome → List String
  | .misused => [usage]
  | .crashed .pattern => [Glob.refusalText]
  | .crashed (.configuration _) => ["The configuration cannot be read."]
  | _ => []

end LogReview.Main

open LogReview in
def main (args : List String) : IO UInt32 := do
  let here ← IO.currentDir
  let cwd := (Path.ofText here.toString).place []
  let outcome := Command.run (← Main.diskFor cwd args) cwd args
  match outcome with
  | .helped => IO.println Main.usage
  | _ => pure ()
  for line in outcome.report cwd do
    IO.println line
  for line in outcome.messages ++ Main.remark outcome do
    IO.eprintln line
  return outcome.exitCode.toUInt32
