import LogReview.Project.Directory

/-! Patterns for the names of files. A name pattern has `*` for any characters, `?` for one, and
classes in brackets; a glob is a list of name patterns, where `**` stands for directories of any depth. -/
namespace LogReview

/-- One element of a name pattern. -/
inductive Wildcard where
  | char (c : Char)
  | any
  | run
  | among (ranges : List (Char × Char))
  | outside (ranges : List (Char × Char))
deriving Repr, DecidableEq

namespace Wildcard

def inRanges (ranges : List (Char × Char)) (c : Char) : Bool := ranges.any fun r => r.1 ≤ c && c ≤ r.2

/-- Whether one character fits an element; a run is no matter of one character. -/
def fits : Wildcard → Char → Bool
  | char d, c => c == d
  | any, _ => true
  | run, _ => false
  | among ranges, c => inRanges ranges c
  | outside ranges, c => !inRanges ranges c

def suffixes : List Char → List (List Char)
  | [] => [[]]
  | c :: cs => (c :: cs) :: suffixes cs

def fitsAll : List Wildcard → List Char → Bool
  | [], cs => cs.isEmpty
  | run :: ws, cs => (suffixes cs).any (fitsAll ws)
  | _ :: _, [] => false
  | w :: ws, c :: cs => w.fits c && fitsAll ws cs

/-- Cuts the text of a class at the hyphens of its ranges. A hyphen at the start or behind a range is
a character like others; so `kept` is how many characters have to come before the next cut. -/
def cuts : Nat → List Char → List Char → List (List Char)
  | _, chunk, [] => [chunk.reverse]
  | 0, chunk, '-' :: cs => chunk.reverse :: cuts 2 [] cs
  | kept, chunk, c :: cs => cuts (kept - 1) (c :: chunk) cs

/-- A hyphen at the end is a character. -/
def closeCuts : List (List Char) → List (List Char)
  | [] => []
  | [c] => [c]
  | [c, []] => [c ++ ['-']]
  | c :: rest => c :: closeCuts rest

/-- Ranges that run backwards are left out with their ends. -/
def joinCuts : List (List Char) → List (List Char)
  | [] => []
  | c :: rest =>
    match c.reverse, joinCuts rest with
    | hi :: before, (lo :: more) :: others =>
      if lo < hi then (before.reverse ++ more) :: others else c :: (lo :: more) :: others
    | _, others => c :: others

def single (c : Char) : Char × Char := (c, c)

/-- The ranges of a class that goes on with the piece `cs`: between two pieces stands a hyphen. -/
def rangesFrom (cs : List Char) : List (List Char) → List (Char × Char)
  | [] => cs.map single
  | ds :: rest =>
    match cs.reverse, ds with
    | lo :: before, hi :: after => before.map single ++ (lo, hi) :: rangesFrom after rest
    | _, _ => cs.map single ++ rangesFrom ds rest

def rangesOf (cs : List Char) : List (Char × Char) :=
  match joinCuts (closeCuts (cuts 1 [] cs)) with
  | [] => []
  | piece :: rest => rangesFrom piece rest

/-- The class with the text `cs` between its brackets. -/
def ofClass (cs : List Char) : Wildcard :=
  match cs with
  | '!' :: rest => outside (rangesOf rest)
  | _ => among (rangesOf cs)

/-- Splits what follows an opening bracket at its closing one. A bracket that comes first is a character. -/
def class? (cs : List Char) : Option (List Char × List Char) :=
  let (lead, cs) := match cs with
    | '!' :: ']' :: rest => (['!', ']'], rest)
    | '!' :: rest => (['!'], rest)
    | ']' :: rest => ([']'], rest)
    | rest => ([], rest)
  match cs.dropWhile (· != ']') with
  | [] => none
  | _ :: rest => some (lead ++ cs.takeWhile (· != ']'), rest)

def readWith : Nat → List Char → List Wildcard
  | 0, _ => []
  | _, [] => []
  | fuel + 1, '*' :: cs => run :: readWith fuel cs
  | fuel + 1, '?' :: cs => any :: readWith fuel cs
  | fuel + 1, '[' :: cs =>
    match class? cs with
    | some (body, rest) => ofClass body :: readWith fuel rest
    | none => char '[' :: readWith fuel cs
  | fuel + 1, c :: cs => char c :: readWith fuel cs

def ofText (cs : List Char) : List Wildcard := readWith cs.length cs

end Wildcard

namespace Glob

inductive Part where
  | deep
  | exact (name : String)
  | wild (name : List Wildcard)
  | directory
deriving Repr, DecidableEq

/-- Whether two stars stand side by side. -/
def hasDoubleStar : List Char → Bool
  | '*' :: '*' :: _ => true
  | _ :: cs => hasDoubleStar cs
  | [] => false

def refusalText : String := "Invalid pattern: '**' can only be an entire path component"

/-- A double star is a part of its own or not at all. -/
def partOf? (cs : List Char) : Option Part :=
  if cs == ['*', '*'] then some .deep
  else if hasDoubleStar cs then none
  else if cs.any fun c => c == '*' || c == '?' || c == '[' then some (.wild (Wildcard.ofText cs))
  else some (.exact (String.ofList cs))

/-- A slash at the end asks for a directory. -/
def ofText? (s : String) : Option (List Part) :=
  let parts := (Path.splitSlashes s.toList).filter (!Path.isEmptyPart ·)
  match parts.mapM partOf? with
  | none => none
  | some ps => some (if s.toList.getLast? == some '/' then ps ++ [.directory] else ps)

/-- The paths below `path` that a glob names, in `root`. -/
def select (root : Entry) : List Part → List String → List (List String)
  | [], path => [path]
  | .directory :: _, path => [path]
  | .exact name :: rest, path =>
    let path := path ++ [name]
    if (root.get? path).any (fun e => rest.isEmpty || e.isDirectory) then select root rest path else []
  | .wild name :: rest, path =>
    let found := ((root.get? path).map Entry.entries).getD []
    let wanted := found.filter fun e => (rest.isEmpty || e.isDirectory) && Wildcard.fitsAll name e.name.toList
    wanted.flatMap fun e => select root rest (path ++ [e.name])
  | .deep :: rest, path =>
    ((root.get? path).map (Entry.directoriesFrom path)).getD [] |>.flatMap (select root rest)

end Glob

end LogReview
