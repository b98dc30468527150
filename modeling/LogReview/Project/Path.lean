/-! Paths as they are written, and the places they name. A path keeps its `..` parts; empty parts and
single dots are dropped when it is read. -/
namespace LogReview

/-- What a path starts with. Exactly two slashes are kept apart from one. -/
inductive Anchor where
  | relative | slash | doubleSlash
deriving Repr, DecidableEq

structure Path where
  anchor : Anchor := .relative
  parts : List String
deriving Repr, DecidableEq

namespace Path

def splitSlashes : List Char → List (List Char)
  | [] => [[]]
  | c :: cs =>
    if c == '/' then [] :: splitSlashes cs
    else match splitSlashes cs with
      | part :: rest => (c :: part) :: rest
      | [] => [[c]]

def isEmptyPart (part : List Char) : Bool := part.isEmpty || part == ['.']

def ofText (s : String) : Path :=
  let parts := ((splitSlashes s.toList).filter (!isEmptyPart ·)).map String.ofList
  match s.toList with
  | '/' :: '/' :: '/' :: _ => ⟨.slash, parts⟩
  | '/' :: '/' :: _ => ⟨.doubleSlash, parts⟩
  | '/' :: _ => ⟨.slash, parts⟩
  | _ => ⟨.relative, parts⟩

/-- The path as text; an empty one is a dot. -/
def text (p : Path) : String :=
  let joined := String.intercalate "/" p.parts
  match p.anchor with
  | .relative => if p.parts.isEmpty then "." else joined
  | .slash => "/" ++ joined
  | .doubleSlash => "//" ++ joined

/-- The last part, empty if there is none. -/
def name (p : Path) : String := p.parts.getLastD ""

def isAbsolute (p : Path) : Bool := p.anchor != .relative

/-- `q` seen from `p`. -/
def join (p q : Path) : Path :=
  if q.isAbsolute then q else ⟨p.anchor, p.parts ++ q.parts⟩

/-- One step from a place, kept as its parts from the innermost out: `..` goes up, and stays at the root. -/
def step (place : List String) (part : String) : List String :=
  if part == ".." then place.tail else part :: place

/-- The place that is named by `parts` from the place `base`. -/
def follow (base parts : List String) : List String :=
  (parts.foldl step base.reverse).reverse

/-- The place named by a path that is read in the directory `cwd`: its parts from the root down,
without `..`. -/
def place (cwd : List String) (p : Path) : List String :=
  if p.isAbsolute then follow [] p.parts else follow cwd p.parts

/-- The absolute path of a place. -/
def ofPlace (place : List String) : Path := ⟨.slash, place⟩

end Path

end LogReview
