import LogReview.Text.Utf8
import LogReview.Tree.Place

/-! Places read against the bytes of their file: text, position, and the parts of calls, methods,
blocks and literals. -/
namespace LogReview

/-- The bytes of one file. -/
abbrev Source := ByteArray

namespace Source

/-- The text between two offsets; an end past the last byte is cut. -/
def text (src : Source) (start stop : Nat) : String :=
  String.ofList (Text.decode (src.extract start stop))

/-- The number of line ends before an offset. -/
def row (src : Source) (offset : Nat) : Nat :=
  (src.extract 0 offset).data.count 10

def afterLastNewline : List UInt8 → Nat → Nat → Nat
  | [], _, best => best
  | b :: bs, i, best => afterLastNewline bs (i + 1) (if b == 10 then i + 1 else best)

/-- The number of bytes since the last line end before an offset. -/
def column (src : Source) (offset : Nat) : Nat :=
  offset - afterLastNewline (src.extract 0 offset).data.toList 0 0

end Source

namespace Place

def text (p : Place) (src : Source) : String :=
  src.text p.node.start p.node.stop

/-- Lines count from one. -/
def line (p : Place) (src : Source) : Nat := src.row p.node.start + 1

/-- Columns are counted in bytes, from one. -/
def column (p : Place) (src : Source) : Nat := src.column p.node.start + 1

/-- The text of the name, empty if there is none. -/
def name (p : Place) (src : Source) : String :=
  match p.childByField? "name" with
  | some n => n.text src
  | none => ""

/-- The receiver of a call. -/
def scope? (p : Place) : Option Place := p.childByField? "object"

def arguments (p : Place) : List Place :=
  match p.childByField? "arguments" with
  | some args => args.children
  | none => []

def statements (p : Place) : List Place :=
  if p.kind == .block then p.children else []

def body? (p : Place) : Option Place := p.childByField? "body"

def catchClauses (p : Place) : List Place :=
  p.children.filter fun c => c.kind == .catchClause

/-- The operator's own spelling is the type of its node. -/
def operator (p : Place) : String :=
  match p.childByField? "operator" with
  | some o => o.node.type
  | none => ""

def literalSort? (p : Place) : Option LiteralSort := p.node.literalSort?

def isStringLiteral (p : Place) : Bool := p.literalSort? == some .string

/-- What stands between the quotes, three at each end or one. -/
def unquote (cs : List Char) : List Char :=
  match cs with
  | '"' :: '"' :: '"' :: rest => rest.take (cs.length - 6)
  | _ => (cs.drop 1).take (cs.length - 2)

/-- The content of a string literal as it is written, escapes included. -/
def stringValue (p : Place) (src : Source) : String :=
  String.ofList (unquote (p.text src).toList)

end Place

end LogReview
