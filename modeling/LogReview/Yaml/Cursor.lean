/-! A place in a YAML text, and what can be wrong with a text. -/
namespace LogReview.Yaml

/-- Why a text gives no value. A text may be no YAML at all, or be YAML with a scalar that has no value. -/
inductive Fault where
  | malformed
  | noCharacter (code : Nat)
  | noInteger (base : Nat) (text : String)
  | longInteger (digits : Nat)
  | noNumber (text : String)
  | noTruth (text : String)
  | emptyNumber
  | noDate
  | outOfRange (message : String)
  | notScalar
  | endless
deriving Repr, DecidableEq

/-- The text that is left, and how far one has come. -/
structure Cursor where
  rest : List Char
  pos : Nat := 0
  line : Nat := 0
  column : Nat := 0
deriving Repr

/-- The end of the text shows as this character, which no text holds. -/
def nothing : Char := '\x00'

def isBreak (c : Char) : Bool :=
  c == '\n' || c == '\r' || c == '\u0085' || c == '\u2028' || c == '\u2029'

def endsLine (c : Char) : Bool := c == nothing || isBreak c

def endsWord (c : Char) : Bool := c == ' ' || c == '\t' || endsLine c

/-- Letters, digits, `-` and `_`: what names of anchors and directives are made of. -/
def isNameChar (c : Char) : Bool := c.isAlphanum || c == '-' || c == '_'

namespace Cursor

def peek (c : Cursor) : Char := c.rest.headD nothing

def peekAt (c : Cursor) (k : Nat) : Char := c.rest.getD k nothing

def next (c : Cursor) : Cursor :=
  match c.rest with
  | [] => c
  | ch :: rest =>
    if isBreak ch then ⟨rest, c.pos + 1, c.line + 1, 0⟩
    else if ch == '\ufeff' then ⟨rest, c.pos + 1, c.line, c.column⟩
    else ⟨rest, c.pos + 1, c.line, c.column + 1⟩

def forward : Nat → Cursor → Cursor
  | 0, c => c
  | n + 1, c => forward n c.next

/-- The characters ahead that satisfy `p`, and the place behind them. -/
def takeWhile (p : Char → Bool) (c : Cursor) : List Char × Cursor :=
  let cs := c.rest.takeWhile p
  (cs, c.forward cs.length)

def skipWhile (p : Char → Bool) (c : Cursor) : Cursor := (c.takeWhile p).2

/-- One line break, as the text that it stands for; empty if there is none. -/
def takeBreak (c : Cursor) : List Char × Cursor :=
  if c.peek == '\u2028' || c.peek == '\u2029' then ([c.peek], c.next)
  else if isBreak c.peek then (['\n'], c.next)
  else ([], c)

/-- `---` or `...` with nothing right behind it. -/
def atMark (c : Cursor) (mark : List Char) : Bool :=
  mark.isPrefixOf c.rest && endsWord (c.peekAt 3)

def atDocumentMark (c : Cursor) : Bool := c.atMark ['-', '-', '-'] || c.atMark ['.', '.', '.']

/-- The rest of a line that may hold nothing but a comment. -/
def skipRestOfLine (c : Cursor) : Except Fault Cursor :=
  let c := c.skipWhile (· == ' ')
  let c := if c.peek == '#' then c.skipWhile (!endsLine ·) else c
  if endsLine c.peek then .ok c.takeBreak.2 else .error .malformed

end Cursor

end LogReview.Yaml
