import LogReview.Yaml.Scalar

/-! The tokens of a YAML text. Whether something is a key shows only at the colon behind it, so a key's
token is put in later, at the place where the key started. -/
namespace LogReview.Yaml

inductive Token where
  | streamEnd
  | version (major : Nat)
  | tagHandle (handle replacement : String)
  | otherDirective
  | documentStart
  | documentEnd
  | sequenceStart
  | mappingStart
  | blockEnd
  | flowSequenceStart
  | flowSequenceEnd
  | flowMappingStart
  | flowMappingEnd
  | entry
  | flowEntry
  | key
  | value
  | alias (name : String)
  | anchor (name : String)
  | tag (handle : Option String) (suffix : String)
  | scalar (text : String) (plain : Bool)
  /-- Here the text cannot be read any further. -/
  | broken (fault : Fault)
deriving Repr, DecidableEq

/-- A token that may turn out to start a key. -/
structure PossibleKey where
  token : Nat
  required : Bool
  pos : Nat
  line : Nat
  column : Nat
deriving Repr

/-- How far a text has been read: the tokens so far, the open brackets, the columns of the open block
collections, and the possible keys of each depth of brackets. -/
structure Scan where
  cursor : Cursor
  tokens : List Token := []
  flow : Nat := 0
  indent : Int := -1
  indents : List Int := []
  keyAllowed : Bool := true
  keys : List (Nat × PossibleKey) := []

namespace Scan

def emit (s : Scan) (t : Token) : Scan := { s with tokens := s.tokens ++ [t] }

def insertAt (s : Scan) (i : Nat) (t : Token) : Scan :=
  { s with tokens := s.tokens.take i ++ t :: s.tokens.drop i }

def moveTo (s : Scan) (c : Cursor) : Scan := { s with cursor := c }

def allowKey (s : Scan) (b : Bool) : Scan := { s with keyAllowed := b }

/-- A key ends on its line, and within 1024 characters. -/
def isStale (s : Scan) (k : PossibleKey) : Bool :=
  k.line != s.cursor.line || 1024 < s.cursor.pos - k.pos

def dropStale (s : Scan) : Except Fault Scan :=
  if s.keys.any fun (_, k) => s.isStale k && k.required then .error .malformed
  else .ok { s with keys := s.keys.filter fun (_, k) => !s.isStale k }

def possibleKey? (s : Scan) : Option PossibleKey := (s.keys.find? (·.1 == s.flow)).map (·.2)

def forgetKey (s : Scan) : Except Fault Scan :=
  if (s.possibleKey?.map (·.required)).getD false then .error .malformed
  else .ok { s with keys := s.keys.filter (·.1 != s.flow) }

/-- What comes next may be a key. -/
def noteKey (s : Scan) : Except Fault Scan :=
  if s.keyAllowed then do
    let s ← s.forgetKey
    let required := s.flow == 0 && s.indent == s.cursor.column
    let k : PossibleKey := ⟨s.tokens.length, required, s.cursor.pos, s.cursor.line, s.cursor.column⟩
    return { s with keys := (s.flow, k) :: s.keys }
  else .ok s

def unwindFrom : Nat → Int → Scan → Scan
  | 0, _, s => s
  | fuel + 1, column, s =>
    if column < s.indent then
      match s.indents with
      | i :: rest => unwindFrom fuel column { s.emit .blockEnd with indent := i, indents := rest }
      | [] => s
    else s

/-- Ends the block collections that are indented deeper than the column. -/
def unwind (s : Scan) (column : Int) : Scan :=
  if s.flow == 0 then unwindFrom s.indents.length column s else s

/-- A new block collection, if the column is deeper than the last one. -/
def deepen? (s : Scan) (column : Nat) : Option Scan :=
  if s.indent < column then some { s with indent := column, indents := s.indent :: s.indents } else none

def skipBlanksFrom : Nat → Scan → Scan
  | 0, s => s
  | fuel + 1, s =>
    let c := s.cursor.skipWhile (· == ' ')
    let c := if c.peek == '#' then c.skipWhile (!endsLine ·) else c
    if isBreak c.peek then
      skipBlanksFrom fuel { s with cursor := c.takeBreak.2, keyAllowed := s.keyAllowed || s.flow == 0 }
    else s.moveTo c

/-- To the next token: over blanks, comments and line ends. Tabs are no blanks here. -/
def skipBlanks (s : Scan) : Scan :=
  let s := if s.cursor.pos == 0 && s.cursor.peek == '\ufeff' then s.moveTo s.cursor.next else s
  skipBlanksFrom (s.cursor.rest.length + 1) s

/-! Directives and tags. -/

def isUriChar (c : Char) : Bool := c.isAlphanum || "-;/?:@&=+$,_.!~*'()[]".toList.contains c

def uriBytes : Nat → List UInt8 → Cursor → Except Fault (List UInt8 × Cursor)
  | 0, _, _ => .error .malformed
  | fuel + 1, bs, c =>
    if c.peek == '%' then
      match readHex? 2 0 c.next.rest with
      | some n => uriBytes fuel (bs ++ [n.toUInt8]) (c.forward 3)
      | none => .error .malformed
    else .ok (bs, c)

def uriFrom : Nat → List Char → Cursor → Except Fault (List Char × Cursor)
  | 0, _, _ => .error .malformed
  | fuel + 1, text, c =>
    if c.peek == '%' then do
      let (bs, c) ← uriBytes (c.rest.length + 1) [] c
      match String.fromUTF8? ⟨bs.toArray⟩ with
      | some s => uriFrom fuel (text ++ s.toList) c
      | none => throw .malformed
    else if isUriChar c.peek then uriFrom fuel (text ++ [c.peek]) c.next
    else if text.isEmpty then .error .malformed
    else .ok (text, c)

def uri (c : Cursor) : Except Fault (String × Cursor) := do
  let (text, c) ← uriFrom (c.rest.length + 1) [] c
  return (String.ofList text, c)

/-- `!`, `!!` or `!name!`. -/
def handle (c : Cursor) : Except Fault (String × Cursor) :=
  if c.peek != '!' then .error .malformed
  else if c.peekAt 1 == ' ' then .ok ("!", c.next)
  else
    let (name, d) := c.next.takeWhile isNameChar
    if d.peek == '!' then .ok (String.ofList ('!' :: name ++ ['!']), d.next) else .error .malformed

def number (c : Cursor) : Except Fault (Nat × Cursor) :=
  let (ds, c) := c.takeWhile Char.isDigit
  if ds.isEmpty then .error .malformed
  else .ok (ds.foldl (fun n d => 10 * n + (d.toNat - 48)) 0, c)

def endsUri (c : Char) : Bool := c == ' ' || endsLine c

/-- A line that starts with a percent sign. -/
def directive (c : Cursor) : Except Fault (Token × Cursor) := do
  let (name, c) := c.next.takeWhile isNameChar
  if name.isEmpty || !endsUri c.peek then throw .malformed
  let blank (c : Cursor) : Cursor := c.skipWhile (· == ' ')
  if name == "YAML".toList then
    let (major, c) ← number (blank c)
    if c.peek != '.' then throw .malformed
    let (_, c) ← number c.next
    if !endsUri c.peek then throw .malformed
    return (.version major, ← c.skipRestOfLine)
  else if name == "TAG".toList then
    let (h, c) ← handle (blank c)
    if c.peek != ' ' then throw .malformed
    let (r, c) ← uri (blank c)
    if !endsUri c.peek then throw .malformed
    return (.tagHandle h r, ← c.skipRestOfLine)
  else
    return (.otherDirective, ← (c.skipWhile (!endsLine ·)).skipRestOfLine)

/-- Whether an exclamation mark follows in the same word. -/
def hasHandle (c : Cursor) : Bool := (c.next.rest.takeWhile (!endsUri ·)).contains '!'

def tag (c : Cursor) : Except Fault (Token × Cursor) := do
  let (t, c) ←
    if c.peekAt 1 == '<' then do
      let (u, c) ← uri (c.forward 2)
      if c.peek != '>' then throw .malformed
      pure (Token.tag none u, c.next)
    else if endsWord (c.peekAt 1) then pure (Token.tag none "!", c.next)
    else do
      let (h, c) ← if hasHandle c then handle c else pure ("!", c.next)
      let (u, c) ← uri c
      pure (Token.tag (some h) u, c)
  if endsUri c.peek then return (t, c) else throw .malformed

/-- The name behind `&` or `*`. -/
def anchorName (c : Cursor) : Except Fault (String × Cursor) :=
  let (name, c) := c.next.takeWhile isNameChar
  if name.isEmpty then .error .malformed
  else if endsWord c.peek || "?:,]\x7d%@\x60".toList.contains c.peek then .ok (String.ofList name, c)
  else .error .malformed

/-! One token after the other. -/

/-- A token of `n` characters. -/
def take (s : Scan) (n : Nat) (t : Token) : Scan := (s.moveTo (s.cursor.forward n)).emit t

def outermost (s : Scan) : Except Fault Scan := (s.unwind (-1)).forgetKey

def fetchMark (s : Scan) (t : Token) : Except Fault Scan := do
  return ((← s.outermost).allowKey false).take 3 t

def openFlow (s : Scan) (t : Token) : Except Fault Scan := do
  let s ← s.noteKey
  return ({ s with flow := s.flow + 1, keyAllowed := true }).take 1 t

def closeFlow (s : Scan) (t : Token) : Except Fault Scan := do
  let s ← s.forgetKey
  if s.flow == 0 then throw .malformed
  return ({ s with flow := s.flow - 1, keyAllowed := false }).take 1 t

/-- `-` or `?` in block style, which may open a collection. -/
def openBlock (s : Scan) (start : Token) : Except Fault Scan :=
  if s.flow != 0 then .ok s
  else if !s.keyAllowed then .error .malformed
  else match s.deepen? s.cursor.column with
    | some s => .ok (s.emit start)
    | none => .ok s

def fetchEntry (s : Scan) : Except Fault Scan := do
  let s ← s.openBlock .sequenceStart
  return (← (s.allowKey true).forgetKey).take 1 .entry

def fetchKey (s : Scan) : Except Fault Scan := do
  let s ← s.openBlock .mappingStart
  return (← (s.allowKey (s.flow == 0)).forgetKey).take 1 .key

def fetchValue (s : Scan) : Except Fault Scan :=
  match s.possibleKey? with
  | some k =>
    let s := { s with keys := s.keys.filter (·.1 != s.flow) }
    let s := s.insertAt k.token .key
    let s := if s.flow != 0 then s else match s.deepen? k.column with
      | some s => s.insertAt k.token .mappingStart
      | none => s
    .ok ((s.allowKey false).take 1 .value)
  | none => do
    let s ← s.openBlock .mappingStart
    return (← (s.allowKey (s.flow == 0)).forgetKey).take 1 .value

/-- A token that may be a key. -/
def fetchNode (s : Scan) (read : Cursor → Except Fault (Token × Cursor)) : Except Fault Scan := do
  let s ← s.noteKey
  let (t, c) ← read s.cursor
  return ((s.allowKey false).moveTo c).emit t

def fetchPlain (s : Scan) : Except Fault Scan := do
  let s ← s.noteKey
  let (text, c, crossed) := plainFrom (s.flow != 0) (s.indent + 1) (s.cursor.rest.length + 1) [] [] s.cursor false
  return ((s.allowKey crossed).moveTo c).emit (.scalar (String.ofList text) true)

def fetchBlock (s : Scan) (folded : Bool) : Except Fault Scan := do
  let s ← (s.allowKey true).forgetKey
  let (text, c) ← block folded s.indent s.cursor.next
  return (s.moveTo c).emit (.scalar (String.ofList text) false)

def fetchQuoted (c : Cursor) : Except Fault (Token × Cursor) := do
  let (text, c) ← quoted c
  return (.scalar (String.ofList text) false, c)

def indicators : List Char := "-?:,[]\x7b\x7d#&*!|>'\"%@\x60".toList

def startsPlain (s : Scan) : Bool :=
  let ch := s.cursor.peek
  let follow := s.cursor.peekAt 1
  !(endsWord ch || indicators.contains ch) ||
    (!endsWord follow && (ch == '-' || (s.flow == 0 && (ch == '?' || ch == ':'))))

/-- Whether the character ahead stands alone, as block indicators do. -/
def alone (s : Scan) : Bool := endsWord (s.cursor.peekAt 1)

/-- The next token; at the end of the text none but the last. -/
def fetch (s : Scan) : Except Fault Scan := do
  let s ← s.skipBlanks.dropStale
  let s := s.unwind s.cursor.column
  let ch := s.cursor.peek
  let atStart := s.cursor.column == 0
  let named (t : String → Token) (c : Cursor) : Except Fault (Token × Cursor) := do
    let (name, c) ← anchorName c
    return (t name, c)
  if ch == nothing then
    return ((← s.outermost).allowKey false).emit .streamEnd
  else if ch == '%' && atStart then
    let s ← s.outermost
    let (t, c) ← directive s.cursor
    return ((s.allowKey false).moveTo c).emit t
  else if atStart && s.cursor.atMark ['-', '-', '-'] then s.fetchMark .documentStart
  else if atStart && s.cursor.atMark ['.', '.', '.'] then s.fetchMark .documentEnd
  else if ch == '[' then s.openFlow .flowSequenceStart
  else if ch == '{' then s.openFlow .flowMappingStart
  else if ch == ']' then s.closeFlow .flowSequenceEnd
  else if ch == '}' then s.closeFlow .flowMappingEnd
  else if ch == ',' then return (← (s.allowKey true).forgetKey).take 1 .flowEntry
  else if ch == '-' && s.alone then s.fetchEntry
  else if ch == '?' && (s.flow != 0 || s.alone) then s.fetchKey
  else if ch == ':' && (s.flow != 0 || s.alone) then s.fetchValue
  else if ch == '*' then s.fetchNode (named .alias)
  else if ch == '&' then s.fetchNode (named .anchor)
  else if ch == '!' then s.fetchNode tag
  else if ch == '|' && s.flow == 0 then s.fetchBlock false
  else if ch == '>' && s.flow == 0 then s.fetchBlock true
  else if ch == '\'' || ch == '"' then s.fetchNode fetchQuoted
  else if s.startsPlain then s.fetchPlain
  else throw .malformed

/-- The number of tokens that are given out before the next one is read: those in front of the first that may still
turn out to start a key. -/
def settled (s : Scan) : Nat :=
  (s.keys.filter fun (_, k) => !s.isStale k).foldl (fun n (_, k) => min n k.token) s.tokens.length

/-- All tokens. What cannot be read shows as soon as it is looked for, which is before the tokens held back. -/
def fetchAll : Nat → Scan → Scan
  | 0, s => s.emit (.broken .malformed)
  | fuel + 1, s =>
    match s.fetch with
    | .ok t => if t.tokens.getLast? == some .streamEnd then t else fetchAll fuel t
    | .error f => { s with tokens := s.tokens.take s.settled ++ [.broken f] }

end Scan

/-- Characters that a YAML text may hold. -/
def isAllowed (c : Char) : Bool :=
  c == '\t' || c == '\n' || c == '\r' || (' ' ≤ c && c ≤ '~') || c == '\u0085' ||
    ('\u00a0' ≤ c && c ≠ '\ufffe' && c ≠ '\uffff')

/-- The tokens of a text. -/
def tokens (text : List Char) : List Token :=
  if text.all isAllowed then (Scan.fetchAll (text.length + 2) { cursor := { rest := text } }).tokens
  else [.broken .malformed]

end LogReview.Yaml
