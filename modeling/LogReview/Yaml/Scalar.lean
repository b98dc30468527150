import LogReview.Yaml.Cursor

/-! The texts of YAML scalars: plain ones, quoted ones and blocks. Line breaks inside of them are folded. -/
namespace LogReview.Yaml

/-- What a single line break and the empty lines after it become. -/
def foldBreaks (first breaks : List Char) : List Char :=
  if first != ['\n'] then first ++ breaks
  else if breaks.isEmpty then [' ']
  else breaks

/-! Plain scalars. -/

/-- Whether a plain scalar stops in front of `c`, with `d` behind it. -/
def stopsPlain (inFlow : Bool) (c d : Char) : Bool :=
  endsWord c || (c == ':' && (endsWord d || (inFlow && [',', '[', ']', '{', '}'].contains d))) ||
    (inFlow && [',', '?', '[', ']', '{', '}'].contains c)

def plainRun (inFlow : Bool) : List Char → List Char
  | [] => []
  | c :: rest => if stopsPlain inFlow c (rest.headD nothing) then [] else c :: plainRun inFlow rest

/-- Blanks and empty lines; none if a document ends there. -/
def emptyLines (fuel : Nat) (breaks : List Char) (c : Cursor) : Option (List Char) × Cursor :=
  match fuel with
  | 0 => (some breaks, c)
  | fuel + 1 =>
    if c.peek == ' ' then emptyLines fuel breaks c.next
    else if isBreak c.peek then
      let (b, c) := c.takeBreak
      if c.atDocumentMark then (none, c) else emptyLines fuel (breaks ++ b) c
    else (some breaks, c)

/-- What parts two runs of a plain scalar, and whether a line ends there. -/
def plainGap (c : Cursor) : Option (List Char) × Cursor × Bool :=
  let (blanks, c) := c.takeWhile (· == ' ')
  if isBreak c.peek then
    let (first, c) := c.takeBreak
    if c.atDocumentMark then (none, c, true)
    else match emptyLines c.rest.length [] c with
      | (some breaks, c) => (some (foldBreaks first breaks), c, true)
      | (none, c) => (none, c, true)
  else (some blanks, c, false)

/-- A plain scalar, the place behind it and whether a line ends there. -/
def plainFrom (inFlow : Bool) (indent : Int) :
    Nat → List Char → List Char → Cursor → Bool → List Char × Cursor × Bool
  | 0, text, _, c, crossed => (text, c, crossed)
  | fuel + 1, text, gap, c, crossed =>
    if c.peek == '#' then (text, c, crossed)
    else
      let run := plainRun inFlow c.rest
      if run.isEmpty then (text, c, crossed)
      else
        let text := text ++ gap ++ run
        match plainGap (c.forward run.length) with
        | (some gap, c, crossed) =>
          if gap.isEmpty || c.peek == '#' || (!inFlow && (c.column : Int) < indent) then (text, c, crossed)
          else plainFrom inFlow indent fuel text gap c crossed
        | (none, c, crossed) => (text, c, crossed)

/-! Quoted scalars. -/

def escapeOf? (c : Char) : Option Char :=
  ([('0', '\x00'), ('a', '\x07'), ('b', '\x08'), ('t', '\t'), ('\t', '\t'), ('n', '\n'), ('v', '\x0b'),
    ('f', '\x0c'), ('r', '\r'), ('e', '\x1b'), (' ', ' '), ('"', '"'), ('\\', '\\'), ('/', '/'),
    ('N', '\u0085'), ('_', '\u00a0'), ('L', '\u2028'), ('P', '\u2029')].find? (·.1 == c)).map (·.2)

def codeLength? (c : Char) : Option Nat :=
  if c == 'x' then some 2 else if c == 'u' then some 4 else if c == 'U' then some 8 else none

def hexValue? (c : Char) : Option Nat :=
  if '0' ≤ c && c ≤ '9' then some (c.toNat - 48)
  else if 'a' ≤ c && c ≤ 'f' then some (c.toNat - 87)
  else if 'A' ≤ c && c ≤ 'F' then some (c.toNat - 55)
  else none

def readHex? : Nat → Nat → List Char → Option Nat
  | 0, n, _ => some n
  | k + 1, n, c :: rest => (hexValue? c).bind fun d => readHex? k (16 * n + d) rest
  | _ + 1, _, [] => none

/-- Empty lines inside quotes, where no document may end. -/
def quotedBreaks : Nat → List Char → Cursor → Except Fault (List Char × Cursor)
  | 0, _, _ => .error .malformed
  | fuel + 1, breaks, c =>
    if c.atDocumentMark then .error .malformed
    else
      let c := c.skipWhile fun ch => ch == ' ' || ch == '\t'
      if isBreak c.peek then
        let (b, c) := c.takeBreak
        quotedBreaks fuel (breaks ++ b) c
      else .ok (breaks, c)

def quotedGap (c : Cursor) : Except Fault (List Char × Cursor) :=
  let (blanks, c) := c.takeWhile fun ch => ch == ' ' || ch == '\t'
  if c.peek == nothing then .error .malformed
  else if isBreak c.peek then do
    let (first, c) := c.takeBreak
    let (breaks, c) ← quotedBreaks (c.rest.length + 1) [] c
    return (foldBreaks first breaks, c)
  else .ok (blanks, c)

/-- An escape in double quotes, behind its backslash. -/
def escaped (c : Cursor) : Except Fault (List Char × Cursor) :=
  match escapeOf? c.peek with
  | some ch => .ok ([ch], c.next)
  | none =>
    match codeLength? c.peek with
    | some n =>
      let c := c.next
      match readHex? n 0 c.rest with
      | some code =>
        if 0x110000 ≤ code then .error (.noCharacter code)
        else .ok ([if code.isValidChar then Char.ofNat code else '\ufffd'], c.forward n)
      | none => .error .malformed
    | none =>
      if isBreak c.peek then quotedBreaks (c.rest.length + 1) [] c.takeBreak.2 else .error .malformed

def stopsQuoted (c : Char) : Bool := c == '\'' || c == '"' || c == '\\' || endsWord c

/-- The text from `c` on, up to the closing quote. -/
def quotedFrom (quote : Char) : Nat → List Char → Cursor → Except Fault (List Char × Cursor)
  | 0, _, _ => .error .malformed
  | fuel + 1, text, c =>
    let (run, c) := c.takeWhile (!stopsQuoted ·)
    let text := text ++ run
    let ch := c.peek
    if quote == '\'' && ch == '\'' && c.peekAt 1 == '\'' then quotedFrom quote fuel (text ++ ['\'']) (c.forward 2)
    else if ch == quote then .ok (text, c.next)
    else if ch == '\'' || ch == '"' || (ch == '\\' && quote == '\'') then quotedFrom quote fuel (text ++ [ch]) c.next
    else if ch == '\\' then do
      let (e, c) ← escaped c.next
      quotedFrom quote fuel (text ++ e) c
    else do
      let (gap, c) ← quotedGap c
      quotedFrom quote fuel (text ++ gap) c

def quoted (c : Cursor) : Except Fault (List Char × Cursor) :=
  quotedFrom c.peek (c.rest.length + 1) [] c.next

/-! Block scalars. -/

/-- What becomes of the line breaks at the end of a block. -/
inductive Chomping where
  | strip | clip | keep
deriving Repr, DecidableEq

structure BlockHeader where
  chomping : Chomping := .clip
  increment : Option Nat := none

def chompingOf? (c : Char) : Option Chomping :=
  if c == '+' then some .keep else if c == '-' then some .strip else none

def incrementOf? (c : Char) : Except Fault (Option Nat) :=
  if c == '0' then .error .malformed
  else if '1' ≤ c && c ≤ '9' then .ok (some (c.toNat - 48))
  else .ok none

/-- The marks behind `|` or `>`, in either order. -/
def blockHeader (c : Cursor) : Except Fault (BlockHeader × Cursor) :=
  match chompingOf? c.peek with
  | some chomping => do
    let c := c.next
    match ← incrementOf? c.peek with
    | some n => return (⟨chomping, some n⟩, c.next)
    | none => return (⟨chomping, none⟩, c)
  | none => do
    match ← incrementOf? c.peek with
    | some n =>
      let c := c.next
      match chompingOf? c.peek with
      | some chomping => return (⟨chomping, some n⟩, c.next)
      | none => return (⟨.clip, some n⟩, c)
    | none => return ({}, c)

/-- Empty lines at the start of a block, and the deepest column among them. -/
def blockStart : Nat → List Char → Nat → Cursor → List Char × Nat × Cursor
  | 0, breaks, deepest, c => (breaks, deepest, c)
  | fuel + 1, breaks, deepest, c =>
    if c.peek == ' ' then blockStart fuel breaks (max deepest c.next.column) c.next
    else if isBreak c.peek then
      let (b, c) := c.takeBreak
      blockStart fuel (breaks ++ b) deepest c
    else (breaks, deepest, c)

def skipIndent (indent : Nat) : Nat → Cursor → Cursor
  | 0, c => c
  | fuel + 1, c => if c.column < indent && c.peek == ' ' then skipIndent indent fuel c.next else c

/-- Empty lines inside a block. -/
def blockBreaks (indent : Nat) : Nat → List Char → Cursor → List Char × Cursor
  | 0, breaks, c => (breaks, c)
  | fuel + 1, breaks, c =>
    let c := skipIndent indent c.rest.length c
    if isBreak c.peek then
      let (b, c) := c.takeBreak
      blockBreaks indent fuel (breaks ++ b) c
    else (breaks, c)

def isGap (c : Char) : Bool := c == ' ' || c == '\t'

/-- The lines of a block: text, the last line break, the empty lines after it. -/
def blockLines (folded : Bool) (indent : Nat) :
    Nat → List Char → List Char → List Char → Cursor → List Char × List Char × List Char × Cursor
  | 0, text, last, breaks, c => (text, last, breaks, c)
  | fuel + 1, text, last, breaks, c =>
    if c.column != indent || c.peek == nothing then (text, last, breaks, c)
    else
      let text := text ++ breaks
      let gapFirst := isGap c.peek
      let (line, c) := c.takeWhile (!endsLine ·)
      let text := text ++ line
      let (last, c) := c.takeBreak
      let (breaks, c) := blockBreaks indent (c.rest.length + 1) [] c
      if c.column == indent && c.peek != nothing then
        let joint := if folded && last == ['\n'] && !gapFirst && !isGap c.peek then
            if breaks.isEmpty then [' '] else []
          else last
        blockLines folded indent fuel (text ++ joint) [] breaks c
      else (text, last, breaks, c)

/-- A block scalar behind its `|` or `>`, in a collection that is indented by `indent`. -/
def block (folded : Bool) (indent : Int) (c : Cursor) : Except Fault (List Char × Cursor) := do
  let (header, c) ← blockHeader c
  if !(c.peek == ' ' || endsLine c.peek) then throw .malformed
  let c ← c.skipRestOfLine
  let least := max 1 (indent + 1).toNat
  let (breaks, depth, c) := match header.increment with
    | none =>
      let (breaks, deepest, c) := blockStart (c.rest.length + 1) [] 0 c
      (breaks, max least deepest, c)
    | some n =>
      let depth := least + n - 1
      let (breaks, c) := blockBreaks depth (c.rest.length + 1) [] c
      (breaks, depth, c)
  let (text, last, breaks, c) := blockLines folded depth (c.rest.length + 1) [] [] breaks c
  match header.chomping with
  | .strip => return (text, c)
  | .clip => return (text ++ last, c)
  | .keep => return (text ++ last ++ breaks, c)

end LogReview.Yaml
