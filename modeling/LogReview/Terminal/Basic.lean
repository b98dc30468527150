import LogReview.Terminal.Emoji
import LogReview.Terminal.Width
import LogReview.Text.Blank
import LogReview.Text.Lower

/-! Lines as they are shown. A report line is shown as it is; a message is first read as marked text, where
brackets can stand for styles and names between colons for emoji. -/
namespace LogReview.Terminal

/-- Bell, backspace and the signs that move the cursor are not shown. -/
def isDropped (c : Char) : Bool := c == '\x07' || c == '\x08' || c == '\x0b' || c == '\x0c' || c == '\r'

/-- A tab goes on to the next cell whose number is a multiple of eight; `seen` is what stands since the last one,
last sign first. -/
def expandTabs (seen : List Char) : List Char → List Char
  | [] => []
  | '\n' :: cs => '\n' :: expandTabs [] cs
  | '\t' :: cs => List.replicate (8 - cells seen.reverse % 8) ' ' ++ expandTabs [] cs
  | c :: cs => c :: expandTabs (c :: seen) cs

def shown (cs : List Char) : List Char := expandTabs [] (cs.filter (!isDropped ·))

def plain (line : String) : String := String.ofList (shown line.toList)

/-! Marked text. -/

def startsTag (c : Char) : Bool := ('a' ≤ c && c ≤ 'z') || c == '#' || c == '/' || c == '@'

/-- A tag at the start of the text, and what follows it. -/
def tag? : List Char → Option (List Char × List Char)
  | '[' :: c :: cs =>
    if startsTag c then
      match cs.dropWhile fun d => d != '[' && d != ']' with
      | ']' :: rest => some ('[' :: c :: cs.takeWhile (fun d => d != '[' && d != ']') ++ [']'], rest)
      | _ => none
    else none
  | _ => none

/-- Cuts a text into tags, the backslashes in front of them, and what lies between; `seen` is the piece
that has been begun, last sign first. -/
def piecesWith : Nat → List Char → List Char → List (List Char)
  | 0, seen, _ => [seen.reverse]
  | _, seen, [] => [seen.reverse]
  | fuel + 1, seen, c :: cs =>
    match tag? (c :: cs) with
    | some (tag, rest) =>
      (seen.dropWhile (· == '\\')).reverse :: seen.takeWhile (· == '\\') :: tag :: piecesWith fuel [] rest
    | none => piecesWith fuel (c :: seen) cs

def pieces (cs : List Char) : List (List Char) := piecesWith cs.length [] cs

/-- A backslash in front of a bracket that starts no tag is taken for an escape. -/
def unescape : List Char → List Char
  | '\\' :: '[' :: cs => '[' :: unescape cs
  | c :: cs => c :: unescape cs
  | [] => []

/-- A lone backslash at the end is written twice. -/
def guardEnd (cs : List Char) : List Char :=
  match cs.reverse with
  | ['\\'] => cs ++ ['\\']
  | '\\' :: c :: _ => if c == '\\' then cs else cs ++ ['\\']
  | _ => cs

/-- The presentation that the end of an emoji name asks for. -/
def variant (name : List Char) : List Char × List Char :=
  if "-emoji".toList.isSuffixOf name then (name.take (name.length - 6), ['\ufe0f'])
  else if "-text".toList.isSuffixOf name then (name.take (name.length - 5), ['\ufe0e'])
  else (name, [])

/-- The emoji called by what stands between two colons. -/
def called? (name : List Char) : Option (List Char) :=
  let (name, kind) := variant name
  (emoji? (Text.lower name)).map (· ++ kind)

/-- Puts emoji in the place of their names. -/
def emojisWith : Nat → List Char → List Char
  | 0, cs => cs
  | _, [] => []
  | fuel + 1, c :: cs =>
    if c == ':' then
      match cs.dropWhile fun d => d != ':' && !Text.isBlank d with
      | ':' :: rest =>
        let name := cs.takeWhile fun d => d != ':' && !Text.isBlank d
        (called? name).getD (':' :: name ++ [':']) ++ emojisWith fuel rest
      | _ => c :: emojisWith fuel cs
    else c :: emojisWith fuel cs

def emojis (cs : List Char) : List Char := emojisWith cs.length cs

/-- A message behind its sign. -/
def message (sign : Char) (text : String) : String :=
  let body := (pieces (guardEnd text.toList)).flatMap fun p => emojis (unescape p)
  String.ofList (shown (sign :: ' ' :: body))

end LogReview.Terminal
