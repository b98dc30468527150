import LogReview.Text.Identifier
import LogReview.Text.Utf8
import LogReview.Tree.Reading

/-! The smallest parts of Java text: blanks and comments, words, numbers, characters and operators.
All functions work on offsets into the bytes of a file; a zero byte is part of nothing. -/
namespace LogReview.Java

/-- The end of the run of bytes from `i` on that satisfy `p`, at most `n` of them. -/
def runEnd (p : UInt8 → Bool) (src : Source) : Nat → Nat → Nat
  | 0, i => i
  | n + 1, i =>
    match src[i]? with
    | some b => if p b then runEnd p src n (i + 1) else i
    | none => i

/-- The end of the longest run of bytes from `i` on that satisfy `p`. -/
def spanEnd (p : UInt8 → Bool) (src : Source) (i : Nat) : Nat :=
  runEnd p src (src.size - i) i

/-- Whether the byte at `i` is there and satisfies `p`. -/
def byteIs (src : Source) (i : Nat) (p : UInt8 → Bool) : Bool :=
  match src[i]? with
  | some b => p b
  | none => false

def matchesBytes (src : Source) : Nat → List UInt8 → Bool
  | _, [] => true
  | i, b :: bs => byteIs src i (· == b) && matchesBytes src (i + 1) bs

/-- Whether the ASCII text `s` stands at `i`. -/
def standsAt (src : Source) (i : Nat) (s : String) : Bool :=
  matchesBytes src i (s.toList.map fun c => c.toNat.toUInt8)

def isSpace (b : UInt8) : Bool := b == 32 || (9 ≤ b && b ≤ 13)

def isDigit (b : UInt8) : Bool := 48 ≤ b && b ≤ 57

def isHexDigit (b : UInt8) : Bool := isDigit b || (65 ≤ b && b ≤ 70) || (97 ≤ b && b ≤ 102)

def isOctalDigit (b : UInt8) : Bool := 48 ≤ b && b ≤ 55

def isBinaryDigit (b : UInt8) : Bool := b == 48 || b == 49

/-- Where the comment text from `i` on ends: after the first `*/`. -/
def commentEnd? (src : Source) : Nat → Nat → Option Nat
  | 0, _ => none
  | n + 1, i =>
    if standsAt src i "*/" then some (i + 2)
    else if byteIs src i (· != 0) then commentEnd? src n (i + 1)
    else none

/-- The first offset from `i` on that is in no blank and no comment. A comment that is not closed is
none. A byte order mark may start the file. -/
def skipFrom (src : Source) : Nat → Nat → Nat
  | 0, i => i
  | n + 1, i =>
    if byteIs src i isSpace then skipFrom src n (i + 1)
    else if standsAt src i "//" then skipFrom src n (spanEnd (fun b => b != 10 && b != 0) src i)
    else if standsAt src i "/*" then
      match commentEnd? src (src.size - i) (i + 2) with
      | some j => skipFrom src n j
      | none => i
    else if i == 0 && matchesBytes src 0 [0xef, 0xbb, 0xbf] then skipFrom src n 3
    else i

def skip (src : Source) (i : Nat) : Nat := skipFrom src (src.size - i) i

def startsWord (c : Char) : Bool := c == '_' || c == '$' || Text.isNameStart c

def continuesWord (c : Char) : Bool := c == '_' || c == '$' || c == '¢' || Text.isNamePart c

/-- The end of the name that goes on at `i`. -/
def nameEnd (src : Source) : Nat → Nat → Nat
  | 0, i => i
  | n + 1, i =>
    match src.utf8DecodeChar? i with
    | some c => if continuesWord c then nameEnd src n (i + c.utf8Size) else i
    | none => i

/-- The end of the word that starts at `i`. -/
def wordEnd? (src : Source) (i : Nat) : Option Nat :=
  match src.utf8DecodeChar? i with
  | some c => if startsWord c then some (nameEnd src (src.size - i) (i + c.utf8Size)) else none
  | none => none

/-- The word that starts at `i`, empty if none does. -/
def wordAt (src : Source) (i : Nat) : String :=
  match wordEnd? src i with
  | some j => src.text i j
  | none => ""

/-- The end of digits in groups that single underscores part, if there is at least one digit. -/
def digitsEnd? (p : UInt8 → Bool) (src : Source) : Nat → Nat → Option Nat
  | 0, _ => none
  | n + 1, i =>
    let j := spanEnd p src i
    if j == i then none
    else if byteIs src j (· == 95) then some ((digitsEnd? p src n (j + 1)).getD j)
    else some j

def groupsEnd? (p : UInt8 → Bool) (src : Source) (i : Nat) : Option Nat :=
  digitsEnd? p src (src.size - i + 1) i

/-- The end of further groups of decimal digits, each after one or more underscores. -/
def moreGroupsEnd (src : Source) : Nat → Nat → Nat
  | 0, i => i
  | n + 1, i =>
    let j := spanEnd (· == 95) src i
    let k := spanEnd isDigit src j
    if j == i || k == j then i else moreGroupsEnd src n k

/-- The end of a whole number: a zero, or digits that do not start with one. -/
def wholeEnd? (src : Source) (i : Nat) : Option Nat :=
  if byteIs src i (· == 48) then some (i + 1)
  else if byteIs src i isDigit then
    let start := if byteIs src (i + 1) (· == 95) then i + 2 else i + 1
    let j := spanEnd isDigit src start
    some (if j == start then i + 1 else moreGroupsEnd src (src.size - j) j)
  else none

def optionalByte (src : Source) (i : Nat) (p : UInt8 → Bool) : Nat :=
  if byteIs src i p then i + 1 else i

def isLongMark (b : UInt8) : Bool := b == 108 || b == 76

/-- `f`, `F`, `d`, `D`. -/
def isFloatMark (b : UInt8) : Bool := b == 102 || b == 70 || b == 100 || b == 68

def isSign (b : UInt8) : Bool := b == 43 || b == 45

/-- The end of an exponent after a mark such as `e`. -/
def exponentEnd? (src : Source) (i : Nat) (isMark : UInt8 → Bool) : Option Nat :=
  if byteIs src i isMark then groupsEnd? isDigit src (optionalByte src (i + 1) isSign) else none

def isExponentMark (b : UInt8) : Bool := b == 101 || b == 69

def isBinaryExponentMark (b : UInt8) : Bool := b == 112 || b == 80

/-- The end of what may follow the digits of a decimal fraction: an exponent and a mark. -/
def fractionTail (src : Source) (i : Nat) : Nat :=
  optionalByte src ((exponentEnd? src i isExponentMark).getD i) isFloatMark

def radixEnd? (src : Source) (i : Nat) (marks : List String) (p : UInt8 → Bool) : Option Nat :=
  match marks.find? (standsAt src i) with
  | some m => (groupsEnd? p src (i + m.length)).map fun j => optionalByte src j isLongMark
  | none => none

/-- A number with a point, an exponent or a mark. -/
def decimalFractionEnd? (src : Source) (i : Nat) : Option Nat :=
  let pointed := match groupsEnd? isDigit src i with
    | some j =>
      if byteIs src j (· == 46) then some (fractionTail src ((groupsEnd? isDigit src (j + 1)).getD (j + 1)))
      else none
    | none =>
      if byteIs src i (· == 46) then (groupsEnd? isDigit src (i + 1)).map (fractionTail src) else none
  let plain := (wholeEnd? src i).bind fun j =>
    let k := fractionTail src j
    if k == j then none else some k
  match pointed, plain with
  | some j, some k => some (max j k)
  | some j, none => some j
  | none, k => k

def hexFractionEnd? (src : Source) (i : Nat) : Option Nat :=
  if standsAt src i "0x" || standsAt src i "0X" then
    let j := (groupsEnd? isHexDigit src (i + 2)).getD (i + 2)
    let k := if byteIs src j (· == 46) then (groupsEnd? isHexDigit src (j + 1)).getD (j + 1) else j
    if k == i + 2 || (j == i + 2 && k == j + 1) then none
    else match exponentMark src k with
      | some l => some (optionalByte src l isFloatMark)
      | none => none
  else none
where
  exponentMark (src : Source) (k : Nat) : Option Nat :=
    if byteIs src k isBinaryExponentMark then wholeEnd? src (optionalByte src (k + 1) isSign) else none

/-- The type and the end of the number that starts at `i`: the longest reading. -/
def numberAt? (src : Source) (i : Nat) : Option (String × Nat) :=
  let readings : List (String × Option Nat) :=
    [("decimal_integer_literal", (wholeEnd? src i).map fun j => optionalByte src j isLongMark),
     ("hex_integer_literal", radixEnd? src i ["0x", "0X"] isHexDigit),
     ("octal_integer_literal", radixEnd? src i ["0o", "0O", "0"] isOctalDigit),
     ("binary_integer_literal", radixEnd? src i ["0b", "0B"] isBinaryDigit),
     ("decimal_floating_point_literal", decimalFractionEnd? src i),
     ("hex_floating_point_literal", hexFractionEnd? src i)]
  readings.foldl (fun best (type, stop?) =>
    match best, stop? with
    | some (_, j), some k => if j < k then some (type, k) else best
    | none, some k => some (type, k)
    | _, none => best) none

/-- The length of the character at `i`; a broken one is a single byte. -/
def charLength (src : Source) (i : Nat) : Nat :=
  match src.utf8DecodeChar? i with
  | some c => c.utf8Size
  | none => 1

/-- The end of the rest of a character literal: the closing quote. -/
def quotedEnd? (src : Source) : Nat → Nat → Option Nat
  | 0, _ => none
  | n + 1, i =>
    match src[i]? with
    | some 39 => some (i + 1)
    | some 92 => if byteIs src (i + 1) (· != 0) then quotedEnd? src n (i + 1 + charLength src (i + 1)) else none
    | some 10 | some 0 | none => none
    | some _ => quotedEnd? src n (i + 1)

/-- The end of the character literal at `i`; it may hold more than one character, but not none. -/
def charLiteralEnd? (src : Source) (i : Nat) : Option Nat :=
  if byteIs src i (· == 39) && byteIs src (i + 1) (· != 39) then quotedEnd? src (src.size - i) (i + 1)
  else none

/-- The end of the escape at `i`, a backslash and what it needs. -/
def escapeEnd? (src : Source) (i : Nat) : Option Nat :=
  match src[i + 1]? with
  | some 120 => if (List.range 2).all fun k => byteIs src (i + 2 + k) isHexDigit then some (i + 4) else none
  | some 117 =>
    if byteIs src (i + 2) (· == 123) then
      let j := spanEnd isHexDigit src (i + 3)
      if i + 3 < j && byteIs src j (· == 125) then some (j + 1) else none
    else if (List.range 4).all fun k => byteIs src (i + 2 + k) isHexDigit then some (i + 6)
    else none
  | some 0 | none => none
  | some b =>
    if isOctalDigit b then some (runEnd isOctalDigit src 3 (i + 1)) else some (i + 1 + charLength src (i + 1))

/-- Operators that may follow an operand, longer ones before their beginnings. -/
def operators : List String :=
  [">>>=", ">>>", ">>=", "<<=", ">>", "<<", ">=", "<=", "==", "!=", "&&", "&=", "||", "|=", "^=", "+=", "++",
   "-=", "--", "->", "*=", "/=", "%=", "::", "=", "<", ">", "&", "|", "^", "+", "-", "*", "/", "%", "?", ":"]

/-- The longest operator at `i`, empty if none stands there. -/
def operatorAt (src : Source) (i : Nat) : String :=
  (operators.find? (standsAt src i)).getD ""

end LogReview.Java
