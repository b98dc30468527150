import LogReview.Text.Lower
import LogReview.Number.Integer
import LogReview.Settings.Value
import LogReview.Yaml.Cursor

/-! What a scalar stands for: the tags that plain scalars show by their form, and the values of texts that
are read under one of these tags. -/
namespace LogReview.Yaml

inductive Tag where
  | null | bool | int | float | moment | text | binary | merge | default
  | sequence | mapping | set | pairs | unknown
deriving Repr, DecidableEq

namespace Tag

/-- The tags that a full name can stand for. -/
def ofUri (uri : String) : Tag :=
  match uri with
  | "tag:yaml.org,2002:null" => null
  | "tag:yaml.org,2002:bool" => bool
  | "tag:yaml.org,2002:int" => int
  | "tag:yaml.org,2002:float" => float
  | "tag:yaml.org,2002:timestamp" => moment
  | "tag:yaml.org,2002:str" => text
  | "tag:yaml.org,2002:binary" => binary
  | "tag:yaml.org,2002:merge" => merge
  | "tag:yaml.org,2002:value" => default
  | "tag:yaml.org,2002:seq" => sequence
  | "tag:yaml.org,2002:map" => mapping
  | "tag:yaml.org,2002:set" => set
  | "tag:yaml.org,2002:omap" | "tag:yaml.org,2002:pairs" => pairs
  | _ => unknown

end Tag

/-! The forms of plain scalars. -/

def nullWords : List String := ["", "~", "null", "Null", "NULL"]

def boolWords : List String :=
  ["yes", "Yes", "YES", "no", "No", "NO", "true", "True", "TRUE", "false", "False", "FALSE",
   "on", "On", "ON", "off", "Off", "OFF"]

def infinityWords : List String := [".inf", ".Inf", ".INF"]

def nanWords : List String := [".nan", ".NaN", ".NAN"]

def dropSign : List Char → List Char
  | '-' :: cs => cs
  | '+' :: cs => cs
  | cs => cs

def isDigitOrLine (c : Char) : Bool := c.isDigit || c == '_'

/-- `:` and one or two digits, below sixty, as often as it goes; `none` if a colon stands otherwise. -/
def sixtieths : List Char → Option (List Char)
  | ':' :: a :: b :: rest =>
    if a.isDigit && b.isDigit then if a ≤ '5' then sixtieths rest else none
    else if a.isDigit then sixtieths (b :: rest)
    else none
  | [':', a] => if a.isDigit then some [] else none
  | [':'] => none
  | rest => some rest

/-- Digits with underscores, the first of them a digit that satisfies `p`, and the rest. -/
def leadDigits? (p : Char → Bool) : List Char → Option (List Char)
  | c :: cs => if p c then some (cs.dropWhile isDigitOrLine) else none
  | [] => none

def isOneToNine (c : Char) : Bool := '1' ≤ c && c ≤ '9'

def isIntForm (text : List Char) : Bool :=
  match dropSign text with
  | ['0'] => true
  | '0' :: 'b' :: cs => !cs.isEmpty && cs.all fun c => c == '0' || c == '1' || c == '_'
  | '0' :: 'x' :: cs => !cs.isEmpty && cs.all fun c => c == '_' || (hexForm c)
  | '0' :: cs => cs.all fun c => ('0' ≤ c && c ≤ '7') || c == '_'
  | cs => match leadDigits? isOneToNine cs with
    | some rest => sixtieths rest == some []
    | none => false
where
  hexForm (c : Char) : Bool := c.isDigit || ('a' ≤ c && c ≤ 'f') || ('A' ≤ c && c ≤ 'F')

/-- Nothing, or an exponent with its sign. -/
def isExponentForm : List Char → Bool
  | [] => true
  | e :: s :: ds => (e == 'e' || e == 'E') && (s == '-' || s == '+') && !ds.isEmpty && ds.all Char.isDigit
  | _ => false

def isFloatForm (text : List Char) : Bool :=
  let unsigned := dropSign text
  let pointed := match leadDigits? Char.isDigit unsigned with
    | some ('.' :: rest) => isExponentForm (rest.dropWhile isDigitOrLine)
    | some rest => match rest, sixtieths rest with
      | ':' :: _, some ('.' :: rest) => rest.all isDigitOrLine
      | _, _ => false
    | none => false
  let bare := match text with
    | '.' :: rest => match leadDigits? Char.isDigit rest with
      | some rest => isExponentForm rest
      | none => false
    | _ => false
  pointed || bare || infinityWords.contains (String.ofList unsigned) || nanWords.contains (String.ofList text)

/-! Dates. -/

structure Moment where
  year : Nat
  month : Nat
  day : Nat
  /-- Hour, minute and second. -/
  time : Option (Nat × Nat × Nat) := none
  /-- The offset in minutes, if a signed one is given. -/
  offset : Option Int := none
deriving Repr

/-- Between `lo` and `hi` digits, as many as there are. -/
def digits? (lo hi : Nat) (cs : List Char) : Option (Nat × List Char) :=
  let ds := (cs.take hi).takeWhile Char.isDigit
  if ds.length < lo then none else some (Decimal.natOfDigits ds, cs.drop ds.length)

def char? (c : Char) : List Char → Option (List Char)
  | d :: cs => if c == d then some cs else none
  | [] => none

def isGapChar (c : Char) : Bool := c == ' ' || c == '\t'

def zone? (cs : List Char) : Option (Option Int) :=
  if cs.isEmpty then some none
  else match cs.dropWhile isGapChar with
    | ['Z'] => some none
    | s :: rest =>
      if s == '-' || s == '+' then do
        let (h, rest) ← digits? 1 2 rest
        let (m, rest) ← match rest with
          | ':' :: rest => digits? 2 2 rest
          | rest => some (0, rest)
        if !rest.isEmpty then none
        let minutes : Int := 60 * h + m
        some (some (if s == '-' then -minutes else minutes))
      else none
    | [] => none

def time? (cs : List Char) : Option ((Nat × Nat × Nat) × Option Int) := do
  let cs ← match cs with
    | 'T' :: rest => some rest
    | 't' :: rest => some rest
    | c :: rest => if isGapChar c then some (rest.dropWhile isGapChar) else none
    | [] => none
  let (h, cs) ← digits? 1 2 cs
  let (m, cs) ← digits? 2 2 (← char? ':' cs)
  let (s, cs) ← digits? 2 2 (← char? ':' cs)
  let cs := match cs with
    | '.' :: rest => rest.dropWhile Char.isDigit
    | rest => rest
  let zone ← zone? cs
  return ((h, m, s), zone)

def moment? (cs : List Char) : Option Moment := do
  let (y, cs) ← digits? 4 4 cs
  let (m, cs) ← digits? 1 2 (← char? '-' cs)
  let (d, cs) ← digits? 1 2 (← char? '-' cs)
  if cs.isEmpty then return { year := y, month := m, day := d }
  let (time, zone) ← time? cs
  return ⟨y, m, d, some time, zone⟩

/-- A plain date has two digits for the month and two for the day. -/
def isMomentForm (text : List Char) : Bool :=
  match moment? text with
  | some m => m.time.isSome || text.length == 10
  | none => false

def isLeap (y : Nat) : Bool := y % 4 == 0 && (y % 100 != 0 || y % 400 == 0)

def daysIn (y m : Nat) : Nat :=
  if m == 2 then (if isLeap y then 29 else 28)
  else if [4, 6, 9, 11].contains m then 30
  else 31

/-- A length of time in days and seconds, as messages show it. -/
def shownMinutes (minutes : Int) : String :=
  let days := minutes.fdiv 1440
  let seconds := 60 * minutes.fmod 1440
  if seconds == 0 then s!"datetime.timedelta(days={days})"
  else if days == 0 then s!"datetime.timedelta(seconds={seconds})"
  else s!"datetime.timedelta(days={days}, seconds={seconds})"

def Moment.check (m : Moment) : Except Fault Value :=
  let bad (message : String) : Except Fault Value := .error (.outOfRange message)
  let beyond := match m.offset with
    | some o => o ≤ -1440 || 1440 ≤ o
    | none => false
  if beyond then
    let shown := shownMinutes (m.offset.getD 0)
    bad ("offset must be a timedelta strictly between -timedelta(hours=24) and timedelta(hours=24), not " ++
      shown ++ ".")
  else if m.year == 0 then bad "year 0 is out of range"
  else if m.month == 0 || 12 < m.month then bad "month must be in 1..12"
  else if m.day == 0 || daysIn m.year m.month < m.day then bad "day is out of range for month"
  else match m.time with
    | none => .ok .date
    | some (h, min, s) =>
      if 23 < h then bad "hour must be in 0..23"
      else if 59 < min then bad "minute must be in 0..59"
      else if 59 < s then bad "second must be in 0..59"
      else .ok .moment

/-- The tag of a plain scalar. -/
def plainTag (text : String) : Tag :=
  let cs := text.toList
  if boolWords.contains text then .bool
  else if isFloatForm cs then .float
  else if isIntForm cs then .int
  else if text == "<<" then .merge
  else if nullWords.contains text then .null
  else if isMomentForm cs then .moment
  else if text == "=" then .default
  else .text

/-! The values of texts. -/

def boolOf (text : String) : Except Fault Value :=
  let small := String.ofList (Text.lower text.toList)
  if ["yes", "true", "on"].contains small then .ok (.bool true)
  else if ["no", "false", "off"].contains small then .ok (.bool false)
  else .error (.noTruth small)

def splitColons : List Char → List (List Char)
  | [] => [[]]
  | c :: cs =>
    if c == ':' then [] :: splitColons cs
    else match splitColons cs with
      | part :: rest => (c :: part) :: rest
      | [] => [[c]]

/-- Digits of any script, and Latin letters for those from ten on. -/
def alnumDigit? (c : Char) : Option Nat :=
  if 'a' ≤ c && c ≤ 'z' then some (c.toNat - 87)
  else if 'A' ≤ c && c ≤ 'Z' then some (c.toNat - 55)
  else Number.digitOf? c

/-- The letter that can stand behind a zero in front of the digits. -/
def radixLetter : Nat → Char
  | 2 => 'b'
  | 8 => 'o'
  | _ => 'x'

def dropRadix (base : Nat) : List Char → List Char
  | '0' :: c :: cs => if c.toLower == radixLetter base then cs else '0' :: c :: cs
  | cs => cs

def isNegative : List Char → Bool
  | '-' :: _ => true
  | _ => false

/-- Blanks may stand around the number, and a sign in front of it. -/
def radixValue (base : Nat) (cs : List Char) : Except Fault Int :=
  let trimmed := Text.strip cs
  let ds := dropRadix base (dropSign trimmed)
  let value := ds.foldl (fun n? c => n?.bind fun n => (alnumDigit? c).bind fun d =>
    if d < base then some (base * n + d) else none) (some 0)
  match value with
  | some n =>
    if ds.isEmpty then .error (.noInteger base (String.ofList cs))
    else .ok (if isNegative trimmed then -(n : Int) else n)
  | none => .error (.noInteger base (String.ofList cs))

def decimalValue (cs : List Char) : Except Fault Int :=
  match Number.read cs with
  | .ok n => .ok n
  | .error (.tooLong digits) => .error (.longInteger digits)
  | .error .noNumber => .error (.noInteger 10 (String.ofList cs))

def sixtyFold (parts : List Int) : Int := parts.foldl (fun n d => 60 * n + d) 0

def intOf (text : String) : Except Fault Value := do
  let cs := text.toList.filter (· != '_')
  if cs.isEmpty then throw .emptyNumber
  let negative := isNegative cs
  let cs := dropSign cs
  let signed (n : Int) : Value := .int (if negative then -n else n)
  match cs with
  | [] => throw .emptyNumber
  | ['0'] => return .int 0
  | '0' :: 'b' :: ds => return signed (← radixValue 2 ds)
  | '0' :: 'x' :: ds => return signed (← radixValue 16 ds)
  | '0' :: _ => return signed (← radixValue 8 cs)
  | _ =>
    if cs.contains ':' then return signed (sixtyFold (← (splitColons cs).mapM decimalValue))
    else return signed (← decimalValue cs)

/-- Digits of other scripts in the form of Latin ones. -/
def latinDigit (c : Char) : Char :=
  match Number.digitOf? c with
  | some d => Char.ofNat ('0'.toNat + d)
  | none => c

/-- A number without a sixty-fold part. -/
def floatPart (cs : List Char) : Except Fault Decimal :=
  let trimmed := (Text.strip cs).map latinDigit
  let (negative, bare) := Decimal.splitSign trimmed
  let word := String.ofList bare
  if word == "inf" || word == "infinity" then .ok (.infinite negative)
  else if word == "nan" then .ok .nan
  else match Decimal.ofText? trimmed with
    | some x => .ok x
    | none => .error (.noNumber (String.ofList cs))

def negateIf (negative : Bool) : Decimal → Decimal
  | .finite n d e => .finite (n != negative) d e
  | .infinite n => .infinite (n != negative)
  | .nan => .nan

/-- `60 · a + b`. -/
def addSixtieth (a b : Decimal) : Decimal :=
  match a, b with
  | .finite _ d e, .finite _ d' e' =>
    let least := min e e'
    .finite false (60 * d * Nat.pow 10 (e - least).toNat + d' * Nat.pow 10 (e' - least).toNat) least
  | .nan, _ | _, .nan => .nan
  | .infinite n, _ => .infinite n
  | _, .infinite n => .infinite n

def floatOf (text : String) : Except Fault Value := do
  let cs := Text.lower (text.toList.filter (· != '_'))
  if cs.isEmpty then throw .emptyNumber
  let negative := isNegative cs
  let cs := dropSign cs
  let word := String.ofList cs
  if word == ".inf" then return .float (.infinite negative)
  else if word == ".nan" then return .float .nan
  else if cs.contains ':' then
    let parts ← (splitColons cs).mapM floatPart
    return .float (negateIf negative (parts.foldl addSixtieth (.finite false 0 0)))
  else return .float (negateIf negative (← floatPart cs))

def base64Digit? (c : Char) : Option Nat :=
  if 'A' ≤ c && c ≤ 'Z' then some (c.toNat - 65)
  else if 'a' ≤ c && c ≤ 'z' then some (c.toNat - 71)
  else if c.isDigit then some (c.toNat + 4)
  else if c == '+' then some 62
  else if c == '/' then some 63
  else none

/-- The bytes of base 64 text. `held` are the digits of the group so far, `pads` the equal signs in it;
other characters are passed over. -/
def base64Bytes (bytes : List UInt8) (held : List Nat) (pads : Nat) : List Char → Option (List UInt8)
  | [] => if held.isEmpty then some bytes else none
  | c :: cs =>
    if c == '=' then
      if 2 ≤ held.length && 4 ≤ held.length + (pads + 1) then some bytes
      else base64Bytes bytes held (if 2 ≤ held.length then pads + 1 else pads) cs
    else match base64Digit? c, held with
      | none, _ => base64Bytes bytes held pads cs
      | some d, [] => base64Bytes bytes [d] 0 cs
      | some d, [a] => base64Bytes (bytes ++ [(a * 4 + d / 16).toUInt8]) [a, d] 0 cs
      | some d, [a, b] => base64Bytes (bytes ++ [(b % 16 * 16 + d / 4).toUInt8]) [a, b, d] 0 cs
      | some d, [_, _, b] => base64Bytes (bytes ++ [(b % 4 * 64 + d).toUInt8]) [] 0 cs
      | some _, _ => none

def binaryOf (text : String) : Except Fault Value :=
  if !text.toList.all (·.toNat < 128) then .error .malformed
  else match base64Bytes [] [] 0 text.toList with
    | some bs => .ok (.bytes bs)
    | none => .error .malformed

def momentOf (text : String) : Except Fault Value :=
  match moment? text.toList with
  | some m => m.check
  | none => .error .noDate

/-- The value of a text that is read under the given tag. -/
def scalarValue (text : String) : Tag → Except Fault Value
  | .null => .ok .null
  | .bool => boolOf text
  | .int => intOf text
  | .float => floatOf text
  | .moment => momentOf text
  | .text => .ok (.text text)
  | .binary => binaryOf text
  | _ => .error .malformed

end LogReview.Yaml
