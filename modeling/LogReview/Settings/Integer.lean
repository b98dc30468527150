import LogReview.Settings.Value
import LogReview.Text.Blank
import LogReview.Text.Utf8

/-! Whole numbers that a configuration may give in other ways: as truth values, as numbers without a
fraction, or as text. -/
namespace LogReview.Settings

/-- Why a value is no whole number. -/
inductive NoInteger where
  | otherSort
  | unreadable
  | oversized
  | fractional
  | notFinite
deriving Repr, DecidableEq

def isTrimmed (c : Char) : Bool := Text.isBlank c && !(0x1c ≤ c.toNat && c.toNat ≤ 0x1f)

def trim (cs : List Char) : List Char :=
  ((cs.dropWhile isTrimmed).reverse.dropWhile isTrimmed).reverse

/-- Zeros in front are dropped, but one stays before a point or at the end. -/
def dropZeros (last : Char) : List Char → Option (List Char)
  | [] => some [last]
  | c :: cs =>
    if c == '0' || c == '_' then dropZeros c cs
    else if Decimal.isDigit c then some (c :: cs)
    else if c == '.' then some (last :: c :: cs)
    else none

def dropLeadingZeros : List Char → Option (List Char)
  | '0' :: cs => dropZeros '0' cs
  | c :: cs => if Decimal.isDigit c then some (c :: cs) else none
  | [] => none

/-- A fraction of zeros is dropped; any other is refused. -/
def dropZeroFraction (cs : List Char) : Option (List Char) :=
  match cs.dropWhile (· != '.') with
  | [] => some cs
  | _ :: zeros => if !zeros.isEmpty && zeros.all (· == '0') then some (cs.takeWhile (· != '.')) else none

/-- Single underscores between digits are dropped. -/
def dropUnderscores : List Char → Option (List Char)
  | [] => some []
  | '_' :: _ => none
  | c :: '_' :: d :: cs => if d == '_' then none else (dropUnderscores (d :: cs)).map (c :: ·)
  | [_, '_'] => none
  | c :: cs => (dropUnderscores cs).map (c :: ·)

def splitMinus : List Char → Bool × List Char
  | '-' :: cs => (true, cs)
  | cs => (false, cs)

/-- No number with more digits is read from text. -/
def digitLimit : Nat := 4300

def ofDigits (negative : Bool) (ds : List Char) : Except NoInteger Int :=
  if ds.isEmpty || !ds.all Decimal.isDigit then .error .unreadable
  else if digitLimit < ds.length then .error .oversized
  else
    let n := Decimal.natOfDigits ds
    .ok (if negative then -(n : Int) else n)

def integerOfText (cs : List Char) : Except NoInteger Int :=
  let signed := match trim cs with
    | '+' :: '-' :: _ => none
    | '+' :: rest => some rest
    | rest => some rest
  match signed with
  | none => .error .unreadable
  | some rest =>
    let (negative, rest) := splitMinus rest
    match (dropLeadingZeros rest).bind fun ds => (dropZeroFraction ds).bind dropUnderscores with
    | some ds => ofDigits negative ds
    | none => .error .unreadable

/-- Only numbers of 64 bits are taken from numbers with a point. -/
def integerOfFloat (x : Decimal) : Except NoInteger Int :=
  match Binary.ofDecimal x with
  | .finite negative m e =>
    match (Binary.finite negative m e).toInt? with
    | some n => if -0x8000000000000000 < n && n < 0x8000000000000000 then .ok n else .error .oversized
    | none => .error .fractional
  | _ => .error .notFinite

/-- The text that bytes spell, if they spell one. -/
def textOfBytes? (bs : List UInt8) : Option String := String.fromUTF8? ⟨bs.toArray⟩

def integerOf : Value → Except NoInteger Int
  | .int n => .ok n
  | .bool b => .ok (if b then 1 else 0)
  | .float x => integerOfFloat x
  | .text s => integerOfText s.toList
  | .bytes bs => match textOfBytes? bs with
    | some s => integerOfText s.toList
    | none => .error .unreadable
  | _ => .error .otherSort

end LogReview.Settings
