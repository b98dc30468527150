/-! Numbers in decimal notation, and the binary numbers of 53 bits that are nearest to them. -/
namespace LogReview

/-- A number as it is written: `digits · 10 ^ exponent`, or one of the three that are not finite. -/
inductive Decimal where
  | finite (negative : Bool) (digits : Nat) (exponent : Int)
  | infinite (negative : Bool)
  | nan
deriving Repr, DecidableEq

namespace Decimal

def isDigit (c : Char) : Bool := '0' ≤ c && c ≤ '9'

def natOfDigits (cs : List Char) : Nat := cs.foldl (fun n c => 10 * n + (c.toNat - 48)) 0

/-- The sign in front of a text, and the rest. -/
def splitSign : List Char → Bool × List Char
  | '-' :: cs => (true, cs)
  | '+' :: cs => (false, cs)
  | cs => (false, cs)

/-- A part after the mark of an exponent; nothing at all is zero. -/
def readExponent? : List Char → Option Int
  | [] => some 0
  | mark :: cs =>
    let (negative, ds) := splitSign cs
    if (mark == 'e' || mark == 'E') && !ds.isEmpty && ds.all isDigit then
      some (if negative then -(natOfDigits ds : Int) else natOfDigits ds)
    else none

/-- Digits with an optional point among them, and an optional exponent. -/
def ofText? (cs : List Char) : Option Decimal :=
  let (negative, cs) := splitSign cs
  let whole := cs.takeWhile isDigit
  let rest := cs.dropWhile isDigit
  let (part, rest) := match rest with
    | '.' :: rest => (rest.takeWhile isDigit, rest.dropWhile isDigit)
    | rest => ([], rest)
  if whole.isEmpty && part.isEmpty then none
  else (readExponent? rest).map fun e => .finite negative (natOfDigits (whole ++ part)) (e - part.length)

/-- Whether a decimal is one or less. A decimal with as many places as digits is below one. -/
def isAtMostOne : Decimal → Bool
  | finite negative digits exponent =>
    negative || digits == 0 ||
      if 0 < exponent then false
      else
        let places := (-exponent).toNat
        (Nat.toDigits 10 digits).length ≤ places || digits ≤ Nat.pow 10 places
  | infinite negative => negative
  | nan => false

end Decimal

/-- A binary number: `mantissa · 2 ^ exponent`, or too large, or none. -/
inductive Binary where
  | finite (negative : Bool) (mantissa : Nat) (exponent : Int)
  | infinite (negative : Bool)
  | nan
deriving Repr, DecidableEq

namespace Binary

/-- The quotient, rounded to the nearest whole number, a half to the even one. -/
def roundDiv (num den : Nat) : Nat :=
  let q := num / den
  let r := num % den
  if 2 * r < den then q
  else if den < 2 * r then q + 1
  else if q % 2 == 0 then q
  else q + 1

/-- `num / den` divided by `2 ^ e`, as a fraction. -/
def scale (num den : Nat) (e : Int) : Nat × Nat :=
  if 0 ≤ e then (num, den * Nat.pow 2 e.toNat) else (num * Nat.pow 2 (-e).toNat, den)

/-- The least exponent of all. -/
def leastExponent : Int := -1074

/-- The binary number nearest to a fraction. -/
def ofFraction (negative : Bool) (num den : Nat) : Binary :=
  if num == 0 then .finite negative 0 0
  else
    let guess : Int := (Nat.log2 num : Int) - Nat.log2 den - 53
    let (n, d) := scale num den guess
    let e := max leastExponent (if Nat.pow 2 53 ≤ n / d then guess + 1 else guess)
    let (n, d) := scale num den e
    let m := roundDiv n d
    if 0 ≤ e && Nat.pow 2 1024 ≤ m * Nat.pow 2 e.toNat then .infinite negative else .finite negative m e

/-- Beyond these powers of ten everything is infinite, or zero. -/
def ofDecimal : Decimal → Binary
  | .nan => .nan
  | .infinite negative => .infinite negative
  | .finite negative digits exponent =>
    let places : Int := (Nat.toDigits 10 digits).length
    if digits == 0 || places + exponent < -400 then .finite negative 0 0
    else if 400 < places + exponent then .infinite negative
    else if 0 ≤ exponent then ofFraction negative (digits * Nat.pow 10 exponent.toNat) 1
    else ofFraction negative digits (Nat.pow 10 (-exponent).toNat)

def isZero : Binary → Bool
  | .finite _ m _ => m == 0
  | _ => false

/-- The number as an integer, if it is one. -/
def toInt? : Binary → Option Int
  | .finite negative m e =>
    let magnitude : Option Nat :=
      if 0 ≤ e then some (m * Nat.pow 2 e.toNat)
      else if m % Nat.pow 2 (-e).toNat == 0 then some (m / Nat.pow 2 (-e).toNat)
      else none
    magnitude.map fun n => if negative then -(n : Int) else n
  | _ => none

end Binary

end LogReview
