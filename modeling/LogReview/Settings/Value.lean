import LogReview.Number.Decimal

/-! What a configuration can hold. -/
namespace LogReview

inductive Value where
  | null
  | bool (b : Bool)
  | int (n : Int)
  | float (x : Decimal)
  | text (s : String)
  | bytes (bs : List UInt8)
  | date
  | moment
  | list (items : List Value)
  | set (items : List Value)
  | map (entries : List (Value × Value))
deriving Repr, Inhabited

namespace Value

/-- The sorts of values. -/
inductive Shape where
  | null | bool | int | float | text | bytes | date | moment | list | set | map
deriving Repr, DecidableEq

def shape : Value → Shape
  | null => .null
  | bool _ => .bool
  | int _ => .int
  | float _ => .float
  | text _ => .text
  | bytes _ => .bytes
  | date => .date
  | moment => .moment
  | list _ => .list
  | set _ => .set
  | map _ => .map

/-- Values that stand for nothing at all: null, false, zero, and whatever is empty. -/
def isVoid : Value → Bool
  | null => true
  | bool b => !b
  | int n => n == 0
  | float x => (Binary.ofDecimal x).isZero
  | text s => s.isEmpty
  | bytes bs => bs.isEmpty
  | date | moment => false
  | list items | set items => items.isEmpty
  | map entries => entries.isEmpty

/-- The value of a key; the last entry for it counts. -/
def lookup? (entries : List (Value × Value)) (key : String) : Option Value :=
  (entries.reverse.find? fun e => match e.1 with
    | .text k => k == key
    | _ => false).map (·.2)

end Value

end LogReview
