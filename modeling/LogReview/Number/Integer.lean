import LogReview.Text.Blank

/-! Whole numbers as people write them: with blanks around, a sign, digits of any script, and single
underscores between digits. -/
namespace LogReview.Number

/-- The zeros of the scripts that have decimal digits; the other nine follow each of them. -/
def zeros : List Nat :=
  [0x30, 0x660, 0x6f0, 0x7c0, 0x966, 0x9e6, 0xa66, 0xae6, 0xb66, 0xbe6, 0xc66, 0xce6, 0xd66, 0xde6, 0xe50,
   0xed0, 0xf20, 0x1040, 0x1090, 0x17e0, 0x1810, 0x1946, 0x19d0, 0x1a80, 0x1a90, 0x1b50, 0x1bb0, 0x1c40,
   0x1c50, 0xa620, 0xa8d0, 0xa900, 0xa9d0, 0xa9f0, 0xaa50, 0xabf0, 0xff10, 0x104a0, 0x10d30, 0x11066,
   0x110f0, 0x11136, 0x111d0, 0x112f0, 0x11450, 0x114d0, 0x11650, 0x116c0, 0x11730, 0x118e0, 0x11950,
   0x11c50, 0x11d50, 0x11da0, 0x16a60, 0x16ac0, 0x16b50, 0x1d7ce, 0x1d7d8, 0x1d7e2, 0x1d7ec, 0x1d7f6,
   0x1e140, 0x1e2f0, 0x1e950, 0x1fbf0]

def digitOf? (c : Char) : Option Nat :=
  (zeros.find? fun z => z ≤ c.toNat && c.toNat < z + 10).map (c.toNat - ·)

/-- Numbers with more digits are neither read nor written. -/
def maxDigits : Nat := 4300

/-- Why a text is not read as a number. -/
inductive Unread where
  | noNumber
  | tooLong (digits : Nat)
deriving Repr, DecidableEq

/-- The digits a text starts with, and what is left of it. Behind an underscore there has to be one more digit. -/
def takeDigits? : List Char → Option (List Nat × List Char)
  | [] => some ([], [])
  | c :: '_' :: rest =>
    match digitOf? c, takeDigits? rest with
    | some d, some (e :: ds, rest) => some (d :: e :: ds, rest)
    | some _, _ => none
    | none, _ => some ([], c :: '_' :: rest)
  | c :: rest =>
    match digitOf? c, takeDigits? rest with
    | some d, some (ds, rest) => some (d :: ds, rest)
    | some _, none => none
    | none, _ => some ([], c :: rest)

/-- Digits are counted before what stands behind them is looked at, and zeros in front count too. -/
def magnitude (cs : List Char) : Except Unread Nat :=
  match takeDigits? cs with
  | none => .error .noNumber
  | some (ds, rest) =>
    if maxDigits < ds.length then .error (.tooLong ds.length)
    else if ds.isEmpty || !rest.isEmpty then .error .noNumber
    else .ok (ds.foldl (fun n d => 10 * n + d) 0)

def read (cs : List Char) : Except Unread Int :=
  match Text.strip cs with
  | '-' :: ds => (magnitude ds).map fun n => -(n : Int)
  | '+' :: ds => (magnitude ds).map Int.ofNat
  | ds => (magnitude ds).map Int.ofNat

def read? (cs : List Char) : Option Int := (read cs).toOption

end LogReview.Number
