/-! UTF-8 text as it is read from files that may hold broken sequences: every maximal broken part of a
sequence becomes one replacement character. -/
namespace LogReview.Text

def replacement : Char := '�'

/-- The second bytes that may follow a leading byte of a sequence of three or four bytes. -/
def secondByteRange (lead : UInt8) : Option (UInt8 × UInt8) :=
  if lead == 0xe0 then some (0xa0, 0xbf)
  else if lead == 0xed then some (0x80, 0x9f)
  else if 0xe1 ≤ lead ∧ lead ≤ 0xef then some (0x80, 0xbf)
  else if lead == 0xf0 then some (0x90, 0xbf)
  else if 0xf1 ≤ lead ∧ lead ≤ 0xf3 then some (0x80, 0xbf)
  else if lead == 0xf4 then some (0x80, 0x8f)
  else none

/-- Whether the byte at `i` is there and lies in the given range. -/
def byteIn (bytes : ByteArray) (i : Nat) (lo hi : UInt8) : Bool :=
  match bytes[i]? with
  | some b => lo ≤ b && b ≤ hi
  | none => false

/-- The length of the broken part that starts at `i`: the longest beginning of a sequence that some
text could continue, and at least one byte. -/
def brokenLength (bytes : ByteArray) (i : Nat) : Nat :=
  match bytes[i]? with
  | none => 1
  | some lead =>
    match secondByteRange lead with
    | none => 1
    | some (lo, hi) =>
      if !byteIn bytes (i + 1) lo hi then 1
      else if lead < 0xf0 then 2
      else if byteIn bytes (i + 2) 0x80 0xbf then 3
      else 2

theorem brokenLength_pos (bytes : ByteArray) (i : Nat) : 0 < brokenLength bytes i := by
  unfold brokenLength
  repeat' split
  all_goals omega

/-- The characters from byte `i` on. -/
def decodeFrom (bytes : ByteArray) (i : Nat) : List Char :=
  if _ : i < bytes.size then
    match bytes.utf8DecodeChar? i with
    | some c => c :: decodeFrom bytes (i + c.utf8Size)
    | none => replacement :: decodeFrom bytes (i + brokenLength bytes i)
  else []
termination_by bytes.size - i
decreasing_by
  · have := c.utf8Size_pos
    omega
  · have := brokenLength_pos bytes i
    omega

/-- All of `bytes` as text. -/
def decode (bytes : ByteArray) : List Char :=
  decodeFrom bytes 0

end LogReview.Text
