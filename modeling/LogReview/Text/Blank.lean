import LogReview.Text.CharSet

/-! Blank characters of Unicode 14, the information separators among them, and texts without blank ends. -/
namespace LogReview.Text

def blankRanges : List (Nat × Nat) :=
  [(0x9, 0xd), (0x1c, 0x20), (0x85, 0x85), (0xa0, 0xa0), (0x1680, 0x1680), (0x2000, 0x200a),
  (0x2028, 0x2029), (0x202f, 0x202f), (0x205f, 0x205f), (0x3000, 0x3000)]

def isBlank (c : Char) : Bool :=
  inRanges blankRanges c

def stripLeft (cs : List Char) : List Char :=
  cs.dropWhile isBlank

/-- `cs` without the blanks at its two ends. -/
def strip (cs : List Char) : List Char :=
  (stripLeft (stripLeft cs).reverse).reverse

end LogReview.Text
