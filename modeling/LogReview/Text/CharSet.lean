/-! Sets of characters written down as ranges of code points. -/
namespace LogReview.Text

/-- Whether `c` lies in one of the ranges. -/
def inRanges (ranges : List (Nat × Nat)) (c : Char) : Bool :=
  ranges.any fun r => r.1 ≤ c.toNat && c.toNat ≤ r.2

/-- Whether `c` is one of `first`, `first + step`, … up to `last`. -/
def inRun (first last step : Nat) (c : Char) : Bool :=
  first ≤ c.toNat && c.toNat ≤ last && (c.toNat - first) % step == 0

end LogReview.Text
