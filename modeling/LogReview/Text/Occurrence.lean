/-! One text inside another. -/
namespace LogReview.Text

/-- Whether `w` stands somewhere in the text. -/
def occurs (w : List Char) : List Char → Bool
  | [] => w.isEmpty
  | c :: cs => w.isPrefixOf (c :: cs) || occurs w cs

end LogReview.Text
