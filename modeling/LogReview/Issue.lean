/-! What a rule has to say about one line of a file. -/
namespace LogReview

structure Issue where
  file : String
  line : Int
  description : String
  rule : String := ""
deriving Repr, DecidableEq

end LogReview
