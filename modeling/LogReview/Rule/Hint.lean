import LogReview.Text.Lower
import LogReview.Text.Occurrence
import LogReview.Text.Upper

/-! Guesses about expressions and messages from their text alone, by parts of words and letter case. -/
namespace LogReview.Hint

def collectionHints : List String := ["list", "map", "set", "["]

def scalarHints : List String := ["message", "name", "data", "id", "key", "value", "string"]

def placeholders : List String := ["\x7b\x7d", "%s", "$\x7b"]

def mentions (hints : List String) (text : List Char) : Bool :=
  hints.any fun h => Text.occurs h.toList text

/-- A whole object or collection: a collection's name or a capital, and no name of a scalar. -/
def completeObject (text : String) : Bool :=
  let lowered := Text.lower text.toList
  (mentions collectionHints lowered || text.toList.any Text.isUpper) && !mentions scalarHints lowered

def placeholder (message : String) : Bool := mentions placeholders message.toList

def exception (text : String) : Bool := Text.occurs "Exception".toList text.toList

end LogReview.Hint
