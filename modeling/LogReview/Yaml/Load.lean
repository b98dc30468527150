import LogReview.Yaml.Graph

/-! The value of a YAML text that holds one document. -/
namespace LogReview.Yaml

open Reading

def isDirective : Token → Bool
  | .version _ | .tagHandle _ _ | .otherDirective => true
  | _ => false

/-- The directives in front of a document. -/
def takeDirectives : Nat → Bool → Reading → Except Fault Reading
  | 0, _, _ => .error .malformed
  | fuel + 1, versioned, r => do
    match ← r.ahead with
    | .version major => if versioned || major != 1 then throw .malformed else takeDirectives fuel true r.next
    | .tagHandle h p =>
      if r.handles.any (·.1 == h) then throw .malformed
      else takeDirectives fuel versioned { r.next with handles := r.handles ++ [(h, p)] }
    | .otherDirective => takeDirectives fuel versioned r.next
    | _ => return r

def skipDocumentEnds : Nat → Reading → Except Fault Reading
  | 0, _ => .error .malformed
  | fuel + 1, r => do
    if (← r.ahead) == .documentEnd then skipDocumentEnds fuel r.next else return r

/-- Nothing may follow the first document. -/
def finish (n : Node) (r : Reading) : Except Fault (Option Node) := do
  let r ← skipDocumentEnds (r.tokens.length + 1) r
  let _ ← r.expect .streamEnd
  return some n

/-- The root of the only document, if there is one. -/
def readDocument (tokens : List Token) : Except Fault (Option Node) := do
  let fuel := 4 * tokens.length + 4
  let r : Reading := { tokens := tokens }
  let t ← r.ahead
  if t == .streamEnd then return none
  else if isDirective t || t == .documentStart then
    let r ← takeDirectives fuel false r
    let r ← r.expect .documentStart
    let t ← r.ahead
    if isDirective t || [Token.documentStart, .documentEnd, .streamEnd].contains t then finish Node.absent r
    else
      let (n, r) ← readNode fuel true false r
      finish n r
  else
    let (n, r) ← readNode fuel true false r
    finish n r

/-- The value of a text; an empty one is null. -/
def load (text : List Char) : Except Fault Value := do
  match ← readDocument (tokens text) with
  | none => return .null
  | some n => valueOf n

end LogReview.Yaml
