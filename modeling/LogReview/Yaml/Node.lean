import LogReview.Yaml.Token

/-! The nodes that the tokens of a YAML text make: scalars, sequences and mappings, each with its tag, and
references to named nodes. -/
namespace LogReview.Yaml

/-- How a scalar was written matters for its tag. -/
inductive Style where
  | plain | other
deriving Repr, DecidableEq

mutual

inductive Node where
  | scalar (anchor : Option String) (tag : Option String) (style : Style) (text : String)
  | sequence (anchor : Option String) (tag : Option String) (items : Items)
  | mapping (anchor : Option String) (tag : Option String) (entries : Entries)
  | alias (name : String)

inductive Items where
  | nil
  | cons (head : Node) (tail : Items)

inductive Entries where
  | nil
  | cons (key value : Node) (tail : Entries)

end

/-- A scalar that is not there. -/
def Node.absent : Node := .scalar none none .plain ""

/-- What is left of the tokens, and the names that nodes have been given. -/
structure Reading where
  tokens : List Token
  anchors : List String := []
  handles : List (String × String) := []

namespace Reading

def ahead (r : Reading) : Except Fault Token :=
  match r.tokens with
  | .broken f :: _ => .error f
  | t :: _ => .ok t
  | [] => .error .malformed

def next (r : Reading) : Reading := { r with tokens := r.tokens.tail }

/-- The prefix of each tag handle; two are always known. -/
def defaultHandles : List (String × String) := [("!", "!"), ("!!", "tag:yaml.org,2002:")]

def resolveTag (r : Reading) (handle : Option String) (suffix : String) : Except Fault String :=
  match handle with
  | none => .ok suffix
  | some h =>
    match (r.handles ++ defaultHandles).find? (·.1 == h) with
    | some (_, p) => .ok (p ++ suffix)
    | none => .error .malformed

def takeAnchor (r : Reading) : Except Fault (Option String × Reading) := do
  match ← r.ahead with
  | .anchor name => return (some name, r.next)
  | _ => return (none, r)

def takeTag (r : Reading) : Except Fault (Option String × Reading) := do
  match ← r.ahead with
  | .tag handle suffix => return (some (← r.resolveTag handle suffix), r.next)
  | _ => return (none, r)

/-- An anchor and a tag in either order, both optional. -/
def takeProperties (r : Reading) : Except Fault (Option String × Option String × Reading) := do
  let (anchor, r) ← r.takeAnchor
  let (tag, r) ← r.takeTag
  match anchor with
  | some _ => return (anchor, tag, r)
  | none =>
    if tag.isNone then return (none, none, r)
    let (anchor, r) ← r.takeAnchor
    return (anchor, tag, r)

/-- A name may be given once. -/
def declare (r : Reading) (anchor : Option String) : Except Fault Reading :=
  match anchor with
  | none => .ok r
  | some name => if r.anchors.contains name then .error .malformed else .ok { r with anchors := name :: r.anchors }

def expect (r : Reading) (t : Token) : Except Fault Reading := do
  if (← r.ahead) == t then return r.next else throw .malformed

end Reading

/-- Whether a token ends the node before it rather than starting one. -/
def endsBlockItem (t : Token) : Bool := t == .entry || t == .blockEnd

def endsBlockPair (t : Token) : Bool := t == .key || t == .value || t == .blockEnd

def endsPlainItem (t : Token) : Bool := endsBlockItem t || endsBlockPair t

open Reading

/-- A node, or an absent one before the tokens that `ends` names. -/
def readOptional (read : Reading → Except Fault (Node × Reading)) (ends : Token → Bool) (r : Reading) :
    Except Fault (Node × Reading) := do
  if ends (← r.ahead) then return (Node.absent, r) else read r

/-- The value behind a key in brackets. -/
def readFlowValue (read : Reading → Except Fault (Node × Reading)) (close : Token) (r : Reading) :
    Except Fault (Node × Reading) := do
  if (← r.ahead) == .value then readOptional read (fun t => t == .flowEntry || t == close) r.next
  else return (Node.absent, r)

/-- A node. In block style block collections may stand, and under a key also a sequence that is not
indented. -/
def readNode : Nat → Bool → Bool → Reading → Except Fault (Node × Reading)
  | 0, _, _, _ => .error .malformed
  | fuel + 1, inBlock, underKey, r => do
    match ← r.ahead with
    | .alias name => if r.anchors.contains name then return (.alias name, r.next) else throw .malformed
    | _ =>
      let (anchor, tag, r) ← r.takeProperties
      let t ← r.ahead
      if underKey && t == .entry then
        let r ← r.declare anchor
        let (items, r) ← readPlainItems fuel r
        return (.sequence anchor tag items, r)
      else match t with
        | .scalar text plain =>
          let style := if (plain && tag.isNone) || tag == some "!" then Style.plain else .other
          return (.scalar anchor tag style text, (← r.declare anchor).next)
        | .flowSequenceStart =>
          let r ← r.declare anchor
          let (items, r) ← readFlowItems fuel true r.next
          return (.sequence anchor tag items, r)
        | .flowMappingStart =>
          let r ← r.declare anchor
          let (entries, r) ← readFlowPairs fuel true r.next
          return (.mapping anchor tag entries, r)
        | .sequenceStart =>
          if !inBlock then throw .malformed
          let r ← r.declare anchor
          let (items, r) ← readBlockItems fuel r.next
          return (.sequence anchor tag items, r)
        | .mappingStart =>
          if !inBlock then throw .malformed
          let r ← r.declare anchor
          let (entries, r) ← readBlockPairs fuel r.next
          return (.mapping anchor tag entries, r)
        | _ =>
          if anchor.isSome || tag.isSome then
            let style := if tag.isNone || tag == some "!" then Style.plain else .other
            return (.scalar anchor tag style "", ← r.declare anchor)
          else throw .malformed
where
  readBlockItems : Nat → Reading → Except Fault (Items × Reading)
    | 0, _ => .error .malformed
    | fuel + 1, r => do
      if (← r.ahead) == .entry then
        let (n, r) ← readOptional (readNode fuel true false) endsBlockItem r.next
        let (items, r) ← readBlockItems fuel r
        return (.cons n items, r)
      else return (.nil, ← r.expect .blockEnd)
  readPlainItems : Nat → Reading → Except Fault (Items × Reading)
    | 0, _ => .error .malformed
    | fuel + 1, r => do
      if (← r.ahead) == .entry then
        let (n, r) ← readOptional (readNode fuel true false) endsPlainItem r.next
        let (items, r) ← readPlainItems fuel r
        return (.cons n items, r)
      else return (.nil, r)
  readBlockPairs : Nat → Reading → Except Fault (Entries × Reading)
    | 0, _ => .error .malformed
    | fuel + 1, r => do
      if (← r.ahead) == .key then
        let (k, r) ← readOptional (readNode fuel true true) endsBlockPair r.next
        let (v, r) ← if (← r.ahead) == .value then readOptional (readNode fuel true true) endsBlockPair r.next
          else pure (Node.absent, r)
        let (entries, r) ← readBlockPairs fuel r
        return (.cons k v entries, r)
      else return (.nil, ← r.expect .blockEnd)
  readFlowItems : Nat → Bool → Reading → Except Fault (Items × Reading)
    | 0, _, _ => .error .malformed
    | fuel + 1, first, r => do
      if (← r.ahead) == .flowSequenceEnd then return (.nil, r.next)
      let r ← if first then pure r else r.expect .flowEntry
      let t ← r.ahead
      if t == .key then
        let close := Token.flowSequenceEnd
        let ends (t : Token) : Bool := t == .value || t == .flowEntry || t == close
        let (k, r) ← readOptional (readNode fuel false false) ends r.next
        let (v, r) ← readFlowValue (readNode fuel false false) close r
        let (items, r) ← readFlowItems fuel false r
        return (.cons (.mapping none none (.cons k v .nil)) items, r)
      else if t == .flowSequenceEnd then return (.nil, r.next)
      else
        let (n, r) ← readNode fuel false false r
        let (items, r) ← readFlowItems fuel false r
        return (.cons n items, r)
  readFlowPairs : Nat → Bool → Reading → Except Fault (Entries × Reading)
    | 0, _, _ => .error .malformed
    | fuel + 1, first, r => do
      if (← r.ahead) == .flowMappingEnd then return (.nil, r.next)
      let r ← if first then pure r else r.expect .flowEntry
      let t ← r.ahead
      if t == .key then
        let close := Token.flowMappingEnd
        let ends (t : Token) : Bool := t == .value || t == .flowEntry || t == close
        let (k, r) ← readOptional (readNode fuel false false) ends r.next
        let (v, r) ← readFlowValue (readNode fuel false false) close r
        let (entries, r) ← readFlowPairs fuel false r
        return (.cons k v entries, r)
      else if t == .flowMappingEnd then return (.nil, r.next)
      else
        let (k, r) ← readNode fuel false false r
        let (entries, r) ← readFlowPairs fuel false r
        return (.cons k Node.absent entries, r)

end LogReview.Yaml
