import LogReview.Java.Lexeme

/-! Grammars that read nodes. A grammar looks at the text from an offset on and either refuses, or gives
the nodes it has read and the offset behind them; blanks and comments in front of a token are passed over
and leave no node. Choices are ordered: the first reading that fits is taken. -/
namespace LogReview.Java

abbrev Grammar := Source → Nat → Option (List Node × Nat)

namespace Grammar

def empty : Grammar := fun _ i => some ([], i)

def refuse : Grammar := fun _ _ => none

/-- One grammar after the other. -/
def seq : List Grammar → Grammar
  | [] => empty
  | g :: gs => fun src i =>
    match g src i with
    | some (ns, j) =>
      match seq gs src j with
      | some (ms, k) => some (ns ++ ms, k)
      | none => none
    | none => none

/-- The first grammar that does not refuse. -/
def choice : List Grammar → Grammar
  | [] => refuse
  | g :: gs => fun src i =>
    match g src i with
    | some r => some r
    | none => choice gs src i

def opt (g : Grammar) : Grammar := choice [g, empty]

def manyFrom (g : Grammar) (src : Source) : Nat → List Node → Nat → List Node × Nat
  | 0, ns, i => (ns, i)
  | n + 1, ns, i =>
    match g src i with
    | some (ms, j) => if i < j then manyFrom g src n (ms.reverse ++ ns) j else (ns, i)
    | none => (ns, i)

/-- As often as the grammar reads something. -/
def many (g : Grammar) : Grammar := fun src i =>
  let (ns, j) := manyFrom g src (src.size - i + 1) [] i
  some (ns.reverse, j)

def many1 (g : Grammar) : Grammar := seq [g, many g]

/-- The nodes of `g` under one node of the given type. -/
def node (type : String) (g : Grammar) : Grammar := fun src i =>
  match g src i with
  | some (ns, j) =>
    let start := match ns.head? with
      | some n => n.start
      | none => j
    let stop := match ns.getLast? with
      | some n => n.stop
      | none => j
    some ([.mk ⟨type, start, stop, true, false, false, none⟩ ns], j)
  | none => none

def withField (name : String) : Node → Node
  | .mk l cs => .mk { l with field := some name } cs

/-- The nodes of `g`, each in the given field. -/
def field (name : String) (g : Grammar) : Grammar := fun src i =>
  match g src i with
  | some (ns, j) => some (ns.map (withField name), j)
  | none => none

/-- `g`, where `p` holds of the text behind blanks. -/
def guarded (p : Source → Nat → Bool) (g : Grammar) : Grammar := fun src i =>
  if p src (skip src i) then g src i else none

/-- `g`, where `ahead` does not refuse. -/
def before (ahead g : Grammar) : Grammar := fun src i =>
  match ahead src i with
  | some _ => g src i
  | none => none

/-- `g`, where `ahead` refuses. -/
def excluding (ahead g : Grammar) : Grammar := fun src i =>
  match ahead src i with
  | some _ => none
  | none => g src i

/-- `g`, if what it reads is not followed by `bad`. -/
def notBefore (g bad : Grammar) : Grammar := fun src i =>
  match g src i with
  | some (ns, j) =>
    match bad src j with
    | some _ => none
    | none => some (ns, j)
  | none => none

def leaf (type : String) (named : Bool) (start stop : Nat) : Node :=
  .mk ⟨type, start, stop, named, false, false, none⟩ []

/-- A token of its own spelling. -/
def symbol (s : String) : Grammar := fun src i =>
  let j := skip src i
  if standsAt src j s then some ([leaf s false j (j + s.length)], j + s.length) else none

/-- A given word, read as a keyword. -/
def word (w : String) : Grammar := fun src i =>
  let j := skip src i
  match wordEnd? src j with
  | some k => if src.text j k == w then some ([leaf w false j k], k) else none
  | none => none

/-- A given word that makes a named node. -/
def namedWord (type w : String) : Grammar := fun src i =>
  let j := skip src i
  match wordEnd? src j with
  | some k => if src.text j k == w then some ([leaf type true j k], k) else none
  | none => none

/-- Any word, as a name. -/
def name (type : String) : Grammar := fun src i =>
  let j := skip src i
  match wordEnd? src j with
  | some k => some ([leaf type true j k], k)
  | none => none

def identifier : Grammar := name "identifier"

/-- One or more, parted by `s`. -/
def sepBy1 (s : String) (g : Grammar) : Grammar := seq [g, many (seq [symbol s, g])]

def commaSep (g : Grammar) : Grammar := opt (sepBy1 "," g)

/-- The word behind blanks, empty if there is none. -/
def wordAhead (src : Source) (i : Nat) : String := wordAt src (skip src i)

def symbolAhead (src : Source) (i : Nat) (s : String) : Bool := standsAt src (skip src i) s

end Grammar

/-- The parts of Java that can hold themselves. -/
inductive Goal where
  /-- An expression whose operators bind tighter than the level. In a label an arrow ends it. -/
  | expression (level : Nat) (inLabel : Bool)
  | type
  | unannotatedType
  | annotationUse
  | elementValue
  | initializer
  | recordPattern
  | block
  | statement
  | classBody
  | interfaceBody
  | annotationBody
  | enumBody
  | switchBlock
deriving Repr, DecidableEq

/-- A way to read every goal, used where a rule needs a part of its own kind. -/
abbrev Reader := Goal → Grammar

namespace Reader

/-- A whole expression. -/
def whole (rec : Reader) : Grammar := rec (.expression 0 false)

end Reader

end LogReview.Java
