import LogReview.Java.Type

/-! Expressions of Java. Operands are read first; then operators are taken as long as they bind tighter
than the level at which the expression is read. -/
namespace LogReview.Java

open Grammar

/-- How tight an infix operator binds. -/
def bindingOf? (op : String) : Option Nat :=
  if op == "||" then some 4
  else if op == "&&" then some 5
  else if op == "|" then some 6
  else if op == "^" then some 7
  else if op == "&" then some 8
  else if ["==", "!="].contains op then some 9
  else if ["<", ">", "<=", ">="].contains op then some 10
  else if ["<<", ">>", ">>>"].contains op then some 11
  else if ["+", "-"].contains op then some 12
  else if ["*", "/", "%"].contains op then some 13
  else none

def assignmentOperators : List String :=
  ["=", "+=", "-=", "*=", "/=", "&=", "|=", "^=", "%=", "<<=", ">>=", ">>>="]

/-- A node that has been read already. -/
def given (n : Node) : Grammar := fun _ i => some ([n], i)

/-- The single node of `g`, grown by `step` as often as it can be. -/
def growFrom (step : Node → Grammar) (src : Source) : Nat → Node → Nat → Node × Nat
  | 0, n, i => (n, i)
  | fuel + 1, n, i =>
    match step n src i with
    | some ([m], j) => growFrom step src fuel m j
    | _ => (n, i)

def grown (g : Grammar) (step : Node → Grammar) : Grammar := fun src i =>
  match g src i with
  | some ([n], j) =>
    let (m, k) := growFrom step src (src.size - j + 1) n j
    some ([m], k)
  | r => r

/-! Text literals. -/

/-- A piece of text between quotes. -/
def fragmentEnd (src : Source) (i : Nat) : Nat := spanEnd (fun b => b != 34 && b != 92 && b != 0) src i

def interpolation (rec : Reader) : Grammar :=
  node "string_interpolation" (seq [symbol "\\\x7b", rec.whole, symbol "\x7d"])

def textParts (rec : Reader) (src : Source) : Nat → List Node → Nat → Option (List Node × Nat)
  | 0, _, _ => none
  | fuel + 1, ns, i =>
    match src[i]? with
    | some 34 => some ((leaf "\"" false i (i + 1) :: ns).reverse, i + 1)
    | some 92 =>
      if standsAt src i "\\\x7b" then
        match interpolation rec src i with
        | some (ms, j) => textParts rec src fuel (ms.reverse ++ ns) j
        | none => none
      else match escapeEnd? src i with
        | some j => textParts rec src fuel (leaf "escape_sequence" true i j :: ns) j
        | none => none
    | some 0 | none => none
    | some _ =>
      let j := fragmentEnd src i
      textParts rec src fuel (leaf "string_fragment" true i j :: ns) j

/-- The end of a piece of a text block that starts with a quote. -/
def quoteRunEnd (src : Source) : Nat → Nat → Nat
  | 0, i => i
  | fuel + 1, i =>
    if standsAt src i "\\\"" then quoteRunEnd src fuel (i + 2)
    else
      let j := fragmentEnd src i
      if i < j then quoteRunEnd src fuel j else i

/-- What may follow a backslash in a text block to make a node of its own. -/
def isShownEscape (b : UInt8) : Bool :=
  "bfnrts'\"\\".toList.any fun c => c.toNat.toUInt8 == b

/-- The end of the escape at `i` in a text block, and whether it makes a node; of other signs only codes of
more than one do. -/
def blockEscape? (src : Source) (i : Nat) : Option (Bool × Nat) :=
  let short := i + 1 + charLength src (i + 1)
  if byteIs src (i + 1) isShownEscape then some (true, i + 2)
  else match escapeEnd? src i with
    | some j => some (short < j, j)
    | none => if byteIs src (i + 1) (· != 0) then some (false, short) else none

def blockParts (rec : Reader) (src : Source) : Nat → List Node → Nat → Option (List Node × Nat)
  | 0, _, _ => none
  | fuel + 1, ns, i =>
    if standsAt src i "\"\"\"" then some ((leaf "\"\"\"" false i (i + 3) :: ns).reverse, i + 3)
    else match src[i]? with
      | some 34 =>
        let j := quoteRunEnd src (src.size - i) (i + 1)
        blockParts rec src fuel (leaf "multiline_string_fragment" true i j :: ns) j
      | some 92 =>
        if standsAt src i "\\\x7b" then
          match interpolation rec src i with
          | some (ms, j) => blockParts rec src fuel (ms.reverse ++ ns) j
          | none => none
        else match blockEscape? src i with
          | some (true, j) => blockParts rec src fuel (leaf "escape_sequence" true i j :: ns) j
          | some (false, j) => blockParts rec src fuel ns j
          | none => none
      | some 0 | none => none
      | some _ =>
        let j := fragmentEnd src i
        blockParts rec src fuel (leaf "multiline_string_fragment" true i j :: ns) j

/-- A text in quotes, or a block in three quotes. -/
def stringLiteral (rec : Reader) : Grammar := node "string_literal" fun src i =>
  let j := skip src i
  if standsAt src j "\"\"\"" then
    blockParts rec src (src.size - j + 1) [leaf "\"\"\"" false j (j + 3)] (j + 3)
  else if standsAt src j "\"" then
    textParts rec src (src.size - j + 1) [leaf "\"" false j (j + 1)] (j + 1)
  else none

def charLiteral : Grammar := fun src i =>
  let j := skip src i
  match charLiteralEnd? src j with
  | some k => some ([leaf "character_literal" true j k], k)
  | none => none

def numberLiteral : Grammar := fun src i =>
  let j := skip src i
  match numberAt? src j with
  | some (type, k) => some ([leaf type true j k], k)
  | none => none

/-! What can follow a primary expression. -/

def argumentList (rec : Reader) : Grammar :=
  node "argument_list" (seq [symbol "(", commaSep rec.whole, symbol ")"])

def superWord : Grammar := namedWord "super" "super"

/-- The part behind `new`: an object with arguments, or an array. -/
def created (rec : Reader) : Grammar :=
  seq [word "new", annotations rec, opt (seq [field "type_arguments" (typeArguments rec), annotations rec]),
    field "type" (simpleType rec), field "arguments" (argumentList rec), opt (rec .classBody)]

def dimensionExpression (rec : Reader) : Grammar :=
  node "dimensions_expr" (seq [annotations rec, symbol "[", rec.whole, symbol "]"])

def arrayCreation (rec : Reader) : Grammar :=
  let sized := seq [field "dimensions" (many1 (dimensionExpression rec)),
    field "dimensions" (opt (dimensions rec))]
  let listed := seq [field "dimensions" (dimensions rec),
    field "value" (before (symbol "\x7b") (rec .initializer))]
  node "array_creation_expression"
    (seq [word "new", annotations rec, field "type" (simpleType rec), choice [listed, sized]])

/-- The name of a called method, and what it is called with. -/
def calledName (rec : Reader) : Grammar :=
  seq [field "type_arguments" (opt (typeArguments rec)), field "name" identifier,
    field "arguments" (argumentList rec)]

def template (rec : Reader) (n : Node) : Grammar :=
  node "template_expression"
    (seq [field "template_processor" (given n), symbol ".", field "template_argument" (stringLiteral rec)])

/-- A call or a field of `n`. -/
def memberOf (rec : Reader) (n : Node) : Grammar :=
  let object := field "object" (given n)
  let through := opt (seq [symbol ".", superWord])
  choice
    [node "method_invocation" (seq [object, through, symbol ".", excluding (word "new") (calledName rec)]),
     node "field_access" (seq [object, through, symbol ".",
       field "field" (excluding (choice [word "super", word "new"])
         (choice [namedWord "this" "this", identifier]))])]

def referenceOf (rec : Reader) (n : Node) : Grammar :=
  node "method_reference"
    (seq [given n, symbol "::", opt (typeArguments rec), choice [word "new", identifier]])

def growPrimary (rec : Reader) (n : Node) : Grammar := fun src i =>
  let j := skip src i
  if standsAt src j "::" then referenceOf rec n src i
  else if standsAt src j "." then
    choice [node "object_creation_expression" (seq [given n, symbol ".", created rec]), template rec n,
      memberOf rec n] src i
  else if standsAt src j "[" then
    node "array_access" (seq [field "array" (given n), symbol "[", field "index" rec.whole, symbol "]"]) src i
  else none

/-- Names, fields and elements can be assigned to. -/
def assignable (n : Node) : Bool := ["identifier", "field_access", "array_access"].contains n.type

def assigned (rec : Reader) (inLabel : Bool) (n : Node) : Grammar := fun src i =>
  let op := operatorAt src (skip src i)
  if assignable n && assignmentOperators.contains op then
    node "assignment_expression"
      (seq [field "left" (given n), field "operator" (symbol op),
        field "right" (rec (.expression 0 inLabel))]) src i
  else some ([n], i)

/-- A primary expression with all that follows it. -/
def primaryFrom (rec : Reader) (g : Grammar) : Grammar := grown g (growPrimary rec)

def operandFrom (rec : Reader) (inLabel : Bool) (g : Grammar) : Grammar := fun src i =>
  match primaryFrom rec g src i with
  | some ([n], j) => assigned rec inLabel n src j
  | r => r

/-! Operands. -/

def lambdaBody (rec : Reader) : Grammar :=
  seq [symbol "->", field "body" (choice [before (symbol "\x7b") (rec .block), rec.whole])]

def inferredParameters : Grammar :=
  node "inferred_parameters" (seq [symbol "(", sepBy1 "," identifier, symbol ")"])

def lambda (rec : Reader) (parameters : Grammar) : Grammar :=
  node "lambda_expression" (seq [field "parameters" parameters, lambdaBody rec])

def parenthesized (rec : Reader) : Grammar :=
  node "parenthesized_expression" (seq [symbol "(", rec.whole, symbol ")"])

/-- A type that could be read as an expression too. -/
def isPlainName (n : Node) : Bool := n.type == "type_identifier" || n.type == "scoped_type_identifier"

/-- Words that stand for values or start them, and never name a type where a value can stand. -/
def valueWords : List String := ["this", "super", "new", "switch", "true", "false", "null"]

/-- Words that are names only where a value can stand. -/
def reservedWords : List String := ["open", "module", "record", "with", "sealed"]

/-- Whether an operand starts at `i` that is no signed one. -/
def startsOperand (src : Source) (i : Nat) : Bool :=
  let w := wordAt src i
  if w != "" then w != "instanceof"
  else ["(", "\"", "'", "!", "~"].any (standsAt src i) || byteIs src i isDigit ||
    (standsAt src i "." && byteIs src (i + 1) isDigit)

/-- Whether what follows a name in parentheses makes it a cast: an operand, but no sum or difference. -/
def followsCast (src : Source) (i : Nat) : Bool :=
  let j := skip src i
  if standsAt src j "++" || standsAt src j "--" then
    let k := skip src (j + 2)
    startsOperand src k || standsAt src k "+" || standsAt src k "-"
  else startsOperand src j

/-- The types of a cast, in parentheses. -/
def castTypes (rec : Reader) : Grammar := fun src i =>
  let w := wordAhead src ((skip src i) + 1)
  if valueWords.contains w || reservedWords.contains w then none
  else seq [symbol "(", sepBy1 "&" (field "type" (rec .type)), symbol ")"] src i

def cast (rec : Reader) (inLabel : Bool) : Grammar := fun src i =>
  match castTypes rec src i with
  | some (ns, j) =>
    let types := ns.filter (·.label.named)
    let head : Grammar := fun _ _ => some (ns, j)
    let valued (value : Grammar) : Grammar := node "cast_expression" (seq [head, field "value" value])
    if types.length == 1 then
      if types.any isPlainName && !followsCast src j then none
      else valued (rec (.expression 14 inLabel)) src i
    else if startsOperand src (skip src j) then valued (rec (.expression 15 inLabel)) src i
    else none
  | none => none

/-- What an opening parenthesis can start. -/
def parenOperand (rec : Reader) (inLabel : Bool) : Grammar := fun src i =>
  let arrow (g : Grammar) : Grammar := if inLabel then refuse else lambda rec g
  let inside := wordAhead src (skip src i + 1)
  let plain := if modifierWords.contains inside && !reservedWords.contains inside then refuse
    else operandFrom rec inLabel (parenthesized rec)
  choice [arrow inferredParameters, arrow (formalParameters rec), cast rec inLabel, plain] src i

def signs : List String := ["++", "--", "+", "-", "!", "~"]

def signed (rec : Reader) (inLabel : Bool) : Grammar := fun src i =>
  let j := skip src i
  match signs.find? (standsAt src j) with
  | some s =>
    let operand := rec (.expression 15 inLabel)
    if s == "++" || s == "--" then node "update_expression" (seq [symbol s, operand]) src i
    else node "unary_expression" (seq [field "operator" (symbol s), field "operand" operand]) src i
  | none => none

/-- `T.class`, unless it is called or assigned to. -/
def classLiteral (rec : Reader) : Grammar := fun src i =>
  match node "class_literal" (seq [rec .unannotatedType, symbol ".", word "class"]) src i with
  | some ([n], j) =>
    let next := operatorAt src (skip src j)
    if symbolAhead src j "(" || assignmentOperators.contains next then none else some ([n], j)
  | _ => none

/-- A reference to a method of a type that cannot be read as an expression. -/
def typeReference (rec : Reader) : Grammar := fun src i =>
  match rec .unannotatedType src i with
  | some ([t], j) => if isPlainName t then none else referenceOf rec t src j
  | _ => none

def superOperand (rec : Reader) : Grammar := fun src i =>
  match superWord src i with
  | some ([n], j) => choice [referenceOf rec n, memberOf rec n] src j
  | _ => none

def literalWord (w : String) : Grammar :=
  namedWord (if w == "null" then "null_literal" else w) w

def creation (rec : Reader) : Grammar :=
  choice [node "object_creation_expression" (created rec), arrayCreation rec]

def switchExpression (rec : Reader) : Grammar :=
  node "switch_expression"
    (seq [word "switch", field "condition" (parenthesized rec), field "body" (rec .switchBlock)])

def namedOperand (rec : Reader) (inLabel : Bool) : Grammar := fun src i =>
  let invoked := node "method_invocation" (seq [field "name" identifier, field "arguments" (argumentList rec)])
  let arrow := if inLabel then refuse else before (seq [identifier, symbol "->"]) (lambda rec identifier)
  let typed := if reservedWords.contains (wordAhead src i) then refuse
    else operandFrom rec inLabel (choice [classLiteral rec, typeReference rec])
  choice [arrow, typed, operandFrom rec inLabel (choice [invoked, identifier])] src i

def operand (rec : Reader) (inLabel : Bool) : Grammar := fun src i =>
  let j := skip src i
  let w := wordAt src j
  let primary (g : Grammar) : Grammar := operandFrom rec inLabel g
  if w != "" then
    if primitiveWords.contains w then primary (choice [classLiteral rec, typeReference rec]) src i
    else if w == "this" then primary (namedWord w w) src i
    else if w == "super" then primary (superOperand rec) src i
    else if w == "new" then primary (creation rec) src i
    else if w == "switch" then switchExpression rec src i
    else if w == "true" || w == "false" || w == "null" then primary (literalWord w) src i
    else namedOperand rec inLabel src i
  else if standsAt src j "(" then parenOperand rec inLabel src i
  else if standsAt src j "\"" then primary (stringLiteral rec) src i
  else if standsAt src j "'" then primary charLiteral src i
  else if byteIs src j isDigit || standsAt src j "." then primary numberLiteral src i
  else signed rec inLabel src i

/-! Operators. -/

/-- The right side of a type test: a pattern, or a type with or without a name. -/
def typeTest (rec : Reader) : Grammar :=
  seq [word "instanceof", opt (word "final"),
    choice [field "pattern" (rec .recordPattern),
      seq [field "right" (rec .type), opt (field "name" (excluding (word "instanceof") identifier))]]]

def growExpression (rec : Reader) (level : Nat) (inLabel : Bool) (n : Node) : Grammar := fun src i =>
  let j := skip src i
  let op := operatorAt src j
  if op == "++" || op == "--" then
    if level < 15 then node "update_expression" (seq [given n, symbol op]) src i else none
  else if op == "?" then
    if level < 3 then
      node "ternary_expression"
        (seq [field "condition" (given n), symbol "?", field "consequence" rec.whole, symbol ":",
          field "alternative" (rec (.expression 2 inLabel))]) src i
    else none
  else match bindingOf? op with
    | some b =>
      if level < b then
        node "binary_expression"
          (seq [field "left" (given n), field "operator" (symbol op),
            field "right" (rec (.expression b inLabel))]) src i
      else none
    | none =>
      if level < 10 && wordAt src j == "instanceof" then
        node "instanceof_expression" (seq [field "left" (given n), typeTest rec]) src i
      else none

def expression (rec : Reader) (level : Nat) (inLabel : Bool) : Grammar :=
  grown (operand rec inLabel) (growExpression rec level inLabel)

/-! Patterns and switches. -/

def patternComponent (rec : Reader) : Grammar :=
  choice
    [rec .recordPattern,
     node "record_pattern_component"
       (choice [namedWord "underscore_pattern" "_", seq [rec .unannotatedType, identifier]])]

def recordPattern (rec : Reader) : Grammar := fun src i =>
  let generic : Grammar := fun src i =>
    match simpleType rec src i with
    | some ([t], j) => if t.type == "generic_type" then some ([t], j) else none
    | _ => none
  let body := node "record_pattern_body" (seq [symbol "(", commaSep (patternComponent rec), symbol ")"])
  node "record_pattern" (seq [choice [generic, notBefore identifier (symbol "<")], body]) src i

/-- Where a value can stand too, some words never name a type. -/
def plainType (rec : Reader) : Grammar := fun src i =>
  let w := wordAhead src i
  if valueWords.contains w || reservedWords.contains w then none else rec .unannotatedType src i

def pattern (rec : Reader) : Grammar :=
  node "pattern"
    (choice [node "type_pattern" (seq [plainType rec, excluding (choice [word "instanceof", word "when"]) identifier]),
      rec .recordPattern])

def switchLabel (rec : Reader) : Grammar :=
  let value := rec (.expression 0 true)
  let guard := node "guard" (seq [word "when", value])
  let ending := choice [symbol "->", symbol ":", word "when"]
  node "switch_label"
    (choice [seq [word "case",
        choice [fun src i => match pattern rec src i with
            | some (ns, j) => if (ending src j).isSome then some (ns, j) else none
            | none => none,
          sepBy1 "," value],
        opt guard],
      word "default"])

/-- A new label, at which a group of statements ends. -/
def startsLabel : Grammar :=
  choice [word "case", seq [word "default", choice [symbol ":", symbol "->"]]]

def switchGroup (rec : Reader) : Grammar :=
  node "switch_block_statement_group"
    (seq [many1 (seq [switchLabel rec, symbol ":"]), many (excluding startsLabel (rec .statement))])

def throwStatement (rec : Reader) : Grammar :=
  node "throw_statement" (seq [word "throw", rec.whole, symbol ";"])

def expressionStatement (rec : Reader) : Grammar :=
  node "expression_statement" (seq [rec.whole, symbol ";"])

def switchRule (rec : Reader) : Grammar :=
  node "switch_rule" (seq [switchLabel rec, symbol "->",
    choice [before (symbol "\x7b") (rec .block), before (word "throw") (throwStatement rec),
      expressionStatement rec]])

def switchBlock (rec : Reader) : Grammar :=
  node "switch_block"
    (choice [seq [symbol "\x7b", many1 (switchGroup rec), symbol "\x7d"],
      seq [symbol "\x7b", many (switchRule rec), symbol "\x7d"]])

end LogReview.Java
