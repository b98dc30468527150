import LogReview.Java.Declaration

/-! Statements of Java. -/
namespace LogReview.Java

open Grammar

def block (rec : Reader) : Grammar := node "block" (braced (many (rec .statement)))

def ifStatement (rec : Reader) : Grammar :=
  node "if_statement" (seq [word "if", field "condition" (parenthesized rec),
    field "consequence" (rec .statement),
    opt (seq [word "else", field "alternative" (rec .statement)])])

def whileStatement (rec : Reader) : Grammar :=
  node "while_statement" (seq [word "while", field "condition" (parenthesized rec),
    field "body" (rec .statement)])

def doStatement (rec : Reader) : Grammar :=
  node "do_statement" (seq [word "do", field "body" (rec .statement), word "while",
    field "condition" (parenthesized rec), semicolon])

/-- A local declaration; its type is told from a value by its first word. -/
def localVariables (rec : Reader) (mods : Grammar) : Grammar :=
  node "local_variable_declaration"
    (seq [mods, field "type" (plainType rec), variableDeclarators rec, semicolon])

def forEach (rec : Reader) (mods : Grammar) : Grammar :=
  node "enhanced_for_statement" (seq [word "for", symbol "(", mods, field "type" (plainType rec),
    declaredName rec, excluding (symbol "::") (symbol ":"), field "value" rec.whole, symbol ")",
    field "body" (rec .statement)])

def forStatement (rec : Reader) (mods : Grammar) : Grammar :=
  let expressions (name : String) : Grammar := commaSep (field name rec.whole)
  node "for_statement" (seq [word "for", symbol "(",
    choice [field "init" (localVariables rec mods), seq [expressions "init", semicolon]],
    opt (field "condition" rec.whole), semicolon, expressions "update", symbol ")",
    field "body" (rec .statement)])

/-- Both kinds of loops with `for`. -/
def forLoop (rec : Reader) : Grammar :=
  let mods := opt (modifiers rec)
  choice [forEach rec mods, forStatement rec mods]

def jump (type w : String) : Grammar := node type (seq [word w, opt identifier, semicolon])

def returnStatement (rec : Reader) : Grammar :=
  node "return_statement" (seq [word "return", opt rec.whole, semicolon])

def yieldStatement (rec : Reader) : Grammar :=
  node "yield_statement" (seq [word "yield", rec.whole, semicolon])

def assertStatement (rec : Reader) : Grammar :=
  node "assert_statement" (seq [word "assert", rec.whole, opt (seq [symbol ":", rec.whole]), semicolon])

def synchronizedStatement (rec : Reader) : Grammar :=
  node "synchronized_statement" (seq [word "synchronized", parenthesized rec, field "body" (rec .block)])

def catchClause (rec : Reader) : Grammar :=
  let caught := node "catch_formal_parameter" (seq [opt (modifiers rec),
    node "catch_type" (sepBy1 "|" (rec .unannotatedType)), declaredName rec])
  node "catch_clause" (seq [word "catch", symbol "(", caught, symbol ")", field "body" (rec .block)])

def finallyClause (rec : Reader) : Grammar := node "finally_clause" (seq [word "finally", rec .block])

/-- What a `try` can open: a new variable, or one that is there already. -/
def resource (rec : Reader) : Grammar :=
  let existing : Grammar := fun src i =>
    match rec (.expression 15 true) src i with
    | some ([n], j) => if n.type == "identifier" || n.type == "field_access" then some ([n], j) else none
    | _ => none
  node "resource"
    (choice [seq [opt (modifiers rec), field "type" (plainType rec), declaredName rec, symbol "=",
        field "value" rec.whole], existing])

/-- Catch clauses and a finally clause, at least one of them. -/
def handlers (rec : Reader) : Grammar := fun src i =>
  match seq [many (catchClause rec), opt (finallyClause rec)] src i with
  | some ([], _) => none
  | r => r

def tryStatement (rec : Reader) : Grammar :=
  let resources := node "resource_specification"
    (seq [symbol "(", sepBy1 ";" (resource rec), opt semicolon, symbol ")"])
  choice
    [node "try_with_resources_statement" (seq [word "try", field "resources" resources,
       field "body" (rec .block), opt (handlers rec)]),
     node "try_statement" (seq [word "try", field "body" (rec .block), handlers rec])]

/-- A switch is a statement, or with a semicolon an expression that is one. -/
def switchStatement (rec : Reader) : Grammar := fun src i =>
  match switchExpression rec src i with
  | some (ns, j) =>
    let here : Grammar := fun _ k => some (ns, k)
    choice [node "expression_statement" (seq [here, semicolon]), here] src j
  | none => none

def labeledStatement (rec : Reader) : Grammar :=
  node "labeled_statement" (seq [identifier, excluding (symbol "::") (symbol ":"), rec .statement])

/-- A statement that starts with modifiers or a type: a local type, or variables. -/
def declarationStatement (rec : Reader) : Grammar := fun src i =>
  let (mods, j) := modifiersAt rec src i
  if startsType src j then typeDeclaration rec mods src i
  else if wordAhead src j == "package" then packageDeclaration rec src i
  else if wordAhead src j == "module" || wordAhead src j == "open" then
    choice [moduleDeclaration rec, localVariables rec mods] src i
  else localVariables rec mods src i

/-- `record`, `module` and the like start a declaration only if one follows. -/
def reservedStatement (rec : Reader) : Grammar := fun src i =>
  let w := wordAhead src i
  let declared := if w == "record" then recordDeclaration rec empty
    else if w == "module" || w == "open" then moduleDeclaration rec
    else if w == "sealed" then declarationStatement rec
    else refuse
  choice [declared, expressionStatement rec] src i

/-- Statements that are told by their first word. -/
def keywordStatement? (rec : Reader) (w : String) : Option Grammar :=
  if w == "if" then some (ifStatement rec)
  else if w == "while" then some (whileStatement rec)
  else if w == "for" then some (forLoop rec)
  else if w == "do" then some (doStatement rec)
  else if w == "break" then some (jump "break_statement" w)
  else if w == "continue" then some (jump "continue_statement" w)
  else if w == "return" then some (returnStatement rec)
  else if w == "yield" then some (yieldStatement rec)
  else if w == "throw" then some (throwStatement rec)
  else if w == "try" then some (tryStatement rec)
  else if w == "assert" then some (assertStatement rec)
  else if w == "import" then some importDeclaration
  else if w == "package" then some (packageDeclaration rec)
  else if w == "switch" then some (switchStatement rec)
  else if w == "synchronized" then some (choice [synchronizedStatement rec, declarationStatement rec])
  else if ["class", "interface", "enum"].contains w then some (typeDeclaration rec empty)
  else if reservedWords.contains w then some (reservedStatement rec)
  else if modifierWords.contains w then some (declarationStatement rec)
  else if valueWords.contains w then some (expressionStatement rec)
  else none

def statement (rec : Reader) : Grammar := fun src i =>
  let j := skip src i
  let w := wordAt src j
  if standsAt src j ";" then semicolon src i
  else if standsAt src j "\x7b" then rec .block src i
  else if standsAt src j "@" || standsAt src j "non-sealed" then declarationStatement rec src i
  else match keywordStatement? rec w with
    | some g => g src i
    | none =>
      if w == "" then expressionStatement rec src i
      else choice [localVariables rec empty, labeledStatement rec, expressionStatement rec] src i

end LogReview.Java
