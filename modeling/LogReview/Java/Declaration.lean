import LogReview.Java.Expression

/-! Declarations of Java: packages, modules, types and their members. -/
namespace LogReview.Java

open Grammar

def semicolon : Grammar := symbol ";"

def braced (g : Grammar) : Grammar := seq [symbol "\x7b", g, symbol "\x7d"]

/-! Packages, imports and modules. -/

def packageDeclaration (rec : Reader) : Grammar :=
  node "package_declaration" (seq [annotations rec, word "package", qualifiedName, semicolon])

def importDeclaration : Grammar :=
  node "import_declaration" (seq [word "import", opt (notBefore (word "static") semicolon), qualifiedName,
    opt (seq [symbol ".", fun src i =>
      let j := skip src i
      if standsAt src j "*" then some ([leaf "asterisk" true j (j + 1)], j + 1) else none]), semicolon])

def requiresModifier : Grammar :=
  node "requires_modifier" (choice [word "transitive", word "static"])

def moduleDirective : Grammar :=
  let names (fieldName : String) (w : String) : Grammar :=
    opt (seq [word w, sepBy1 "," (field fieldName qualifiedName)])
  choice
    [node "requires_module_directive" (seq [word "requires",
       many (field "modifiers" (notBefore requiresModifier semicolon)), field "module" qualifiedName, semicolon]),
     node "exports_module_directive" (seq [word "exports", field "package" qualifiedName, names "modules" "to",
       semicolon]),
     node "opens_module_directive" (seq [word "opens", field "package" qualifiedName, names "modules" "to",
       semicolon]),
     node "uses_module_directive" (seq [word "uses", field "type" qualifiedName, semicolon]),
     node "provides_module_directive" (seq [word "provides", field "provided" qualifiedName, word "with",
       qualifiedName, many (seq [symbol ",", field "provider" qualifiedName]), semicolon])]

def moduleDeclaration (rec : Reader) : Grammar :=
  node "module_declaration" (seq [annotations rec, opt (word "open"), word "module", field "name" qualifiedName,
    field "body" (node "module_body" (braced (many moduleDirective)))])

/-! Types. -/

def superInterfaces (rec : Reader) : Grammar :=
  node "super_interfaces" (seq [word "implements", typeList rec])

def permits (rec : Reader) : Grammar := node "permits" (seq [word "permits", typeList rec])

def classDeclaration (rec : Reader) (mods : Grammar) : Grammar :=
  node "class_declaration" (seq [mods, word "class", field "name" identifier,
    field "type_parameters" (opt (typeParameters rec)),
    field "superclass" (opt (node "superclass" (seq [word "extends", rec .type]))),
    field "interfaces" (opt (superInterfaces rec)),
    field "permits" (opt (permits rec)),
    field "body" (rec .classBody)])

def recordDeclaration (rec : Reader) (mods : Grammar) : Grammar :=
  node "record_declaration" (seq [mods, word "record", field "name" identifier,
    field "type_parameters" (opt (typeParameters rec)),
    field "parameters" (formalParameters rec),
    field "interfaces" (opt (superInterfaces rec)),
    field "body" (rec .classBody)])

def interfaceDeclaration (rec : Reader) (mods : Grammar) : Grammar :=
  node "interface_declaration" (seq [mods, word "interface", field "name" identifier,
    field "type_parameters" (opt (typeParameters rec)),
    opt (node "extends_interfaces" (seq [word "extends", typeList rec])),
    field "permits" (opt (permits rec)),
    field "body" (rec .interfaceBody)])

def annotationTypeDeclaration (rec : Reader) (mods : Grammar) : Grammar :=
  node "annotation_type_declaration" (seq [mods, symbol "@interface", field "name" identifier,
    field "body" (rec .annotationBody)])

def enumDeclaration (rec : Reader) (mods : Grammar) : Grammar :=
  node "enum_declaration" (seq [mods, word "enum", field "name" identifier,
    field "interfaces" (opt (superInterfaces rec)),
    field "body" (rec .enumBody)])

/-- A type declaration behind its modifiers, told by its first word. -/
def typeDeclaration (rec : Reader) (mods : Grammar) : Grammar := fun src i =>
  match mods src i with
  | some (_, j) =>
    let w := wordAhead src j
    if w == "class" then classDeclaration rec mods src i
    else if w == "interface" then interfaceDeclaration rec mods src i
    else if w == "enum" then enumDeclaration rec mods src i
    else if w == "record" then recordDeclaration rec mods src i
    else if symbolAhead src j "@interface" then annotationTypeDeclaration rec mods src i
    else none
  | none => none

/-- A word that starts a type declaration. -/
def startsType (src : Source) (i : Nat) : Bool :=
  ["class", "interface", "enum", "record"].contains (wordAhead src i) || symbolAhead src i "@interface"

/-! Members. -/

def throws (rec : Reader) : Grammar :=
  node "throws" (seq [word "throws", sepBy1 "," (rec .type)])

def methodHeader (rec : Reader) : Grammar :=
  seq [opt (seq [field "type_parameters" (typeParameters rec), annotations rec]),
    field "type" (rec .unannotatedType), field "name" identifier,
    field "parameters" (formalParameters rec), field "dimensions" (opt (dimensions rec)), opt (throws rec)]

def methodDeclaration (rec : Reader) (mods : Grammar) : Grammar :=
  node "method_declaration"
    (seq [mods, methodHeader rec, choice [semicolon, field "body" (rec .block)]])

/-- A declaration of variables of one type. -/
def variablesOf (rec : Reader) (type : String) (mods : Grammar) : Grammar :=
  node type (seq [mods, field "type" (rec .unannotatedType), variableDeclarators rec, semicolon])

/-- The call of another constructor, the first thing in a constructor's body. -/
def constructorCall (rec : Reader) : Grammar :=
  let own := seq [field "type_arguments" (opt (typeArguments rec)),
    field "constructor" (choice [namedWord "this" "this", superWord])]
  let outer : Grammar := fun src i =>
    match rec (.expression 15 true) src i with
    | some (ns, j) =>
      seq [field "object" (fun _ k => some (ns, k)), symbol ".",
        field "type_arguments" (opt (typeArguments rec)), field "constructor" superWord] src j
    | none => none
  node "explicit_constructor_invocation"
    (seq [choice [before (seq [own, symbol "("]) own, outer], field "arguments" (argumentList rec), semicolon])

def constructorBody (rec : Reader) : Grammar :=
  node "constructor_body" (braced (seq [opt (constructorCall rec), many (rec .statement)]))

def constructorDeclaration (rec : Reader) (mods : Grammar) : Grammar :=
  node "constructor_declaration" (seq [mods, field "type_parameters" (opt (typeParameters rec)),
    field "name" identifier, field "parameters" (formalParameters rec), opt (throws rec),
    field "body" (constructorBody rec)])

def compactConstructor (rec : Reader) (mods : Grammar) : Grammar :=
  node "compact_constructor_declaration" (seq [mods, field "name" identifier, field "body" (rec .block)])

def staticInitializer (rec : Reader) : Grammar :=
  node "static_initializer" (seq [word "static", rec .block])

/-- Modifiers that have been read, as a grammar that gives them again. -/
def modifiersAt (rec : Reader) (src : Source) (i : Nat) : Grammar × Nat :=
  match opt (modifiers rec) src i with
  | some (ns, j) => (fun _ _ => some (ns, j), j)
  | none => (empty, i)

/-- A member of a class, a record or an enum. -/
def classMember (rec : Reader) : Grammar := fun src i =>
  let (mods, j) := modifiersAt rec src i
  if symbolAhead src i ";" then semicolon src i
  else if symbolAhead src i "\x7b" then rec .block src i
  else if symbolAhead src j "\x7b" then staticInitializer rec src i
  else if startsType src j then typeDeclaration rec mods src i
  else
    let named := seq [opt (typeParameters rec), identifier]
    choice
      [before (fun src i => if (seq [mods, named, symbol "("] src i).isSome then some ([], i) else none)
         (constructorDeclaration rec mods),
       before (seq [mods, identifier, symbol "\x7b"]) (compactConstructor rec mods),
       before (seq [mods, opt (seq [typeParameters rec, annotations rec]), rec .unannotatedType, identifier,
           symbol "("])
         (methodDeclaration rec mods),
       variablesOf rec "field_declaration" mods] src i

def classBody (rec : Reader) : Grammar := node "class_body" (braced (many (classMember rec)))

def interfaceMember (rec : Reader) : Grammar := fun src i =>
  let (mods, j) := modifiersAt rec src i
  if symbolAhead src i ";" then semicolon src i
  else if startsType src j then typeDeclaration rec mods src i
  else choice
    [before (seq [mods, opt (seq [typeParameters rec, annotations rec]), rec .unannotatedType, identifier,
         symbol "("])
       (methodDeclaration rec mods),
     variablesOf rec "constant_declaration" mods] src i

def interfaceBody (rec : Reader) : Grammar := node "interface_body" (braced (many (interfaceMember rec)))

def annotationElement (rec : Reader) (mods : Grammar) : Grammar :=
  node "annotation_type_element_declaration" (seq [mods, field "type" (rec .unannotatedType),
    field "name" identifier, symbol "(", symbol ")", field "dimensions" (opt (dimensions rec)),
    opt (seq [word "default", field "value" (rec .elementValue)]), semicolon])

def annotationMember (rec : Reader) : Grammar := fun src i =>
  let (mods, j) := modifiersAt rec src i
  if symbolAhead src i ";" then semicolon src i
  else if startsType src j && wordAhead src j != "record" then typeDeclaration rec mods src i
  else choice [annotationElement rec mods, variablesOf rec "constant_declaration" mods] src i

def annotationBody (rec : Reader) : Grammar :=
  node "annotation_type_body" (braced (many (annotationMember rec)))

def enumConstant (rec : Reader) : Grammar := fun src i =>
  let (mods, _) := modifiersAt rec src i
  node "enum_constant" (seq [mods, field "name" identifier, field "arguments" (opt (argumentList rec)),
    field "body" (opt (rec .classBody))]) src i

def enumBody (rec : Reader) : Grammar :=
  node "enum_body" (braced (seq [commaSep (enumConstant rec), opt (symbol ","),
    opt (node "enum_body_declarations" (seq [semicolon, many (classMember rec)]))]))

end LogReview.Java
