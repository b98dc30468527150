import LogReview.Java.Grammar

/-! Types, annotations and names of Java. -/
namespace LogReview.Java

open Grammar

/-- A name with dots; each part but the first opens one more scope. -/
def scopedNameFrom (src : Source) : Nat → Node → Nat → Node × Nat
  | 0, n, i => (n, i)
  | fuel + 1, n, i =>
    match seq [symbol ".", field "name" identifier] src i with
    | some (ms, j) =>
      let scope := withField "scope" n
      let stop := match ms.getLast? with
        | some m => m.stop
        | none => j
      scopedNameFrom src fuel
        (.mk ⟨"scoped_identifier", n.start, stop, true, false, false, none⟩ (scope :: ms)) j
    | none => (n, i)

def qualifiedName : Grammar := fun src i =>
  match identifier src i with
  | some ([n], j) =>
    let (m, k) := scopedNameFrom src (src.size - j + 1) n j
    some ([m], k)
  | _ => none

def annotations (rec : Reader) : Grammar := many (rec .annotationUse)

/-- One pair `key = value`; the sign is not the start of a comparison. -/
def elementValuePair (rec : Reader) : Grammar :=
  node "element_value_pair"
    (seq [field "key" identifier, excluding (symbol "==") (symbol "="), field "value" (rec .elementValue)])

def annotationArguments (rec : Reader) : Grammar :=
  node "annotation_argument_list" (seq [symbol "(",
    choice [before (seq [identifier, excluding (symbol "==") (symbol "=")]) (sepBy1 "," (elementValuePair rec)),
      rec .elementValue, empty],
    symbol ")"])

def annotationUse (rec : Reader) : Grammar := fun src i =>
  let start := seq [excluding (symbol "@interface") (symbol "@"), field "name" qualifiedName]
  choice
    [node "annotation" (seq [start, field "arguments" (annotationArguments rec)]),
     node "marker_annotation" (notBefore start (symbol "("))] src i

def elementValue (rec : Reader) : Grammar :=
  choice
    [node "element_value_array_initializer"
       (seq [symbol "\x7b", commaSep (rec .elementValue), opt (symbol ","), symbol "\x7d"]),
     rec .annotationUse,
     rec.whole]

def dimensions (rec : Reader) : Grammar :=
  node "dimensions" (many1 (seq [annotations rec, symbol "[", symbol "]"]))

def wildcard (rec : Reader) : Grammar :=
  node "wildcard" (seq [annotations rec, symbol "?",
    opt (choice [seq [word "extends", rec .type], seq [namedWord "super" "super", rec .type]])])

def typeArguments (rec : Reader) : Grammar :=
  node "type_arguments" (seq [symbol "<", commaSep (choice [wildcard rec, rec .type]), symbol ">"])

def integralWords : List String := ["byte", "short", "int", "long", "char"]

def floatingWords : List String := ["float", "double"]

def primitiveWords : List String := integralWords ++ floatingWords ++ ["boolean", "void"]

def primitiveType : Grammar := fun src i =>
  let w := wordAhead src i
  if integralWords.contains w then node "integral_type" (word w) src i
  else if floatingWords.contains w then node "floating_point_type" (word w) src i
  else if w == "boolean" then namedWord "boolean_type" w src i
  else if w == "void" then namedWord "void_type" w src i
  else none

/-- A further part of a type name, which is never the word `class`. -/
def typePart (rec : Reader) : Grammar :=
  seq [symbol ".", annotations rec, excluding (word "class") (name "type_identifier")]

/-- One more part or one list of arguments behind a type. -/
def growType (rec : Reader) (n : Node) : Grammar := fun src i =>
  let here : Grammar := fun _ j => some ([n], j)
  if n.type == "generic_type" then node "scoped_type_identifier" (seq [here, typePart rec]) src i
  else choice [node "generic_type" (seq [here, typeArguments rec]),
    node "scoped_type_identifier" (seq [here, typePart rec])] src i

def growTypeFrom (rec : Reader) (src : Source) : Nat → Node → Nat → Node × Nat
  | 0, n, i => (n, i)
  | fuel + 1, n, i =>
    match growType rec n src i with
    | some ([m], j) => growTypeFrom rec src fuel m j
    | _ => (n, i)

/-- A type that is no array. -/
def simpleType (rec : Reader) : Grammar := fun src i =>
  match primitiveType src i with
  | some r => some r
  | none =>
    match name "type_identifier" src i with
    | some ([n], j) =>
      let (m, k) := growTypeFrom rec src (src.size - j + 1) n j
      some ([m], k)
    | _ => none

def unannotatedType (rec : Reader) : Grammar := fun src i =>
  match simpleType rec src i with
  | some ([n], j) =>
    let here : Grammar := fun _ k => some ([n], k)
    choice [node "array_type" (seq [field "element" here, field "dimensions" (dimensions rec)]), here] src j
  | _ => none

def type (rec : Reader) : Grammar :=
  choice [node "annotated_type" (seq [many1 (rec .annotationUse), rec .unannotatedType]), rec .unannotatedType]

def typeList (rec : Reader) : Grammar := node "type_list" (sepBy1 "," (rec .type))

def typeParameter (rec : Reader) : Grammar :=
  node "type_parameter" (seq [annotations rec, name "type_identifier",
    opt (node "type_bound" (seq [word "extends", sepBy1 "&" (rec .type)]))])

def typeParameters (rec : Reader) : Grammar :=
  node "type_parameters" (seq [symbol "<", sepBy1 "," (typeParameter rec), symbol ">"])

def modifierWords : List String :=
  ["public", "protected", "private", "abstract", "static", "final", "strictfp", "default", "synchronized",
   "native", "transient", "volatile", "sealed"]

def modifierWord : Grammar := fun src i =>
  let w := wordAhead src i
  if symbolAhead src i "non-sealed" then symbol "non-sealed" src i
  else if modifierWords.contains w then word w src i
  else none

def modifiers (rec : Reader) : Grammar :=
  node "modifiers" (many1 (choice [rec .annotationUse, modifierWord]))

/-- The name that a declaration gives, with dimensions that may follow it. -/
def declaredName (rec : Reader) : Grammar :=
  seq [field "name" (choice [namedWord "underscore_pattern" "_", identifier]),
    field "dimensions" (opt (dimensions rec))]

def variableDeclarator (rec : Reader) : Grammar :=
  node "variable_declarator"
    (seq [declaredName rec, opt (seq [symbol "=", field "value" (rec .initializer)])])

def variableDeclarators (rec : Reader) : Grammar :=
  sepBy1 "," (field "declarator" (variableDeclarator rec))

def initializer (rec : Reader) : Grammar :=
  choice
    [node "array_initializer"
       (seq [symbol "\x7b", commaSep (rec .initializer), opt (symbol ","), symbol "\x7d"]),
     rec.whole]

def receiverParameter (rec : Reader) : Grammar :=
  node "receiver_parameter" (seq [annotations rec, rec .unannotatedType,
    many (seq [excluding (word "this") identifier, symbol "."]), namedWord "this" "this"])

def formalParameter (rec : Reader) : Grammar :=
  node "formal_parameter" (seq [opt (modifiers rec), field "type" (rec .unannotatedType), declaredName rec])

def spreadParameter (rec : Reader) : Grammar :=
  node "spread_parameter" (seq [opt (modifiers rec), rec .unannotatedType, symbol "...", annotations rec,
    variableDeclarator rec])

def formalParameters (rec : Reader) : Grammar :=
  let parameters := sepBy1 "," (choice [spreadParameter rec, formalParameter rec])
  node "formal_parameters" (seq [symbol "(",
    choice [seq [receiverParameter rec, opt (seq [symbol ",", opt parameters])], opt parameters],
    symbol ")"])

end LogReview.Java
