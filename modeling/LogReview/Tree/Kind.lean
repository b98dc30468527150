import LogReview.Tree.Node

/-! What a node type means to the rules: thirteen kinds, and six sorts of literals. -/
namespace LogReview

inductive LiteralSort where
  | string | char | integer | double | boolean | null
deriving Repr, DecidableEq

namespace LiteralSort

def ofType? : String → Option LiteralSort
  | "string_literal" | "text_block" => some string
  | "character_literal" => some char
  | "decimal_integer_literal" | "hex_integer_literal" | "octal_integer_literal"
  | "binary_integer_literal" => some integer
  | "decimal_floating_point_literal" | "hex_floating_point_literal" => some double
  | "true" | "false" => some boolean
  | "null_literal" => some null
  | _ => none

def name : LiteralSort → String
  | string => "string"
  | char => "char"
  | integer => "integer"
  | double => "double"
  | boolean => "boolean"
  | null => "null"

end LiteralSort

inductive Kind where
  | methodCall | methodDeclaration | block | loop | tryStatement | catchClause | binaryExpression
  | literal | identifier | throwStatement | returnStatement | breakStatement | other
deriving Repr, DecidableEq

namespace Kind

/-- Literals first; a `do` loop is no loop here. -/
def ofType (type : String) : Kind :=
  if (LiteralSort.ofType? type).isSome then literal
  else match type with
    | "method_invocation" => methodCall
    | "method_declaration" => methodDeclaration
    | "block" | "constructor_body" => block
    | "for_statement" | "enhanced_for_statement" | "while_statement" => loop
    | "try_statement" | "try_with_resources_statement" => tryStatement
    | "catch_clause" => catchClause
    | "binary_expression" => binaryExpression
    | "identifier" => identifier
    | "throw_statement" => throwStatement
    | "return_statement" => returnStatement
    | "break_statement" => breakStatement
    | _ => other

def all : List Kind :=
  [methodCall, methodDeclaration, block, loop, tryStatement, catchClause, binaryExpression,
   literal, identifier, throwStatement, returnStatement, breakStatement, other]

def name : Kind → String
  | methodCall => "method_call"
  | methodDeclaration => "method_declaration"
  | block => "block"
  | loop => "loop"
  | tryStatement => "try_statement"
  | catchClause => "catch_clause"
  | binaryExpression => "binary_expression"
  | literal => "literal"
  | identifier => "identifier"
  | throwStatement => "throw_statement"
  | returnStatement => "return_statement"
  | breakStatement => "break_statement"
  | other => "other"

def ofName? (s : String) : Option Kind :=
  all.find? fun k => k.name == s

end Kind

namespace Node

def kind (n : Node) : Kind := Kind.ofType n.type

def literalSort? (n : Node) : Option LiteralSort := LiteralSort.ofType? n.type

end Node

end LogReview
