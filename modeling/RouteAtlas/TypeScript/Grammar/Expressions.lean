import RouteAtlas.TypeScript.Grammar.Marks

/-!
# Expressions

Values, the calls and accesses that build on them, assignments, operators, and the patterns that
stand where something is assigned to.
-/

namespace RouteAtlas.TypeScript

open Grammar Rule

/-- Names in the place of a value. -/
def reservedAsName : Rule := .shownAs "identifier" (.ref "_reserved_identifier")

/-- What an expression can be, and the literals that hold other expressions. -/
def valueRules : List (String × Rule) := [
  ("parenthesized_expression", parenthesized [.choice [
    .seq [.ref "expression", optField "type" (.ref "type_annotation")],
    .ref "sequence_expression"]]),
  ("_expressions", .choice [.ref "expression", .ref "sequence_expression"]),
  ("expression", .choice [
    .ref "as_expression",
    .ref "satisfies_expression",
    .ref "instantiation_expression",
    .ref "internal_module",
    .ref "type_assertion",
    .ref "primary_expression",
    .ref "assignment_expression",
    .ref "augmented_assignment_expression",
    .ref "await_expression",
    .ref "unary_expression",
    .ref "binary_expression",
    .ref "ternary_expression",
    .ref "update_expression",
    .ref "new_expression",
    .ref "yield_expression"]),
  ("primary_expression", .choice [
    .choice [
      .ref "subscript_expression",
      .ref "member_expression",
      .ref "parenthesized_expression",
      .ref "_identifier",
      reservedAsName,
      .ref "this",
      .ref "super",
      .ref "number",
      .ref "string",
      .ref "template_string",
      .ref "regex",
      .ref "true",
      .ref "false",
      .ref "null",
      .ref "object",
      .ref "array",
      .ref "function_expression",
      .ref "arrow_function",
      .ref "generator_function",
      .ref "class",
      .ref "meta_property",
      .ref "call_expression"],
    .ref "non_null_expression"]),
  ("yield_expression", right (.seq [
    tok "yield", .choice [.seq [tok "*", .ref "expression"], opt (.ref "expression")]])),
  ("object", ranked "object" (braced [commaList (opt (.choice [
    .ref "pair",
    .ref "spread_element",
    .ref "method_definition",
    .shownAs "shorthand_property_identifier" anyName]))])),
  ("object_pattern", ranked "object" (braced [commaList (opt (.choice [
    .ref "pair_pattern",
    .ref "rest_pattern",
    .ref "object_assignment_pattern",
    .shownAs "shorthand_property_identifier_pattern" anyName]))])),
  ("assignment_pattern", .seq [
    .field "left" (.ref "pattern"), tok "=", .field "right" (.ref "expression")]),
  ("object_assignment_pattern", .seq [
    .field "left" (.choice [
      .shownAs "shorthand_property_identifier_pattern"
        (.choice [.ref "_reserved_identifier", .ref "identifier"]),
      .ref "_destructuring_pattern"]),
    tok "=",
    .field "right" (.ref "expression")]),
  ("array",
    bracketed [commaList (opt (.choice [.ref "expression", .ref "spread_element"]))]),
  ("array_pattern",
    bracketed [commaList (opt (.choice [.ref "pattern", .ref "assignment_pattern"]))]),
  ("nested_identifier", ranked "member" (.seq [
    .field "object" (.choice [
      .ref "identifier", .shownAs "member_expression" (.ref "nested_identifier")]),
    tok ".",
    .field "property" propertyName]))]

/-- The head of a class: its name, the types it takes, and what it extends. -/
def classHead (name : Rule) : List Rule := [
  .field "name" name,
  optField "type_parameters" (.ref "type_parameters"),
  opt (.ref "class_heritage"),
  .field "body" (.ref "class_body")]

/-- A function from its first word to its body. -/
def functionParts (generator : List Rule) (name : Rule) : List Rule :=
  [opt (tok "async"), tok "function"] ++ generator
    ++ [.field "name" name, .ref "_call_signature", .field "body" (.ref "statement_block")]

/-- Classes and functions. -/
def functionRules : List (String × Rule) := [
  ("class", ranked "literal" (.seq
    ([decorators, tok "class"] ++ classHead (opt (.ref "_type_identifier"))))),
  ("class_declaration", leftRanked "declare" (.seq
    ([decorators, tok "class"] ++ classHead (.ref "_type_identifier")
      ++ [opt (.ref "_automatic_semicolon")]))),
  ("class_heritage", .choice [
    .seq [.ref "extends_clause", opt (.ref "implements_clause")],
    .ref "implements_clause"]),
  ("function_expression",
    ranked "literal" (.seq (functionParts [] (opt (.ref "identifier"))))),
  ("function_declaration", rightRanked "declare" (.seq
    (functionParts [] (.ref "identifier") ++ [opt (.ref "_automatic_semicolon")]))),
  ("generator_function",
    ranked "literal" (.seq (functionParts [tok "*"] (opt (.ref "identifier"))))),
  ("generator_function_declaration", rightRanked "declare" (.seq
    (functionParts [tok "*"] (.ref "identifier") ++ [opt (.ref "_automatic_semicolon")]))),
  ("arrow_function", .seq [
    opt (tok "async"),
    .choice [
      .field "parameter" (.choice [reservedAsName, .ref "identifier"]),
      .ref "_call_signature"],
    tok "=>",
    .field "body" (.choice [.ref "expression", .ref "statement_block"])]),
  ("_call_signature", .seq [
    optField "type_parameters" (.ref "type_parameters"),
    .field "parameters" (.ref "formal_parameters"),
    optField "return_type" (.choice [
      .ref "type_annotation",
      .ref "asserts_annotation",
      .ref "type_predicate_annotation"])]),
  ("_formal_parameter", .choice [.ref "required_parameter", .ref "optional_parameter"])]

/-- Calls, accesses and assignments. -/
def accessRules : List (String × Rule) := [
  ("optional_chain", tok "?."),
  ("call_expression", .choice [
    ranked "call" (.seq [
      .field "function" (.choice [.ref "expression", .ref "import"]),
      optField "type_arguments" (.ref "type_arguments"),
      .field "arguments" (.ref "arguments")]),
    ranked "template_call" (.seq [
      .field "function" (.choice [.ref "primary_expression", .ref "new_expression"]),
      .field "arguments" (.ref "template_string")]),
    ranked "member" (.seq [
      .field "function" (.ref "primary_expression"),
      tok "?.",
      optField "type_arguments" (.ref "type_arguments"),
      .field "arguments" (.ref "arguments")])]),
  ("new_expression", rightRanked "new" (.seq [
    tok "new",
    .field "constructor" (.ref "primary_expression"),
    optField "type_arguments" (.ref "type_arguments"),
    optField "arguments" (.ref "arguments")])),
  ("await_expression", ranked "unary_void" (.seq [tok "await", .ref "expression"])),
  ("member_expression", ranked "member" (.seq [
    .field "object" (.choice [.ref "expression", .ref "primary_expression", .ref "import"]),
    .choice [tok ".", .field "optional_chain" (.ref "optional_chain")],
    .field "property" (.choice [.ref "private_property_identifier", propertyName])])),
  ("subscript_expression", rightRanked "member" (.seq [
    .field "object" (.choice [.ref "expression", .ref "primary_expression"]),
    opt (.field "optional_chain" (.ref "optional_chain")),
    tok "[",
    .field "index" (.ref "_expressions"),
    tok "]"])),
  ("_lhs_expression", .choice [
    .choice [
      .ref "member_expression",
      .ref "subscript_expression",
      .ref "_identifier",
      reservedAsName,
      .ref "_destructuring_pattern"],
    .ref "non_null_expression"]),
  ("assignment_expression", rightRanked "assign" (.seq [
    opt (tok "using"),
    .field "left" (.choice [.ref "parenthesized_expression", .ref "_lhs_expression"]),
    tok "=",
    .field "right" (.ref "expression")])),
  ("_augmented_assignment_lhs", .choice [
    .choice [
      .ref "member_expression",
      .ref "subscript_expression",
      reservedAsName,
      .ref "identifier",
      .ref "parenthesized_expression"],
    .ref "non_null_expression"]),
  ("augmented_assignment_expression", rightRanked "assign" (.seq [
    .field "left" (.ref "_augmented_assignment_lhs"),
    .field "operator" (oneOf ["+=", "-=", "*=", "/=", "%=", "^=", "&=", "|=", ">>=", ">>>=",
      "<<=", "**=", "&&=", "||=", "??="]),
    .field "right" (.ref "expression")])),
  ("_initializer", .seq [tok "=", .field "value" (.ref "expression")]),
  ("_destructuring_pattern", .choice [.ref "object_pattern", .ref "array_pattern"]),
  ("spread_element", .seq [tok "...", .ref "expression"])]

/-- An operator between two expressions. -/
def binary (rank : String → Rule → Rule) (name operator : String) : Rule :=
  rank name (.seq [
    .field "left" (if operator = "in" then
      .choice [.ref "expression", .ref "private_property_identifier"] else .ref "expression"),
    .field "operator" (tok operator),
    .field "right" (.ref "expression")])

/-- Operators. -/
def operatorRules : List (String × Rule) := [
  ("ternary_expression", rightRanked "ternary" (.seq [
    .field "condition" (.ref "expression"),
    .shownAsToken "?" (.ref "_ternary_qmark"),
    .field "consequence" (.ref "expression"),
    tok ":",
    .field "alternative" (.ref "expression")])),
  ("binary_expression", .choice [
    binary leftRanked "logical_and" "&&",
    binary leftRanked "logical_or" "||",
    binary leftRanked "binary_shift" ">>",
    binary leftRanked "binary_shift" ">>>",
    binary leftRanked "binary_shift" "<<",
    binary leftRanked "bitwise_and" "&",
    binary leftRanked "bitwise_xor" "^",
    binary leftRanked "bitwise_or" "|",
    binary leftRanked "binary_plus" "+",
    binary leftRanked "binary_plus" "-",
    binary leftRanked "binary_times" "*",
    binary leftRanked "binary_times" "/",
    binary leftRanked "binary_times" "%",
    binary rightRanked "binary_exp" "**",
    binary leftRanked "binary_relation" "<",
    binary leftRanked "binary_relation" "<=",
    binary leftRanked "binary_equality" "==",
    binary leftRanked "binary_equality" "===",
    binary leftRanked "binary_equality" "!=",
    binary leftRanked "binary_equality" "!==",
    binary leftRanked "binary_relation" ">=",
    binary leftRanked "binary_relation" ">",
    binary leftRanked "ternary" "??",
    binary leftRanked "binary_relation" "instanceof",
    binary leftRanked "binary_relation" "in"]),
  ("unary_expression", leftRanked "unary_void" (.seq [
    .field "operator" (oneOf ["!", "~", "-", "+", "typeof", "void", "delete"]),
    .field "argument" (.ref "expression")])),
  ("update_expression", left (.choice [
    .seq [.field "argument" (.ref "expression"), .field "operator" (oneOf ["++", "--"])],
    .seq [.field "operator" (oneOf ["++", "--"]), .field "argument" (.ref "expression")]])),
  ("sequence_expression", right (commaList1 (.ref "expression")))]

/-- A text between two quotes of one kind. -/
def quotedText (quote fragment : String) : Rule := .seq [
  tok quote,
  many (.choice [.shownAs "string_fragment" (.ref fragment), .ref "escape_sequence"]),
  tok quote]

/-- Literals, names and single words. -/
def literalRules : List (String × Rule) := [
  ("string", .choice [
    quotedText "\"" "unescaped_double_string_fragment",
    quotedText "'" "unescaped_single_string_fragment"]),
  ("unescaped_double_string_fragment", .lexeme "unescaped_double_string_fragment"),
  ("unescaped_single_string_fragment", .lexeme "unescaped_single_string_fragment"),
  ("escape_sequence", .lexeme "escape_sequence"),
  ("comment", .lexeme "comment"),
  ("template_string", .seq [
    tok "\x60",
    many (.choice [
      .shownAs "string_fragment" (.ref "_template_chars"),
      .ref "escape_sequence",
      .ref "template_substitution"]),
    tok "\x60"]),
  ("template_substitution", .seq [openSubstitution, .ref "_expressions", closeBrace]),
  ("regex", .seq [
    tok "/",
    .field "pattern" (.ref "regex_pattern"),
    .shownAsToken "/" (.lexeme "regex_end"),
    opt (.field "flags" (.ref "regex_flags"))]),
  ("regex_pattern", .lexeme "regex_pattern"),
  ("regex_flags", .lexeme "regex_flags"),
  ("number", .lexeme "number"),
  ("_identifier", .choice [.ref "undefined", .ref "identifier"]),
  ("identifier", .lexeme "identifier"),
  ("private_property_identifier", .lexeme "private_property_identifier"),
  ("meta_property", .choice [
    .seq [tok "new", tok ".", tok "target"], .seq [tok "import", tok ".", tok "meta"]]),
  ("this", tok "this"),
  ("super", tok "super"),
  ("true", tok "true"),
  ("false", tok "false"),
  ("null", tok "null"),
  ("undefined", tok "undefined"),
  ("arguments",
    parenthesized [commaList (opt (.choice [.ref "expression", .ref "spread_element"]))])]

end RouteAtlas.TypeScript
