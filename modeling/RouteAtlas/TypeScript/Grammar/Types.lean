import RouteAtlas.TypeScript.Grammar.Expressions

/-!
# Types and the declarations that are made of them
-/

namespace RouteAtlas.TypeScript

open Grammar Rule

/-- Expressions with types in them, and what classes are built on. -/
def typedExpressionRules : List (String × Rule) := [
  ("type_assertion", leftRanked "unary" (.seq [.ref "type_arguments", .ref "expression"])),
  ("as_expression", leftRanked "binary" (.seq [
    .ref "expression", tok "as", .choice [tok "const", .ref "type"]])),
  ("satisfies_expression", leftRanked "binary" (.seq [
    .ref "expression", tok "satisfies", .ref "type"])),
  ("instantiation_expression", ranked "instantiation" (.seq [
    .ref "expression", .field "type_arguments" (.ref "type_arguments")])),
  ("import_require_clause", .seq [
    .ref "identifier",
    tok "=",
    tok "require",
    tok "(",
    .field "source" (.ref "string"),
    tok ")"]),
  ("extends_clause", .seq [tok "extends", commaList1 (.ref "_extends_clause_single")]),
  ("_extends_clause_single", ranked "extends" (.seq [
    .field "value" (.ref "expression"),
    optField "type_arguments" (.ref "type_arguments")])),
  ("implements_clause", .seq [tok "implements", commaList1 (.ref "type")])]

/-- Declarations that leave no code behind, and modules. -/
def declarationRules : List (String × Rule) := [
  ("ambient_declaration", .seq [tok "declare", .choice [
    .ref "declaration",
    .seq [tok "global", .ref "statement_block"],
    .seq [tok "module", tok ".", propertyName, tok ":", .ref "type", semicolon]]]),
  ("abstract_class_declaration", ranked "declare" (.seq
    ([decorators, tok "abstract", tok "class"] ++ classHead (.ref "_type_identifier")))),
  ("module", .seq [tok "module", .ref "_module"]),
  ("internal_module", .seq [tok "namespace", .ref "_module"]),
  ("_module", right (.seq [
    .field "name" (.choice [.ref "string", .ref "identifier", .ref "nested_identifier"]),
    optField "body" (.ref "statement_block")])),
  ("import_alias", .seq [
    tok "import",
    .ref "identifier",
    tok "=",
    .choice [.ref "identifier", .ref "nested_identifier"],
    semicolon]),
  ("nested_type_identifier", ranked "member" (.seq [
    .field "module" (.choice [.ref "identifier", .ref "nested_identifier"]),
    tok ".",
    .field "name" (.ref "_type_identifier")])),
  ("interface_declaration", ranked "declare" (.seq [
    tok "interface",
    .field "name" (.ref "_type_identifier"),
    optField "type_parameters" (.ref "type_parameters"),
    opt (.ref "extends_type_clause"),
    .field "body" (.shownAs "interface_body" (.ref "object_type"))])),
  ("extends_type_clause", .seq [tok "extends", commaList1 (.field "type" (.choice [
    .ref "_type_identifier", .ref "nested_type_identifier", .ref "generic_type"]))]),
  ("enum_declaration", ranked "declare" (.seq [
    opt (tok "const"),
    tok "enum",
    .field "name" (.ref "identifier"),
    .field "body" (.ref "enum_body")])),
  ("enum_body", braced [opt (.seq [
    commaList1 (.choice [.field "name" (.ref "_property_name"), .ref "enum_assignment"]),
    opt (tok ",")])]),
  ("enum_assignment", .seq [.field "name" (.ref "_property_name"), .ref "_initializer"]),
  ("type_alias_declaration", ranked "declare" (.seq [
    tok "type",
    .field "name" (.ref "_type_identifier"),
    optField "type_parameters" (.ref "type_parameters"),
    tok "=",
    .field "value" (.ref "type"),
    semicolon])),
  ("accessibility_modifier", oneOf ["public", "private", "protected"]),
  ("override_modifier", tok "override")]

/-- An access by name inside a type annotation. -/
def annotationMember : Rule :=
  .shownAs "member_expression" (.ref "_type_query_member_expression_in_type_annotation")

/-- A call inside a type annotation. -/
def annotationCall : Rule :=
  .shownAs "call_expression" (.ref "_type_query_call_expression_in_type_annotation")

/-- The name of a member, a private one included. -/
def memberName : Rule :=
  .field "property" (.choice [.ref "private_property_identifier", propertyName])

/-- Parameters and the annotations that give things their types. -/
def annotationRules : List (String × Rule) := [
  ("required_parameter", .seq [
    .ref "_parameter_name",
    optField "type" (.ref "type_annotation"),
    opt (.ref "_initializer")]),
  ("optional_parameter", .seq [
    .ref "_parameter_name",
    tok "?",
    optField "type" (.ref "type_annotation"),
    opt (.ref "_initializer")]),
  ("_parameter_name", .seq [
    decorators,
    opt (.ref "accessibility_modifier"),
    opt (.ref "override_modifier"),
    opt (tok "readonly"),
    .field "pattern" (.choice [.ref "pattern", .ref "this"])]),
  ("omitting_type_annotation", .seq [tok "-?:", .ref "type"]),
  ("adding_type_annotation", .seq [tok "+?:", .ref "type"]),
  ("opting_type_annotation", .seq [tok "?:", .ref "type"]),
  ("type_annotation", .seq [tok ":", .choice [.ref "type", annotationMember, annotationCall]]),
  ("_type_query_member_expression_in_type_annotation", .seq [
    .field "object" (.choice [.ref "import", annotationMember, annotationCall]),
    tok ".",
    memberName]),
  ("_type_query_call_expression_in_type_annotation", .seq [
    .field "function" (.choice [.ref "import", annotationMember]),
    .field "arguments" (.ref "arguments")]),
  ("asserts", .seq [
    tok "asserts", .choice [.ref "type_predicate", .ref "identifier", .ref "this"]]),
  ("asserts_annotation", .seq [tok ":", .ref "asserts"])]

/-- An index access inside a type query. -/
def querySubscript : Rule :=
  .shownAs "subscript_expression" (.ref "_type_query_subscript_expression")

/-- A member access inside a type query. -/
def queryMember : Rule := .shownAs "member_expression" (.ref "_type_query_member_expression")

/-- A call inside a type query. -/
def queryCall : Rule := .shownAs "call_expression" (.ref "_type_query_call_expression")

/-- What an access inside a type query begins with. -/
def queryObject : Rule := .field "object" (.choice [
  .ref "identifier", .ref "this", querySubscript, queryMember, queryCall])

/-- What a call inside a type query calls. -/
def queryFunction : Rule := .field "function" (.choice [
  .ref "import", .ref "identifier", queryMember, querySubscript])

/-- Types. -/
def typeRules : List (String × Rule) := [
  ("type", .choice [
    .ref "primary_type",
    .ref "function_type",
    .ref "readonly_type",
    .ref "constructor_type",
    .ref "infer_type",
    .prec (.level (-1)) none annotationMember,
    .prec (.level (-1)) none annotationCall]),
  ("tuple_parameter", .seq [
    .field "name" (.choice [.ref "identifier", .ref "rest_pattern"]),
    .field "type" (.ref "type_annotation")]),
  ("optional_tuple_parameter", .seq [
    .field "name" (.ref "identifier"), tok "?", .field "type" (.ref "type_annotation")]),
  ("optional_type", .seq [.ref "type", tok "?"]),
  ("rest_type", .seq [tok "...", .ref "type"]),
  ("_tuple_type_member", .choice [
    .shownAs "required_parameter" (.ref "tuple_parameter"),
    .shownAs "optional_parameter" (.ref "optional_tuple_parameter"),
    .ref "optional_type",
    .ref "rest_type",
    .ref "type"]),
  ("constructor_type", left (.seq [
    opt (tok "abstract"),
    tok "new",
    optField "type_parameters" (.ref "type_parameters"),
    .field "parameters" (.ref "formal_parameters"),
    tok "=>",
    .field "type" (.ref "type")])),
  ("primary_type", .choice [
    .ref "parenthesized_type",
    .ref "predefined_type",
    .ref "_type_identifier",
    .ref "nested_type_identifier",
    .ref "generic_type",
    .ref "object_type",
    .ref "array_type",
    .ref "tuple_type",
    .ref "flow_maybe_type",
    .ref "type_query",
    .ref "index_type_query",
    .shownAs "this_type" (.ref "this"),
    .ref "existential_type",
    .ref "literal_type",
    .ref "lookup_type",
    .ref "conditional_type",
    .ref "template_literal_type",
    .ref "intersection_type",
    .ref "union_type",
    tok "const"]),
  ("template_type", .seq [
    openSubstitution, .choice [.ref "primary_type", .ref "infer_type"], closeBrace]),
  ("template_literal_type", .seq [
    tok "\x60",
    many (.choice [.shownAs "string_fragment" (.ref "_template_chars"), .ref "template_type"]),
    tok "\x60"]),
  ("infer_type", right (.seq [
    tok "infer", .ref "_type_identifier", opt (.seq [tok "extends", .ref "type"])])),
  ("conditional_type", right (.seq [
    .field "left" (.ref "type"),
    tok "extends",
    .field "right" (.ref "type"),
    tok "?",
    .field "consequence" (.ref "type"),
    tok ":",
    .field "alternative" (.ref "type")])),
  ("generic_type", ranked "call" (.seq [
    .field "name" (.choice [.ref "_type_identifier", .ref "nested_type_identifier"]),
    .field "type_arguments" (.ref "type_arguments")])),
  ("type_predicate", .seq [
    .field "name" (.choice [
      .ref "identifier", .ref "this", .shownAs "identifier" (.ref "predefined_type")]),
    tok "is",
    .field "type" (.ref "type")]),
  ("type_predicate_annotation", .seq [tok ":", .ref "type_predicate"]),
  ("_type_query_member_expression", .seq [queryObject, oneOf [".", "?."], memberName]),
  ("_type_query_subscript_expression", .seq [
    queryObject,
    opt (tok "?."),
    tok "[",
    .field "index" (.choice [.ref "predefined_type", .ref "string", .ref "number"]),
    tok "]"]),
  ("_type_query_call_expression", .seq [queryFunction, .field "arguments" (.ref "arguments")]),
  ("_type_query_instantiation_expression", .seq [
    queryFunction, .field "type_arguments" (.ref "type_arguments")]),
  ("type_query", right (.seq [tok "typeof", .choice [
    querySubscript,
    queryMember,
    queryCall,
    .shownAs "instantiation_expression" (.ref "_type_query_instantiation_expression"),
    .ref "identifier",
    .ref "this"]])),
  ("index_type_query", .seq [tok "keyof", .ref "primary_type"]),
  ("lookup_type", .seq [.ref "primary_type", tok "[", .ref "type", tok "]"]),
  ("mapped_type_clause", .seq [
    .field "name" (.ref "_type_identifier"),
    tok "in",
    .field "type" (.ref "type"),
    opt (.seq [tok "as", .field "alias" (.ref "type")])]),
  ("literal_type", .choice [
    .shownAs "unary_expression" (.ref "_number"),
    .ref "number",
    .ref "string",
    .ref "true",
    .ref "false",
    .ref "null",
    .ref "undefined"]),
  ("_number", .prec (.level 1) (some .left) (.seq [
    .field "operator" (oneOf ["-", "+"]), .field "argument" (.ref "number")])),
  ("existential_type", tok "*"),
  ("flow_maybe_type", right (.seq [tok "?", .ref "primary_type"])),
  ("parenthesized_type", parenthesized [.ref "type"]),
  ("predefined_type", .choice [
    oneOf ["any", "number", "boolean", "string", "symbol"],
    .shownAsToken "unique symbol" (.seq [tok "unique", tok "symbol"]),
    oneOf ["void", "unknown", "string", "never", "object"]]),
  ("type_arguments", .seq [tok "<", commaList1 (.ref "type"), opt (tok ","), tok ">"])]

/-- The parts of object types, and types made of others by an operator. -/
def compositeTypeRules : List (String × Rule) := [
  ("object_type", .seq [
    .choice [openBrace, tok "\x7b|"],
    opt (.seq [
      opt (oneOf [",", ";"]),
      separated1 (.choice [tok ",", semicolon]) (.choice [
        .ref "export_statement",
        .ref "property_signature",
        .ref "call_signature",
        .ref "construct_signature",
        .ref "index_signature",
        .ref "method_signature"]),
      opt (.choice [tok ",", semicolon])]),
    .choice [closeBrace, tok "|\x7d"]]),
  ("call_signature", .ref "_call_signature"),
  ("property_signature", .seq [
    opt (.ref "accessibility_modifier"),
    opt (tok "static"),
    opt (.ref "override_modifier"),
    opt (tok "readonly"),
    .field "name" (.ref "_property_name"),
    opt (tok "?"),
    optField "type" (.ref "type_annotation")]),
  ("type_parameters", .seq [
    tok "<", commaList1 (.ref "type_parameter"), opt (tok ","), tok ">"]),
  ("type_parameter", .seq [
    opt (tok "const"),
    .field "name" (.ref "_type_identifier"),
    optField "constraint" (.ref "constraint"),
    optField "value" (.ref "default_type")]),
  ("default_type", .seq [tok "=", .ref "type"]),
  ("constraint", .seq [oneOf ["extends", ":"], .ref "type"]),
  ("construct_signature", .seq [
    opt (tok "abstract"),
    tok "new",
    optField "type_parameters" (.ref "type_parameters"),
    .field "parameters" (.ref "formal_parameters"),
    optField "type" (.ref "type_annotation")]),
  ("index_signature", .seq [
    opt (.seq [optField "sign" (oneOf ["-", "+"]), tok "readonly"]),
    tok "[",
    .choice [
      .seq [
        .field "name" (.choice [.ref "identifier", reservedAsName]),
        tok ":",
        .field "index_type" (.ref "type")],
      .ref "mapped_type_clause"],
    tok "]",
    .field "type" (.choice [
      .ref "type_annotation",
      .ref "omitting_type_annotation",
      .ref "adding_type_annotation",
      .ref "opting_type_annotation"])]),
  ("array_type", .seq [.ref "primary_type", tok "[", tok "]"]),
  ("tuple_type", bracketed [commaList (.ref "_tuple_type_member"), opt (tok ",")]),
  ("readonly_type", .seq [tok "readonly", .ref "type"]),
  ("union_type", left (.seq [opt (.ref "type"), tok "|", .ref "type"])),
  ("intersection_type", left (.seq [opt (.ref "type"), tok "&", .ref "type"])),
  ("function_type", left (.seq [
    optField "type_parameters" (.ref "type_parameters"),
    .field "parameters" (.ref "formal_parameters"),
    tok "=>",
    .field "return_type" (.choice [.ref "type", .ref "asserts", .ref "type_predicate"])])),
  ("_type_identifier", .shownAs "type_identifier" (.ref "identifier"))]

end RouteAtlas.TypeScript
