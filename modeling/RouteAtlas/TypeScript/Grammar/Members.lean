import RouteAtlas.TypeScript.Grammar.Marks

/-!
# Members of classes and objects
-/

namespace RouteAtlas.TypeScript

open Grammar Rule

/-- The start of an access inside a decorator. -/
def decoratorBase : Rule := .choice [
  .ref "identifier", .shownAs "member_expression" (.ref "decorator_member_expression")]

/-- What a method may be declared as before its name. -/
def methodModifiers : List Rule := [
  opt (.ref "accessibility_modifier"),
  opt (tok "static"),
  opt (.ref "override_modifier"),
  opt (tok "readonly"),
  opt (tok "async"),
  opt (oneOf ["get", "set", "*"])]

/-- The name of a method, up to the end of its signature. -/
def methodSignature : List Rule := [
  .field "name" (.ref "_property_name"), opt (tok "?"), .ref "_call_signature"]

/-- Decorators, class bodies, parameters, patterns and properties. -/
def memberRules : List (String × Rule) := [
  ("decorator", .seq [tok "@", .choice [
    .ref "identifier",
    .shownAs "member_expression" (.ref "decorator_member_expression"),
    .shownAs "call_expression" (.ref "decorator_call_expression"),
    .shownAs "parenthesized_expression" (.ref "decorator_parenthesized_expression")]]),
  ("decorator_member_expression", ranked "member" (.seq [
    .field "object" decoratorBase, tok ".", .field "property" propertyName])),
  ("decorator_call_expression", ranked "call" (.seq [
    .field "function" decoratorBase,
    opt (.field "type_arguments" (.ref "type_arguments")),
    .field "arguments" (.ref "arguments")])),
  ("class_body", braced [many (.choice [
    .seq [decorators, .ref "method_definition", opt semicolon],
    .seq [.ref "method_signature",
      .choice [.ref "_function_signature_automatic_semicolon", tok ","]],
    .ref "class_static_block",
    .seq [
      .choice [
        .ref "abstract_method_signature",
        .ref "index_signature",
        .ref "method_signature",
        .ref "public_field_definition"],
      .choice [semicolon, tok ","]],
    tok ";"])]),
  ("formal_parameters", parenthesized [opt (.seq [
    commaList1 (.ref "_formal_parameter"), opt (tok ",")])]),
  ("class_static_block", .seq [tok "static", .field "body" (.ref "statement_block")]),
  ("pattern", .weight (-1) (.choice [.ref "_lhs_expression", .ref "rest_pattern"])),
  ("rest_pattern", right (.seq [tok "...", .ref "_lhs_expression"])),
  ("method_definition", left (.seq (methodModifiers ++ methodSignature
    ++ [.field "body" (.ref "statement_block")]))),
  ("pair", .seq [
    .field "key" (.ref "_property_name"), tok ":", .field "value" (.ref "expression")]),
  ("pair_pattern", .seq [
    .field "key" (.ref "_property_name"),
    tok ":",
    .field "value" (.choice [.ref "pattern", .ref "assignment_pattern"])]),
  ("_property_name", .choice [
    .shownAs "property_identifier" anyName,
    .ref "private_property_identifier",
    .ref "string",
    .ref "number",
    .ref "computed_property_name"]),
  ("computed_property_name", bracketed [.ref "expression"]),
  ("_reserved_identifier", .choice [
    oneOf ["declare", "namespace", "type", "public", "private", "protected", "override",
      "readonly", "module", "any", "number", "boolean", "string", "symbol", "export", "object",
      "new", "readonly"],
    oneOf ["get", "set", "async", "static", "export", "let"]]),
  ("_semicolon", .choice [.ref "_automatic_semicolon", tok ";"]),
  ("public_field_definition", .seq [
    decorators,
    opt (.choice [
      .seq [tok "declare", opt (.ref "accessibility_modifier")],
      .seq [.ref "accessibility_modifier", opt (tok "declare")]]),
    .choice [
      .seq [opt (tok "static"), opt (.ref "override_modifier"), opt (tok "readonly")],
      .seq [opt (tok "abstract"), opt (tok "readonly")],
      .seq [opt (tok "readonly"), opt (tok "abstract")],
      opt (tok "accessor")],
    .field "name" (.ref "_property_name"),
    opt (oneOf ["?", "!"]),
    optField "type" (.ref "type_annotation"),
    opt (.ref "_initializer")]),
  ("_import_identifier",
    .choice [.ref "identifier", .shownAs "identifier" (tok "type")]),
  ("non_null_expression", leftRanked "unary" (.seq [.ref "expression", tok "!"])),
  ("method_signature", .seq (methodModifiers ++ methodSignature)),
  ("abstract_method_signature", .seq ([
    opt (.ref "accessibility_modifier"),
    tok "abstract",
    opt (.ref "override_modifier"),
    opt (oneOf ["get", "set", "*"])] ++ methodSignature)),
  ("function_signature", .seq [
    opt (tok "async"),
    tok "function",
    .field "name" (.ref "identifier"),
    .ref "_call_signature",
    .choice [semicolon, .ref "_function_signature_automatic_semicolon"]]),
  ("decorator_parenthesized_expression", parenthesized [.choice [
    .ref "identifier",
    .shownAs "member_expression" (.ref "decorator_member_expression"),
    .shownAs "call_expression" (.ref "decorator_call_expression")]])]

end RouteAtlas.TypeScript
