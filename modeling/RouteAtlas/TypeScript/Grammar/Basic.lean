import RouteAtlas.TypeScript.Grammar.Members
import RouteAtlas.TypeScript.Grammar.Modules
import RouteAtlas.TypeScript.Grammar.Statements
import RouteAtlas.TypeScript.Grammar.Types

/-!
# The TypeScript grammar

All rules together, with the rankings by which conflicts between them are settled and the sets of
rules whose conflicts stay open until the text decides.
-/

namespace RouteAtlas.TypeScript

open Grammar

/-- Rankings of operators, calls and accesses, from the tightest. -/
def operatorOrderings : List (List RankEntry) := [
  [.named "member", .named "template_call", .named "call", .rule "update_expression",
    .named "unary_void", .named "binary_exp", .named "binary_times", .named "binary_plus",
    .named "binary_shift", .named "binary_compare", .named "binary_relation",
    .named "binary_equality", .named "bitwise_and", .named "bitwise_xor", .named "bitwise_or",
    .named "logical_and", .named "logical_or", .named "ternary", .rule "sequence_expression",
    .rule "arrow_function"],
  [.named "assign", .rule "primary_expression"],
  [.named "member", .named "template_call", .named "new", .named "call", .rule "expression"],
  [.named "declare", .named "literal"],
  [.rule "primary_expression", .rule "statement_block", .named "object"],
  [.rule "meta_property", .rule "import"],
  [.rule "import_statement", .rule "import"],
  [.rule "export_statement", .rule "primary_expression"],
  [.rule "lexical_declaration", .rule "primary_expression"]]

/-- Rankings of types, and of words that are names in one reading only. -/
def typeOrderings : List (List RankEntry) := [
  [.named "call", .named "instantiation", .named "unary", .named "binary",
    .rule "await_expression", .rule "arrow_function"],
  [.named "extends", .named "instantiation"],
  [.rule "intersection_type", .rule "union_type", .rule "conditional_type", .rule "function_type",
    .named "binary", .rule "type_predicate", .rule "readonly_type"],
  [.rule "mapped_type_clause", .rule "primary_expression"],
  [.rule "accessibility_modifier", .rule "primary_expression"],
  [.named "unary_void", .rule "expression"],
  [.rule "extends_clause", .rule "primary_expression"],
  [.named "unary", .named "assign"],
  [.named "declare", .rule "expression"],
  [.rule "predefined_type", .rule "unary_expression"],
  [.rule "type", .rule "flow_maybe_type"],
  [.rule "tuple_type", .rule "array_type", .rule "pattern", .rule "type"],
  [.rule "readonly_type", .rule "pattern"],
  [.rule "readonly_type", .rule "primary_expression"],
  [.rule "type_query", .rule "subscript_expression", .rule "expression"],
  [.rule "type_query", .rule "_type_query_subscript_expression"],
  [.rule "nested_type_identifier", .rule "generic_type", .rule "primary_type",
    .rule "lookup_type", .rule "index_type_query", .rule "type"],
  [.rule "as_expression", .rule "satisfies_expression", .rule "primary_type"],
  [.rule "_type_query_member_expression", .rule "member_expression"],
  [.rule "member_expression", .rule "_type_query_member_expression_in_type_annotation"],
  [.rule "_type_query_member_expression", .rule "primary_expression"],
  [.rule "_type_query_subscript_expression", .rule "subscript_expression"],
  [.rule "_type_query_subscript_expression", .rule "primary_expression"],
  [.rule "_type_query_call_expression", .rule "primary_expression"],
  [.rule "_type_query_instantiation_expression", .rule "primary_expression"],
  [.rule "type_query", .rule "primary_expression"],
  [.rule "override_modifier", .rule "primary_expression"],
  [.rule "decorator_call_expression", .rule "decorator"],
  [.rule "literal_type", .rule "pattern"],
  [.rule "predefined_type", .rule "pattern"],
  [.rule "call_expression", .rule "_type_query_call_expression"],
  [.rule "call_expression", .rule "_type_query_call_expression_in_type_annotation"],
  [.rule "new_expression", .rule "primary_expression"],
  [.rule "meta_property", .rule "primary_expression"],
  [.rule "construct_signature", .rule "_property_name"]]

/-- Readings of values, patterns and statements that begin alike. -/
def valueConflicts : List (List String) := [
  ["primary_expression", "_property_name"],
  ["primary_expression", "_property_name", "arrow_function"],
  ["primary_expression", "arrow_function"],
  ["primary_expression", "method_definition"],
  ["primary_expression", "rest_pattern"],
  ["primary_expression", "pattern"],
  ["primary_expression", "_for_header"],
  ["variable_declarator", "_for_header"],
  ["array", "array_pattern"],
  ["object", "object_pattern"],
  ["assignment_expression", "pattern"],
  ["assignment_expression", "object_assignment_pattern"],
  ["labeled_statement", "_property_name"],
  ["computed_property_name", "array"],
  ["binary_expression", "_initializer"],
  ["class_static_block", "_property_name"]]

/-- Readings with types in them that begin alike. -/
def typeConflicts : List (List String) := [
  ["call_expression", "instantiation_expression", "binary_expression"],
  ["call_expression", "instantiation_expression", "binary_expression", "unary_expression"],
  ["call_expression", "instantiation_expression", "binary_expression", "update_expression"],
  ["call_expression", "instantiation_expression", "binary_expression", "await_expression"],
  ["class"],
  ["nested_identifier", "nested_type_identifier", "primary_expression"],
  ["nested_identifier", "nested_type_identifier"],
  ["_call_signature", "function_type"],
  ["_call_signature", "constructor_type"],
  ["primary_expression", "_parameter_name"],
  ["primary_expression", "_parameter_name", "primary_type"],
  ["primary_expression", "literal_type"],
  ["primary_expression", "literal_type", "rest_pattern"],
  ["primary_expression", "predefined_type", "rest_pattern"],
  ["primary_expression", "primary_type"],
  ["primary_expression", "generic_type"],
  ["primary_expression", "predefined_type"],
  ["primary_expression", "pattern", "primary_type"],
  ["_parameter_name", "primary_type"],
  ["pattern", "primary_type"],
  ["optional_tuple_parameter", "primary_type"],
  ["rest_pattern", "primary_type", "primary_expression"],
  ["object", "object_type"],
  ["object", "object_pattern", "object_type"],
  ["object", "object_pattern", "_property_name"],
  ["object_pattern", "object_type"],
  ["array", "tuple_type"],
  ["array", "array_pattern", "tuple_type"],
  ["array_pattern", "tuple_type"],
  ["template_literal_type", "template_string"],
  ["primary_type", "type_parameter"]]

/-- The grammar of TypeScript source files. -/
def grammar : Definition where
  rules := exportRules ++ importRules ++ statementRules ++ valueRules ++ functionRules
    ++ accessRules ++ operatorRules ++ literalRules ++ memberRules ++ typedExpressionRules
    ++ declarationRules ++ annotationRules ++ typeRules ++ compositeTypeRules
  contextual := [.ref "_automatic_semicolon", .ref "_template_chars", .ref "_ternary_qmark",
    .ref "html_comment", .literal "||", .ref "escape_sequence", .ref "regex_pattern",
    .ref "_function_signature_automatic_semicolon"]
  extras := ["comment", "html_comment"]
  abstract := ["statement", "declaration", "expression", "primary_expression", "pattern", "type",
    "primary_type"]
  inlined := ["_expressions", "_semicolon", "_identifier", "_reserved_identifier",
    "_lhs_expression", "_type_identifier"]
  orderings := operatorOrderings ++ typeOrderings
  conflicts := valueConflicts ++ typeConflicts
  word := "identifier"

end RouteAtlas.TypeScript
