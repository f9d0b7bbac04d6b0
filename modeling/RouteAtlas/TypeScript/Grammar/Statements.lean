import RouteAtlas.TypeScript.Grammar.Marks

/-!
# Statements
-/

namespace RouteAtlas.TypeScript

open Grammar Rule

/-- A condition between parentheses. -/
def condition : Rule := .field "condition" (.ref "parenthesized_expression")

/-- The name of a labelled statement, where a jump names one. -/
def jumpLabel : Rule :=
  .field "label" (opt (.shownAs "statement_identifier" (.ref "identifier")))

/-- Statements, one rule each. -/
def statementRules : List (String × Rule) := [
  ("statement", .choice [
    .ref "export_statement",
    .ref "import_statement",
    .ref "debugger_statement",
    .ref "expression_statement",
    .ref "declaration",
    .ref "statement_block",
    .ref "if_statement",
    .ref "switch_statement",
    .ref "for_statement",
    .ref "for_in_statement",
    .ref "while_statement",
    .ref "do_statement",
    .ref "try_statement",
    .ref "with_statement",
    .ref "break_statement",
    .ref "continue_statement",
    .ref "return_statement",
    .ref "throw_statement",
    .ref "empty_statement",
    .ref "labeled_statement"]),
  ("expression_statement", .seq [.ref "_expressions", semicolon]),
  ("variable_declaration",
    .seq [tok "var", commaList1 (.ref "variable_declarator"), semicolon]),
  ("lexical_declaration", .seq [
    .field "kind" (oneOf ["let", "const"]),
    commaList1 (.ref "variable_declarator"),
    semicolon]),
  ("variable_declarator", .choice [
    .seq [
      .field "name" binding,
      optField "type" (.ref "type_annotation"),
      opt (.ref "_initializer")],
    ranked "declare" (.seq [
      .field "name" (.ref "identifier"), tok "!", .field "type" (.ref "type_annotation")])]),
  ("statement_block", right (.seq [
    openBrace, many (.ref "statement"), closeBrace, opt (.ref "_automatic_semicolon")])),
  ("else_clause", .seq [tok "else", .ref "statement"]),
  ("if_statement", right (.seq [
    tok "if",
    condition,
    .field "consequence" (.ref "statement"),
    opt (.field "alternative" (.ref "else_clause"))])),
  ("switch_statement", .seq [
    tok "switch",
    .field "value" (.ref "parenthesized_expression"),
    .field "body" (.ref "switch_body")]),
  ("for_statement", .seq [
    tok "for",
    tok "(",
    .choice [
      .field "initializer" (.choice [.ref "lexical_declaration", .ref "variable_declaration"]),
      .seq [.field "initializer" (.ref "_expressions"), tok ";"],
      .field "initializer" (.ref "empty_statement")],
    .field "condition" (.choice [.seq [.ref "_expressions", tok ";"], .ref "empty_statement"]),
    optField "increment" (.ref "_expressions"),
    tok ")",
    .field "body" (.ref "statement")]),
  ("for_in_statement", .seq [
    tok "for", opt (tok "await"), .ref "_for_header", .field "body" (.ref "statement")]),
  ("_for_header", .seq [
    tok "(",
    .choice [
      .field "left" (.choice [.ref "_lhs_expression", .ref "parenthesized_expression"]),
      .seq [
        .field "kind" (tok "var"),
        .field "left" binding,
        opt (.ref "_initializer")],
      .seq [
        .field "kind" (oneOf ["let", "const"]),
        .field "left" binding,
        opt (.ref "_automatic_semicolon")]],
    .field "operator" (oneOf ["in", "of"]),
    .field "right" (.ref "_expressions"),
    tok ")"]),
  ("while_statement", .seq [tok "while", condition, .field "body" (.ref "statement")]),
  ("do_statement", right (.seq [
    tok "do", .field "body" (.ref "statement"), tok "while", condition, opt semicolon])),
  ("try_statement", .seq [
    tok "try",
    .field "body" (.ref "statement_block"),
    opt (.field "handler" (.ref "catch_clause")),
    opt (.field "finalizer" (.ref "finally_clause"))]),
  ("with_statement", .seq [
    tok "with",
    .field "object" (.ref "parenthesized_expression"),
    .field "body" (.ref "statement")]),
  ("break_statement", .seq [tok "break", jumpLabel, semicolon]),
  ("continue_statement", .seq [tok "continue", jumpLabel, semicolon]),
  ("debugger_statement", .seq [tok "debugger", semicolon]),
  ("return_statement", .seq [tok "return", opt (.ref "_expressions"), semicolon]),
  ("throw_statement", .seq [tok "throw", .ref "_expressions", semicolon]),
  ("empty_statement", tok ";"),
  ("labeled_statement", .weight (-1) (.seq [
    .field "label" (.shownAs "statement_identifier" anyName),
    tok ":",
    .field "body" (.ref "statement")])),
  ("switch_body", braced [many (.choice [.ref "switch_case", .ref "switch_default"])]),
  ("switch_case", .seq [
    tok "case",
    .field "value" (.ref "_expressions"),
    tok ":",
    .field "body" (many (.ref "statement"))]),
  ("switch_default", .seq [tok "default", tok ":", .field "body" (many (.ref "statement"))]),
  ("catch_clause", .seq [
    tok "catch",
    opt (parenthesized [
      .field "parameter" binding, opt (.field "type" (.ref "type_annotation"))]),
    .field "body" (.ref "statement_block")]),
  ("finally_clause", .seq [tok "finally", .field "body" (.ref "statement_block")])]

end RouteAtlas.TypeScript
