import RouteAtlas.TypeScript.Grammar.Marks

/-!
# Programs, exports and imports
-/

namespace RouteAtlas.TypeScript

open Grammar Rule

/-- What a module exports, and under which names. -/
def exportRules : List (String × Rule) := [
  ("program", .seq [opt (.ref "hash_bang_line"), many (.ref "statement")]),
  ("hash_bang_line", .lexeme "hash_bang_line"),
  ("export_statement", .choice [
    .seq [
      tok "export",
      .choice [
        .seq [tok "*", .ref "_from_clause"],
        .seq [.ref "namespace_export", .ref "_from_clause"],
        .seq [.ref "export_clause", .ref "_from_clause"],
        .ref "export_clause"],
      semicolon],
    .seq [
      decorators,
      tok "export",
      .choice [
        .field "declaration" (.ref "declaration"),
        .seq [
          tok "default",
          .choice [
            .field "declaration" (.ref "declaration"),
            .seq [.field "value" (.ref "expression"), semicolon]]]]],
    .seq [tok "export", tok "type", .ref "export_clause", opt (.ref "_from_clause"), semicolon],
    .seq [tok "export", tok "=", .ref "expression", semicolon],
    .seq [tok "export", tok "as", tok "namespace", .ref "identifier", semicolon]]),
  ("namespace_export", .seq [tok "*", tok "as", .ref "_module_export_name"]),
  ("export_clause", braced [commaList (.ref "export_specifier"), opt (tok ",")]),
  ("export_specifier", .seq [
    opt (oneOf ["type", "typeof"]),
    .seq [
      .field "name" (.ref "_module_export_name"),
      opt (.seq [tok "as", .field "alias" (.ref "_module_export_name")])]]),
  ("_module_export_name", .choice [.ref "identifier", .ref "string"]),
  ("declaration", .choice [
    .choice [
      .ref "function_declaration",
      .ref "generator_function_declaration",
      .ref "class_declaration",
      .ref "lexical_declaration",
      .ref "variable_declaration"],
    .ref "function_signature",
    .ref "abstract_class_declaration",
    .ref "module",
    ranked "declare" (.ref "internal_module"),
    .ref "type_alias_declaration",
    .ref "enum_declaration",
    .ref "interface_declaration",
    .ref "import_alias",
    .ref "ambient_declaration"])]

/-- What a module imports, and under which names. -/
def importRules : List (String × Rule) := [
  ("import", tok "import"),
  ("import_statement", .seq [
    tok "import",
    opt (oneOf ["type", "typeof"]),
    .choice [
      .seq [.ref "import_clause", .ref "_from_clause"],
      .ref "import_require_clause",
      .field "source" (.ref "string")],
    opt (.ref "import_attribute"),
    semicolon]),
  ("import_clause", .choice [
    .ref "namespace_import",
    .ref "named_imports",
    .seq [
      .ref "_import_identifier",
      opt (.seq [tok ",", .choice [.ref "namespace_import", .ref "named_imports"]])]]),
  ("_from_clause", .seq [tok "from", .field "source" (.ref "string")]),
  ("namespace_import", .seq [tok "*", tok "as", .ref "identifier"]),
  ("named_imports", braced [commaList (.ref "import_specifier"), opt (tok ",")]),
  ("import_specifier", .seq [
    opt (oneOf ["type", "typeof"]),
    .choice [
      .field "name" (.ref "_import_identifier"),
      .seq [
        .field "name" (.choice [.ref "_module_export_name", .shownAs "identifier" (tok "type")]),
        tok "as",
        .field "alias" (.ref "_import_identifier")]]]),
  ("import_attribute", .seq [oneOf ["with", "assert"], .ref "object"])]

end RouteAtlas.TypeScript
