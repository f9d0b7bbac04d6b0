import RouteAtlas.Extraction.Basic
import RouteAtlas.Proofs.Query.Matching
import RouteAtlas.Proofs.Query.Written

/-!
# The patterns of extraction

Each pattern that routes are extracted with is a written node (`importForm`, `identifierForm`,
`routeCallForm`). The grammar either knows its kinds and fields or refuses it, so every extractor
that can be made has the patterns that they stand for (`Extractor.eq_standard`).
-/

namespace RouteAtlas

open Query Syntax

namespace Query

/-- What is compiled from a written node, if anything is. -/
lemma compile_chars {b : Blueprint} {w : Written} (sound : w.isSound b.names.abstract.contains [])
    {before after : List Char} (blankBefore : before.all Read.isBlank)
    (blankAfter : after.all Read.isBlank) {p : Pattern} (isNode : w.pattern? after.length = some p)
    {filters : List (Option Filter)}
    (understood : w.conditions.mapM understand = .ok filters) {pattern : String}
    (written : pattern.toList = before ++ (w.chars ++ after)) {c : Compiled}
    (compiled : compile b pattern = .ok c) : c = ⟨[⟨[p], filters.filterMap id⟩]⟩ := by
  obtain ⟨ok, fault⟩ := Written.readClauses_chars sound blankBefore blankAfter isNode
  rw [← written] at ok fault
  by_cases known : w.Known b.names
  · simp only [compile, ok known, understandAll, understood] at compiled
    split at compiled
    · cases compiled
    · cases compiled
      rfl
  · -- A grammar that does not know a kind or a field compiles nothing.
    obtain ⟨e, fault⟩ := fault known
    simp only [compile, fault] at compiled
    cases compiled

end Query

namespace Extraction

/-- The written form of the pattern of named imports. -/
def importForm : Written :=
  .node "\n" none "import_statement"
    [.node "\n  " none "import_clause"
      [.node "\n    " none "named_imports"
        [.node "\n      " none "import_specifier"
          [.node "\n        " (some "name") "identifier" [] ["identifier"]] []] []] [],
      .node "\n  " (some "source") "string"
        [.node "\n    " none "string_fragment" [] ["path"]] []]
    []

/-- The written form of the pattern of names. -/
def identifierForm : Written := .node "" none "identifier" [] ["identifier"]

/-- The written form of the pattern of the pairs of a call. -/
def routeCallForm (function : String) : Written :=
  .node "\n" none "export_statement"
    [.node "\n  " (some "value") "call_expression"
      [.node "\n    " (some "function") "identifier" [] ["function"],
        .equal " " "function" function,
        .node "\n    " (some "arguments") "arguments"
          [.node "\n      " none "object"
            [.node "\n        " none "pair" [] ["pair"]] []] []]
      ["call"]]
    []

section Texts

set_option maxRecDepth 4000 in
lemma importPattern_eq : importPattern.toList = ['\n'] ++ (importForm.chars ++ ['\n']) := by
  rw [importPattern, ofLines, String.toList_intercalate]
  simp [importForm, Written.chars, Written.charsAll, Written.fieldChars,
    Written.gap, Read.marks]

lemma identifierPattern_eq : identifierPattern.toList = [] ++ (identifierForm.chars ++ []) := by
  simp [identifierPattern, identifierForm, Written.chars, Written.charsAll, Written.fieldChars,
    Read.marks]

set_option maxRecDepth 4000 in
lemma routeCallPattern_eq (function : String) :
    (routeCallPattern function).toList = ['\n'] ++ ((routeCallForm function).chars ++ ['\n']) := by
  rw [routeCallPattern, ofLines, String.toList_intercalate]
  simp [routeCallForm, Written.chars, Written.charsAll,
    Written.fieldChars, Written.gap, Read.marks, Read.equation]

end Texts

/-- The patterns that a written form stands for before so many characters, without a condition. -/
def standing (behind : Nat) (w : Written) (filters : List Filter) : Compiled :=
  ⟨[⟨(w.pattern? behind).toList, filters⟩]⟩

/-- The compiled pattern of named imports. -/
def namedImports : Compiled := standing 1 importForm []

/-- The compiled pattern of names. -/
def identifierTokens : Compiled := standing 0 identifierForm []

/-- The compiled pattern of the pairs of a call. -/
def routeCalls (function : String) : Compiled :=
  standing 1 (routeCallForm function) [⟨.oneOf "function" [function], true, true⟩]

/-- The abstract kinds are those of the grammar. -/
lemma abstract_blueprint :
    blueprint.names.abstract.contains = TypeScript.grammar.abstract.contains :=
  funext fun _ => Std.HashSet.contains_ofList

lemma isSound_importForm : importForm.isSound blueprint.names.abstract.contains [] := by
  rw [abstract_blueprint]
  decide +kernel

lemma isSound_identifierForm : identifierForm.isSound blueprint.names.abstract.contains [] := by
  rw [abstract_blueprint]
  decide +kernel

lemma isSound_routeCallForm {function : String} (plain : Read.isPlainText function) :
    (routeCallForm function).isSound blueprint.names.abstract.contains [] := by
  rw [abstract_blueprint]
  simp only [routeCallForm, Written.isSound, Written.areSound, Written.captures,
    Written.capturesAll, Written.gap, plain, Bool.and_true]
  decide +kernel

/-- What a pattern of the grammar is compiled to, if it is a written node. -/
lemma compilePattern_chars {w : Written} {before after : List Char} {pattern : String}
    {filters : List (Option Filter)} {c : Compiled} (compiled : compilePattern pattern = .ok c)
    (written : pattern.toList = before ++ (w.chars ++ after))
    (sound : w.isSound blueprint.names.abstract.contains [])
    (blankBefore : before.all Read.isBlank) (blankAfter : after.all Read.isBlank)
    (isNode : (w.pattern? after.length).isSome)
    (understood : w.conditions.mapM understand = .ok filters) :
    c = standing after.length w (filters.filterMap id) := by
  obtain ⟨p, isNode⟩ := Option.isSome_iff_exists.1 isNode
  rw [compilePattern] at compiled
  cases result : compile blueprint pattern with
  | error e =>
    rw [result] at compiled
    cases compiled
  | ok c' =>
    rw [result] at compiled
    cases compiled
    rw [compile_chars sound blankBefore blankAfter isNode understood written result, standing,
      isNode]
    rfl

/-- The extractor for files with an extension, with some pattern of calls. -/
def Extractor.standard (extension : String) (routeCall : Compiled) : Extractor where
  extension := extension
  imports := namedImports
  routeCall := routeCall
  identifiers := identifierTokens

/-- Every extractor has the patterns that were written for it; that of calls too, if the name of the
function needs no escape. -/
theorem Extractor.eq_standard {routeFunction extension : String} {e : Extractor}
    (made : Extractor.make routeFunction extension = .ok e) :
    e = .standard extension e.routeCall ∧
      (Read.isPlainText routeFunction → e.routeCall = routeCalls routeFunction) := by
  rw [Extractor.make] at made
  cases imports : compilePattern importPattern with
  | error failure =>
    rw [imports] at made
    cases made
  | ok imported =>
    cases calls : compilePattern (routeCallPattern routeFunction) with
    | error failure =>
      rw [imports, calls] at made
      cases made
    | ok called =>
      cases names : compilePattern identifierPattern with
      | error failure =>
        rw [imports, calls, names] at made
        cases made
      | ok named =>
        rw [imports, calls, names] at made
        cases made
        rw [compilePattern_chars imports importPattern_eq isSound_importForm rfl rfl rfl rfl,
          compilePattern_chars names identifierPattern_eq isSound_identifierForm rfl rfl rfl rfl]
        exact ⟨rfl, fun plain => compilePattern_chars calls (routeCallPattern_eq routeFunction)
          (isSound_routeCallForm plain) rfl rfl rfl rfl⟩

end Extraction

end RouteAtlas
