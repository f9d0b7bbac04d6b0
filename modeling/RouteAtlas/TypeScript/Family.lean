import RouteAtlas.Grammar.Automaton
import RouteAtlas.TypeScript.Lexeme

/-!
# Families of tokens

At a place in a text more tokens are looked for than are possible there. The tokens of a family are
looked for together, so that a token that cannot stand at a place is still met as a whole: `...`
behind a name is one mark that does not belong there, and not three points of which the first does.
A family serves a place if it has all tokens that are possible there, and if none of its other
tokens could be taken for two tokens of which the first is possible.
-/

namespace RouteAtlas.TypeScript

open Grammar

/-- Tokens that most families share. -/
def sharedMarks : List String := [
  "identifier", "private_property_identifier", "number", "comment", "\"", "'", "\x60", "\x7b",
  "\x7d", "(", ")", "[", "]", ",", ";", ":", ".", "=", "*", "!", "&", "|", "+", "-", "/", "<", ">",
  "~", "++", "--", "@", "?"]

/-- Operators that go on with a value, beside the shared marks. -/
def operatorMarks : List String := [
  "?.", "&&", "||", ">>", ">>>", "<<", "^", "%", "**", "<=", "==", "===", "!=", "!==", ">=", "??"]

/-- Operators that assign. -/
def assignmentMarks : List String := [
  "+=", "-=", "*=", "/=", "%=", "^=", "&=", "|=", ">>=", ">>>=", "<<=", "**=", "&&=", "||=", "??="]

/-- The families but for that of all tokens, in the order in which they are tried. Lexical classes
are given by their names and other tokens by their texts; the empty text stands for the end. -/
def familyMembers : List (List String) := [
  -- Where a statement or a value begins.
  sharedMarks ++ ["", "hash_bang_line", "=>", "...", "|\x7d"],
  -- Behind what may be assigned to, inside a type or a list.
  sharedMarks ++ operatorMarks ++ assignmentMarks ++ ["=>", "...", "\x7b|", "|\x7d"],
  -- Where a type begins.
  ["identifier", "private_property_identifier", "number", "comment", "\"", "'", "\x60", "\x7b", "(",
    ")", "[", "]", ",", ".", "*", "!", "&", "|", "+", "-", "/", "<", "~", "++", "--", "@", "?",
    "...", "\x7b|"],
  -- Behind what may be assigned to.
  sharedMarks ++ operatorMarks ++ assignmentMarks ++ ["=>", "..."],
  -- Behind a value.
  sharedMarks ++ operatorMarks ++ ["", "|\x7d"],
  -- Among the members of a type.
  ["identifier", "private_property_identifier", "number", "comment", "\"", "'", "\x60", "\x7b",
    "\x7d", "(", "[", "]", ",", ";", "*", "&", "|", "+", "-", "<", ">", "@", "?", "...", "\x7b|",
    "|\x7d"],
  -- Where a pattern or a parameter begins.
  sharedMarks ++ ["=>", "?.", "...", "|\x7d"],
  -- Among the members of a class.
  ["identifier", "private_property_identifier", "number", "comment", "\"", "'", "\x7b", "\x7d", "(",
    "[", ",", ";", "*", "+", "-", "<", "@", "...", "|\x7d"],
  -- Behind a pattern of characters.
  operatorMarks ++ ["identifier", "comment", "\x60", "\x7b", "\x7d", "(", ")", "[", "]", ",", ";",
    ":", ".", "*", "!", "&", "|", "+", "-", "/", "<", ">", "++", "--", "regex_flags"],
  -- Inside a template, and behind the name of a mapped type.
  [":", "escape_sequence", "comment", "\x60", "$\x7b", "-?:", "+?:", "?:"],
  -- Inside quotes.
  ["\"", "unescaped_double_string_fragment", "escape_sequence", "comment"],
  ["'", "unescaped_single_string_fragment", "escape_sequence", "comment"],
  -- Inside a pattern of characters.
  ["comment", "regex_pattern"],
  ["comment", "regex_end"]]

/-- Tokens, each with those that could be taken for it and more. -/
def confusions : List (String × List String) := [
  ("?", ["?.", "??", "??=", "?:"]),
  ("*", ["**", "*=", "**="]),
  ("/", ["/=", "comment", "regex_end"]),
  (">", [">>", ">>>", ">=", ">>=", ">>>="]),
  ("<", ["<<", "<<="]),
  ("&", ["&&", "&&="]),
  ("|", ["||", "||="]),
  ("+", ["++", "+?:"]),
  ("-", ["--", "-?:"]),
  ("!", ["!=", "!=="]),
  ("\x7b", ["\x7b|"]),
  ("type", ["typeof"]),
  ("as", ["async", "assert", "asserts"]),
  ("in", ["instanceof", "interface", "infer"]),
  ("?:", ["?"]),
  ("+?:", ["+"]),
  ("-?:", ["-"]),
  ("/=", ["regex_end"]),
  ("comment", ["regex_end"]),
  ("regex_end", ["/", "/="]),
  ("identifier", ["escape_sequence", "$\x7b", "regex_flags"]),
  ("escape_sequence", ["identifier"]),
  ("$\x7b", ["identifier"]),
  ("regex_flags", ["identifier", "as", "implements", "in", "instanceof", "of", "satisfies"])]

/-- The shape of a token that a family names. -/
def shapeOfMember (member : String) : TokenShape :=
  if member.isEmpty then .finish
  else if (Lexeme.ofName? member).isSome then .lexeme member
  else .literal member

/-- A family of tokens. -/
structure Family where
  members : TokenSet
  /-- Tokens, each with those members that the family can have only where they are possible too. -/
  guards : List (Nat × TokenSet)
deriving Inhabited

namespace Family

/-- The numbers of the tokens that are named. -/
def numbersOf (g : Prepared) (names : List String) : List Nat :=
  names.flatMap fun name => g.tokensWhere (· = shapeOfMember name)

/-- The family with the given members. -/
def ofMembers (g : Prepared) (members : TokenSet) : Family where
  members
  guards := confusions.flatMap fun (token, confused) =>
    let bound := (TokenSet.ofList (numbersOf g confused)).inter members
    if bound.isEmpty then [] else (numbersOf g [token]).map fun t => (t, bound)

/-- Whether the family serves a place where the given tokens are possible. -/
def serves (f : Family) (possible : TokenSet) : Bool :=
  possible.isSubset f.members
    && f.guards.all fun (token, bound) => !possible.contains token || bound.isSubset possible

/-- All families; the first has all tokens that are looked for where a reading was lost. -/
def all (g : Prepared) (recovery : TokenSet) : List Family :=
  ofMembers g recovery :: familyMembers.map fun names => ofMembers g (.ofList (numbersOf g names))

end Family

/-- Which tokens stand in the way of joining states: those that the context tells, and those that
are confused. -/
def separation (g : Prepared) : Separation where
  never := .ofList (g.contextual.toList.map Prod.snd)
  confused := confusions.flatMap fun (token, confused) =>
    (Family.numbersOf g [token]).map fun t => (t, .ofList (Family.numbersOf g confused))

end RouteAtlas.TypeScript
