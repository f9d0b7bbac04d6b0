import RouteAtlas.Grammar.Rule

/-!
# Marks and shapes of the TypeScript grammar

Short names for the marks that most rules use, and for the shapes that recur: bracketed lists,
decorated rules, and rules that end with a semicolon.
-/

namespace RouteAtlas.TypeScript

open Grammar Rule

/-- A token given by its text. -/
abbrev tok (text : String) : Rule := .literal text

/-- One of several tokens. -/
def oneOf (texts : List String) : Rule := .choice (texts.map .literal)

/-- The mark that opens a block or an object. -/
def openBrace : Rule := tok "\x7b"

/-- The mark that closes a block or an object. -/
def closeBrace : Rule := tok "\x7d"

/-- The mark that opens an expression inside a template. -/
def openSubstitution : Rule := tok "$\x7b"

/-- A list between parentheses. -/
def parenthesized (rules : List Rule) : Rule := .seq (tok "(" :: rules ++ [tok ")"])

/-- A list between brackets. -/
def bracketed (rules : List Rule) : Rule := .seq (tok "[" :: rules ++ [tok "]"])

/-- A list between braces. -/
def braced (rules : List Rule) : Rule := .seq (openBrace :: rules ++ [closeBrace])

/-- The end of a statement: a semicolon, or a place where one is understood. -/
def semicolon : Rule := .ref "_semicolon"

/-- Decorators in front of a rule. -/
def decorators : Rule := many (.field "decorator" (.ref "decorator"))

/-- A name, or a word that is reserved only in places. -/
def anyName : Rule := .choice [.ref "identifier", .ref "_reserved_identifier"]

/-- A plain name that appears as the name of a property. -/
def propertyName : Rule := .shownAs "property_identifier" (.ref "identifier")

/-- A bound name or a pattern that binds several. -/
def binding : Rule := .choice [.ref "identifier", .ref "_destructuring_pattern"]

/-- The parts that may be missing, as a field of their own. -/
def optField (name : String) (r : Rule) : Rule := .field name (opt r)

end RouteAtlas.TypeScript
