import RouteAtlas.Parsing.Machine
import RouteAtlas.Syntax.OfSubtree
import RouteAtlas.TypeScript.Grammar.Basic
import RouteAtlas.TypeScript.Vocabulary

/-!
# Parsing TypeScript
-/

namespace RouteAtlas.TypeScript

open Grammar Parsing Syntax

/-- The TypeScript grammar with its symbols numbered. -/
def prepared : Prepared := grammar.prepare

/-- The tokens of the TypeScript grammar. -/
def vocabulary : Vocabulary := .ofGrammar prepared

/-- The automaton of the TypeScript grammar. -/
def automaton : Automaton := .ofGrammar prepared (separation prepared)

/-- A bound on the length of the loops that parsing a text takes. -/
def stepBound (text : List Char) : Nat := 256 * (text.length + 64)

/-- The syntax tree of a text. Faults in the text are nodes of the tree. -/
def parse? (text : String) : Option Node :=
  let cs := text.toList
  let rules : Rules := ⟨automaton, vocabulary.reader cs, stepBound cs⟩
  rules.parse.bind (ofSubtree? prepared)

end RouteAtlas.TypeScript
