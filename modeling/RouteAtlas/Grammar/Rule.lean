/-!
# Grammar rules

A grammar is a list of named rules over tokens and rule names. Besides sequence, choice and
repetition a rule carries what a parser and the readers of its trees need: precedences that settle
conflicts, fields that name children, and aliases under which a child appears.
-/

namespace RouteAtlas.Grammar

/-- The rank of a rule in a conflict. -/
inductive Precedence where
  /-- No rank is given. -/
  | none
  /-- A number; zero is the rank of rules without one. -/
  | level (n : Int)
  /-- A name, ranked by the grammar's orderings. -/
  | named (name : String)
deriving DecidableEq, Repr, Inhabited, Hashable

/-- How equal ranks are settled: by finishing the rule, or by going on. -/
inductive Associativity where
  | left
  | right
deriving DecidableEq, Repr, Inhabited, Hashable

/-- The name under which a child appears, and whether that name is one of a syntactic kind or the
text of a token. -/
structure Alias where
  name : String
  isNamed : Bool
deriving DecidableEq, Repr, Inhabited, Hashable

/-- A grammar rule. -/
inductive Rule where
  /-- Nothing. -/
  | blank
  /-- A token given by its text. -/
  | literal (text : String)
  /-- A token of a lexical class. -/
  | lexeme (name : String)
  /-- Another rule, or a token that only its context tells. -/
  | ref (name : String)
  | seq (rules : List Rule)
  | choice (rules : List Rule)
  /-- One or more. -/
  | repeat1 (rule : Rule)
  /-- A rule with a rank. -/
  | prec (rank : Precedence) (assoc : Option Associativity) (rule : Rule)
  /-- A rule that adds to the weight by which ambiguous trees are compared. -/
  | weight (n : Int) (rule : Rule)
  | field (name : String) (rule : Rule)
  | aliased (name : Alias) (rule : Rule)
deriving Repr, Inhabited, Hashable

namespace Rule

/-! ## Sameness -/

mutual

/-- Whether two rules are the same. -/
def beq : Rule → Rule → Bool
  | .blank, .blank => true
  | .literal t, .literal t' => t = t'
  | .lexeme n, .lexeme n' => n = n'
  | .ref n, .ref n' => n = n'
  | .seq rs, .seq rs' => beqAll rs rs'
  | .choice rs, .choice rs' => beqAll rs rs'
  | .repeat1 r, .repeat1 r' => beq r r'
  | .prec p a r, .prec p' a' r' => p = p' && a = a' && beq r r'
  | .weight n r, .weight n' r' => n = n' && beq r r'
  | .field n r, .field n' r' => n = n' && beq r r'
  | .aliased n r, .aliased n' r' => n = n' && beq r r'
  | _, _ => false

/-- Whether two lists hold the same rules. -/
def beqAll : List Rule → List Rule → Bool
  | [], [] => true
  | r :: rs, r' :: rs' => beq r r' && beqAll rs rs'
  | _, _ => false

end

mutual

theorem beq_iff (r r' : Rule) : beq r r' ↔ r = r' := by
  cases r <;> cases r' <;>
    simp only [beq, Bool.false_eq_true, decide_eq_true_eq, Bool.and_eq_true, reduceCtorEq,
      Rule.literal.injEq, Rule.lexeme.injEq, Rule.ref.injEq, Rule.seq.injEq, Rule.choice.injEq,
      Rule.repeat1.injEq, Rule.prec.injEq, Rule.weight.injEq, Rule.field.injEq,
      Rule.aliased.injEq, beq_iff, beqAll_iff, and_assoc]

theorem beqAll_iff (rs rs' : List Rule) : beqAll rs rs' ↔ rs = rs' := by
  cases rs <;> cases rs' <;>
    simp only [beqAll, Bool.false_eq_true, Bool.and_eq_true, reduceCtorEq, List.cons.injEq,
      beq_iff, beqAll_iff]

end

instance : DecidableEq Rule := fun r r' => decidable_of_iff _ (beq_iff r r')

/-! ## Shapes that recur -/

/-- The rule or nothing. -/
def opt (r : Rule) : Rule := .choice [r, .blank]

/-- Any number of the rule, none included. -/
def many (r : Rule) : Rule := .choice [.repeat1 r, .blank]

/-- One or more of the rule with a separator between them. -/
def separated1 (sep r : Rule) : Rule := .seq [r, many (.seq [sep, r])]

/-- One or more of the rule with commas between them. -/
def commaList1 (r : Rule) : Rule := separated1 (.literal ",") r

/-- Any number of the rule with commas between them. -/
def commaList (r : Rule) : Rule := opt (commaList1 r)

/-- A rule with a named rank. -/
def ranked (name : String) (r : Rule) : Rule := .prec (.named name) none r

/-- A rule that is finished before it goes on. -/
def leftRanked (name : String) (r : Rule) : Rule := .prec (.named name) (some .left) r

/-- A rule that goes on before it is finished. -/
def rightRanked (name : String) (r : Rule) : Rule := .prec (.named name) (some .right) r

/-- A rule without a rank that is finished before it goes on. -/
def left (r : Rule) : Rule := .prec (.level 0) (some .left) r

/-- A rule without a rank that goes on before it is finished. -/
def right (r : Rule) : Rule := .prec (.level 0) (some .right) r

/-- A child that appears as the named kind `name`. -/
def shownAs (name : String) (r : Rule) : Rule := .aliased ⟨name, true⟩ r

/-- A child that appears as the token `text`. -/
def shownAsToken (text : String) (r : Rule) : Rule := .aliased ⟨text, false⟩ r

end Rule

/-- An entry of an ordering of ranks: a named rank, or the conflicts of a rule. -/
inductive RankEntry where
  | named (name : String)
  | rule (name : String)
deriving DecidableEq, Repr, Inhabited

/-- A grammar. The first rule is the one that whole texts follow. -/
structure Definition where
  rules : List (String × Rule)
  /-- Tokens that only their context tells, in order; some are literals or lexical classes too. -/
  contextual : List Rule
  /-- Tokens that may stand between any others. -/
  extras : List String
  /-- Rules whose nodes a tree does not show, beside those whose name begins with an underscore. -/
  abstract : List String
  /-- Rules that are replaced by their alternatives wherever they occur. -/
  inlined : List String
  /-- Rankings from the strongest to the weakest. -/
  orderings : List (List RankEntry)
  /-- Sets of rules between which conflicts stay open until the text decides. -/
  conflicts : List (List String)
  /-- The lexical class that keywords are drawn from. -/
  word : String
deriving Inhabited

end RouteAtlas.Grammar
