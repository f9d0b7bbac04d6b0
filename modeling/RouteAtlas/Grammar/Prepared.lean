import RouteAtlas.Grammar.Production
import Std.Data.HashMap

/-!
# Prepared grammars

`Definition.prepare` numbers the symbols of a grammar and lists its productions. Tokens come first:
the end of the text, the class of words, the other tokens in the order of their first mention, and
the tokens that only the context tells. A rule that is nothing but a token used nowhere else is that
token.
-/

namespace RouteAtlas.Grammar

open Std (HashMap)

/-- What a token's text looks like. -/
inductive TokenShape where
  /-- The end of the text. -/
  | finish
  | literal (text : String)
  /-- A text of the lexical class. -/
  | lexeme (name : String)
  /-- A text that only the context tells. -/
  | contextual (name : String)
deriving DecidableEq, Repr, Inhabited

/-- What a symbol stands for. -/
inductive SymbolKind where
  | token
  /-- A rule whose nodes are shown. -/
  | shown
  /-- A rule whose nodes are left out, even if all its uses give it a name. -/
  | hidden
  /-- A rule that only gathers others. -/
  | abstract
  /-- Two runs of a repetition, or a single element. -/
  | repetition
deriving DecidableEq, Repr, Inhabited

/-- A grammar with numbered symbols. -/
structure Prepared where
  /-- The shapes of the tokens, which are the first symbols. -/
  tokens : Array TokenShape
  /-- Every symbol as trees show it. -/
  symbols : Array SymbolInfo
  /-- The names of the rules behind the symbols. -/
  ruleNames : Array String
  /-- What the symbols stand for. -/
  kinds : Array SymbolKind
  /-- All productions; the first is that of whole texts, whose head is no symbol. -/
  productions : Array Production
  /-- The tokens that may stand between any others. -/
  extras : Array Nat
  /-- The lexical class of words. -/
  word : Nat
  /-- The names of tokens that the context tells, with their numbers. -/
  contextual : Array (String × Nat)
  orderings : List (List RankEntry)
deriving Inhabited

namespace Prepared

/-- The number of tokens. -/
def tokenCount (g : Prepared) : Nat := g.tokens.size

/-- Whether the symbol is a token. -/
def isToken (g : Prepared) (symbol : Nat) : Bool := symbol < g.tokenCount

/-- The production with a number. -/
def production (g : Prepared) (n : Nat) : Production := g.productions.getD n default

/-- The appearance of a symbol. -/
def symbolInfo (g : Prepared) (symbol : Nat) : SymbolInfo := g.symbols.getD symbol default

/-- What a symbol stands for. -/
def kindOf (g : Prepared) (symbol : Nat) : SymbolKind := g.kinds.getD symbol .token

/-- The tokens of a shape. -/
def tokensWhere (g : Prepared) (p : TokenShape → Bool) : List Nat :=
  (List.range g.tokens.size).filter fun t => (g.tokens[t]?).any p

end Prepared

namespace Definition

/-- The tokens of a grammar in the order of their first mention, with the number of mentions. -/
def countedTokens (d : Definition) : Array (Rule × Nat) :=
  let mentions := d.rules.flatMap fun r => r.2.tokens
  let (order, counts) := mentions.foldl
    (fun (acc : Array Rule × HashMap Rule Nat) t =>
      match acc.2[t]? with
      | some n => (acc.1, acc.2.insert t (n + 1))
      | none => (acc.1.push t, acc.2.insert t 1))
    (#[], ∅)
  order.map fun t => (t, counts.getD t 1)

/-- Whether trees leave nodes of the rule out. -/
def isHidden (d : Definition) (name : String) : Bool :=
  name.toList.head? = some '_' || d.abstract.contains name

/-- The shape of a token. -/
def shapeOf : Rule → TokenShape
  | .literal t => .literal t
  | .lexeme n => .lexeme n
  | _ => .finish

/-- How a token looks that no rule owns. -/
def anonymousInfo : Rule → SymbolInfo
  | .literal t => ⟨t, .anonymous⟩
  | .lexeme n => ⟨n, .hidden⟩
  | _ => ⟨"", .hidden⟩

/-- The numbering of symbols. -/
structure Numbering where
  tokens : Array TokenShape := #[.finish]
  symbols : Array SymbolInfo := #[⟨"end", .hidden⟩]
  ruleNames : Array String := #["end"]
  kinds : Array SymbolKind := #[.token]
  /-- Tokens by what a rule mentions. -/
  ofToken : HashMap Rule Nat := ∅
  /-- Symbols by name. -/
  ofName : HashMap String Nat := ∅

namespace Numbering

/-- The number of a mentioned rule. -/
def symbolOf (n : Numbering) : Rule → Option Nat
  | .ref name => n.ofName[name]?
  | .blank => none
  | r => n.ofToken[r]?

/-- Numbers a token that a rule mentions, and the rule that it is the whole of, if there is one. -/
def addToken (n : Numbering) (token : Rule) (owner : Option (String × Visibility)) : Numbering :=
  let number := n.symbols.size
  let info := match owner with
    | some (name, visibility) => ⟨name, visibility⟩
    | none => anonymousInfo token
  { tokens := n.tokens.push (shapeOf token)
    symbols := n.symbols.push info
    ruleNames := n.ruleNames.push info.name
    kinds := n.kinds.push .token
    ofToken := n.ofToken.insert token number
    ofName := match owner with
      | some (name, _) => n.ofName.insert name number
      | none => n.ofName }

/-- Numbers a token that only the context tells. -/
def addContextual (n : Numbering) (name : String) (info : SymbolInfo) : Numbering :=
  { n with
    tokens := n.tokens.push (.contextual name)
    symbols := n.symbols.push info
    ruleNames := n.ruleNames.push name
    kinds := n.kinds.push .token
    ofName := n.ofName.insert name n.symbols.size }

/-- Numbers a rule. -/
def addRule (n : Numbering) (name : String) (visibility : Visibility) (kind : SymbolKind) :
    Numbering :=
  { n with
    symbols := n.symbols.push ⟨name, visibility⟩
    ruleNames := n.ruleNames.push name
    kinds := n.kinds.push kind
    ofName := n.ofName.insert name n.symbols.size }

end Numbering

/-- What the symbol of a rule stands for. -/
def kindOf (d : Definition) (name : String) : SymbolKind :=
  if d.abstract.contains name then .abstract else if d.isHidden name then .hidden else .shown

/-- The appearance of a rule's nodes. -/
def visibilityOf (d : Definition) (name : String) : Visibility :=
  if d.isHidden name then .hidden else .named

/-- The rule that consists of the token alone, if nothing else mentions that token. -/
def ownerOf (d : Definition) (token : Rule) (mentions : Nat) : Option String :=
  if mentions = 1 then
    (d.rules.drop 1).findSome? fun r =>
      if r.2 == token && !d.isHidden r.1 then some r.1 else none
  else none

/-- The rules that are no tokens, repetitions named, and a rule for each repetition. -/
def namedRules (d : Definition) (tokenNames : List String) :
    List (String × Rule) × Rule.Repetitions :=
  (d.rules.filter fun r => !tokenNames.contains r.1).foldl
    (fun acc r =>
      let (rule, repetitions, _) := (Rule.nameRepetitions r.1 r.2).run (acc.2, 0)
      (acc.1 ++ [(r.1, rule)], repetitions))
    ([], #[])

/-- The alias under which a symbol always appears, the most frequent one where there are several. -/
def defaultAlias (steps : Array Step) : Option Alias :=
  if steps.any fun s => s.aliased.isNone then none
  else
    let counts := steps.foldl
      (fun (acc : Array (Alias × Nat)) s =>
        match s.aliased with
        | none => acc
        | some a =>
          match acc.findIdx? fun entry => entry.1 = a with
          | some i => acc.modify i fun entry => (entry.1, entry.2 + 1)
          | none => acc.push (a, 1))
      #[]
    counts.foldl
        (fun best entry =>
          match best with
          | none => some entry
          | some b => if b.2 < entry.2 then some entry else best)
        (none : Option (Alias × Nat))
      |>.map Prod.fst

/-- The steps at which each of the first symbols is used. -/
def usesOf (count : Nat) (productions : Array Production) : Array (Array Step) :=
  productions.foldl
    (fun acc p => p.steps.foldl (fun acc s => acc.modify s.symbol (·.push s)) acc)
    (Array.replicate count #[])

/-- Drops the alias of a step that is the default alias of its symbol. -/
def dropAlias (aliases : Array (Option Alias)) (s : Step) : Step :=
  if s.aliased.isSome && s.aliased = aliases.getD s.symbol none then { s with aliased := none }
  else s

/-- Gives each symbol its default alias as its appearance, and drops that alias from the steps. -/
def applyDefaultAliases (isInlined : Nat → Bool) (extras : Array Nat) (symbols : Array SymbolInfo)
    (productions : Array Production) : Array SymbolInfo × Array Production :=
  let aliases := (usesOf symbols.size productions).mapIdx fun i steps =>
    if isInlined i || extras.contains i || steps.isEmpty then none else defaultAlias steps
  (symbols.mapIdx fun i info =>
      match aliases.getD i none with
      | some a => ⟨a.name, if a.isNamed then .named else .anonymous⟩
      | none => info,
    productions.map fun p => { p with steps := p.steps.map (dropAlias aliases) })

/-! ## Stages of the preparation -/

/-- The tokens, the class of words first, each with the rule that it is the whole of. -/
def ownedTokens (d : Definition) : Array (Rule × Option String) :=
  let counted := d.countedTokens
  let isWord (t : Rule) : Bool := t == .lexeme d.word
  let ordered := counted.filter (fun t => isWord t.1) ++ counted.filter fun t => !isWord t.1
  ordered.map fun t => (t.1, d.ownerOf t.1 t.2)

/-- Numbers the tokens, those that only the context tells last. -/
def numberTokens (d : Definition) (owned : Array (Rule × Option String)) : Numbering :=
  let numbering := owned.foldl
    (fun (n : Numbering) t => n.addToken t.1 (t.2.map fun name => (name, d.visibilityOf name))) {}
  let known (name : String) : Bool := d.rules.any fun r => r.1 = name
  d.contextual.foldl
    (fun (n : Numbering) r =>
      match r with
      | .ref name => if known name then n else n.addContextual name ⟨name, d.visibilityOf name⟩
      | _ => n)
    numbering

/-- Numbers rules, and the rules for repetitions behind them. -/
def numberRules (d : Definition) (numbering : Numbering) (rules : List (String × Rule))
    (repetitions : Rule.Repetitions) : Numbering :=
  let numbering := rules.foldl
    (fun (n : Numbering) r => n.addRule r.1 (d.visibilityOf r.1) (d.kindOf r.1)) numbering
  repetitions.foldl (fun (n : Numbering) r => n.addRule r.2 .hidden .repetition) numbering

/-- The rule for a repetition: two runs of it, or what it repeats. -/
def repetitionRule (entry : Rule × String) : String × Rule :=
  (entry.2, .choice [.seq [.ref entry.2, .ref entry.2], entry.1])

/-- The number of a name. -/
def Numbering.number (n : Numbering) (name : String) : Nat := n.ofName.getD name 0

/-- The productions of a rule. -/
def productionsOf (n : Numbering) (r : String × Rule) : Array Production :=
  distinct ((r.2.alternatives.map (Rule.toProduction n.symbolOf (n.number r.1))).toArray)

/-- Replaces inlined symbols by their productions, which are no longer listed. -/
def replaceInlined (inlined : List Nat) (productions : Array Production) : Array Production :=
  let replacements : HashMap Nat (Array Production) := inlined.foldl
    (fun acc s => acc.insert s (productions.filter (·.head = s))) ∅
  distinct <| (productions.filter fun p => !inlined.contains p.head).flatMap
    (Production.expand (replacements[·]?) 64)

/-- The grammar with its symbols numbered and its productions listed. -/
def prepare (d : Definition) : Prepared :=
  let owned := d.ownedTokens
  let (rules, repetitions) := d.namedRules (owned.toList.filterMap Prod.snd)
  let numbering := d.numberRules (d.numberTokens owned) rules repetitions
  let number := numbering.number
  let productions := ((rules ++ repetitions.toList.map repetitionRule).map
    (productionsOf numbering)).foldl (· ++ ·) #[]
  let extras := (d.extras.map number).toArray
  let inlined := d.inlined.map number
  let (symbols, productions) :=
    applyDefaultAliases inlined.contains extras numbering.symbols productions
  let first := (d.rules.map (number ·.1)).headD 0
  { tokens := numbering.tokens
    symbols
    ruleNames := numbering.ruleNames
    kinds := numbering.kinds
    productions := #[⟨numbering.symbols.size, #[{ symbol := first }], 0⟩]
      ++ replaceInlined inlined productions
    extras
    word := 1
    contextual := (d.contextual.map fun r =>
      match r with
      | .ref name => (name, number name)
      | .literal text => (text, numbering.ofToken.getD r 0)
      | _ => ("", 0)).toArray
    orderings := d.orderings }

end Definition

end RouteAtlas.Grammar
