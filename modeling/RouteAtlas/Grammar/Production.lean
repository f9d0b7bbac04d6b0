import RouteAtlas.Grammar.Rule
import Std.Data.HashSet

/-!
# Productions

A grammar is prepared for parsing in three steps. Its tokens are numbered; its repetitions become
rules of their own, which join two runs into one; and every rule becomes a list of productions,
plain sequences of symbols, in which each step keeps its rank, its alias and its field.
-/

namespace RouteAtlas.Grammar

/-- How a symbol appears in a tree. -/
inductive Visibility where
  /-- Its node is left out and its children take its place. -/
  | hidden
  /-- It appears as a token with a text. -/
  | anonymous
  /-- It appears as a syntactic kind. -/
  | named
deriving DecidableEq, Repr, Inhabited

/-- A symbol with its appearance. -/
structure SymbolInfo where
  name : String
  visibility : Visibility
deriving Repr, Inhabited, DecidableEq

/-- One symbol of a production. -/
structure Step where
  symbol : Nat
  rank : Precedence := .none
  assoc : Option Associativity := none
  aliased : Option Alias := none
  field : Option String := none
deriving DecidableEq, Repr, Inhabited, Hashable

/-- One way to form a symbol from others. -/
structure Production where
  head : Nat
  steps : Array Step
  /-- What a tree formed this way adds to its weight. -/
  weight : Int := 0
deriving DecidableEq, Repr, Inhabited, Hashable

namespace Rule

/-! ## Tokens -/

/-- The tokens that a rule mentions, in order. -/
def tokens : Rule → List Rule
  | .literal t => [.literal t]
  | .lexeme n => [.lexeme n]
  | .blank | .ref _ => []
  | .seq rs => tokensOfList rs
  | .choice rs => tokensOfList rs
  | .repeat1 r | .prec _ _ r | .weight _ r | .field _ r | .aliased _ r => tokens r
where
  /-- The tokens that the rules mention, in order. -/
  tokensOfList : List Rule → List Rule
    | [] => []
    | r :: rs => tokens r ++ tokensOfList rs

/-! ## Repetitions -/

/-- The rules that stand for repetitions so far: what each repeats, and its name. -/
abbrev Repetitions := Array (Rule × String)

mutual

/-- The rule with every repetition replaced by the name of a rule for it. `owner` and `count` name
new ones. -/
def nameRepetitions (owner : String) : Rule → StateM (Repetitions × Nat) Rule
  | .seq rs => return .seq (← nameAllRepetitions owner rs)
  | .choice rs => return .choice (← nameAllRepetitions owner rs)
  | .prec p a r => return .prec p a (← nameRepetitions owner r)
  | .weight n r => return .weight n (← nameRepetitions owner r)
  | .field n r => return .field n (← nameRepetitions owner r)
  | .aliased n r => return .aliased n (← nameRepetitions owner r)
  | .repeat1 r => do
    let inner ← nameRepetitions owner r
    let (known, count) ← get
    match known.find? fun entry => entry.1 == inner with
    | some (_, name) => return .ref name
    | none =>
      let name := s!"{owner}_repeat{count + 1}"
      set (known.push (inner, name), count + 1)
      return .ref name
  | r => return r

/-- The rules with every repetition replaced. -/
def nameAllRepetitions (owner : String) : List Rule → StateM (Repetitions × Nat) (List Rule)
  | [] => return []
  | r :: rs => return (← nameRepetitions owner r) :: (← nameAllRepetitions owner rs)

end

/-! ## Alternatives -/

mutual

/-- The choice-free readings of a rule. -/
def alternatives : Rule → List Rule
  | .seq rs => alternativesOfSeq [.blank] rs
  | .choice rs => alternativesOfChoice rs
  | .prec p a r => (alternatives r).map (.prec p a)
  | .weight n r => (alternatives r).map (.weight n)
  | .field n r => (alternatives r).map (.field n)
  | .aliased n r => (alternatives r).map (.aliased n)
  | r => [r]

/-- The readings of a sequence, behind the given readings of its beginning. -/
def alternativesOfSeq (before : List Rule) : List Rule → List Rule
  | [] => before
  | r :: rs =>
    let here := alternatives r
    alternativesOfSeq (before.flatMap fun b => here.map fun a => .seq [b, a]) rs

/-- The readings of a choice. -/
def alternativesOfChoice : List Rule → List Rule
  | [] => []
  | r :: rs => alternatives r ++ alternativesOfChoice rs

end

/-! ## Steps -/

/-- What the rules around a symbol say of it, the innermost first. -/
structure Context where
  ranks : List Precedence := []
  assocs : List Associativity := []
  aliases : List Alias := []
  fields : List String := []

/-- A production under construction. -/
structure Flattened where
  steps : Array Step := #[]
  weight : Int := 0

/-- Gives the last step another rank. -/
def Flattened.setRank (f : Flattened) (rank : Precedence) : Flattened :=
  { f with steps := f.steps.modify (f.steps.size - 1) fun s => { s with rank } }

/-- Gives the last step another associativity. -/
def Flattened.setAssoc (f : Flattened) (assoc : Option Associativity) : Flattened :=
  { f with steps := f.steps.modify (f.steps.size - 1) fun s => { s with assoc } }

mutual

/-- Appends the symbols of a choice-free rule, and tells whether there were any. A rank holds from
the first symbol of its rule to the one before the last; behind the last, unless it ends the whole
production, the rank around it holds again. -/
def flatten (symbolOf : Rule → Option Nat) (ctx : Context) (atEnd : Bool) (f : Flattened) :
    Rule → Flattened × Bool
  | .seq rs => flattenAll symbolOf ctx atEnd f rs
  | .prec rank assoc r =>
    let inner : Context := { ctx with
      ranks := if rank = .none then ctx.ranks else rank :: ctx.ranks
      assocs := match assoc with
        | some a => a :: ctx.assocs
        | none => ctx.assocs }
    let (f, pushed) := flatten symbolOf inner atEnd f r
    if pushed && !atEnd then
      let f := if rank = .none then f else f.setRank (ctx.ranks.headD .none)
      let f := if assoc.isSome then f.setAssoc ctx.assocs.head? else f
      (f, pushed)
    else (f, pushed)
  | .weight n r =>
    let f := if f.weight.natAbs < n.natAbs then { f with weight := n } else f
    flatten symbolOf ctx atEnd f r
  | .field n r => flatten symbolOf { ctx with fields := n :: ctx.fields } atEnd f r
  | .aliased n r => flatten symbolOf { ctx with aliases := n :: ctx.aliases } atEnd f r
  | r =>
    match symbolOf r with
    | none => (f, false)
    | some symbol =>
      let step : Step := ⟨symbol, ctx.ranks.headD .none, ctx.assocs.head?, ctx.aliases.head?,
        ctx.fields.head?⟩
      ({ f with steps := f.steps.push step }, true)

/-- Appends the symbols of several rules. -/
def flattenAll (symbolOf : Rule → Option Nat) (ctx : Context) (atEnd : Bool) (f : Flattened) :
    List Rule → Flattened × Bool
  | [] => (f, false)
  | [r] => flatten symbolOf ctx atEnd f r
  | r :: rs =>
    let (f, first) := flatten symbolOf ctx false f r
    let (f, others) := flattenAll symbolOf ctx atEnd f rs
    (f, first || others)

end

/-- The production of a choice-free rule. -/
def toProduction (symbolOf : Rule → Option Nat) (head : Nat) (r : Rule) : Production :=
  let f := (flatten symbolOf {} true {} r).1
  ⟨head, f.steps, f.weight⟩

end Rule

namespace Production

/-- A step that is replaced by the steps of one of its symbol's productions. The alias and the field
of the step hold for all of them, its rank and associativity for the last if that has none. -/
def substitute (outer inner : Production) (index : Nat) (removed : Step) : Production :=
  let inserted := inner.steps.map fun s =>
    { s with aliased := removed.aliased.or s.aliased, field := removed.field.or s.field }
  let inserted := inserted.modify (inserted.size - 1) fun s =>
    { s with rank := if s.rank = .none then removed.rank else s.rank
             assoc := s.assoc.or removed.assoc }
  { outer with
    steps := outer.steps.extract 0 index ++ inserted ++ outer.steps.extract (index + 1)
    weight := if outer.weight.natAbs < inner.weight.natAbs then inner.weight else outer.weight }

/-- The productions that arise when inlined symbols are replaced, at most `fuel` of them one behind
the other. -/
def expand (inlined : Nat → Option (Array Production)) : Nat → Production → Array Production
  | 0, p => #[p]
  | fuel + 1, p =>
    match p.steps.findIdx? fun s => (inlined s.symbol).isSome with
    | none => #[p]
    | some i =>
      match p.steps[i]? with
      | none => #[p]
      | some s =>
        ((inlined s.symbol).getD #[]).flatMap fun q => expand inlined fuel (p.substitute q i s)

end Production

/-- The elements without repetitions, in the order of their first occurrence. -/
def distinct {α : Type} [BEq α] [Hashable α] (xs : Array α) : Array α :=
  (xs.foldl (fun acc x =>
    if acc.2.contains x then acc else (acc.1.push x, acc.2.insert x)) (#[], (∅ : Std.HashSet α))).1

end RouteAtlas.Grammar
