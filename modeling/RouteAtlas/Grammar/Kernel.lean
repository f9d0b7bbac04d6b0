import RouteAtlas.Grammar.Prepared
import RouteAtlas.Grammar.Rank
import RouteAtlas.Grammar.TokenSet

/-!
# Kernels

A state of a parser is a set of items: productions that are partly read, each with the tokens that
may follow them. Only the items that are begun are kept, which are the kernel of the state; what
else may begin in it follows from tables that depend on the grammar alone.

Two productions that are read so far that nothing tells them apart any more share an item.
-/

namespace RouteAtlas.Grammar

open Std (HashMap)

/-- How a symbol can begin: the tokens that may follow the beginner for reasons within, and whether
what follows the symbol may follow it too. -/
structure Beginning where
  follow : TokenSet
  passesOn : Bool
deriving DecidableEq, Repr, Inhabited

/-- What the states of a grammar are computed from. -/
structure Tables where
  grammar : Prepared
  /-- The tokens with which each symbol can begin. -/
  firsts : Array TokenSet
  /-- For each symbol the rules that can begin it. -/
  beginnings : Array (Array (Nat × Beginning))
  /-- The productions of each symbol. -/
  productionsOf : Array (Array Nat)
  /-- Whether the children of each symbol's trees pass fields on to the trees around them. -/
  passesFields : Array Bool
  /-- For each production and each number of steps, the least production that is the same from there
  on. -/
  twins : Array (Array Nat)
  /-- For each production and each number of steps, what the production brings into a conflict
  there. -/
  stakes : Array (Array Stake)
deriving Inhabited

/-- A production read up to a step, and the tokens that may follow it. -/
structure Item where
  production : Nat
  dot : Nat
  follow : TokenSet
deriving DecidableEq, Repr, Inhabited, Hashable

/-- The items of a state that are begun, in order. -/
structure Kernel where
  /-- A number that depends on the items alone, by which kernels are told apart quickly. -/
  code : UInt64
  items : Array Item
deriving DecidableEq, Repr, Inhabited

instance : Hashable Kernel := ⟨Kernel.code⟩

/-- The symbols that may begin in a state, each with the tokens that may follow it there. -/
abbrev Expectation := Array (Nat × TokenSet)

/-- What counts of a production that is partly read. -/
structure Remainder where
  head : Nat
  weight : Int
  size : Nat
  dot : Nat
  rank : Precedence
  assoc : Option Associativity
  /-- The aliases and fields of the steps that are read, and their symbols where fields are passed
  on. -/
  read : List (Option Alias × Option String × Option Nat)
  /-- The steps that are left. -/
  left : List Step
deriving DecidableEq, Hashable

/-! ## Tables -/

/-- Applies `step` until nothing changes, at most `fuel` times. -/
def iterateUntilStable {α : Type} [BEq α] (step : α → α) : Nat → α → α
  | 0, x => x
  | fuel + 1, x =>
    let y := step x
    if y == x then x else iterateUntilStable step fuel y

namespace Tables

/-- The tokens with which each symbol can begin. -/
def firstSets (g : Prepared) : Array TokenSet :=
  let start : Array TokenSet := (Array.range g.symbols.size).map fun s =>
    if g.isToken s then .singleton s else ∅
  let pairs := distinct (g.productions.filterMap fun p =>
    (p.steps[0]?).map fun s => (p.head, s.symbol))
  let step (firsts : Array TokenSet) : Array TokenSet := pairs.foldl
    (fun acc (head, first) => acc.modify head (· ∪ acc.getD first ∅)) firsts
  iterateUntilStable step g.symbols.size start

/-- The rules that begin a production of each symbol directly. -/
def directBeginnings (g : Prepared) (firsts : Array TokenSet) : Array (Array (Nat × Beginning)) :=
  let add (acc : Array (Nat × Beginning)) (symbol : Nat) (b : Beginning) :
      Array (Nat × Beginning) :=
    match acc.findIdx? fun entry => entry.1 = symbol with
    | some i => acc.modify i fun entry =>
        (symbol, ⟨entry.2.follow ∪ b.follow, entry.2.passesOn || b.passesOn⟩)
    | none => acc.push (symbol, b)
  g.productions.foldl
    (fun acc p =>
      match p.steps[0]? with
      | none => acc
      | some s =>
        if g.isToken s.symbol then acc
        else
          let b : Beginning := match p.steps[1]? with
            | some next => ⟨firsts.getD next.symbol ∅, false⟩
            | none => ⟨∅, true⟩
          acc.modify p.head fun entries => add entries s.symbol b)
    (Array.replicate g.symbols.size #[])

/-- Adds what begins the symbols in `todo`, whose beginnings have grown. -/
def spreadBeginnings (direct : Array (Array (Nat × Beginning))) :
    Nat → List Nat → HashMap Nat Beginning → HashMap Nat Beginning
  | 0, _, found => found
  | _, [], found => found
  | fuel + 1, symbol :: todo, found =>
    let here := found.getD symbol ⟨∅, false⟩
    let (todo, found) := (direct.getD symbol #[]).foldl
      (fun (acc : List Nat × HashMap Nat Beginning) (next, b) =>
        let before := acc.2.getD next ⟨∅, false⟩
        let after : Beginning := if b.passesOn
          then ⟨before.follow ∪ b.follow ∪ here.follow, before.passesOn || here.passesOn⟩
          else ⟨before.follow ∪ b.follow, before.passesOn⟩
        if acc.2.contains next && after = before then acc
        else (next :: acc.1, acc.2.insert next after))
      (todo, found)
    spreadBeginnings direct fuel todo found

/-- The rules that can begin each symbol. -/
def allBeginnings (g : Prepared) (firsts : Array TokenSet) : Array (Array (Nat × Beginning)) :=
  let direct := directBeginnings g firsts
  (Array.range g.symbols.size).map fun s =>
    if g.isToken s then #[]
    else
      let start := (∅ : HashMap Nat Beginning).insert s ⟨∅, true⟩
      (spreadBeginnings direct (g.symbols.size * g.symbols.size) [s] start).toArray

/-- Whether each symbol has a field among its children, or one that such a child passes on. -/
def fieldBearers (g : Prepared) : Array Bool :=
  let step (bears : Array Bool) : Array Bool := g.productions.foldl
    (fun acc p => acc.modify p.head fun b => b || p.steps.any fun s =>
      s.field.isSome || (s.aliased.isNone && (g.symbolInfo s.symbol).visibility = .hidden
        && acc.getD s.symbol false))
    bears
  iterateUntilStable step g.symbols.size (Array.replicate g.symbols.size false)

/-- What counts of a production that is read up to a step. -/
def remainder (passesFields : Array Bool) (p : Production) (dot : Nat) : Remainder :=
  let read := p.steps.extract 0 dot
  let passes := read.any fun s => passesFields.getD s.symbol false
  { head := p.head
    weight := p.weight
    size := p.steps.size
    dot
    rank := (read.back?).elim .none Step.rank
    assoc := (read.back?).bind Step.assoc
    read := read.toList.map fun s => (s.aliased, s.field, if passes then some s.symbol else none)
    left := (p.steps.extract dot).toList }

/-- For each production and each number of steps, the least production that is the same from there
on. -/
def twinTable (g : Prepared) (passesFields : Array Bool) : Array (Array Nat) :=
  ((List.range g.productions.size).foldl
    (fun (acc : Array (Array Nat) × HashMap Remainder Nat) n =>
      let p := g.production n
      let (row, known) := (List.range (p.steps.size + 1)).foldl
        (fun (acc : Array Nat × HashMap Remainder Nat) dot =>
          let r := remainder passesFields p dot
          match acc.2[r]? with
          | some twin => (acc.1.push twin, acc.2)
          | none => (acc.1.push n, acc.2.insert r n))
        (#[], acc.2)
      (acc.1.push row, known))
    (#[], ∅)).1

/-- For each production and each number of steps, what the production brings into a conflict there:
the rank of the last step that is read, and the rule. -/
def stakeTable (g : Prepared) : Array (Array Stake) :=
  let ranking := Ranking.ofOrderings g.orderings
  g.productions.map fun p =>
    let rule := (g.ruleNames[p.head]?).getD ""
    #[ranking.stake .none rule] ++ p.steps.map fun s => ranking.stake s.rank rule

/-- The tables of a grammar. -/
def ofGrammar (g : Prepared) : Tables :=
  let firsts := firstSets g
  let bears := fieldBearers g
  let passesFields := bears.mapIdx fun s b => b && g.kindOf s != .token && g.kindOf s != .shown
  { grammar := g
    firsts
    beginnings := allBeginnings g firsts
    productionsOf := (List.range g.productions.size).foldl
      (fun acc n => acc.modify (g.production n).head (·.push n))
      (Array.replicate g.symbols.size #[])
    passesFields
    twins := twinTable g passesFields
    stakes := stakeTable g }

/-- The tokens with which a symbol can begin. -/
def first (t : Tables) (symbol : Nat) : TokenSet := t.firsts.getD symbol ∅

/-- The step that an item stands before. -/
def nextStep? (t : Tables) (i : Item) : Option Step :=
  (t.grammar.production i.production).steps[i.dot]?

/-- The step that an item stands behind. -/
def lastStep? (t : Tables) (i : Item) : Option Step :=
  if i.dot = 0 then none else (t.grammar.production i.production).steps[i.dot - 1]?

/-- Whether the item's production is read to its end. -/
def isDone (t : Tables) (i : Item) : Bool := (t.nextStep? i).isNone

/-- What an item brings into a conflict, where it stands. -/
def stake (t : Tables) (i : Item) : Stake := (t.stakes.getD i.production #[]).getD i.dot {}

/-- The symbol that an item's production forms. -/
def head (t : Tables) (i : Item) : Nat := (t.grammar.production i.production).head

/-- The tokens that may follow the symbol an item stands before. -/
def followOfNext (t : Tables) (i : Item) : TokenSet :=
  match (t.grammar.production i.production).steps[i.dot + 1]? with
  | some s => t.first s.symbol
  | none => i.follow

/-- The item of a production that is read up to a step. -/
def itemAt (t : Tables) (production dot : Nat) (follow : TokenSet) : Item :=
  ⟨(t.twins.getD production #[]).getD dot production, dot, follow⟩

end Tables

/-! ## Successors -/

/-- The order of items: by how far they are read, then by production. -/
def Item.before (a b : Item) : Bool :=
  a.dot < b.dot || (a.dot == b.dot && a.production < b.production)

/-- Adds an item behind those that come before it. -/
def Item.addTo (items : Array Item) (i : Item) : Array Item :=
  match items.back? with
  | some last =>
    if last.production = i.production && last.dot = i.dot
    then items.pop.push { i with follow := last.follow ∪ i.follow }
    else items.push i
  | none => items.push i

/-- The kernel of some items: each production at each step once, with all that may follow it. -/
def Kernel.ofItems (items : Array Item) : Kernel :=
  let items := (items.qsort Item.before).foldl Item.addTo #[]
  ⟨hash items, items⟩

/-- Adds to what a table has for a symbol. -/
def addFor {α : Type} (table : Array (Nat × α)) (symbol : Nat) (start : α) (add : α → α) :
    Array (Nat × α) :=
  match table.findIdx? fun entry => entry.1 = symbol with
  | some n => table.modify n fun entry => (entry.1, add entry.2)
  | none => table.push (symbol, add start)

namespace Tables

/-- The symbols other than tokens that a kernel's items stand before, in order, each with the tokens
that may follow it there. -/
def expected (t : Tables) (k : Kernel) : Expectation :=
  let found := k.items.foldl
    (fun (acc : Expectation) i =>
      match t.nextStep? i with
      | none => acc
      | some s => if t.grammar.isToken s.symbol then acc
        else addFor acc s.symbol ∅ (· ∪ t.followOfNext i))
    #[]
  found.qsort fun a b => a.1 < b.1

/-- The items that begin where the given symbols are expected, read by one step, for each symbol
that they are read by. -/
def begin (t : Tables) (e : Expectation) : Array (Nat × Kernel) :=
  let size := t.grammar.symbols.size
  let follows : Array (Option TokenSet) := e.foldl
    (fun acc (symbol, follow) => (t.beginnings.getD symbol #[]).foldl
      (fun acc (head, b) => acc.modify head fun old =>
        let new := if b.passesOn then b.follow ∪ follow else b.follow
        some (old.elim new (· ∪ new)))
      acc)
    (Array.replicate size none)
  let items : Array (Array Item) := (List.range size).foldl
    (fun acc head =>
      match follows.getD head none with
      | none => acc
      | some follow => (t.productionsOf.getD head #[]).foldl
        (fun acc p =>
          match (t.grammar.production p).steps[0]? with
          | none => acc
          | some s => acc.modify s.symbol (·.push (t.itemAt p 1 follow)))
        acc)
    (Array.replicate size #[])
  (items.mapIdx fun symbol is => (symbol, Kernel.ofItems is)).filter fun entry =>
    !entry.2.items.isEmpty

/-- A kernel's own items, read by one more step, for each symbol that they are read by. -/
def proceed (t : Tables) (k : Kernel) : Array (Nat × Array Item) := k.items.foldl
  (fun acc i =>
    match t.nextStep? i with
    | none => acc
    | some s => addFor acc s.symbol #[] (·.push (t.itemAt i.production (i.dot + 1) i.follow)))
  #[]

/-- The kernels behind the symbols that can stand in a state; `fresh` is what begins there. -/
def successors (t : Tables) (k : Kernel) (fresh : Array (Nat × Kernel)) : Array (Nat × Kernel) :=
  let own := t.proceed k
  let joined := fresh.map fun (symbol, items) =>
    match own.find? fun entry => entry.1 = symbol with
    | some entry => (symbol, Kernel.ofItems (entry.2 ++ items.items))
    | none => (symbol, items)
  let others := own.filter fun entry => !fresh.any fun f => f.1 = entry.1
  joined ++ others.map fun (symbol, items) => (symbol, Kernel.ofItems items)

/-- The state before the first token of a text. -/
def initial (t : Tables) : Kernel :=
  let finish := TokenSet.singleton 0
  let first := ((t.grammar.production 0).steps[0]?).elim 0 Step.symbol
  let blank := (t.productionsOf.getD first #[]).filter fun n =>
    (t.grammar.production n).steps.isEmpty
  .ofItems (#[⟨0, 0, finish⟩] ++ blank.map fun n => ⟨n, 0, finish⟩)

end Tables

end RouteAtlas.Grammar
