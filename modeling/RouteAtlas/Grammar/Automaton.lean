import RouteAtlas.Grammar.Conflict
import RouteAtlas.Grammar.Exploration

/-!
# The automaton of a grammar

States with the same items that differ only in what may follow them are joined where a parser cannot
tell them apart on the texts of the language: on a token that both know they do the same, and a
token that only one of them knows is neither told by its context nor confused with a token of the
other. A joined state finishes productions before all the tokens that any of its parts does, so that
on a faulty text a parser may go a few steps further before it notices the fault.

A state in which nothing is possible but to make a hidden symbol of a single one is left out: what
leads there leads to the state behind that symbol.
-/

namespace RouteAtlas.Grammar

open Std (HashMap)

/-- What a parser can do on a token. -/
inductive Action where
  /-- Read the token; `isRepetition` where finishing a repetition is preferred. -/
  | shift (isRepetition : Bool)
  /-- Read a token that may stand anywhere. -/
  | shiftExtra
  /-- Form the head of a production from as many symbols as it has steps. -/
  | reduce (production : Nat)
  /-- Finish the text. -/
  | accept
  /-- Go on recovering from an error. -/
  | recover
deriving DecidableEq, Repr, Inhabited

/-- Which tokens stand in the way of joining states. -/
structure Separation where
  /-- Tokens that must be known to both states or to none. -/
  never : TokenSet
  /-- Tokens, each with those that it could be confused with. -/
  confused : List (Nat × TokenSet)

/-- The tokens that a state with the given tokens cannot be given by another one. -/
def Separation.unwelcome (s : Separation) (known : TokenSet) : TokenSet :=
  s.confused.foldl
    (fun acc (token, others) => if known.contains token then acc ∪ others else acc) s.never

/-! ## Joining -/

namespace Behaviour

/-- The tokens on which there is something to do. -/
def known (b : Behaviour) : TokenSet :=
  b.reductions.foldl (fun acc entry => acc ∪ entry.2) (b.shifts ∪ b.repetitions)

/-- Whether two states of the same items do the same on the given tokens. -/
def agrees (a b : Behaviour) (common : TokenSet) : Bool :=
  let same (x y : TokenSet) : Bool := x.inter common = y.inter common
  same a.shifts b.shifts && same a.repetitions b.repetitions
    && (a.reductions.zip b.reductions).all fun (x, y) => same x.2 y.2

/-- What two states of the same items do together. -/
def join (a b : Behaviour) : Behaviour where
  reductions := a.reductions.zipWith (fun x y => (x.1, x.2 ∪ y.2)) b.reductions
  shifts := a.shifts ∪ b.shifts
  repetitions := a.repetitions ∪ b.repetitions

end Behaviour

/-- States that are joined. -/
structure Region where
  behaviour : Behaviour
  known : TokenSet
  unwelcome : TokenSet
deriving Inhabited

namespace Region

/-- The region of a single state. -/
def ofBehaviour (s : Separation) (b : Behaviour) : Region := ⟨b, b.known, s.unwelcome b.known⟩

/-- Whether two regions of the same items can be joined. -/
def fits (a b : Region) : Bool :=
  ((a.known.diff b.known).inter b.unwelcome).isEmpty
    && ((b.known.diff a.known).inter a.unwelcome).isEmpty
    && a.behaviour.agrees b.behaviour (a.known.inter b.known)

/-- Two regions together. -/
def join (a b : Region) : Region :=
  ⟨a.behaviour.join b.behaviour, a.known ∪ b.known, a.unwelcome ∪ b.unwelcome⟩

end Region

/-- Regions, and the one that each state belongs to. -/
structure Partition where
  regions : Array Region := #[]
  /-- The regions of the kernels that have the same items. -/
  ofItems : HashMap (Array (Nat × Nat)) (Array Nat) := ∅
  regionOf : Array Nat := #[]

/-- Adds a state to the first region that it fits. -/
def Partition.add (s : Separation) (p : Partition) (k : Kernel) (b : Behaviour) : Partition :=
  let items := k.items.map fun i => (i.production, i.dot)
  let new := Region.ofBehaviour s b
  let ⟨regions, ofItems, regionOf⟩ := p
  let candidates := ofItems.getD items #[]
  match candidates.find? fun n => (regions[n]?).any new.fits with
  | some n => ⟨regions.modify n (·.join new), ofItems, regionOf.push n⟩
  | none =>
    let n := regions.size
    ⟨regions.push new, ofItems.insert items (candidates.push n), regionOf.push n⟩

/-- Splits regions so that the states behind the symbols of their states lie in one region each.
`successors` has for each state the states behind those symbols that can be read. -/
def splitOnce (successors : Array (Array (Nat × Nat))) (regionOf : Array Nat) : Array Nat :=
  (successors.foldl
    (fun (acc : Array Nat × HashMap (Array Nat) Nat) row =>
      let (new, numbers) := acc
      let own := regionOf.getD new.size 0
      let view := #[own] ++ row.map fun entry => regionOf.getD entry.2 0
      match numbers[view]? with
      | some n => (new.push n, numbers)
      | none => (new.push numbers.size, numbers.insert view numbers.size))
    (#[], ∅)).1

/-- Splits regions until nothing changes, at most `fuel` times. -/
def split (successors : Array (Array (Nat × Nat))) : Nat → Array Nat → Array Nat
  | 0, regionOf => regionOf
  | fuel + 1, regionOf =>
    let next := splitOnce successors regionOf
    if next = regionOf then regionOf else split successors fuel next

/-! ## The automaton -/

/-- A state of an automaton. -/
structure State where
  behaviour : Behaviour
  /-- The tokens on which a parser can act, those that may stand anywhere included. -/
  valid : TokenSet
  /-- The states behind the symbols that can stand here. -/
  successors : HashMap Nat Nat
deriving Inhabited

/-- The automaton of a grammar. State 0 is that of a parser that has lost its way, state 1 the
first. -/
structure Automaton where
  grammar : Prepared
  states : Array State
deriving Inhabited

namespace Automaton

/-- The number of the state in which everything is an error. -/
def errorState : Nat := 0

/-- The number of the first state. -/
def initialState : Nat := 1

/-- The state with a number. -/
def state (a : Automaton) (n : Nat) : State := a.states.getD n default

/-- The state behind a symbol; the error state if the symbol cannot stand there. -/
def successor (a : Automaton) (state symbol : Nat) : Nat :=
  (a.state state).successors.getD symbol errorState

/-- The tokens on which a parser can act in a state. -/
def valid (a : Automaton) (state : Nat) : TokenSet := (a.state state).valid

/-- What a parser can do in a state on a token. -/
def actions (a : Automaton) (state token : Nat) : Array Action :=
  let b := (a.state state).behaviour
  let reductions := b.reductions.filterMap fun (production, follow) =>
    if follow.contains token then some (if production = 0 then .accept else .reduce production)
    else none
  if b.shifts.contains token then reductions.push (.shift false)
  else if b.repetitions.contains token then reductions.push (.shift true)
  else if reductions.isEmpty && a.grammar.extras.contains token then #[.shiftExtra]
  else reductions

/-! ## Construction -/

/-- The rows of successors without the tokens that are never read where they could be. -/
def readable (g : Prepared) (b : Behaviour) (row : Array (Nat × Nat)) : Array (Nat × Nat) :=
  let read := b.shifts ∪ b.repetitions
  row.filter fun (symbol, _) => !g.isToken symbol || read.contains symbol

/-- The state of a region as one of its parts gives it. -/
def statePart (extras : TokenSet) (regionOf : Array Nat) (b : Behaviour) (row : Array (Nat × Nat)) :
    State where
  behaviour := b
  valid := b.known ∪ extras
  successors := row.foldl (fun acc (symbol, n) => acc.insert symbol (regionOf.getD n errorState)) ∅

/-- The states of a partition. -/
def statesOf (extras : TokenSet) (behaviours : Array Behaviour)
    (successors : Array (Array (Nat × Nat))) (regionOf : Array Nat) : Array State :=
  (behaviours.zip successors).zipIdx.foldl
    (fun acc ((b, row), n) =>
      let region := regionOf.getD n errorState
      if region < acc.size then
        acc.modify region fun s => { s with
          behaviour := s.behaviour.join b
          valid := s.valid ∪ b.known }
      else acc.push (statePart extras regionOf b row))
    #[]

/-- The symbol that a state makes of a single other one, if nothing else is possible there and trees
do not show it. -/
def onlyUnit (t : Tables) (aliased : Array Bool) (b : Behaviour) : Option Nat :=
  let g := t.grammar
  let unitHead (n : Nat) : Option Nat :=
    let p := g.production n
    match p.steps.toList with
    | [s] =>
      let isPlain := s.aliased.isNone && s.field.isNone && !t.passesFields.getD s.symbol false
      let isUnseen := (g.kindOf p.head = .hidden || g.kindOf p.head = .repetition)
        && (g.symbolInfo p.head).visibility = .hidden && !aliased.getD p.head false
      if n ≠ 0 && p.weight = 0 && isPlain && isUnseen then some p.head else none
    | _ => none
  let heads := (b.reductions.filter fun r => !r.2.isEmpty).map fun r => unitHead r.1
  match heads[0]? with
  | some (some h) =>
    if b.shifts.isEmpty && b.repetitions.isEmpty && heads.all (· = some h) then some h else none
  | _ => none

/-- Where one gets from a state that only makes `units` of what was read, having come from a state
with the given successors. -/
def bypass (units : Array (Option Nat)) (successors : HashMap Nat Nat) : Nat → Nat → Nat
  | 0, target => target
  | fuel + 1, target =>
    match units.getD target none with
    | none => target
    | some symbol => match successors[symbol]? with
      | none => target
      | some next => bypass units successors fuel next

/-- Leaves out the states that only make a hidden symbol of a single one. -/
def bypassUnits (t : Tables) (states : Array State) : Array State :=
  let aliased := t.grammar.productions.foldl
    (fun acc p => p.steps.foldl
      (fun acc s => if s.aliased.isSome then acc.modify s.symbol fun _ => true else acc) acc)
    (Array.replicate t.grammar.symbols.size false)
  let units := states.map fun s => onlyUnit t aliased s.behaviour
  states.map fun s => { s with
    successors := s.successors.fold
      (fun acc symbol target =>
        acc.insert symbol (bypass units s.successors t.grammar.symbols.size target))
      s.successors }

/-- A bound on the number of states that are looked for. -/
def stateBound : Nat := 1 <<< 20

/-- The automaton of a grammar. -/
def ofGrammar (g : Prepared) (separation : Separation) : Automaton :=
  let t := Tables.ofGrammar g
  let found := t.explore stateBound
  let behaviours := found.kernels.map t.behaviour
  let rows := (behaviours.zip found.successors).map fun (b, row) => readable g b row
  let partition := (found.kernels.zip behaviours).foldl
    (fun (p : Partition) (k, b) => p.add separation k b) {}
  let regionOf := split rows rows.size partition.regionOf
  let states := statesOf (.ofList g.extras.toList) behaviours rows regionOf
  ⟨g, bypassUnits t states⟩

end Automaton

end RouteAtlas.Grammar
