import RouteAtlas.Parsing.Subtree

/-!
# Stacks with several tops

A parser that follows several readings at once keeps their stacks in one graph. A cell holds a state
of the automaton and links to the cells below it, each with the tree that lies between; readings
that came to the same state at the same place share a cell from there on. A branch is one reading:
the cell on top, and whether the reading goes on.
-/

namespace RouteAtlas.Parsing

open Grammar

/-- A way down from a cell. -/
structure Link where
  /-- The cell below. -/
  below : Nat
  /-- The tree between the two cells; none where the reading was lost. -/
  tree : Option Subtree
deriving Inhabited

/-- A place on the stack. -/
structure Cell where
  state : Nat
  /-- The position in the text. -/
  position : Extent := 0
  links : Array Link := #[]
  /-- What the errors below cost. -/
  errorCost : Nat := 0
  /-- The number of nodes below. -/
  nodeCount : Nat := 0
  weight : Int := 0
deriving Inhabited

/-- Whether a reading goes on. -/
inductive Status where
  | active
  /-- The token on which no action is possible waits for a decision. -/
  | paused (token : Subtree)
  | halted
deriving Inhabited

/-- A place further down, to which a reading may return. -/
structure Landing where
  position : Extent
  /-- The number of trees above the place. -/
  depth : Nat
  state : Nat
deriving Inhabited

/-- One reading of the text. -/
structure Branch where
  /-- The cell on top. -/
  cell : Nat
  /-- The number of nodes when the last error was met. -/
  countAtError : Nat := 0
  /-- The places below the last error. -/
  landings : Option (Array Landing) := none
  status : Status := .active
deriving Inhabited

/-- The stacks of all readings. -/
structure Stack where
  cells : Array Cell
  branches : Array Branch
deriving Inhabited

/-- A branch that was made by taking trees off another one. -/
structure Slice where
  /-- The trees that were taken off, the lowest first. -/
  trees : List Subtree
  branch : Nat
deriving Inhabited

/-- The most links of a cell. -/
def maxLinks : Nat := 8

/-- The most ways that are followed down at once. -/
def maxWalkers : Nat := 64

namespace Stack

/-- The stack before the first token. -/
def start : Stack := ⟨#[{ state := Automaton.initialState }], #[{ cell := 0 }]⟩

variable (s : Stack)

/-! ## Looking at a branch -/

/-- The cell with a number. -/
def cell (n : Nat) : Cell := s.cells.getD n default

/-- The branch with a number. -/
def branch (b : Nat) : Branch := s.branches.getD b default

/-- The number of branches. -/
def size : Nat := s.branches.size

/-- The cell on top of a branch. -/
def top (b : Nat) : Cell := s.cell (s.branch b).cell

/-- The state on top of a branch. -/
def state (b : Nat) : Nat := (s.top b).state

/-- The position that a branch has come to. -/
def position (b : Nat) : Extent := (s.top b).position

/-- Whether a branch goes on. -/
def isActive (b : Nat) : Bool := (s.branch b).status matches .active

/-- Whether a branch waits for a decision. -/
def isPaused (b : Nat) : Bool := (s.branch b).status matches .paused _

/-- Whether a branch has ended. -/
def isHalted (b : Nat) : Bool := (s.branch b).status matches .halted

/-- The number of branches that have ended. -/
def haltedCount : Nat := (List.range s.size).countP s.isHalted

/-- What the errors on a branch cost. A branch that has just lost its way pays for that already. -/
def errorCost (b : Nat) : Nat :=
  let top := s.top b
  let isLost := top.state = Automaton.errorState && (top.links[0]?).any fun l => l.tree.isNone
  top.errorCost + if s.isPaused b || isLost then prices.recovery else 0

/-- The number of nodes on a branch since its last error. -/
def nodesSinceError (b : Nat) : Nat := (s.top b).nodeCount - (s.branch b).countAtError

/-- Whether anything was read since the last error on a branch, as seen from a cell. -/
def advancedFrom (countAtError : Nat) : Nat → Nat → Bool
  | 0, _ => false
  | fuel + 1, n =>
    let cell := s.cell n
    match cell.links[0]? with
    | none => false
    | some link =>
      match link.tree with
      | none => false
      | some tree =>
        if 0 < tree.extent.bytes then true
        else if countAtError < cell.nodeCount && tree.errorCost = 0 then
          advancedFrom countAtError fuel link.below
        else false

/-- Whether anything was read since the last error on a branch. -/
def hasAdvanced (b : Nat) : Bool :=
  let branch := s.branch b
  (s.top b).errorCost = 0 || s.advancedFrom branch.countAtError s.cells.size branch.cell

/-! ## Changing a branch -/

/-- Changes a branch. -/
def modifyBranch (b : Nat) (f : Branch → Branch) : Stack :=
  { s with branches := s.branches.modify b f }

/-- A branch cannot have more nodes at its last error than it has now. -/
def lowerCount (b : Nat) : Stack :=
  let count := (s.top b).nodeCount
  s.modifyBranch b fun br => { br with countAtError := min br.countAtError count }

/-- Ends a branch. -/
def halt (b : Nat) : Stack := s.modifyBranch b fun br => { br with status := .halted }

/-- Lets a branch wait for a decision about a token. -/
def pause (b : Nat) (token : Subtree) : Stack :=
  let count := (s.top b).nodeCount
  s.modifyBranch b fun br => { br with status := .paused token, countAtError := count }

/-- Lets a branch go on. -/
def resume (b : Nat) : Stack := s.modifyBranch b fun br => { br with status := .active }

/-- Removes a branch; those behind it move up. -/
def remove (b : Nat) : Stack := { s with branches := s.branches.eraseIdxIfInBounds b }

/-- Keeps the first branches only. -/
def keepFirst (n : Nat) : Stack := { s with branches := s.branches.take n }

/-- Replaces an earlier branch by a later one. -/
def renumber (later earlier : Nat) : Stack :=
  if later = earlier then s
  else
    let source := s.branch later
    let target := s.branch earlier
    let landings := source.landings.or target.landings
    (s.modifyBranch earlier fun _ => { source with landings }).remove later

/-- Exchanges two branches. -/
def swap (a b : Nat) : Stack :=
  let (x, y) := (s.branch a, s.branch b)
  (s.modifyBranch a fun _ => y).modifyBranch b fun _ => x

/-- Adds a copy of a branch, and gives its number. -/
def copy (b : Nat) : Nat × Stack :=
  (s.size, { s with branches := s.branches.push { s.branch b with landings := none } })

/-- Puts a tree on a branch, or none where the reading is lost. -/
def push (b : Nat) (tree : Option Subtree) (state : Nat) : Stack :=
  let below := (s.branch b).cell
  let here := s.cell below
  let fresh : Cell := match tree with
    | none => { here with state, links := #[⟨below, none⟩] }
    | some t => { state
                  links := #[⟨below, some t⟩]
                  position := here.position + t.extent
                  errorCost := here.errorCost + t.errorCost
                  nodeCount := here.nodeCount + t.nodeCount
                  weight := here.weight + t.weight }
  let number := s.cells.size
  { cells := s.cells.push fresh
    branches := s.branches.modify b fun br =>
      { br with cell := number
                countAtError := if tree.isNone then fresh.nodeCount else br.countAtError } }

/-! ## Joining branches -/

/-- Whether two trees, or two places where the reading was lost, are the same for what follows. -/
def sameTree : Option Subtree → Option Subtree → Bool
  | none, none => true
  | some a, some b => a.isEquivalent b
  | _, _ => false

/-- The weight of what a link leads to. -/
def linkWeight (l : Link) : Int := (s.cell l.below).weight + l.tree.elim 0 Subtree.weight

/-- The number of nodes that a link leads to. -/
def linkCount (l : Link) : Nat := (s.cell l.below).nodeCount + l.tree.elim 0 Subtree.nodeCount

/-- How a new link fits to one that a cell has. -/
inductive Fit where
  /-- It leads the same way. -/
  | same
  /-- It leads to a cell that can be joined with the one below. -/
  | joins
  | none
deriving DecidableEq

/-- How a new link fits to one that a cell has. -/
def fit (present new : Link) : Fit :=
  if !sameTree present.tree new.tree then .none
  else if present.below = new.below then .same
  else
    let a := s.cell present.below
    let b := s.cell new.below
    if a.state = b.state && a.position.bytes = b.position.bytes && a.errorCost = b.errorCost
    then .joins else .none

/-- Gives a cell a further way down. A link that fits to a present one is joined with it. -/
def addLink : Nat → Stack → Nat → Link → Stack
  | 0, s, _, _ => s
  | fuel + 1, s, n, link =>
    if link.below = n then s
    else
      let cell := s.cell n
      match cell.links.findIdx? fun present => s.fit present link != .none with
      | some i =>
        let present := cell.links.getD i default
        if s.fit present link = .same then
          let weight (l : Link) : Int := l.tree.elim 0 Subtree.weight
          if weight present < weight link then
            { s with cells := s.cells.modify n fun c =>
                { c with links := c.links.modify i fun l => { l with tree := link.tree }
                         weight := s.linkWeight link } }
          else s
        else
          let s := (s.cell link.below).links.foldl
            (fun s l => addLink fuel s present.below l) s
          let weight := s.linkWeight link
          { s with cells := s.cells.modify n fun c => { c with weight := max c.weight weight } }
      | none =>
        if maxLinks ≤ cell.links.size then s
        else
          let count := s.linkCount link
          let weight := s.linkWeight link
          { s with cells := s.cells.modify n fun c =>
              { c with links := c.links.push link
                       nodeCount := max c.nodeCount count
                       weight := max c.weight weight } }

/-- Whether two branches have come to the same place in the same state at the same cost. -/
def canMerge (a b : Nat) : Bool :=
  let x := s.top a
  let y := s.top b
  s.isActive a && s.isActive b && x.state = y.state && x.position.bytes = y.position.bytes
    && x.errorCost = y.errorCost

/-- Joins the second branch with the first, if they can be joined. -/
def merge? (a b : Nat) : Option Stack :=
  if !s.canMerge a b then none
  else
    let into := (s.branch a).cell
    let s := (s.top b).links.foldl (fun s l => addLink s.cells.size s into l) s
    let top := s.cell into
    let s := if top.state = Automaton.errorState then
        s.modifyBranch a fun br => { br with countAtError := top.nodeCount }
      else s
    some (s.remove b)

/-! ## Walking down -/

/-- A way down that is being followed. -/
structure Walker where
  cell : Nat
  /-- The trees on the way, the lowest first. -/
  trees : List Subtree := []
  /-- The number of trees on the way that productions name. -/
  depth : Nat := 0
deriving Inhabited

/-- What to do at a cell on the way down. -/
structure Verdict where
  /-- Whether a branch is to be made that ends here. -/
  takes : Bool := false
  /-- Whether this way goes no further. -/
  stops : Bool := false

/-- A walker one link further down. -/
def Walker.follow (w : Walker) (l : Link) : Walker :=
  match l.tree with
  | none => { w with cell := l.below, depth := w.depth + 1 }
  | some t =>
    { cell := l.below
      trees := t :: w.trees
      depth := if t.isExtra then w.depth else w.depth + 1 }

/-- Makes a branch that ends at a cell, next to those that end there already. -/
def addSlice (base : Nat) (s : Stack) (slices : Array Slice) (n : Nat) (trees : List Subtree) :
    Stack × Array Slice :=
  let found := (List.range slices.size).reverse.find? fun i =>
    (slices[i]?).any fun slice => (s.branch slice.branch).cell = n
  match found with
  | some i =>
    let branch := (slices.getD i default).branch
    (s, slices.take (i + 1) ++ #[⟨trees, branch⟩] ++ slices.extract (i + 1) slices.size)
  | none =>
    let fresh : Branch := { cell := n, countAtError := (s.branch base).countAtError }
    ({ s with branches := s.branches.push fresh }, slices.push ⟨trees, s.size⟩)

/-- One round of all walkers present at its beginning. `judge` may remember what it has seen. -/
def walkRound {σ : Type} (judge : σ → Stack → Walker → Verdict × σ) (base : Nat) :
    Nat → Nat → Array Walker → σ → Stack → Array Slice → Array Walker × σ × Stack × Array Slice
  | 0, _, walkers, seen, s, slices => (walkers, seen, s, slices)
  | todo + 1, i, walkers, seen, s, slices =>
    let w := walkers.getD i default
    let links := (s.cell w.cell).links
    let (verdict, seen) := judge seen s w
    let (s, slices) :=
      if verdict.takes then addSlice base s slices w.cell w.trees else (s, slices)
    match links[0]? with
    | none => walkRound judge base todo i (walkers.eraseIdxIfInBounds i) seen s slices
    | some first =>
      if verdict.stops then
        walkRound judge base todo i (walkers.eraseIdxIfInBounds i) seen s slices
      else
        let walkers := (links.extract 1 links.size).foldl
          (fun (ws : Array Walker) l => if maxWalkers ≤ ws.size then ws else ws.push (w.follow l))
          walkers
        let walkers := walkers.modify i fun w => w.follow first
        walkRound judge base todo (i + 1) walkers seen s slices

/-- Walks down until no walker is left. -/
def walkRounds {σ : Type} (judge : σ → Stack → Walker → Verdict × σ) (base : Nat) :
    Nat → Array Walker → σ → Stack → Array Slice → σ × Stack × Array Slice
  | 0, _, seen, s, slices => (seen, s, slices)
  | fuel + 1, walkers, seen, s, slices =>
    if walkers.isEmpty then (seen, s, slices)
    else
      let (walkers, seen, s, slices) :=
        walkRound judge base walkers.size 0 walkers seen s slices
      walkRounds judge base fuel walkers seen s slices

/-- Walks down from the top of a branch along all ways. -/
def walk {σ : Type} (judge : σ → Stack → Walker → Verdict × σ) (b : Nat) (seen : σ) :
    σ × Stack × Array Slice :=
  walkRounds judge b (s.cells.size + 1) #[{ cell := (s.branch b).cell }] seen s #[]

/-- Takes as many trees off a branch as the count says, extras between them included. Every way
down gives a slice. -/
def popCount (b count : Nat) : Stack × Array Slice :=
  (s.walk (fun () _ w => (⟨w.depth = count, w.depth = count⟩, ())) b ()).2

/-- Takes all trees off a branch. -/
def popAll (b : Nat) : Stack × Array Slice :=
  (s.walk (fun () s w => (⟨(s.cell w.cell).links.isEmpty, false⟩, ())) b ()).2

/-- Takes the error on top of a branch off, if there is one. -/
def popError (b : Nat) : Stack × List Subtree :=
  let isError (t : Option Subtree) : Bool := t.any Subtree.isError
  if (s.top b).links.any fun l => isError l.tree then
    let judge (found : Bool) (_ : Stack) (w : Walker) : Verdict × Bool :=
      match w.trees.getLast? with
      | none => ({}, found)
      | some t => if !found && t.isError then (⟨true, true⟩, true) else (⟨false, true⟩, found)
    let (_, s, slices) := s.walk judge b false
    match slices[0]? with
    | some slice => (s.renumber slice.branch b, slice.trees)
    | none => (s, [])
  else (s, [])

/-- Notes the places below the top of a branch, no deeper than the limit. -/
def recordLandings (b limit : Nat) : Stack :=
  let judge (seen : Array Landing) (s : Stack) (w : Walker) : Verdict × Array Landing :=
    let cell := s.cell w.cell
    if limit < w.depth then (⟨false, true⟩, seen)
    else
      let known := (seen.toList.reverse.takeWhile fun l => w.depth ≤ l.depth).any fun l =>
        l.depth = w.depth && l.state = cell.state
      (⟨false, false⟩, if known then seen else seen.push ⟨cell.position, w.depth, cell.state⟩)
  let (landings, s, _) := s.walk judge b #[]
  s.modifyBranch b fun br => { br with landings := some landings }

end Stack

end RouteAtlas.Parsing
