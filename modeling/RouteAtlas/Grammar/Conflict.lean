import RouteAtlas.Grammar.Kernel

/-!
# Conflicts

In a state, a token may be read, or productions may be finished before it, or both. Such a conflict
is settled by rank, then by associativity; what neither settles stays open, and a parser follows all
the actions that are left. The outcome is the behaviour of the state.
-/

namespace RouteAtlas.Grammar

/-- What a parser does in a state. -/
structure Behaviour where
  /-- Productions, each with the tokens before which it is finished. -/
  reductions : Array (Nat × TokenSet) := #[]
  /-- The tokens that are read. -/
  shifts : TokenSet := ∅
  /-- The tokens that are read only for the sake of a repetition, whose end is preferred. -/
  repetitions : TokenSet := ∅
deriving Inhabited

/-- Which of reading on and finishing is left where both are possible. -/
inductive Settlement where
  | shift
  | reduce
  /-- Both are left, and reading on only serves a repetition. -/
  | repetition
  | both
deriving DecidableEq, Repr

/-! ## Finishing -/

/-- The finished items that are left after a comparison of their ranks, by their numbers, with what
they are compared by afterwards. -/
structure Candidates where
  items : Array Nat := #[]
  stake : Stake := {}
  assocs : List (Option Associativity) := []

namespace Tables

/-- Offers a finished item with a number. -/
def offer (t : Tables) (c : Candidates) (number : Nat) (i : Item) : Candidates :=
  let stake := t.stake i
  let assoc := (t.lastStep? i).bind Step.assoc
  let alone : Candidates := ⟨#[number], stake, [assoc]⟩
  if c.items.isEmpty then alone
  else match stake.compare c.stake with
    | .gt => alone
    | .eq => ⟨c.items.push number, ⟨stake.rank, c.stake.places ++ stake.places⟩,
        c.assocs ++ [assoc]⟩
    | .lt => c

/-- Settles a conflict between reading a token and finishing items before it. `reading` are the
begun items that would read the token, `finishing` the ones that are finished. -/
def settle (t : Tables) (reading finishing : Array Item) (c : Candidates) : Settlement :=
  let heads := (reading ++ finishing).map t.head
  let onlyHead := heads[0]?.filter fun h => heads.all (· = h)
  if onlyHead.any fun h => t.grammar.kindOf h = .repetition then .repetition
  else
    let comparisons := reading.map fun i => (t.stake i).compare c.stake
    let isMore := comparisons.contains .gt
    let isLess := comparisons.contains .lt
    if isMore && !isLess then .shift
    else if isLess && !isMore then .reduce
    else if isLess && isMore then .both
    else if c.assocs.all (· = some .left) then .reduce
    else if c.assocs.all (· = some .right) then .shift
    else .both

/-! ## Behaviour -/

/-- Adds what is done on one token. -/
def settleToken (t : Tables) (begun finished : Array Item) (b : Behaviour) (token : Nat) :
    Behaviour :=
  let numbered := finished.zipIdx.filter fun (i, _) => i.follow.contains token
  let finishing := numbered.map Prod.fst
  let candidates := numbered.foldl (fun (c : Candidates) (i, n) => t.offer c n i) {}
  let reduce (b : Behaviour) : Behaviour :=
    let reductions := candidates.items.foldl
      (fun acc n => acc.modify n fun entry => (entry.1, entry.2.insert token)) b.reductions
    { b with reductions }
  if !b.shifts.contains token then reduce b
  else
    let reading := begun.filter fun i => 0 < i.dot
      && (t.nextStep? i).any fun s => (t.first s.symbol).contains token
    let noShift (b : Behaviour) : Behaviour := { b with shifts := b.shifts.diff (.singleton token) }
    match t.settle reading finishing candidates with
    | .shift => b
    | .reduce => reduce (noShift b)
    | .repetition =>
      let b := reduce (noShift b)
      { b with repetitions := b.repetitions.insert token }
    | .both => reduce b

/-- What a parser does in the state of a kernel. Tokens on which only one thing is possible need no
settling. -/
def behaviour (t : Tables) (k : Kernel) : Behaviour :=
  let (finished, begun) := k.items.partition t.isDone
  let shifts := begun.foldl
    (fun acc i => (t.nextStep? i).elim acc fun s => acc ∪ t.first s.symbol) ∅
  let (contested, _) := finished.foldl
    (fun (contested, seen) i => (contested ∪ seen.inter i.follow, seen ∪ i.follow)) (∅, shifts)
  let start : Behaviour :=
    { reductions := finished.map fun i => (i.production, i.follow.diff contested)
      shifts }
  (contested.toList t.grammar.tokenCount).foldl (t.settleToken begun finished) start

end Tables

end RouteAtlas.Grammar
