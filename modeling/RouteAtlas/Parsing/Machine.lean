import RouteAtlas.Parsing.Reader
import RouteAtlas.Parsing.Stack

/-!
# The parsing machine

The machine follows every reading that the automaton leaves open, each on a branch of the stack. On
a branch it finishes productions and reads tokens until it has come further in the text; between
these turns branches that came to the same place are joined, and those that are clearly worse are
dropped. Only when no branch can go on is an error repaired: the best branch notes the places it has
passed, tries a token that was left out, and skips tokens until it can return to one of these
places.
-/

namespace RouteAtlas.Parsing

open Grammar

/-- What the machine works on. -/
structure Machine where
  stack : Stack
  /-- The best tree of the whole text so far. -/
  finished : Option Subtree := none
  /-- How often the end of the text was reached. -/
  accepted : Nat := 0
deriving Inhabited

/-- The bounds on the work of the machine. -/
structure Bounds where
  /-- The number of branches that are kept between turns. -/
  branches : Nat := 6
  /-- The number of further branches within a turn. -/
  overflow : Nat := 4
  /-- The depth to which the places below an error are noted. -/
  depth : Nat := 16
  /-- How much worse a branch may be, per node of progress of the better one. -/
  difference : Nat := 18 * 100

/-- The bounds that machines keep to. -/
def bounds : Bounds := {}

/-- A computation of the machine. -/
abbrev Turn := StateM Machine

/-- The rules by which a machine works. -/
structure Rules where
  automaton : Automaton
  reader : Reader
  /-- A bound on the length of any loop. -/
  fuel : Nat

namespace Rules

variable (r : Rules)

/-- What can be done in a state on a token. Where the reading was lost, every token is worth an
attempt to recover. -/
def actionsOn (state symbol : Nat) : Array Action :=
  if state = Automaton.errorState then
    if r.automaton.grammar.extras.contains symbol then #[.shiftExtra] else #[.recover]
  else r.automaton.actions state symbol

/-- What can be done in a state on a tree. -/
def actionsOnLabel (state : Nat) : Label → Array Action
  | .symbol n => r.actionsOn state n
  | _ => #[]

/-- The state behind a token, if the token is read there; the error state if it is not. -/
def stateAfter (state token : Nat) : Nat :=
  match (r.actionsOn state token).back? with
  | some (.shift _) => r.automaton.successor state token
  | some .shiftExtra => state
  | _ => Automaton.errorState

/-- The tokens that are possible in a state. -/
def possible (state : Nat) : TokenSet :=
  if state = Automaton.errorState then r.reader.recovery else r.automaton.valid state

end Rules

/-- How promising a branch is. -/
structure Standing where
  cost : Nat
  /-- The nodes read since the last error. -/
  progress : Nat
  weight : Int
  isLost : Bool

/-- Which of two branches is better. -/
inductive Comparison where
  | takeLeft
  | preferLeft
  | none
  | preferRight
  | takeRight
deriving DecidableEq, Repr

namespace Standing

/-- Which of two branches is better: one that has not lost its way, the cheaper one, the one of
greater weight. The other is dropped if it is dearer by far. -/
def compare (a b : Standing) : Comparison :=
  if !a.isLost && b.isLost then if a.cost < b.cost then .takeLeft else .preferLeft
  else if a.isLost && !b.isLost then if b.cost < a.cost then .takeRight else .preferRight
  else if a.cost < b.cost then
    if bounds.difference < (b.cost - a.cost) * (1 + a.progress) then .takeLeft else .preferLeft
  else if b.cost < a.cost then
    if bounds.difference < (a.cost - b.cost) * (1 + b.progress) then .takeRight else .preferRight
  else if b.weight < a.weight then .preferLeft
  else if a.weight < b.weight then .preferRight
  else .none

end Standing

namespace Turn

/-- Runs a change of the stack. -/
def onStack (f : Stack → Stack) : Turn Unit := modify fun m => { m with stack := f m.stack }

/-- Looks at the stack. -/
def ofStack {α : Type} (f : Stack → α) : Turn α := return f (← get).stack

/-- Runs a change of the stack that has a result. -/
def withStack {α : Type} (f : Stack → α × Stack) : Turn α := modifyGet fun m =>
  let (a, stack) := f m.stack
  (a, { m with stack })

/-- Joins the second branch with the first, and tells whether they could be joined. -/
def merge (a b : Nat) : Turn Bool := withStack fun s =>
  match s.merge? a b with
  | some s => (true, s)
  | none => (false, s)

/-- The first of the branches with which a branch could be joined, if there is one. -/
def mergeWithAny (candidates : List Nat) (b : Nat) : Turn Bool :=
  match candidates with
  | [] => return false
  | a :: rest => do
    if ← merge a b then return true
    mergeWithAny rest b

variable (r : Rules)

/-- The next token on a branch. -/
def lookahead (b : Nat) : Turn Subtree := do
  let s := (← get).stack
  let state := s.state b
  return r.reader.lookahead r.automaton.grammar r.fuel (r.possible state)
    (state = Automaton.errorState) (s.hasAdvanced b) (s.position b)

/-! ## Comparing branches -/

/-- The number of nodes on a branch since its last error. -/
def progress (b : Nat) : Turn Nat := do
  onStack (·.lowerCount b)
  ofStack (·.nodesSinceError b)

/-- How promising a branch is. -/
def standing (b : Nat) : Turn Standing := do
  let progress ← progress b
  let s := (← get).stack
  return {
    cost := s.errorCost b + if s.isPaused b then prices.tree else 0
    progress
    weight := (s.top b).weight
    isLost := s.isPaused b || s.state b = Automaton.errorState }

/-- Whether one of the branches from `i` on is better than the given one with a given standing. -/
def isBetterAmong (b : Nat) (position : Extent) (own : Standing) : Nat → Nat → Turn Bool
  | 0, _ => return false
  | todo + 1, i => do
    let s := (← get).stack
    if i = b || !s.isActive i || (s.position i).bytes < position.bytes then
      isBetterAmong b position own todo (i + 1)
    else
      let other ← standing i
      match own.compare other with
      | .takeRight => return true
      | .preferRight =>
        if (← get).stack.canMerge i b then return true
        isBetterAmong b position own todo (i + 1)
      | _ => isBetterAmong b position own todo (i + 1)

/-- Whether a branch would be worse than another, or than a finished tree, at a given cost. -/
def isHopeless (b cost : Nat) : Turn Bool := do
  if (← get).finished.any fun t => t.errorCost ≤ cost then return true
  let progress ← progress b
  let s := (← get).stack
  isBetterAmong b (s.position b) ⟨cost, progress, (s.top b).weight, false⟩ s.size 0

/-! ## Reading and finishing -/

/-- Puts a token on a branch. -/
def shift (b state : Nat) (token : Subtree) (isExtra : Bool) : Turn Unit :=
  let token := if token.children.isEmpty then token.setExtra isExtra else token
  onStack (·.push b (some token) state)

/-- The best of several ways to form the head of a production, with the extras behind it. -/
def bestParent (production : Nat) (first : List Subtree) (others : List (List Subtree)) :
    Subtree × List Subtree :=
  let build (trees : List Subtree) : Subtree × List Subtree :=
    let (children, extras) := splitTrailingExtras trees
    (.ofProduction r.automaton.grammar production children, extras)
  others.foldl
    (fun best trees =>
      let next := build trees
      if best.1.prefersSecond next.1 then next else best)
    (build first)

/-- The slices that belong to the same branch as the first. -/
def groupSlices : List Slice → List (Nat × List Subtree × List (List Subtree))
  | [] => []
  | s :: rest =>
    match groupSlices rest with
    | [] => [(s.branch, s.trees, [])]
    | (branch, trees, others) :: groups =>
      if branch = s.branch then (branch, s.trees, trees :: others) :: groups
      else (s.branch, s.trees, []) :: (branch, trees, others) :: groups

/-- Puts the tree of a production on each of the branches that its children were taken off.
`removed` counts the branches that have gone meanwhile. -/
def pushParents (base production haltedCount : Nat) :
    Nat → List (Nat × List Subtree × List (List Subtree)) → Turn Unit
  | _, [] => return ()
  | removed, (branch, trees, others) :: groups => do
    let b := branch - removed
    if bounds.branches + bounds.overflow + haltedCount < b then
      onStack (·.remove b)
      pushParents base production haltedCount (removed + 1) groups
    else
      let p := r.automaton.grammar.production production
      let (parent, extras) := bestParent r production trees others
      let next := r.automaton.successor (← ofStack (·.state b)) p.head
      let parent := parent.modifyInfo fun i => { i with weight := i.weight + p.weight }
      onStack fun s => (parent :: extras).foldl (fun s t => s.push b (some t) next) s
      let merged ← mergeWithAny ((List.range b).filter (· ≠ base)) b
      pushParents base production haltedCount (if merged then removed + 1 else removed) groups

/-- Finishes a production on a branch. The branch itself stays; the results are new branches, of
which the first is given. -/
def reduce (b production : Nat) : Turn (Option Nat) := do
  let before ← ofStack Stack.size
  let count := (r.automaton.grammar.production production).steps.size
  let slices ← withStack fun s =>
    let (s, slices) := s.popCount b count
    (slices, s)
  let haltedCount ← ofStack Stack.haltedCount
  pushParents r b production haltedCount 0 (groupSlices slices.toList)
  let after ← ofStack Stack.size
  return if before < after then some before else none

/-- The tree of a whole text, from the trees on a branch. -/
def rootOf (trees : List Subtree) : Option Subtree :=
  let (after, rest) := trees.reverse.span Subtree.isExtra
  match rest with
  | [] => none
  | tree :: before =>
    let children := before.reverse ++ tree.children ++ after.reverse
    some <| match tree.info.production with
      | some p => .ofProduction r.automaton.grammar p children
      | none => .build tree.label tree.info.visibility none (fun _ => false) children

/-- Notes a tree of the whole text, if it is the best so far. -/
def finish (root : Subtree) : Turn Unit := modify fun m =>
  { m with
    accepted := m.accepted + 1
    finished := match m.finished with
      | some best => if best.prefersSecond root then some root else some best
      | none => some root }

/-- Ends a branch at the end of the text. -/
def accept (b : Nat) (token : Subtree) : Turn Unit := do
  onStack (·.push b (some token) Automaton.initialState)
  let slices ← withStack fun s =>
    let (s, slices) := s.popAll b
    (slices, s)
  for slice in slices do
    match rootOf r slice.trees with
    | some root => finish root
    | none => pure ()
  match slices[0]? with
  | some slice => onStack (·.remove slice.branch)
  | none => pure ()
  onStack (·.halt b)

/-! ## Recovering from errors -/

/-- Sorts the actions of a state on a token into whether the token can be read and which productions
can be finished; of productions with the same head and length only the first counts. -/
def collectActions (actions : Array Action) (acc : Bool × Array Nat) : Bool × Array Nat :=
  actions.foldl
    (fun (canShift, productions) action =>
      match action with
      | .shift false | .recover => (true, productions)
      | .reduce p =>
        let new := r.automaton.grammar.production p
        let isKnown := productions.any fun q =>
          let old := r.automaton.grammar.production q
          old.head = new.head && old.steps.size = new.steps.size
        if new.steps.isEmpty || isKnown then (canShift, productions)
        else (canShift, productions.push p)
      | _ => (canShift, productions))
    acc

/-- What can be done in a state on any of several tokens. -/
def actionsOnAny (state : Nat) (tokens : List Nat) : Bool × Array Nat :=
  tokens.foldl (fun acc t => collectActions r (r.actionsOn state t) acc) (false, #[])

/-- Finishes all productions that can be finished on a branch, before the given token or before any.
Each chain of productions ends in a branch of its own; tells whether the token can be read on one of
them. Branches on which the given token cannot be read are removed. -/
def reduceAll (start : Nat) (token : Nat) : Turn Bool := do
  let before ← ofStack Stack.size
  let tokens := if token = 0 then (List.range r.automaton.grammar.tokenCount).drop 1 else [token]
  loop before tokens r.fuel 0 start false
where
  /-- Treats the branch `b` and those behind it; `i` counts the rounds. -/
  loop (before : Nat) (tokens : List Nat) : Nat → Nat → Nat → Bool → Turn Bool
    | 0, _, _, canShift => return canShift
    | fuel + 1, i, b, canShift => do
      let count ← ofStack Stack.size
      if count ≤ b then return canShift
      if ← mergeWithAny ((List.range b).drop before) b then
        loop before tokens fuel (i + 1) b canShift
      else
        let state ← ofStack (·.state b)
        let (shifts, productions) := actionsOnAny r state tokens
        let mut reduced : Option Nat := none
        for p in productions do
          reduced ← reduce r b p
        let following := if b = start then count else b + 1
        if shifts then loop before tokens fuel (i + 1) following true
        else match reduced with
          | some later =>
            if i < bounds.branches then
              onStack (·.renumber later b)
              loop before tokens fuel (i + 1) b canShift
            else
              if token ≠ 0 then onStack (·.remove b)
              loop before tokens fuel (i + 1) following canShift
          | none =>
            if token ≠ 0 then onStack (·.remove b)
            loop before tokens fuel (i + 1) following canShift

/-- Returns on a branch to a place further down, and puts what lies above it into an error. Tells
whether there was such a place. -/
def returnTo (b depth state : Nat) : Turn Bool := do
  let slices ← withStack fun s =>
    let (s, slices) := s.popCount b depth
    (slices, s)
  let mut previous : Option Nat := none
  for slice in slices do
    if previous = some slice.branch then continue
    if (← ofStack (·.state slice.branch)) ≠ state then
      onStack (·.halt slice.branch)
      continue
    let errors ← withStack fun s =>
      let (s, errors) := s.popError slice.branch
      (errors, s)
    let inner := (errors.head?.map Subtree.children).getD []
    let (trees, extras) := splitTrailingExtras (inner ++ slice.trees)
    let pushed := if trees.isEmpty then extras else .error true trees :: extras
    onStack fun s => pushed.foldl (fun s t => s.push slice.branch (some t) state) s
    previous := some slice.branch
  return previous.isSome

/-- Looks for a place below the error at which the token is possible, and returns there. -/
def returnToAny (b : Nat) (token : Subtree) (cost known progress : Nat) (position : Extent) :
    List Landing → Turn Bool
  | [] => return false
  | l :: rest => do
    let s := (← get).stack
    let merges := (List.range known).any fun j =>
      s.state j = l.state && (s.position j).bytes = position.bytes
    if l.state = Automaton.errorState || l.position.bytes = position.bytes || merges then
      returnToAny b token cost known progress position rest
    else
      let newCost := cost + l.depth * prices.tree
        + (position.bytes - l.position.bytes) * prices.byte
        + (position.rows - l.position.rows) * prices.line
      if ← isHopeless b newCost then return false
      let isPossible := !(r.actionsOnLabel l.state token.label).isEmpty
      let depth := if 0 < progress then l.depth + 1 else l.depth
      if isPossible then
        if ← returnTo b depth l.state then return true
      returnToAny b token cost known progress position rest

/-- Removes the branches from `i` on that do not go on. -/
def removeInactive : Nat → Nat → Turn Unit
  | 0, _ => return ()
  | todo + 1, i => do
    if (← ofStack Stack.size) ≤ i then return ()
    if ← ofStack (·.isActive i) then removeInactive todo (i + 1)
    else
      onStack (·.remove i)
      removeInactive todo i

/-- Skips a token on a branch that has lost its way. -/
def skipToken (b : Nat) (token : Subtree) (progress : Nat) : Turn Unit := do
  let symbol := match token.label with
    | .symbol n => n
    | _ => r.automaton.grammar.symbols.size
  let atStart := r.actionsOn Automaton.initialState symbol
  let isExtra := token.isExtra || atStart.back? = some .shiftExtra
  let run := Subtree.skipped [token.setExtra isExtra]
  let run ← if 0 < progress then do
      let slices ← withStack fun s =>
        let (s, slices) := s.popCount b 1
        (slices, s)
      match slices[0]? with
      | some slice =>
        if 1 < slices.size then onStack (·.keepFirst (slice.branch + 1))
        onStack (·.renumber slice.branch b)
        pure (Subtree.skipped (slice.trees ++ [run]))
      | none => pure run
    else pure run
  onStack (·.push b (some run) Automaton.errorState)

/-- Treats a token on a branch that has lost its way: returns to a place where the token is
possible, and skips the token, unless other branches are better. -/
def recover (b : Nat) (token : Subtree) : Turn Unit := do
  let known ← ofStack Stack.size
  let position ← ofStack (·.position b)
  let landings ← ofStack fun s => (s.branch b).landings
  let progress ← progress b
  let cost ← ofStack (·.errorCost b)
  let returned ← match landings with
    | some landings =>
      if token.isError then pure false
      else returnToAny r b token cost known progress position landings.toList
    | none => pure false
  removeInactive ((← ofStack Stack.size) - known) known
  if token.isFinish then
    onStack (·.push b (some (.error false [])) Automaton.initialState)
    accept r b token
  else if returned && bounds.branches < (← ofStack Stack.size) then onStack (·.halt b)
  else
    let newCost := cost + prices.tree + token.extent.bytes * prices.byte
      + token.extent.rows * prices.line
    if ← isHopeless b newCost then onStack (·.halt b)
    else skipToken r b token progress

/-- Tries on a copy of a branch whether a single further token would let it go on; the tokens are
tried in order. Tells whether one did. -/
def insertMissing (b : Nat) (token : Subtree) : List Nat → Turn Bool
  | [] => return false
  | missing :: rest => do
    let state ← ofStack (·.state b)
    let next := r.stateAfter state missing
    if next = Automaton.errorState || next = state then insertMissing b token rest
    else
      let isReduced := match (r.actionsOnLabel next token.label)[0]? with
        | some (.reduce _) => true
        | _ => false
      if !isReduced then insertMissing b token rest
      else
        let copy ← withStack (·.copy b)
        onStack (·.push copy (some (.missingLeaf r.automaton.grammar missing)) next)
        let symbol := match token.label with
          | .symbol n => n
          | _ => 0
        if ← reduceAll r copy symbol then return true
        insertMissing b token rest

/-- Declares the reading lost on a branch and on those behind it, from `next` up to `last`. On the
first of them on which a single further token helps, a copy goes on with that token. -/
def loseAll (token : Subtree) (last : Nat) : Nat → Nat → Nat → Bool → Turn Unit
  | 0, _, _, _ => return ()
  | todo + 1, b, next, inserted => do
    if last ≤ b then return ()
    let inserted ← if inserted then pure true
      else insertMissing r b token ((List.range r.automaton.grammar.tokenCount).drop 1)
    onStack (·.push b none Automaton.errorState)
    loseAll token last todo next (next + 1) inserted

/-- Begins to recover on a branch that cannot go on with a token. -/
def beginRecovery (b : Nat) (token : Subtree) : Turn Unit := do
  let before ← ofStack Stack.size
  let _ ← reduceAll r b 0
  let after ← ofStack Stack.size
  loseAll r token after (after + 1) b before false
  for _ in [before:after] do
    let _ ← merge b before
  onStack (·.recordLandings b bounds.depth)
  recover r b token

/-! ## The course of a run -/

/-- Carries out the actions on a token. Tells whether the turn ends with them, whether a production
was finished, and the branch that the last of these led to. -/
def perform (b state : Nat) (token : Subtree) :
    List Action → Bool × Option Nat → Turn (Bool × Bool × Option Nat)
  | [], (reduced, last) => return (false, reduced, last)
  | action :: rest, (reduced, last) =>
    match action with
    | .shift true => perform b state token rest (reduced, last)
    | .shift false => do
      let next := match token.label with
        | .symbol n => r.automaton.successor state n
        | _ => Automaton.errorState
      shift b next token false
      return (true, reduced, last)
    | .shiftExtra => do
      shift b state token true
      return (true, reduced, last)
    | .reduce p => do
      let result ← reduce r b p
      perform b state token rest (true, result.or last)
    | .accept => do
      accept r b token
      return (true, reduced, last)
    | .recover => do
      recover r b token
      return (true, reduced, last)

/-- Goes on with a token on a branch until the token is read, or nothing more can be done. -/
def proceed (b : Nat) : Nat → Subtree → Turn Unit
  | 0, _ => onStack (·.halt b)
  | fuel + 1, token => do
    let state ← ofStack (·.state b)
    let actions := r.actionsOnLabel state token.label
    let (isDone, reduced, last) ← perform r b state token actions.toList (false, none)
    if isDone then return ()
    match last with
    | some later =>
      onStack (·.renumber later b)
      proceed b fuel token
    | none =>
      if reduced then onStack (·.halt b)
      else
        let word := r.automaton.grammar.word
        let isWord ← if token.info.isKeyword && token.label ≠ .symbol word then
            pure !(r.actionsOn state word).isEmpty
          else pure false
        if isWord then
          let visibility := (r.automaton.grammar.symbolInfo word).visibility
          proceed b fuel (token.modifyInfo fun i => { i with label := .symbol word, visibility })
        else if state = Automaton.errorState then recover r b token
        else onStack (·.pause b token)

/-- Reads one token on a branch. -/
def advance (b : Nat) : Turn Unit := do
  let token ← lookahead r b
  proceed r b r.fuel token

/-- Reads tokens on a branch until it has come further than the branches before it. -/
def advanceBranch (b : Nat) : Nat → Nat → Turn Nat
  | 0, last => return last
  | fuel + 1, last => do
    if !(← ofStack (·.isActive b)) then return last
    advance r b
    let position := (← ofStack (·.position b)).bytes
    if last < position || (0 < b && position = last) then return position
    advanceBranch b fuel last

/-- Reads tokens on all branches from `b` on. -/
def advanceAll : Nat → Nat → Nat → Turn Nat
  | 0, _, last => return last
  | fuel + 1, b, last => do
    if (← ofStack Stack.size) ≤ b then return last
    let last ← advanceBranch r b r.fuel last
    advanceAll fuel (b + 1) last

/-- Compares a branch with those before it from `j` on, and joins, reorders or drops them. Gives the
number of the branch to go on behind. -/
def compareBefore (own : Standing) : Nat → Nat → Nat → Turn Nat
  | 0, _, b => return b + 1
  | fuel + 1, j, b => do
    if b ≤ j then return b + 1
    let other ← standing j
    match other.compare own with
    | .takeLeft =>
      onStack (·.remove b)
      return b
    | .preferLeft | .none =>
      if ← merge j b then return b
      compareBefore own fuel (j + 1) b
    | .preferRight =>
      if ← merge j b then return b
      onStack (·.swap b j)
      compareBefore own fuel (j + 1) b
    | .takeRight =>
      onStack (·.remove j)
      compareBefore own fuel j (b - 1)

/-- Removes ended branches, joins equal ones and orders the rest. Gives the least cost of a branch
that has not lost its way. -/
def condense : Nat → Nat → Option Nat → Turn (Option Nat)
  | 0, _, least => return least
  | fuel + 1, b, least => do
    if (← ofStack Stack.size) ≤ b then return least
    if ← ofStack (·.isHalted b) then
      onStack (·.remove b)
      condense fuel b least
    else
      let own ← standing b
      let least := if !own.isLost && least.all (own.cost < ·) then some own.cost else least
      let next ← compareBefore own r.fuel 0 b
      condense fuel next least

/-- Lets the first waiting branch recover if none before it goes on, and removes the others that
wait. -/
def resumeFirst : Nat → Nat → Nat → Bool → Option Nat → Turn (Option Nat)
  | 0, _, _, _, least => return least
  | todo + 1, b, count, goesOn, least => do
    if count ≤ b then return least
    match (← ofStack (·.branch b)).status with
    | .paused token =>
      if !goesOn && (← get).accepted < bounds.branches then
        let cost ← ofStack (·.errorCost b)
        onStack (·.resume b)
        beginRecovery r b token
        resumeFirst todo (b + 1) count true (some cost)
      else
        onStack (·.remove b)
        resumeFirst todo b (count - 1) goesOn least
    | _ => resumeFirst todo (b + 1) count true least

/-- What happens between the turns of the branches. -/
def settle : Turn (Option Nat) := do
  let least ← condense r r.fuel 0 none
  onStack (·.keepFirst bounds.branches)
  let count ← ofStack Stack.size
  resumeFirst r (count + 1) 0 count false least

/-- Reads the whole text. -/
def run : Nat → Nat → Turn Unit
  | 0, _ => return ()
  | fuel + 1, last => do
    let last ← advanceAll r r.fuel 0 last
    let count ← ofStack Stack.size
    let least ← settle r
    let isBest := (← get).finished.any fun t => least.all (t.errorCost < ·)
    if isBest || count = 0 then return ()
    run fuel last

end Turn

/-- The tree of a whole text, if one was found. -/
def Rules.parse (r : Rules) : Option Subtree :=
  let m : Machine := { stack := Stack.start }
  (StateT.run (Turn.run r r.fuel 0) m).2.finished

end RouteAtlas.Parsing
