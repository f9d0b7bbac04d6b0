import RouteAtlas.Grammar.Automaton
import RouteAtlas.Parsing.Extent

/-!
# Trees under construction

A parser builds trees that hold every symbol, hidden ones included, and that know what their errors
cost. Costs decide between the readings of a faulty text: each repair, each token that was made up,
and each tree, byte and line that was skipped has its price.
-/

namespace RouteAtlas.Parsing

open Grammar

/-- What a tree is a tree of. -/
inductive Label where
  | symbol (number : Nat)
  /-- A run of skipped trees that is still growing. -/
  | skipped
  /-- A part of the text that fits nowhere. -/
  | error
deriving DecidableEq, Repr, Inhabited

namespace Label

/-- Symbols come first, in their order. -/
def compare : Label → Label → Ordering
  | .symbol a, .symbol b => Ord.compare a b
  | .symbol _, _ => .lt
  | _, .symbol _ => .gt
  | .skipped, .error => .lt
  | .error, .skipped => .gt
  | _, _ => .eq

/-- Whether the label is one of those that hold what was skipped. -/
def isFault : Label → Bool
  | .symbol _ => false
  | _ => true

end Label

/-- The prices of errors. -/
structure Prices where
  /-- A part of the text where the reading was lost. -/
  recovery : Nat
  /-- A token that was made up. -/
  missing : Nat
  /-- A tree that was skipped. -/
  tree : Nat
  /-- A byte that was skipped. -/
  byte : Nat
  /-- A line that was skipped. -/
  line : Nat

/-- The prices that parsers go by. -/
def prices : Prices := ⟨500, 110, 100, 1, 30⟩

/-- What a tree knows of itself. -/
structure TreeInfo where
  label : Label
  /-- The blank text in front of the tree. -/
  padding : Extent
  /-- The text of the tree. -/
  size : Extent
  visibility : Visibility
  /-- The production that the tree was formed by, if its children are shown by one. -/
  production : Option Nat := none
  /-- Whether the tree stands where a production names no symbol. -/
  isExtra : Bool := false
  /-- Whether the tree is a token that was made up. -/
  isMissing : Bool := false
  /-- Whether the tree is a word with a meaning of its own. -/
  isKeyword : Bool := false
  errorCost : Nat := 0
  weight : Int := 0
  /-- The number of children that are shown, those of hidden children included. -/
  visibleChildren : Nat := 0
  /-- The number of all nodes below that are shown. -/
  visibleDescendants : Nat := 0
deriving Inhabited

/-- A tree under construction. -/
inductive Subtree where
  | node (info : TreeInfo) (children : List Subtree)
deriving Inhabited

namespace Subtree

/-- What the tree knows of itself. -/
def info : Subtree → TreeInfo
  | .node info _ => info

/-- The trees below. -/
def children : Subtree → List Subtree
  | .node _ children => children

/-- The tree with other knowledge of itself. -/
def modifyInfo (f : TreeInfo → TreeInfo) : Subtree → Subtree
  | .node info children => .node (f info) children

variable (t : Subtree)

/-- What the tree is a tree of. -/
def label : Label := t.info.label

/-- Whether the tree stands where a production names no symbol. -/
def isExtra : Bool := t.info.isExtra

/-- Whether the tree holds a part of the text that fits nowhere. -/
def isError : Bool := t.label = .error

/-- Whether the tree is shown. -/
def isVisible : Bool := t.info.visibility != .hidden

/-- Whether the tree is the end of the text. -/
def isFinish : Bool := t.label = .symbol 0

/-- What the errors in the tree cost. -/
def errorCost : Nat :=
  if t.info.isMissing then prices.missing + prices.recovery else t.info.errorCost

/-- The weight that ambiguous trees are compared by. -/
def weight : Int := t.info.weight

/-- The text of the tree with the blank text before it. -/
def extent : Extent := t.info.padding + t.info.size

/-- The number of nodes that the tree adds to a stack, by which progress is measured. -/
def nodeCount : Nat :=
  t.info.visibleDescendants + (if t.isVisible then 1 else 0)
    + (if t.label = .skipped then 1 else 0)

/-- The tree, standing where a production names no symbol or not. -/
def setExtra (isExtra : Bool) : Subtree := t.modifyInfo fun i => { i with isExtra }

/-! ## Comparison -/

mutual

/-- The order of trees by which a choice between equals is made: by label, then by the number of
children, then by the children one after the other. -/
def compare : Subtree → Subtree → Ordering
  | .node i cs, .node j ds =>
    ((i.label.compare j.label).then (Ord.compare cs.length ds.length)).then (compareAll cs ds)

/-- The order of lists of trees. -/
def compareAll : List Subtree → List Subtree → Ordering
  | c :: cs, d :: ds => (compare c d).then (compareAll cs ds)
  | _, _ => .eq

end

/-- Whether two trees in the same place are the same for all that can follow. -/
def isEquivalent (a b : Subtree) : Bool :=
  a.label = b.label
    && ((0 < a.errorCost && 0 < b.errorCost)
      || (a.info.padding.bytes = b.info.padding.bytes && a.info.size.bytes = b.info.size.bytes
        && a.children.length = b.children.length && a.isExtra = b.isExtra))

/-- Whether the second of two readings is taken. -/
def prefersSecond (a b : Subtree) : Bool :=
  if a.errorCost ≠ b.errorCost then b.errorCost < a.errorCost
  else if a.weight ≠ b.weight then a.weight < b.weight
  else if 0 < a.errorCost then true
  else a.compare b = .gt

/-! ## Construction -/

/-- A token. The end of the text may stand anywhere. -/
def leaf (g : Prepared) (symbol : Nat) (padding size : Extent) (isKeyword : Bool) : Subtree :=
  .node { label := .symbol symbol, padding, size, visibility := (g.symbolInfo symbol).visibility
          isExtra := symbol = 0, isKeyword } []

/-- A token that was made up. -/
def missingLeaf (g : Prepared) (symbol : Nat) : Subtree :=
  .node { label := .symbol symbol, padding := 0, size := 0
          visibility := (g.symbolInfo symbol).visibility, isMissing := true } []

/-- Characters that belong to no token. -/
def errorLeaf (padding size : Extent) : Subtree :=
  .node { label := .error, padding, size, visibility := .named } []

/-- What a new tree gathers from its children. -/
structure Gathered where
  padding : Option Extent := none
  size : Extent := 0
  errorCost : Nat := 0
  weight : Int := 0
  visibleChildren : Nat := 0
  visibleDescendants : Nat := 0
  /-- The number of children that the production names. -/
  steps : Nat := 0

/-- Adds a child. `aliases` are those of the production, by step. -/
def Gathered.add (isFault : Bool) (aliases : Nat → Bool) (g : Gathered) (child : Subtree) :
    Gathered :=
  let hasChildren := !child.children.isEmpty
  let below := child.info.visibleChildren
  let skipped :=
    if isFault && !child.isExtra && !(child.isError && !hasChildren) then
      if child.isVisible then prices.tree
      else if hasChildren then prices.tree * below
      else 0
    else 0
  let isShown := child.isVisible || (!child.isExtra && aliases g.steps)
  { padding := g.padding.or (some child.info.padding)
    size := if g.padding.isNone then child.info.size else g.size + child.extent
    errorCost := g.errorCost + (if child.label = .skipped then 0 else child.errorCost) + skipped
    weight := g.weight + child.weight
    visibleChildren := g.visibleChildren
      + (if isShown then 1 else if hasChildren then below else 0)
    visibleDescendants := g.visibleDescendants + child.info.visibleDescendants
      + (if isShown then 1 else 0)
    steps := if child.isExtra then g.steps else g.steps + 1 }

/-- A tree of the given children. -/
def build (label : Label) (visibility : Visibility) (production : Option Nat)
    (aliases : Nat → Bool) (children : List Subtree) : Subtree :=
  let g := children.foldl (Gathered.add label.isFault aliases) {}
  let lost := if label.isFault
    then prices.recovery + prices.byte * g.size.bytes + prices.line * g.size.rows
    else 0
  .node { label, visibility, production
          padding := g.padding.getD 0
          size := g.size
          errorCost := g.errorCost + lost
          weight := g.weight
          visibleChildren := g.visibleChildren
          visibleDescendants := g.visibleDescendants } children

/-- The tree of a production's head. Its own weight is not yet added. -/
def ofProduction (g : Prepared) (production : Nat) (children : List Subtree) : Subtree :=
  let p := g.production production
  build (.symbol p.head) (g.symbolInfo p.head).visibility (some production)
    (fun step => (p.steps[step]?).any fun s => s.aliased.isSome) children

/-- A run of skipped trees that is still growing. -/
def skipped (children : List Subtree) : Subtree :=
  build .skipped .hidden none (fun _ => false) children

/-- A part of the text that fits nowhere. -/
def error (isExtra : Bool) (children : List Subtree) : Subtree :=
  (build .error .named none (fun _ => false) children).setExtra isExtra

end Subtree

/-- The list without the extras at its end, and these extras. -/
def splitTrailingExtras (trees : List Subtree) : List Subtree × List Subtree :=
  let (extras, rest) := trees.reverse.span Subtree.isExtra
  (rest.reverse, extras.reverse)

end RouteAtlas.Parsing
