import RouteAtlas.Query.Pattern
import RouteAtlas.Syntax.Node

/-!
# Matching

A node in a tree is told by its address: the indices of the children that lead to it. A pattern
matches a tree in as many ways as its parts can be found in order; ways that give the same names to
the same nodes are one match. Matches come in the order of the nodes that complete them.
-/

namespace RouteAtlas.Query

open Syntax

/-- The way from the root of a tree to a node. -/
abbrev Address := List Nat

/-- A node with its address. -/
structure Located where
  address : Address
  node : Node
deriving Inhabited

/-- A node with the name that a pattern gives it. -/
structure Capture where
  name : String
  address : Address
  node : Node
deriving Inhabited

namespace Located

/-- The nodes directly below. -/
def children (l : Located) : List Located :=
  l.node.children.mapIdx fun i n => ⟨l.address ++ [i], n⟩

end Located

mutual

/-- A node and all nodes below it, in the order of the text, each with the nodes behind it under the
same parent. -/
def places (address : Address) (siblings : List Located) : Node → List (Located × List Located)
  | .node info children =>
    (⟨address, .node info children⟩, siblings) :: placesBelow address 0 children

/-- The same for the nodes below an address, from an index on. -/
def placesBelow (address : Address) (i : Nat) : List Node → List (Located × List Located)
  | [] => []
  | n :: ns =>
    let behind : List Located := ns.mapIdx fun j m => ⟨address ++ [i + 1 + j], m⟩
    places (address ++ [i]) behind n ++ placesBelow address (i + 1) ns

end

/-- A way to find a pattern: the names given, the last node that was needed, and the nodes that are
left behind it. -/
structure Way where
  captures : List Capture := []
  last : Address := []
  rest : List Located

/-- Whether a node passes the test of a pattern. -/
def Test.accepts (n : Node) : Test → Bool
  | .any => true
  | .named => n.isNamed
  | .kind name isNamed => n.kind = name && n.isNamed = isNamed && !n.info.isError
  | .abstract _ => false
  | .error => n.info.isError
  | .missing none => n.info.isMissing
  | .missing (some (name, isNamed)) => n.info.isMissing && n.kind = name && n.isNamed = isNamed

/-- Whether a node is what a pattern asks for, apart from the nodes below it. -/
def Shape.accepts (s : Shape) (n : Node) : Bool :=
  s.test.accepts n && (s.field.isNone || s.field = n.field)
    && s.absent.all fun f => (n.child? f).isNone

/-- The names that a shape gives to a node. -/
def Shape.capturesOf (s : Shape) (l : Located) : List Capture :=
  s.captures.map fun name => ⟨name, l.address, l.node⟩

/-- The nodes of a list that a predicate accepts, each with those behind it. With `onlyFirst` only
the first node of the list counts. -/
def candidates (onlyFirst : Bool) (p : Located → Bool) :
    List Located → List (Located × List Located)
  | [] => []
  | l :: rest =>
    let others := if onlyFirst then [] else candidates onlyFirst p rest
    if p l then (l, rest) :: others else others

/-- One way followed by another. -/
def Way.andThen (a b : Way) : Way :=
  { captures := a.captures ++ b.captures
    last := if b.last.isEmpty then a.last else b.last
    rest := b.rest }

/-- The ways to find a pattern several times, at least once and at most `fuel` times. -/
def waysRepeated (ways : List Located → List Way) : Nat → List Located → List Way
  | 0, _ => []
  | fuel + 1, nodes =>
    (ways nodes).flatMap fun a => a :: (waysRepeated ways fuel a.rest).map a.andThen

mutual

/-- The ways to find a pattern among nodes that stand side by side. -/
def ways (p : Pattern) (nodes : List Located) : List Way :=
  match p with
  | .node s below =>
    (candidates s.isAdjacent (fun l => s.accepts l.node) nodes).flatMap fun (l, rest) =>
      if s.isLast && rest.any (fun r => r.node.isNamed) then []
      else (waysAll below l.children).map fun w =>
        { captures := s.capturesOf l ++ w.captures
          last := if w.last.isEmpty then l.address else w.last
          rest }
  | .group members => waysAll members nodes
  | .choice branches => waysAny branches nodes
  | .optional p => ways p nodes ++ [{ rest := nodes }]
  | .repeated p => waysRepeated (ways p) nodes.length nodes

/-- The ways to find patterns one behind the other. -/
def waysAll (ps : List Pattern) (nodes : List Located) : List Way :=
  match ps with
  | [] => [{ rest := nodes }]
  | p :: ps => (ways p nodes).flatMap fun a => (waysAll ps a.rest).map a.andThen

/-- The ways to find one of several patterns. -/
def waysAny (ps : List Pattern) (nodes : List Located) : List Way :=
  match ps with
  | [] => []
  | p :: ps => ways p nodes ++ waysAny ps nodes

end

/-- The ways to find patterns one behind the other, the first of them at the first of the nodes. -/
def waysFrom (roots : List Pattern) (first : Located) (behind : List Located) : List Way :=
  match roots with
  | [] => []
  | p :: ps => (ways p.adjacent (first :: behind)).flatMap fun a =>
      (waysAll ps a.rest).map a.andThen

/-- Of ways that give the same names to the same nodes, the first. -/
def distinctWays (ws : List Way) : List Way :=
  let key (w : Way) : List (String × Address) := w.captures.map fun c => (c.name, c.address)
  ws.foldl (fun acc w => if acc.any fun v => key v = key w then acc else acc ++ [w]) []

/-- All ways to find the roots of a clause in a tree, in the order of the nodes that complete them.
By address, a node comes before those below it and before those behind it. -/
def allWays (roots : List Pattern) (tree : Located) : List Way :=
  let found := (places tree.address [] tree.node).flatMap fun (l, behind) =>
    distinctWays (waysFrom roots l behind)
  found.mergeSort fun a b => (compare a.last b.last).isLE

end RouteAtlas.Query
