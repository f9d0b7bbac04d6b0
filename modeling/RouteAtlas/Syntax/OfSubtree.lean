import RouteAtlas.Parsing.Subtree
import RouteAtlas.Syntax.Node

/-!
# Syntax trees from parsed trees

A syntax tree leaves out what a parsed tree hides: the children of a hidden symbol take its place. A
step of a production may give its tree another name, which also shows a hidden one, and the field
that it names holds for all that takes the tree's place and has no field of its own.
-/

namespace RouteAtlas.Syntax

open Grammar Parsing

/-- How a tree appears under its parent. -/
structure Appearance where
  aliased : Option Alias := none
  field : Option String := none

/-- The appearance of the tree at a step, where the surroundings give the field `outer`. -/
def appearance (steps : Array Step) (outer : Option String) (isExtra : Bool) (step : Nat) :
    Appearance :=
  if isExtra then ⟨none, outer⟩
  else match steps[step]? with
    | some s => ⟨s.aliased, s.field.or outer⟩
    | none => ⟨none, outer⟩

/-- The kind of a node, and whether it is a syntactic one; none if the tree is hidden. -/
def kindOf (g : Prepared) (a : Appearance) (info : TreeInfo) : Option (String × Bool) :=
  match a.aliased with
  | some a => some (a.name, a.isNamed)
  | none =>
    match info.visibility with
    | .hidden => none
    | visibility =>
      some (match info.label with
        | .symbol n => (g.symbolInfo n).name
        | _ => "ERROR", visibility = .named)

mutual

/-- The nodes that show a tree, which begins at a position with its blank text. -/
def nodesOf (g : Prepared) (a : Appearance) (position : Extent) : Subtree → List Node
  | .node info children =>
    let steps := match info.production with
      | some p => (g.production p).steps
      | none => #[]
    match kindOf g a info with
    | some (kind, isNamed) =>
      let start := position + info.padding
      let hasError := info.isMissing || info.errorCost ≠ 0
      [.node { kind, isNamed, field := a.field, isError := info.label = .error
               isMissing := info.isMissing, hasError
               start, finish := start + info.size }
        (nodesOfAll g steps none position 0 children)]
    | none => nodesOfAll g steps a.field position 0 children

/-- The nodes that show trees standing one after the other, from a step of their production on. -/
def nodesOfAll (g : Prepared) (steps : Array Step) (outer : Option String) (position : Extent)
    (step : Nat) : List Subtree → List Node
  | [] => []
  | t :: ts =>
    let isExtra := t.isExtra
    nodesOf g (appearance steps outer isExtra step) position t
      ++ nodesOfAll g steps outer (position + t.extent) (if isExtra then step else step + 1) ts

end

/-- The syntax tree of a parsed tree, which is shown by one node. -/
def ofSubtree? (g : Prepared) (t : Subtree) : Option Node := (nodesOf g {} 0 t).head?

end RouteAtlas.Syntax
