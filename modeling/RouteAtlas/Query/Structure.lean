import RouteAtlas.Grammar.Prepared
import RouteAtlas.Query.Reader

/-!
# Patterns that no tree can have

Below a node stand only the nodes that the productions of its kind put there. A pattern that asks
for others, or for the right ones in the wrong order, is refused when it is read. The nodes asked
for are looked for greedily: an earlier occurrence never serves worse than a later one.
-/

namespace RouteAtlas.Query

open Grammar
open Std (HashMap HashSet)

/-- What the nodes of a grammar's trees are made of. -/
structure Blueprint where
  grammar : Prepared
  names : Names
  /-- The productions of each symbol. -/
  productions : Array (Array Production)
  /-- The symbols whose trees appear as a kind. -/
  forms : HashMap String (List Nat)

namespace Blueprint

/-- Notes that the trees of a symbol appear as a kind. -/
def addForm (forms : HashMap String (List Nat)) (kind : String) (symbol : Nat) :
    HashMap String (List Nat) :=
  let known := forms.getD kind []
  if known.contains symbol then forms else forms.insert kind (known ++ [symbol])

/-- Notes that the trees of a symbol appear as its own kind, if they do. -/
def addOwn (symbols : Array SymbolInfo) (symbol : Nat) (forms : HashMap String (List Nat)) :
    HashMap String (List Nat) :=
  match symbols[symbol]? with
  | some s => if s.visibility = .named then addForm forms s.name symbol else forms
  | none => forms

/-- Notes that the trees at a step appear as a kind by an alias, if they do. -/
def addAlias (forms : HashMap String (List Nat)) (s : Step) : HashMap String (List Nat) :=
  match s.aliased with
  | some a => if a.isNamed then addForm forms a.name s.symbol else forms
  | none => forms

/-- The blueprint of a grammar, whose abstract kinds are given. -/
def ofGrammar (g : Prepared) (abstract : List String) : Blueprint :=
  let steps := (g.productions.map Production.steps).flatten
  let aliases := steps.filterMap Step.aliased
  let shown (v : Visibility) : List String :=
    g.symbols.toList.filterMap fun s => if s.visibility = v then some s.name else none
  let byHead := g.productions.foldl
    (fun (acc : Array (Array Production)) p => acc.modify p.head (·.push p))
    (Array.replicate g.symbols.size #[])
  let ownForms := g.symbols.size.fold (fun n _ forms => addOwn g.symbols n forms) ∅
  { grammar := g
    names :=
      { kinds := HashSet.ofList
          (shown .named ++ (aliases.filter (·.isNamed)).toList.map (·.name))
        abstract := HashSet.ofList abstract
        tokens := HashSet.ofList
          (shown .anonymous ++ (aliases.filter fun a => !a.isNamed).toList.map (·.name))
        fields := HashSet.ofList (steps.filterMap Step.field).toList }
    productions := byHead
    forms := steps.foldl addAlias ownForms }

variable (b : Blueprint)

/-- How the tree at a step appears: its kind and whether that is a syntactic one. -/
def shownAs (s : Step) : Option (String × Bool) :=
  match s.aliased with
  | some a => some (a.name, a.isNamed)
  | none =>
    match b.grammar.symbols[s.symbol]? with
    | some ⟨name, .named⟩ => some (name, true)
    | some ⟨name, .anonymous⟩ => some (name, false)
    | _ => none

/-- Whether a node could be what a pattern asks for. -/
def couldBe (kind : String) (isNamed : Bool) (field : Option String) (s : Shape) : Bool :=
  (s.field.isNone || s.field = field) && match s.test with
    | .any => true
    | .named => isNamed
    | .kind name named => name = kind && named = isNamed
    | .abstract _ | .error | .missing _ => true

/-- Whether nodes of the shape may stand anywhere. -/
def isAnywhere (s : Shape) : Bool :=
  match s.test with
  | .error | .missing _ => true
  | .kind name _ => b.grammar.extras.any fun e =>
      ((b.grammar.symbols[e]?).map (·.name)) = some name
  | _ => false

/-- The number of shapes that are met when those that may stand anywhere are passed over. -/
def passAnywhere (wanted : Array Shape) : Nat → Nat → Nat
  | 0, n => n
  | fuel + 1, n =>
    if (wanted[n]?).any b.isAnywhere then passAnywhere wanted fuel (n + 1) else n

/-- A hidden symbol with the field that it inherits. -/
abbrev Entry := Nat × Option String

/-- How many of the wanted shapes hidden symbols are known to lead past, by entry and start. -/
abbrev Reach := HashMap (Entry × Nat) Nat

/-- How many of the wanted shapes are met behind a step if `n` are met before it. -/
def meetStep (wanted : Array Shape) (reach : Reach) (outer : Option String) (n : Nat) (s : Step) :
    Nat :=
  let field := s.field.or outer
  let next := match b.shownAs s with
    | some (kind, isNamed) =>
      if (wanted[n]?).any (couldBe kind isNamed field) then n + 1 else n
    | none => reach.getD ((s.symbol, field), n) n
  b.passAnywhere wanted wanted.size next

/-- How many of the wanted shapes are met behind a production. -/
def meet (wanted : Array Shape) (reach : Reach) (outer : Option String) (n : Nat)
    (p : Production) : Nat :=
  p.steps.foldl (b.meetStep wanted reach outer) n

/-- Notes the symbol of a step as one to go on from and as found, if it is hidden and new. -/
def noteHidden (outer : Option String) (acc : List Entry × List Entry) (s : Step) :
    List Entry × List Entry :=
  let entry : Entry := (s.symbol, s.field.or outer)
  if (b.shownAs s).isSome || acc.2.contains entry || (b.productions.getD s.symbol #[]).isEmpty
  then acc
  else (entry :: acc.1, entry :: acc.2)

/-- The hidden symbols below the given ones, each with the field that it inherits. -/
def hiddenBelow : Nat → List Entry → List Entry → List Entry
  | 0, _, found => found
  | _, [], found => found
  | fuel + 1, (symbol, outer) :: todo, found =>
    let steps := ((b.productions.getD symbol #[]).map Production.steps).flatten
    let (todo, found) := steps.foldl (b.noteHidden outer) (todo, found)
    hiddenBelow fuel todo found

/-- The fields under which symbols stand; some symbols stand under none. -/
def fields : List (Option String) :=
  none :: b.productions.toList.flatMap fun ps =>
    ps.toList.flatMap fun p => p.steps.toList.map Step.field

/-- A bound on how many hidden symbols there are, each counted with every field. -/
def hiddenBound : Nat := b.productions.size * b.fields.length

/-- Finds out how far a hidden symbol leads from a start. -/
def growAt (wanted : Array Shape) (reach : Reach) (at_ : Entry × Nat) : Reach :=
  let far := (b.productions.getD at_.1.1 #[]).foldl
    (fun far p => max far (b.meet wanted reach at_.1.2 at_.2 p)) at_.2
  reach.insert at_ far

/-- One more round of finding how far hidden symbols lead, from the given starts. -/
def growReach (wanted : Array Shape) (starts : List (Entry × Nat)) (reach : Reach) : Reach :=
  starts.foldl (b.growAt wanted) reach

/-- Rounds of finding how far hidden symbols lead, until nothing changes. -/
def settle (wanted : Array Shape) (starts : List (Entry × Nat)) : Nat → Reach → Reach
  | 0, reach => reach
  | rounds + 1, reach =>
    let next := b.growReach wanted starts reach
    if starts.all fun s => next.getD s s.2 = reach.getD s s.2 then next
    else settle wanted starts rounds next

/-- The symbols that appear as a kind and have productions. -/
def symbolsOf (kind : String) : List Nat :=
  (b.forms.getD kind []).filter fun s => !(b.productions.getD s #[]).isEmpty

/-- The hidden symbols below a kind. -/
def hiddenOf (kind : String) : List Entry :=
  let symbols := b.symbolsOf kind
  b.hiddenBelow (symbols.length + b.hiddenBound) (symbols.map (·, none)) []

/-- How far the hidden symbols below a kind lead. -/
def reachOf (kind : String) (wanted : Array Shape) : Reach :=
  let starts := (b.hiddenOf kind).flatMap fun e =>
    (List.range (wanted.size + 1)).map fun n => (e, n)
  b.settle wanted starts starts.length ∅

/-- How many of the wanted shapes a node of a kind can have below it. -/
def mostMet (kind : String) (wanted : Array Shape) : Nat :=
  let reach := b.reachOf kind wanted
  (b.symbolsOf kind).foldl
    (fun most s =>
      (b.productions.getD s #[]).foldl
        (fun most p =>
          max most (b.meet wanted reach none (b.passAnywhere wanted wanted.size 0) p))
        most)
    0

/-- The shapes of patterns, if each is a single node. -/
def shapesOf : List Pattern → Option (List Shape)
  | [] => some []
  | .node s _ :: ps => (shapesOf ps).map (s :: ·)
  | _ => none

/-- The place of the first pattern below a node of a kind that no such node has. -/
def misplaced (kind : String) (below : List Pattern) : Option Nat :=
  match shapesOf below with
  | none => none
  | some shapes => (shapes[b.mostMet kind shapes.toArray]?).map Shape.place

mutual

/-- The place of the first pattern that no tree can have. -/
def impossible (p : Pattern) : Option Nat :=
  match p with
  | .node s below =>
    let here := match s.test with
      | .kind name true => if below.isEmpty then none else b.misplaced name below
      | _ => none
    here.or (impossibleAny below)
  | .group members => impossibleAny members
  | .choice branches => impossibleAny branches
  | .optional p => impossible p
  | .repeated p => impossible p

/-- The place of the first of several patterns that no tree can have. -/
def impossibleAny (ps : List Pattern) : Option Nat :=
  match ps with
  | [] => none
  | p :: ps => (impossible p).or (impossibleAny ps)

end

end Blueprint

end RouteAtlas.Query
