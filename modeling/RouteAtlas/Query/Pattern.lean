/-!
# Structural patterns

A pattern describes nodes of a syntax tree by their kinds, their fields and the nodes below them,
and gives names to some of them. Conditions on the texts of named nodes go with it.
-/

namespace RouteAtlas.Query

/-- Which nodes a pattern accepts by themselves. -/
inductive Test where
  /-- Any node. -/
  | any
  /-- Any node of a syntactic kind. -/
  | named
  /-- A node of a syntactic kind, or a token with a text. -/
  | kind (name : String) (isNamed : Bool)
  /-- A node of one of the kinds that an abstract kind comprises. -/
  | abstract (name : String)
  /-- A part of the text that fits nowhere. -/
  | error
  /-- A token that the text lacks. -/
  | missing (kind : Option (String × Bool))
deriving DecidableEq, Repr, Inhabited

/-- What a pattern says of one node apart from the nodes below it. -/
structure Shape where
  test : Test
  /-- The field under which the node is held. -/
  field : Option String := none
  /-- Fields under which the node holds nothing. -/
  absent : List String := []
  /-- The names that the node is given. -/
  captures : List String := []
  /-- Whether the node stands directly behind the one before it, or is the first. -/
  isAdjacent : Bool := false
  /-- Whether the node is the last below its parent. -/
  isLast : Bool := false
  /-- The place of the pattern in its text, in bytes. -/
  place : Nat := 0
deriving DecidableEq, Repr, Inhabited

/-- A structural pattern. -/
inductive Pattern where
  /-- A node with nodes below it in the given order; others may stand between them. -/
  | node (shape : Shape) (below : List Pattern)
  /-- Nodes that stand side by side in the given order. -/
  | group (members : List Pattern)
  | choice (branches : List Pattern)
  /-- The pattern may be absent. -/
  | optional (p : Pattern)
  /-- The pattern occurs once or more. -/
  | repeated (p : Pattern)
deriving Inhabited

namespace Pattern

mutual

/-- Changes what is said of the first node, of each branch if there is a choice. -/
def modifyFirst (f : Shape → Shape) : Pattern → Pattern
  | .node s below => .node (f s) below
  | .group members => .group (modifyFirstOf f members)
  | .choice branches => .choice (modifyEach f branches)
  | .optional p => .optional (modifyFirst f p)
  | .repeated p => .repeated (modifyFirst f p)

/-- Changes what the first of several patterns says of its first node. -/
def modifyFirstOf (f : Shape → Shape) : List Pattern → List Pattern
  | [] => []
  | p :: ps => modifyFirst f p :: ps

/-- Changes what each of several patterns says of its first node. -/
def modifyEach (f : Shape → Shape) : List Pattern → List Pattern
  | [] => []
  | p :: ps => modifyFirst f p :: modifyEach f ps

end

/-- Gives the first node a further name. -/
def capture (name : String) : Pattern → Pattern :=
  modifyFirst fun s => { s with captures := s.captures ++ [name] }

/-- Says under which field the first node is held. -/
def underField (field : String) : Pattern → Pattern := modifyFirst fun s => { s with field }

/-- Says where the pattern stands in its text. -/
def atPlace (place : Nat) : Pattern → Pattern := modifyFirst fun s => { s with place }

/-- Says that the first node stands directly behind the one before it. -/
def adjacent : Pattern → Pattern := modifyFirst fun s => { s with isAdjacent := true }

/-- Says that the first node is the last below its parent. -/
def last : Pattern → Pattern := modifyFirst fun s => { s with isLast := true }

end Pattern

/-- An argument of a condition. -/
inductive Argument where
  | capture (name : String)
  | text (value : String)
deriving DecidableEq, Repr, Inhabited

/-- A condition as it is written: a name and arguments. -/
structure Condition where
  name : String
  arguments : List Argument
deriving DecidableEq, Repr, Inhabited

/-- A pattern of whole nodes with its conditions. -/
structure Clause where
  /-- The nodes side by side that the pattern is about; usually one. -/
  roots : List Pattern
  conditions : List Condition
  /-- The place of the clause in its text, in bytes. -/
  place : Nat
deriving Inhabited

end RouteAtlas.Query
