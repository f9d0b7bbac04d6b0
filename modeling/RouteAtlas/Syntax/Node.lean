import RouteAtlas.Parsing.Extent

/-!
# Syntax trees

A syntax tree shows the parts of a text that have a name or a text of their own. A node knows where
it stands, under which field its parent holds it, and whether there is a fault in it.
-/

namespace RouteAtlas.Syntax

open Parsing (Extent)

/-- What a node knows of itself. -/
structure NodeInfo where
  /-- The syntactic kind, or the text of a token. -/
  kind : String
  /-- Whether the kind is a syntactic one. -/
  isNamed : Bool
  /-- The field under which the parent holds the node. -/
  field : Option String := none
  /-- Whether the node holds a part of the text that fits nowhere. -/
  isError : Bool := false
  /-- Whether the node is a token that the text lacks. -/
  isMissing : Bool := false
  /-- Whether the node or one below it is faulty. -/
  hasError : Bool := false
  start : Extent
  finish : Extent
deriving DecidableEq, Repr, Inhabited

/-- A node of a syntax tree with the nodes below it. -/
inductive Node where
  | node (info : NodeInfo) (children : List Node)
deriving Inhabited

namespace Node

/-- What the node knows of itself. -/
def info : Node → NodeInfo
  | .node info _ => info

/-- The nodes directly below. -/
def children : Node → List Node
  | .node _ children => children

variable (n : Node)

/-- The syntactic kind, or the text of a token. -/
def kind : String := n.info.kind

/-- Whether the kind is a syntactic one. -/
def isNamed : Bool := n.info.isNamed

/-- The position of the node. -/
def start : Extent := n.info.start

/-- The field under which the parent holds the node. -/
def field : Option String := n.info.field

/-- The nodes directly below that have a syntactic kind. -/
def namedChildren : List Node := n.children.filter isNamed

/-- The first node directly below that is held under a field. -/
def child? (field : String) : Option Node := n.children.find? fun c => c.field = some field

/-- Whether the node itself is faulty. -/
def isFaulty : Bool := n.info.isError || n.info.isMissing

/-- The node's part of the text. -/
def text (source : String) : String :=
  String.ofList <|
    (source.toList.drop n.info.start.chars).take (n.info.finish.chars - n.info.start.chars)

mutual

/-- The node and all nodes below it, each before those below it. -/
def preorder : Node → List Node
  | .node info children => .node info children :: preorderAll children

/-- The nodes of several trees, one tree after the other. -/
def preorderAll : List Node → List Node
  | [] => []
  | c :: cs => preorder c ++ preorderAll cs

end

mutual

/-- The first faulty node, looked for only where the nodes say that there is a fault. -/
def firstFault : Node → Option Node
  | .node info children =>
    if (Node.node info children).isFaulty then some (.node info children)
    else if !info.hasError then none
    else firstFaultAll children

/-- The first faulty node of several trees. -/
def firstFaultAll : List Node → Option Node
  | [] => none
  | c :: cs => (firstFault c).or (firstFaultAll cs)

end

end Node

end RouteAtlas.Syntax
