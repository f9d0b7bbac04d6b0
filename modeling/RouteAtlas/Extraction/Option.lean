import RouteAtlas.Extraction.Event
import RouteAtlas.Query.Basic
import RouteAtlas.Route.Basic

/-!
# Options of a route

The object that a route is made of holds pairs of a key and a value. Five keys give a part of the
route by the text of their values, two a flag by the structure of theirs; other keys mean nothing.
Names that the values refer to are kept, so that their imports can be found later.
-/

namespace RouteAtlas.Extraction

open Query Syntax

/-- The keys that mean something. -/
inductive OptionKey where
  | auth
  | roles
  | headers
  | params
  | query
  | body
deriving DecidableEq, Repr, Inhabited

namespace OptionKey

/-- The key with a name. -/
def ofName? : String → Option OptionKey
  | "auth" => some .auth
  | "roles" => some .roles
  | "headers" => some .headers
  | "params" => some .params
  | "query" => some .query
  | "body" => some .body
  | _ => none

end OptionKey

/-- Whether the character is a mark that texts are put between. -/
def isQuote (c : Char) : Bool := c = '"' || c = '\''

/-- A key without the marks around it. -/
def keyName (raw : String) : String :=
  String.ofList ((raw.toList.dropWhile isQuote).reverse.dropWhile isQuote).reverse

/-- Whether a node is the access to a property of an object, both given by their texts. -/
def isAccess (source object property : String) (n : Node) : Bool :=
  n.kind = "member_expression" && match n.child? "object", n.child? "property" with
    | some o, some p => o.text source = object && p.text source = property
    | _, _ => false

/-- Whether a value of the roles grants access to administrators: a list with the role among its
elements. -/
def grantsAdmin (source : String) (value : Node) : Bool :=
  value.kind = "array" && value.namedChildren.any (isAccess source "Role" "Admin")

/-- The names that a value refers to. -/
def namesIn (identifiers : Compiled) (source : String) (value : Located) : List String :=
  ((identifiers.matchesIn source value).flatten).map fun c => c.node.text source

/-- The route with further names that it refers to. -/
def addNames (r : Route) (names : List String) : Route :=
  { r with identifiers := names.foldl (fun s x => s.insert x) r.identifiers }

/-- The first node directly below that is held under a field, with its address. -/
def child? (l : Located) (field : String) : Option Located :=
  l.children.find? fun c => c.node.field = some field

/-- Applies an option to a route. -/
def applyOption (identifiers : Compiled) (source : String) (r : Route) (key : OptionKey)
    (value : Located) : Route :=
  let text := value.node.text source
  let named := addNames r (namesIn identifiers source value)
  match key with
  | .auth => { r with auth := value.node.kind = "true" }
  | .roles => { named with isAdmin := grantsAdmin source value.node }
  | .headers => { named with schema := { named.schema with headers := text } }
  | .params => { named with schema := { named.schema with params := text } }
  | .query => { named with schema := { named.schema with query := text } }
  | .body => { named with schema := { named.schema with body := text } }

/-- Applies a pair of the object to a route. -/
def applyPair (identifiers : Compiled) (source : String) (r : Route) (pair : Located) :
    Route × List Event :=
  match child? pair "key", child? pair "value" with
  | some key, some value =>
    let name := keyName (key.node.text source)
    match OptionKey.ofName? name with
    | some k => (applyOption identifiers source r k value, [])
    | none => (r, [.ignoredOption r.path name])
  | _, _ => (r, [])

end RouteAtlas.Extraction
