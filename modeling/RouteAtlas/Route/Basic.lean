import RouteAtlas.AscendingSet
import RouteAtlas.Route.Method

/-!
# Routes

What the manifest has to know of one route file: its method, its flags, the source text of its
validation schema, the identifiers that text refers to, and the imports of its file.
`Route.hoistedImports` joins the last two: what the manifest must import for this route.
-/

namespace RouteAtlas

/-- The content type of every route. -/
def contentTypeJson : String := "application/json"

/-- The sections of a validation schema, each the source text of an expression or empty. -/
structure Schema where
  body : String := ""
  params : String := ""
  headers : String := ""
  query : String := ""
deriving DecidableEq, Repr, Inhabited

namespace Schema

/-- The sections that have a text, with their names, in the order of a descriptor. -/
def sections (s : Schema) : List (String × String) :=
  [("body", s.body), ("params", s.params), ("headers", s.headers), ("query", s.query)].filter
    fun nameAndText => !nameAndText.2.isEmpty

/-- Whether no section has a text. -/
def isEmpty (s : Schema) : Bool := s.sections.isEmpty

end Schema

/-- The names that a route's configuration refers to. -/
abbrev Identifiers := AscendingSet String

/-- The imported names of one file, each with the path of the module it comes from. -/
structure Imports where
  /-- The bindings, each name once, in the order of their first import. -/
  bindings : List (String × String) := []
deriving DecidableEq, Repr, Inhabited

namespace Imports

/-- Sets the path of `name` in a list of bindings. -/
def bind (name path : String) : List (String × String) → List (String × String)
  | [] => [(name, path)]
  | b :: bs => if b.1 = name then (name, path) :: bs else b :: bind name path bs

/-- Records a binding; an earlier one of the same name is replaced. -/
def insert (imports : Imports) (name path : String) : Imports := ⟨bind name path imports.bindings⟩

/-- The module path of an imported name. -/
def get? (imports : Imports) (name : String) : Option String := imports.bindings.lookup name

/-- Whether the name is imported. -/
def contains (imports : Imports) (name : String) : Bool := (imports.get? name).isSome

/-- The number of imported names. -/
def size (imports : Imports) : Nat := imports.bindings.length

/-- Whether nothing is imported. -/
def isEmpty (imports : Imports) : Bool := imports.bindings.isEmpty

theorem get?_insert (imports : Imports) (name path x : String) :
    (imports.insert name path).get? x = if x = name then some path else imports.get? x := by
  obtain ⟨bs⟩ := imports
  show (bind name path bs).lookup x = if x = name then some path else bs.lookup x
  have step (k v : String) (rest : List (String × String)) :
      ((k, v) :: rest).lookup x = if x = k then some v else rest.lookup x := by
    by_cases h : x = k
    · simp [h]
    · simp [List.lookup_cons, h, beq_false_of_ne h]
  induction bs with
  | nil => simp [bind, step]
  | cons b bs ih =>
    obtain ⟨k, v⟩ := b
    unfold bind
    split
    next h => rw [step, step]; grind
    next h => rw [step, step, ih]; grind

end Imports

/-- A route file's entry for the manifest. -/
structure Route where
  method : Method
  contentType : String := contentTypeJson
  /-- Whether the roles of the route grant access to administrators. -/
  isAdmin : Bool := false
  /-- Whether the route asks for authentication. -/
  auth : Bool := false
  schema : Schema := {}
  /-- The logical path of the route file. -/
  path : String
  identifiers : Identifiers := ∅
  imports : Imports := {}
deriving DecidableEq, Repr, Inhabited

/-- The names that the route refers to and its file imports, each with its module path. -/
def Route.hoistedImports (r : Route) : List (String × String) :=
  r.identifiers.toList.filterMap fun name => (r.imports.get? name).map fun path => (name, path)

end RouteAtlas
