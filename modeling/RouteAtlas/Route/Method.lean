import RouteAtlas.Text.Affix

/-!
# HTTP methods

A route file is named after its method: the path ends in the method's stem, a dot and the extension
of route files. Only the end of the path counts, so `forget.ts` is a GET route like `get.ts`.
-/

namespace RouteAtlas

/-- The HTTP methods that a route file can be named after. -/
inductive Method where
  | get
  | post
  | put
  | patch
  | delete
  | options
deriving DecidableEq, Repr, Inhabited

namespace Method

/-- All methods, in the order in which a path is tried against them. -/
def all : List Method := [.get, .post, .put, .patch, .delete, .options]

/-- The method's name in a descriptor. -/
def name : Method → String
  | .get => "GET"
  | .post => "POST"
  | .put => "PUT"
  | .patch => "PATCH"
  | .delete => "DELETE"
  | .options => "OPTIONS"

/-- The method's name in a file name. -/
def stem : Method → String
  | .get => "get"
  | .post => "post"
  | .put => "put"
  | .patch => "patch"
  | .delete => "delete"
  | .options => "options"

/-- The method with a given descriptor name. -/
def ofName? (s : String) : Option Method := all.find? fun m => m.name = s

/-- The path without a final dot and extension, if it ends so. -/
def stripExtension? (extension path : String) : Option String :=
  (Text.dropTrailing? extension path).bind (Text.dropTrailing? ".")

/-- The method that a path's end names. -/
def ofPath? (extension path : String) : Option Method := do
  let base ← stripExtension? extension path
  all.find? fun m => Text.endsWith m.stem base

end Method

end RouteAtlas
