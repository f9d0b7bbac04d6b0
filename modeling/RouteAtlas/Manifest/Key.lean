import RouteAtlas.Route.Method

/-!
# Keys and addresses of routes

Both are read off the logical path. Normalising takes the leading `./` and the extension away and
folds a last segment `get`, `delete`, `put` or `post` into a suffix, so `./api/v1/item/get.ts`
becomes `api/v1/item.get`. The key drops the shared beginning of all keys once; the address drops
the method and writes dots as slashes.
-/

namespace RouteAtlas.Manifest

/-- The methods that a key shows as a suffix; the others keep their path segment. -/
def keyedMethods : List Method := [.get, .delete, .put, .post]

/-- The path before its last segment, if that is the method's name and something precedes it. -/
def methodDirectory? (m : Method) (path : String) : Option String :=
  ((Text.dropTrailing? m.stem path).bind (Text.dropTrailing? "/")).filter fun base => !base.isEmpty

/-- A last segment that names a keyed method becomes a suffix. -/
def foldMethod (path : String) : String :=
  match keyedMethods.findSome? fun m => (methodDirectory? m path).map fun base => (base, m) with
  | some (base, m) => base ++ "." ++ m.stem
  | none => path

/-- The path without a leading `./` and without the extension. -/
def trimPath (extension path : String) : String :=
  let path := (Text.dropLeading? "./" path).getD path
  (Method.stripExtension? extension path).getD path

/-- The path without `./` and extension, with a final method segment folded. -/
def normalizedPath (extension path : String) : String := foldMethod (trimPath extension path)

/-- The normalised path without one leading `apiPrefix`. -/
def key (extension apiPrefix path : String) : String :=
  let normalized := normalizedPath extension path
  if apiPrefix.isEmpty then normalized
  else (Text.dropLeading? apiPrefix normalized).getD normalized

/-- The path before a suffix that names a keyed method. -/
def withoutMethod (path : String) : String :=
  (keyedMethods.findSome? fun m =>
    (Text.dropTrailing? m.stem path).bind (Text.dropTrailing? ".")).getD path

/-- The address of a route: its normalised path without the method, dots as slashes. -/
def url (extension path : String) : String :=
  Text.replaceChar '.' '/' (withoutMethod (normalizedPath extension path))

end RouteAtlas.Manifest
