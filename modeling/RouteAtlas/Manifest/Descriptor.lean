import RouteAtlas.Manifest.Key
import RouteAtlas.Route.Basic
import RouteAtlas.Text.Literal

/-!
# Descriptors

The object literal that describes one route in the manifest. Schema expressions are copied as they
stand in the route file; all other texts are string literals.
-/

namespace RouteAtlas.Manifest

/-- One section of a schema. -/
def renderSection (s : String × String) : String := s.1 ++ ": " ++ s.2 ++ ",\n"

/-- The object literal of a route. -/
def renderDescriptor (extension : String) (r : Route) : String :=
  "\x7b\n    method: " ++ Text.Literal.encode r.method.name
    ++ ",\n    path: " ++ Text.Literal.encode r.path
    ++ ",\n    url: " ++ Text.Literal.encode (url extension r.path)
    ++ ",\n    auth: " ++ toString r.auth
    ++ ",\n    isAdmin: " ++ toString r.isAdmin
    ++ ",\n    schema: z.object(\x7b\n" ++ String.join (r.schema.sections.map renderSection)
    ++ "\x7d)\n  \x7d"

end RouteAtlas.Manifest
