import RouteAtlas.Route.Method

/-!
# What happens during an extraction
-/

namespace RouteAtlas.Extraction

/-- A step of an extraction that is worth a note. -/
inductive Event where
  | parsing (path : String)
  | ignoredOption (path key : String)
  | noRouteCall (path : String)
  | extracted (method : Method) (path : String) (imports identifiers : Nat)
deriving DecidableEq, Repr, Inhabited

/-- The note in words. -/
def Event.message : Event → String
  | .parsing path => "Parsing file: " ++ path
  | .ignoredOption path key => path ++ ": ignoring route option \x60" ++ key ++ "\x60"
  | .noRouteCall path => path ++ ": no route call found, using defaults"
  | .extracted method path imports identifiers =>
    s!"Extracted {method.name} {path} ({imports} imports, {identifiers} identifiers)"

end RouteAtlas.Extraction
