import RouteAtlas.Extraction.Option
import RouteAtlas.Specifier
import RouteAtlas.TypeScript.Source

/-!
# Extraction

A route file exports a call of the route function with an object of options. Three patterns find
what the manifest needs: the named imports, the pairs of that object, and the names in their values.
Of several calls the one that owns the first pair counts.
-/

namespace RouteAtlas.Extraction

open Query Syntax TypeScript

/-- The kinds of TypeScript's trees. -/
def blueprint : Blueprint := .ofGrammar prepared grammar.abstract

/-- A pattern of the TypeScript grammar. -/
def compilePattern (pattern : String) : Except Failure Compiled :=
  (compile blueprint pattern).mapError fun e => .query e.message

/-- The text of several lines. -/
def ofLines (lines : List String) : String := "\n".intercalate lines

/-- A named import: its name, and a part of the text between the quotes of its module. -/
def importPattern : String := ofLines [
  "",
  "(import_statement",
  "  (import_clause",
  "    (named_imports",
  "      (import_specifier",
  "        name: (identifier) @identifier)))",
  "  source: (string",
  "    (string_fragment) @path))",
  ""]

/-- A name that is no property. -/
def identifierPattern : String := "(identifier) @identifier"

/-- A pair of the object of an exported call of the function. -/
def routeCallPattern (function : String) : String := ofLines [
  "",
  "(export_statement",
  "  value: (call_expression",
  "    function: (identifier) @function (#eq? @function \"" ++ function ++ "\")",
  "    arguments: (arguments",
  "      (object",
  "        (pair) @pair))) @call)",
  ""]

/-- What routes are extracted with. -/
structure Extractor where
  /-- The extension of route files. -/
  extension : String
  imports : Compiled
  routeCall : Compiled
  identifiers : Compiled

namespace Extractor

/-- The extractor for a route function, whose name becomes part of a pattern as it is. -/
def make (routeFunction extension : String) : Except Failure Extractor := do
  return {
    extension
    imports := ← compilePattern importPattern
    routeCall := ← compilePattern (routeCallPattern routeFunction)
    identifiers := ← compilePattern identifierPattern }

/-- The capture of a name. -/
def capture? (captures : List Capture) (name : String) : Option Capture :=
  captures.find? fun c => c.name = name

/-- The named imports of a source file. -/
def importsOf (e : Extractor) (s : Source) : Imports :=
  (e.imports.matchesIn s.text ⟨[], s.tree⟩).foldl
    (fun imports captures =>
      match capture? captures "identifier", capture? captures "path" with
      | some name, some path =>
        imports.insert (name.node.text s.text) (Specifier.resolve (path.node.text s.text) s.path)
      | _, _ => imports)
    {}

/-- The pairs of the call that owns the first pair; nothing if there is no call. -/
def routePairs (e : Extractor) (s : Source) : Option (List Located) :=
  let calls := (e.routeCall.matchesIn s.text ⟨[], s.tree⟩).filterMap fun captures =>
    (capture? captures "call").map fun call => (call.address, captures)
  match calls with
  | [] => none
  | (first, _) :: _ =>
    some <| (calls.filter fun c => c.1 = first).flatMap fun c =>
      (c.2.filter fun capture => capture.name = "pair").map fun p => ⟨p.address, p.node⟩

/-- Applies pairs one after the other. -/
def applyPairs (e : Extractor) (source : String) (r : Route) (pairs : List Located) :
    Route × List Event :=
  pairs.foldl
    (fun (r, events) pair =>
      let (r, new) := applyPair e.identifiers source r pair
      (r, events ++ new))
    (r, [])

/-- The route of a source file with a method. -/
def routeOf (e : Extractor) (method : Method) (s : Source) : Route × List Event :=
  let r : Route := { method, path := s.path, imports := e.importsOf s }
  match e.routePairs s with
  | none => (r, [.noRouteCall s.path])
  | some pairs => e.applyPairs s.text r pairs

/-- Extracts the route of a file, and notes what happens. -/
def extractWithEvents (e : Extractor) (path : String) (content : ByteArray) :
    Except Failure Route × List Event :=
  match Method.ofPath? e.extension path with
  | none => (.error (.unrecognizedMethod path), [])
  | some method =>
    match Source.parse path content with
    | .error f => (.error f, [.parsing path])
    | .ok s =>
      let (r, events) := e.routeOf method s
      (.ok r, .parsing path :: events
        ++ [.extracted r.method r.path r.imports.size r.identifiers.size])

/-- Extracts the route of a file. -/
def extract (e : Extractor) (path : String) (content : ByteArray) : Except Failure Route :=
  (e.extractWithEvents path content).1

end Extractor

end RouteAtlas.Extraction
