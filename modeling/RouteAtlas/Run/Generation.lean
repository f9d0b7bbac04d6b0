import RouteAtlas.Config
import RouteAtlas.Extraction.Basic
import RouteAtlas.Manifest.Builder
import RouteAtlas.Run.ReadPool
import RouteAtlas.Text.Duration

/-!
# Generations

A generation is what a run comes to: the manifest, and what became of every file that is not in it.
`Generation.ofOutcomes` makes it from the outcomes in the order of their arrival; a file without an
outcome missed the deadline. `generate` is the run that treats one file after another.
-/

namespace RouteAtlas

/-- What a run comes to. -/
structure Generation where
  /-- The manifest module. -/
  document : String
  /-- The number of routes in the manifest. -/
  routes : Nat
  /-- The number of route files that were found. -/
  discovered : Nat
  /-- What became of the other files, in order of path. -/
  diagnostics : List Diagnostic
  /-- What the scan could not look into. -/
  warnings : List String
deriving DecidableEq, Repr, Inhabited

namespace Generation

/-- Diagnostics are in order of path, those of one path in order of message. -/
def precedes (a b : Diagnostic) : Bool :=
  a.path < b.path || (a.path = b.path && a.message ≤ b.message)

/-- The diagnostic of a file that missed the deadline. -/
def late (c : Config) (path : String) : Diagnostic :=
  ⟨path, .deadlineExceeded, "not processed within " ++ Text.duration c.timeout⟩

/-- The builder with which a run begins. -/
def emptyBuilder (c : Config) : Manifest.Builder :=
  { extension := c.extension, apiPrefix := c.apiPrefix, preserveOrder := c.preserveOrder }

/-- The builder that was offered routes in turn. -/
def builderOf (c : Config) (routes : List Route) : Manifest.Builder :=
  routes.foldl (fun b r => (b.add r).builder) (emptyBuilder c)

/-- The logical paths of the files that a scan found. -/
def expected (c : Config) (s : Scan) : List String :=
  s.files.map (logicalPath c.logicalPrefix c.root)

/-- The generation of the outcomes that arrived before the deadline. -/
def ofOutcomes (c : Config) (s : Scan) (outcomes : List Outcome) : Generation :=
  let builder := builderOf c (Outcome.routes outcomes)
  let seen := outcomes.map Outcome.path
  let unseen := (expected c s).filter fun path => !seen.contains path
  { document := builder.build
    routes := builder.size
    discovered := s.files.length
    diagnostics := (Outcome.diagnostics outcomes ++ unseen.map (late c)).mergeSort precedes
    warnings := s.warnings }

/-- The fatal diagnostics. -/
def fatal (g : Generation) : List Diagnostic := g.diagnostics.filter Diagnostic.isFatal

/-- The diagnostics of files that are no route files. -/
def skipped (g : Generation) : List Diagnostic := g.diagnostics.filter fun d => !d.isFatal

/-- Whether every route file that was found reached the manifest. -/
def isComplete (g : Generation) : Bool := !g.diagnostics.any Diagnostic.isFatal

end Generation

/-- The scan of the root of a run. -/
def Config.scan (c : Config) (fs : FileSystem) : Scan := .ofRoot fs c.criteria c.root

/-- What becomes of the file at a location, given the answer of the system to the request to read
it. -/
def outcomeOf (c : Config) (attempt : SourceFile → Attempt) (location : FilePath)
    (answer : Except IoFault ByteArray) : Outcome :=
  ReadPool.Item.outcome attempt (SourceFile.ofAnswer c.logicalPrefix c.root location answer)

/-- Whether what was read keeps a run too long. -/
def ReadPool.Item.isLate (isLate : SourceFile → Bool) : Item → Bool
  | .ok file => isLate file
  | .error _ => false

/-- The run that treats the files of a scan one after another. Nothing arrives of a file that takes
too long. -/
def generateWith (fs : FileSystem) (c : Config) (attempt : SourceFile → Attempt)
    (isLate : SourceFile → Bool) : Generation :=
  let punctual := (c.scan fs).files.filter fun location =>
    !ReadPool.Item.isLate isLate (SourceFile.read fs c.logicalPrefix c.root location)
  .ofOutcomes c (c.scan fs)
    (punctual.map fun location => outcomeOf c attempt location (fs.read location))

/-- An extractor's attempt on a file. -/
def Extraction.Extractor.attempt (e : Extractor) (file : SourceFile) : Attempt :=
  match e.extract file.path file.content with
  | .ok r => .route r
  | .error f => .failure f

/-- The run that extracts routes from TypeScript files. It fails if its pattern cannot be compiled.
-/
def generate (fs : FileSystem) (c : Config) : Except Failure Generation := do
  let e ← Extraction.Extractor.make c.routeFunction c.extension
  return generateWith fs c e.attempt fun _ => false

end RouteAtlas
