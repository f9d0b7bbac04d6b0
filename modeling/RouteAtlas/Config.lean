import RouteAtlas.Files.Scan
import RouteAtlas.Text.Quoted

/-!
# Configurations

What a run works on, and the checks that it has to pass before the run.
-/

namespace RouteAtlas

/-- The settings of a run. -/
structure Config where
  /-- The directory that is scanned for route files. -/
  root : FilePath
  /-- The logical path that stands for the root. -/
  logicalPrefix : String
  /-- The extension of route files, without its dot. -/
  extension : String := "ts"
  /-- The beginning that keys lose once. -/
  apiPrefix : String := "api/v1/"
  /-- The function whose exported call describes a route. -/
  routeFunction : String := "createRoute"
  /-- How many milliseconds the run may take. -/
  timeout : Nat := 5000
  /-- How many files may be read at once, and how many parsed. -/
  concurrency : Nat
  /-- The names of directories that are not scanned. -/
  ignoredDirectories : List String := []
  /-- Whether entries stay in the order of their arrival. -/
  preserveOrder : Bool := false
deriving DecidableEq, Repr, Inhabited

namespace Config

/-- How many files a run works on at once if the call does not say: as many as the machine can, or
four if it is not known how many these are. -/
def defaultConcurrency (parallelism : Option { n : Nat // 0 < n }) : Nat :=
  (parallelism.map Subtype.val).getD 4

/-- What the scan of a run looks for. -/
def criteria (c : Config) : Criteria := ⟨c.extension, c.ignoredDirectories⟩

/-- Why settings are refused. -/
inductive Fault where
  | missingRoot (root : FilePath)
  | rootNotDirectory (root : FilePath)
  | badExtension (extension : String)
  | noConcurrency
  | badRouteFunction (name : String)
deriving DecidableEq, Repr, Inhabited

/-- The fault in words. -/
def Fault.message : Fault → String
  | .missingRoot root => "Root path does not exist: " ++ root.text
  | .rootNotDirectory root => "Root path is not a directory: " ++ root.text
  | .badExtension extension =>
    "Extension must be non-empty and given without a leading dot: " ++ Text.quoted extension
  | .noConcurrency => "Concurrency must be at least 1"
  | .badRouteFunction name => "Invalid route function name: " ++ Text.quoted name

/-- Whether the text is an extension without its dot. -/
def isExtension (s : String) : Bool := !s.isEmpty && !Text.startsWith "." s

/-- Whether a route function may have this name. -/
def isRouteFunction (s : String) : Bool :=
  !s.isEmpty && s.toList.all fun c => c.isAlphanum || c = '_' || c = '$'

/-- Checks settings; the first fault counts. -/
def validate (fs : FileSystem) (c : Config) : Except Fault Unit :=
  if !fs.has c.root then .error (.missingRoot c.root)
  else if !fs.hasDirectory c.root then .error (.rootNotDirectory c.root)
  else if !isExtension c.extension then .error (.badExtension c.extension)
  else if c.concurrency = 0 then .error .noConcurrency
  else if !isRouteFunction c.routeFunction then .error (.badRouteFunction c.routeFunction)
  else .ok ()

end Config

end RouteAtlas
