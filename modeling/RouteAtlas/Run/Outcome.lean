import RouteAtlas.Files.Lookup
import RouteAtlas.Route.Basic

/-!
# What becomes of a file

A file that was found is read and its route extracted. Either step can fail, and an extraction can
crash; the outcome is a route or a diagnostic, with the logical path of the file in both.
-/

namespace RouteAtlas

/-- A route file with its content. -/
structure SourceFile where
  /-- The logical path. -/
  path : String
  /-- Where the file was read from. -/
  location : FilePath
  content : ByteArray
deriving Inhabited

/-- What comes of reading the file at a location, given the answer of the system. -/
def SourceFile.ofAnswer (logicalPrefix : String) (root location : FilePath)
    (answer : Except IoFault ByteArray) : Except Diagnostic SourceFile :=
  let path := logicalPath logicalPrefix root location
  match answer with
  | .ok content => .ok ⟨path, location, content⟩
  | .error fault => .error ⟨path, .readFailure, fault.message⟩

/-- Reads the file at a location. -/
def SourceFile.read (fs : FileSystem) (logicalPrefix : String) (root location : FilePath) :
    Except Diagnostic SourceFile :=
  ofAnswer logicalPrefix root location (fs.read location)

/-- What a call of an extractor comes to. -/
inductive Attempt where
  | route (r : Route)
  | failure (f : Failure)
  /-- The call did not return. -/
  | crash (text : String)
deriving Inhabited

/-- What becomes of a file: a route, or a diagnostic. -/
abbrev Outcome := Except Diagnostic Route

/-- The logical path that an outcome speaks of. -/
def Outcome.path : Outcome → String
  | .ok r => r.path
  | .error d => d.path

/-- The outcome of an attempt on the file at a logical path. -/
def Attempt.outcome (path : String) : Attempt → Outcome
  | .route r => .ok r
  | .failure f => .error (.ofFailure path f)
  | .crash text => .error ⟨path, .parseFailure, "parse task failed: " ++ text⟩

/-- The routes among outcomes. -/
def Outcome.routes (outcomes : List Outcome) : List Route :=
  outcomes.filterMap fun
    | .ok r => some r
    | .error _ => none

/-- The diagnostics among outcomes. -/
def Outcome.diagnostics (outcomes : List Outcome) : List Diagnostic :=
  outcomes.filterMap fun
    | .ok _ => none
    | .error d => some d

end RouteAtlas
