import RouteAtlas.SystemError

/-!
# Failures and diagnostics

A `Failure` ends the work on one thing: reading a file, parsing it, compiling a pattern, writing a
report. A `Diagnostic` is what a run keeps of a failure: the file, the kind, and the words. Only a
file whose name has no method suffix is no loss; every other diagnostic is fatal, since the manifest
may lack a route.
-/

namespace RouteAtlas

/-- Why an input or output request failed. -/
inductive IoFault where
  /-- The system refused it. -/
  | system (e : SystemError)
  /-- It failed for a reason outside the system. -/
  | other (text : String)
deriving DecidableEq, Repr, Inhabited

/-- The fault in words. -/
def IoFault.message : IoFault → String
  | .system e => e.message
  | .other text => text

/-- What can fail. -/
inductive Failure where
  /-- A file could not be read or written. -/
  | io (fault : IoFault)
  /-- The file name ends in no method. -/
  | unrecognizedMethod (path : String)
  /-- The content of the file is no error-free source text. -/
  | parse (path text : String)
  /-- A structural pattern could not be compiled. -/
  | query (text : String)
  /-- The grammar cannot be used. -/
  | language (text : String)
  /-- A report could not be written down. -/
  | serialization (text : String)
deriving DecidableEq, Repr, Inhabited

namespace Failure

/-- The failure in words. -/
def message : Failure → String
  | .io fault => "IO error: " ++ fault.message
  | .unrecognizedMethod path => "no HTTP method suffix in file name: " ++ path
  | .parse path text => "parse error in " ++ path ++ ": " ++ text
  | .query text => "invalid structural query: " ++ text
  | .language text => "grammar could not be loaded: " ++ text
  | .serialization text => "serialization error: " ++ text

/-- Whether another error lies beneath the failure. -/
def hasCause : Failure → Bool
  | .io _ => true
  | _ => false

end Failure

/-- What became of a file that is not in the manifest. -/
inductive DiagnosticKind where
  /-- The file name ends in no method: the file is no route file. -/
  | unrecognizedMethod
  /-- The content could not be parsed. -/
  | parseFailure
  /-- The file was found but could not be read. -/
  | readFailure
  /-- The deadline passed before the file reached the manifest. -/
  | deadlineExceeded
deriving DecidableEq, Repr, Inhabited

namespace DiagnosticKind

/-- All kinds. -/
def all : List DiagnosticKind :=
  [.unrecognizedMethod, .parseFailure, .readFailure, .deadlineExceeded]

/-- Whether the manifest may lack a route. -/
def isFatal : DiagnosticKind → Bool
  | .unrecognizedMethod => false
  | _ => true

/-- The kind in words. -/
def text : DiagnosticKind → String
  | .unrecognizedMethod => "unrecognized method"
  | .parseFailure => "parse failure"
  | .readFailure => "read failure"
  | .deadlineExceeded => "deadline exceeded"

/-- The kind in a report. -/
def tag : DiagnosticKind → String
  | .unrecognizedMethod => "unrecognized_method"
  | .parseFailure => "parse_failure"
  | .readFailure => "read_failure"
  | .deadlineExceeded => "deadline_exceeded"

/-- The kind with a given tag. -/
def ofTag? (s : String) : Option DiagnosticKind := all.find? fun k => k.tag = s

/-- The kind of diagnostic that a failure becomes. -/
def ofFailure : Failure → DiagnosticKind
  | .unrecognizedMethod _ => .unrecognizedMethod
  | .io _ => .readFailure
  | _ => .parseFailure

end DiagnosticKind

/-- What a run says of one file. -/
structure Diagnostic where
  /-- The logical path of the file. -/
  path : String
  kind : DiagnosticKind
  message : String
deriving DecidableEq, Repr, Inhabited

namespace Diagnostic

/-- The diagnostic that a failure on the file at `path` becomes. -/
def ofFailure (path : String) (f : Failure) : Diagnostic :=
  ⟨path, .ofFailure f, f.message⟩

/-- Whether the manifest may lack a route. -/
def isFatal (d : Diagnostic) : Bool := d.kind.isFatal

/-- The diagnostic on one line. -/
def text (d : Diagnostic) : String := d.path ++ " [" ++ d.kind.text ++ "]: " ++ d.message

end Diagnostic

end RouteAtlas
