import RouteAtlas.Diagnostic
import RouteAtlas.Report.Json
import RouteAtlas.Report.Yaml

/-!
# Run reports

A `RunReport` sums up a run for other programs: what was found, what reached the manifest, and what
became of every other file. It is written as JSON or as YAML, with the same fields in the same
order; warnings are left out where there are none.
-/

namespace RouteAtlas

/-- The summary of a run. -/
structure RunReport where
  /-- The directory that was scanned. -/
  root : String
  /-- The logical path that stands for it. -/
  logicalPrefix : String
  /-- How many route files were found. -/
  discovered : Nat
  /-- How many routes the manifest has. -/
  routes : Nat
  /-- Whether no diagnostic is fatal. -/
  complete : Bool
  elapsedMilliseconds : Nat
  diagnostics : List Diagnostic
  warnings : List String
deriving DecidableEq, Repr, Inhabited

/-- The written forms of a report. -/
inductive ReportFormat where
  | json
  | yaml
deriving DecidableEq, Repr, Inhabited

namespace RunReport

open Report (Value)

/-- A diagnostic in a report. -/
def diagnosticValue (d : Diagnostic) : Value :=
  .record [("path", .text d.path), ("kind", .text d.kind.tag), ("message", .text d.message)]

/-- The report as a structured value. -/
def toValue (r : RunReport) : Value :=
  .record <|
    [("root", .text r.root), ("prefix", .text r.logicalPrefix), ("discovered", .nat r.discovered),
      ("routes", .nat r.routes), ("complete", .bool r.complete),
      ("elapsed_ms", .nat r.elapsedMilliseconds),
      ("diagnostics", .list (r.diagnostics.map diagnosticValue))]
    ++ if r.warnings.isEmpty then [] else [("warnings", .list (r.warnings.map .text))]

/-- The report in JSON. -/
def toJson (r : RunReport) : String := Report.Json.render r.toValue

/-- The report in YAML. -/
def toYaml (r : RunReport) : String := Report.Yaml.render r.toValue

/-- The report in a given form. -/
def render : ReportFormat → RunReport → String
  | .json, r => r.toJson
  | .yaml, r => r.toYaml

end RunReport

end RouteAtlas
