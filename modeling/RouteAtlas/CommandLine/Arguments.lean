import RouteAtlas.CommandLine.Basic
import RouteAtlas.Config
import RouteAtlas.Report.Basic

/-!
# The arguments of the program
-/

namespace RouteAtlas

open CommandLine

/-- What a call of the program asks for. -/
structure Arguments where
  /-- The directory with the route files. -/
  root : FilePath
  /-- The logical path that stands for it. -/
  logicalPrefix : String
  /-- Where the manifest is written; it is printed if no place is given. -/
  output : Option FilePath := none
  extension : String := "ts"
  apiPrefix : String := "api/v1/"
  routeFunction : String := "createRoute"
  timeoutSeconds : Nat := 5
  /-- How many files may be worked on at once. -/
  jobs : Option Nat := none
  ignoredDirectories : List String := []
  preserveOrder : Bool := false
  /-- Whether the manifest is written even if it lacks routes. -/
  allowPartial : Bool := false
  /-- Where the report is written, if one is wanted. -/
  report : Option FilePath := none
  reportFormat : ReportFormat := .json
  isVerbose : Bool := false
deriving DecidableEq, Repr, Inhabited

namespace Arguments

/-- The greatest number that an argument may have. -/
def numberLimit : Nat := 18446744073709551615

/-- The name of a report format. -/
def formatName : ReportFormat → String
  | .json => "json"
  | .yaml => "yaml"

/-- What the program takes. -/
def usage : Usage where
  program := "route-manifest"
  version := "0.1.0"
  about := "Route manifest generator - Builds one manifest module from convention-based route " ++
    "handler files"
  positions := [
    ⟨"root", .path, true, "Directory containing the route handler files"⟩,
    ⟨"prefix", .text, true, "Logical prefix that replaces ROOT in route paths (e.g. \".\")"⟩,
    ⟨"output", .path, false, "Output file path (if not specified, outputs to stdout)"⟩]
  choices := [
    ⟨"extension", none, .single .text, "EXTENSION",
      "Extension of route handler files, without the dot [default: ts]"⟩,
    ⟨"api-prefix", none, .single .text, "API_PREFIX",
      "Segment removed once from the front of every manifest key [default: api/v1/]"⟩,
    ⟨"route-function", none, .single .text, "ROUTE_FUNCTION",
      "Name of the exported route-construction function [default: createRoute]"⟩,
    ⟨"timeout-secs", none, .single (.number numberLimit), "TIMEOUT_SECS",
      "Deadline for the whole run, in seconds [default: 5]"⟩,
    ⟨"jobs", some 'j', .single (.number numberLimit), "JOBS",
      "Maximum number of concurrent read/parse workers per stage (default: CPU count)"⟩,
    ⟨"ignore-dir", none, .repeated .text, "NAME",
      "Directory name to skip while scanning (repeatable)"⟩,
    ⟨"preserve-order", none, .switch, "",
      "Keep routes in processing order instead of sorting them by key"⟩,
    ⟨"allow-partial", none, .switch, "",
      "Write the manifest even if some route files failed"⟩,
    ⟨"report", none, .single .path, "FILE",
      "Write a run report (diagnostics per file) to this path"⟩,
    ⟨"report-format", none, .single (.choice ["json", "yaml"]), "REPORT_FORMAT",
      "Run report format (json or yaml) [default: json] [possible values: json, yaml]"⟩,
    ⟨"verbose", some 'v', .switch, "", "Enable verbose output"⟩,
    ⟨"help", some 'h', .help, "", "Print help"⟩,
    ⟨"version", some 'V', .version, "", "Print version"⟩]

/-- The arguments with given values; a value that was not given has its default. -/
def ofGiven (g : Given) : Arguments where
  root := .ofText ((g.get? "root").getD "")
  logicalPrefix := (g.get? "prefix").getD ""
  output := (g.get? "output").map .ofText
  extension := (g.get? "extension").getD "ts"
  apiPrefix := (g.get? "api-prefix").getD "api/v1/"
  routeFunction := (g.get? "route-function").getD "createRoute"
  timeoutSeconds := ((g.get? "timeout-secs").bind number?).getD 5
  jobs := (g.get? "jobs").bind number?
  ignoredDirectories := g.all "ignore-dir"
  preserveOrder := g.contains "preserve-order"
  allowPartial := g.contains "allow-partial"
  report := (g.get? "report").map .ofText
  reportFormat := if g.get? "report-format" = some "yaml" then .yaml else .json
  isVerbose := g.contains "verbose"

/-- Reads the arguments of a call. -/
def read (arguments : List String) : Except Fault Arguments := (usage.read arguments).map ofGiven

/-- The settings of the run that the arguments ask for, on a machine that can work on a number of
files at once. -/
def toConfig (a : Arguments) (parallelism : Option { n : Nat // 0 < n }) : Config where
  root := a.root
  logicalPrefix := a.logicalPrefix
  extension := a.extension
  apiPrefix := a.apiPrefix
  routeFunction := a.routeFunction
  timeout := 1000 * a.timeoutSeconds
  concurrency := a.jobs.getD (Config.defaultConcurrency parallelism)
  ignoredDirectories := a.ignoredDirectories
  preserveOrder := a.preserveOrder

end Arguments

end RouteAtlas
