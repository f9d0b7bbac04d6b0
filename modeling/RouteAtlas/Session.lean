import RouteAtlas.CommandLine.Arguments
import RouteAtlas.Files.Change
import RouteAtlas.Run.Generation

/-!
# Sessions

A session carries out one call of the program: it checks the settings, makes the manifest, writes
the report, and writes or prints the manifest. A manifest that lacks routes is written only if the
call allows it; the report is written before that is decided. Either file can be written in part
only, if the machine interrupts the write.
-/

namespace RouteAtlas

/-- Why a session failed. -/
inductive SessionFault where
  /-- The settings were refused. -/
  | config (fault : Config.Fault)
  /-- The deadline passed before the scan of the root was over. -/
  | scanning (root : FilePath)
  /-- The extractor could not be made. -/
  | extractor (f : Failure)
  /-- A file could not be written. -/
  | writing (fault : IoFault)
  /-- The manifest lacks routes and the call does not allow that. -/
  | incomplete (failed discovered : Nat)
deriving DecidableEq, Repr, Inhabited

/-- A failure with the error beneath it. -/
def Failure.chain (f : Failure) : String :=
  match f with
  | .io fault => f.message ++ ": " ++ fault.message
  | _ => f.message

/-- The fault in words. -/
def SessionFault.message : SessionFault → String
  | .config fault => fault.message
  | .scanning root => "Deadline exceeded while scanning " ++ root.text
  | .extractor f => "Failed to prepare the route extractor: " ++ f.chain
  | .writing fault => (Failure.io fault).chain
  | .incomplete failed discovered =>
    s!"{failed} of {discovered} route files could not be processed; no manifest written"

/-- What a session finds on its machine besides the files. -/
structure Machine where
  /-- How many files can be worked on at once, if that is known. -/
  parallelism : Option { n : Nat // 0 < n } := none
  /-- What interrupts the writing of the report. -/
  onReport : Option FileSystem.Interruption := none
  /-- What interrupts the writing of the manifest. -/
  onManifest : Option FileSystem.Interruption := none
deriving DecidableEq, Repr, Inhabited

/-- What a session leaves behind. -/
structure Session where
  /-- The file system afterwards. -/
  files : FileSystem
  /-- What was printed. -/
  output : String := ""
  fault : Option SessionFault := none
deriving Inhabited

namespace Session

/-- The report of a generation. -/
def reportOf (a : Arguments) (elapsedMilliseconds : Nat) (g : Generation) : RunReport where
  root := a.root.text
  logicalPrefix := a.logicalPrefix
  discovered := g.discovered
  routes := g.routes
  complete := g.isComplete
  elapsedMilliseconds
  diagnostics := g.diagnostics
  warnings := g.warnings

/-- Writes a text to a file, if a file is given. -/
def writeTo (fs : FileSystem) (text : String) (target : Option FilePath)
    (interruption : Option FileSystem.Interruption) : Session :=
  match target with
  | none => { files := fs }
  | some p =>
    let change := fs.writeText text p interruption
    { files := change.after, fault := change.fault.map .writing }

/-- Writes or prints a manifest that may be written. -/
def deliver (fs : FileSystem) (a : Arguments) (m : Machine) (g : Generation) : Session :=
  if !g.isComplete && !a.allowPartial then
    { files := fs, fault := some (.incomplete g.fatal.length g.discovered) }
  else
    match a.output with
    | none => { files := fs, output := g.document }
    | some p => writeTo fs g.document (some p) m.onManifest

/-- The text of the report on a generation. -/
def reportText (a : Arguments) (elapsedMilliseconds : Nat) (g : Generation) : String :=
  (reportOf a elapsedMilliseconds g).render a.reportFormat

/-- Writes the report and the manifest of a generation. -/
def conclude (fs : FileSystem) (a : Arguments) (m : Machine) (elapsedMilliseconds : Nat)
    (g : Generation) : Session :=
  let reported := writeTo fs (reportText a elapsedMilliseconds g) a.report m.onReport
  match reported.fault with
  | some _ => reported
  | none => deliver reported.files a m g

/-- Carries out a call with accepted settings, whose run comes to `result`. -/
def carryOut (fs : FileSystem) (a : Arguments) (m : Machine) (elapsedMilliseconds : Nat)
    (result : Except SessionFault Generation) : Session :=
  match result with
  | .error fault => { files := fs, fault := some fault }
  | .ok g => conclude fs a m elapsedMilliseconds g

/-- Carries out a call whose run comes to `result`, unless its settings are refused. -/
def runWith (fs : FileSystem) (a : Arguments) (m : Machine) (elapsedMilliseconds : Nat)
    (result : Except SessionFault Generation) : Session :=
  match (a.toConfig m.parallelism).validate fs with
  | .error fault => { files := fs, fault := some (.config fault) }
  | .ok () => carryOut fs a m elapsedMilliseconds result

/-- Carries out a call, one file after another. -/
def run (fs : FileSystem) (a : Arguments) (elapsedMilliseconds : Nat) (m : Machine := {}) :
    Session :=
  runWith fs a m elapsedMilliseconds
    ((generate fs (a.toConfig m.parallelism)).mapError .extractor)

end Session

end RouteAtlas
