import RouteAtlas.CommandLine.Help
import RouteAtlas.Session

/-!
# The program

`main` carries out a call on the directories of the system. It looks at those parts of them that the
call speaks of, and reads one route file after another until the deadline. What becomes of the files
is left to `outcomeOf` and `Generation.ofOutcomes`, and what is written and printed to
`Session.runWith`, which is told what interrupted the writes.
-/

namespace RouteAtlas.Program

/-- Looks at a directory and those below it. Contents of files are left out; what cannot be looked
into counts as empty, with a warning. -/
partial def survey (c : Criteria) (path : String) : StateT (List String) IO Entry := do
  try
    let found ← ((← IO.currentDir) / path).readDir
    let entries ← found.toList.filterMapM fun item => do
      let n := Name.ofText item.fileName
      match (← item.path.symlinkMetadata).type with
      | .dir =>
        if c.ignores n then return some (n, .directory [])
        return some (n, ← survey c item.path.toString)
      | .file => return some (n, .file .empty)
      | .symlink => return some (n, .link ⟨[]⟩)
      | .other => return none
    return .directory entries
  catch fault =>
    modify fun warnings => warnings ++ ["Failed to access path: " ++ toString fault]
    return .directory []

/-- Adds the entry at a path, if there is one and it is not known yet. -/
def observe (fs : FileSystem) (p : FilePath) : IO FileSystem := do
  let address := fs.addressOf p
  let place := (← IO.currentDir) / p.text
  let isKnown := match fs.at? address with
    | none | some (.link _) => false
    | some _ => true
  if isKnown || !(← place.pathExists) then return fs
  return fs.put address (if ← place.isDir then .directory [] else .file .empty)

/-- Adds the entries on the way to a path, which has at most `depth` components. -/
def observeWay (fs : FileSystem) (p : FilePath) : (depth : Nat) → IO FileSystem
  | 0 => observe fs p
  | depth + 1 => do
    let fs ← match p.parent? with
      | none => pure fs
      | some above => if above.bytes.isEmpty then pure fs else observeWay fs above depth
    observe fs p

/-- The directories that a run starts from: those on the way to the working directory and to the
root, and all below the root. Warnings say what could not be looked into. -/
def landscape (c : Config) : IO (FileSystem × List String) := do
  let here := FilePath.ofText (← IO.currentDir).toString
  let bare : FileSystem := ⟨.directory [], []⟩
  let fs : FileSystem := ⟨.put (.directory []) (bare.addressOf here) bare.top, bare.addressOf here⟩
  let fs ← observeWay fs c.root c.root.components.length
  if !fs.hasDirectory c.root then return (fs, [])
  let (tree, warnings) ← (survey c.criteria c.root.text).run []
  return (fs.put (fs.addressOf c.root) tree, warnings)

/-- The answer of the system to the request to read the file at a location. -/
def answer (location : FilePath) : IO (Except IoFault ByteArray) := do
  try return .ok (← IO.FS.readBinFile location.text)
  catch fault => return .error (.other (toString fault))

/-- What comes of a request, unless the deadline passes before. -/
def before? {α : Type} (deadline : Nat) (request : IO α) : IO (Option α) := do
  if deadline ≤ (← IO.monoMsNow) then return none
  let result ← request
  return if (← IO.monoMsNow) < deadline then some result else none

/-- Carries out the run on the directories that were looked at. -/
def generation (fs : FileSystem) (c : Config) (warnings : List String) (deadline : Nat) :
    IO (Except SessionFault Generation) := do
  match Extraction.Extractor.make c.routeFunction c.extension with
  | .error f => return .error (.extractor f)
  | .ok e =>
    let found := c.scan fs
    if deadline ≤ (← IO.monoMsNow) then return .error (.scanning c.root)
    let outcomes ← found.files.filterMapM fun location => before? deadline do
      let answer ← answer location
      IO.lazyPure fun _ => outcomeOf c e.attempt location answer
    return .ok (.ofOutcomes c { found with warnings := found.warnings ++ warnings } outcomes)

/-- The content that a session left at a path, if it is not what was there before. -/
def written? (before after : FileSystem) (p : FilePath) : Option ByteArray :=
  match before.read p, after.read p with
  | .ok old, .ok new => if old.data = new.data then none else some new
  | .error _, .ok new => some new
  | _, .error _ => none

/-- How many files the machine can work on at once. -/
def parallelism : IO (Option { n : Nat // 0 < n }) := do
  try
    let n := (← IO.FS.lines "/proc/cpuinfo").toList.countP fun line => line.startsWith "processor"
    return if some_ : 0 < n then some ⟨n, some_⟩ else none
  catch _ => return none

/-- Writes a file, and makes the directories above it. -/
def write (p : FilePath) (content : ByteArray) : IO Unit := do
  if let some above := ((← IO.currentDir) / p.text).parent then
    IO.FS.createDirAll above
  IO.FS.writeBinFile p.text content

/-- Writes the file at a path as a session leaves it, and tells what interrupted that. -/
def settle (before after : FileSystem) (p : FilePath) : IO (Option FileSystem.Interruption) := do
  match written? before after p with
  | none => return none
  | some content =>
    try
      write p content
      return none
    catch fault =>
      let stored ← try pure (← IO.FS.readBinFile p.text).size catch _ => pure 0
      return some ⟨stored, .other (toString fault)⟩

/-- Says which files are not in the manifest. -/
def announce (a : Arguments) (g : Generation) : IO Unit := do
  for d in g.fatal do IO.eprintln d.text
  if a.isVerbose then
    for d in g.skipped do IO.eprintln ("Skipped " ++ d.text)

/-- Carries out a call and gives the exit code. -/
def carryOut (a : Arguments) : IO UInt32 := do
  let started ← IO.monoMsNow
  let machine : Machine := { parallelism := ← parallelism }
  let c := a.toConfig machine.parallelism
  let (fs, warnings) ← landscape c
  let result ← generation fs c warnings (started + c.timeout)
  let targets := a.report.toList ++ a.output.toList
  let before ← targets.foldlM (fun fs p => observeWay fs p p.components.length) fs
  if let .ok g := result then announce a g
  let elapsed := (← IO.monoMsNow) - started
  let sessionOn (m : Machine) := Session.runWith before a m elapsed result
  -- Whether the manifest is written at all is seen once the report is.
  let onReport ← a.report.bindM (settle before (sessionOn machine).files)
  let reported := { machine with onReport }
  let onManifest ← a.output.bindM (settle before (sessionOn reported).files)
  let session := sessionOn { reported with onManifest }
  IO.print session.output
  match session.fault with
  | none => return 0
  | some fault =>
    IO.eprintln ("Error: " ++ fault.message)
    return 1

end RouteAtlas.Program

open RouteAtlas in
/-- Reads the arguments and carries out the call, or says why it does not. -/
def main (arguments : List String) : IO UInt32 := do
  match Arguments.read arguments with
  | .ok a => Program.carryOut a
  | .error fault =>
    let text := Arguments.usage.explain fault
    if fault.exitCode = 0 then IO.print text else IO.eprint text
    return fault.exitCode.toUInt32
