import RouteAtlas.Files.Lookup

/-!
# Changing a file system

Making directories and writing files. Each operation gives the changed file system, or says why
nothing could be changed. Two of them can fail and leave something behind: the making of several
directories leaves some of them, and a write that is interrupted leaves what was stored before.
-/

namespace RouteAtlas.FileSystem

/-- What an operation made of a file system, and the fault that ended it. -/
structure Change where
  after : FileSystem
  fault : Option IoFault := none

variable (fs : FileSystem)

/-- Makes an entry under a name that is not taken. -/
def make (e : Entry) (p : FilePath) : Except IoFault FileSystem :=
  match fs.find false p with
  | .error fault => .error fault
  | .ok (.occupied ..) => .error (.system .exists_)
  | .ok (.vacant directory n) => .ok (fs.put (directory ++ [n]) e)

/-- Makes a directory. -/
def makeDirectory (p : FilePath) : Except IoFault FileSystem := fs.make (.directory []) p

/-- Makes a symbolic link. -/
def makeLink (target p : FilePath) : Except IoFault FileSystem := fs.make (.link target) p

/-- Makes a directory unless it is there. -/
def ensureDirectory (p : FilePath) : Except IoFault FileSystem :=
  match fs.makeDirectory p with
  | .ok after => .ok after
  | .error fault => if fs.hasDirectory p then .ok fs else .error fault

/-- Makes a directory and those above it that are missing, for a path of at most `depth`
components. -/
def makeDirectoriesTo : (depth : Nat) → FilePath → Change
  | depth, p =>
    if p.bytes.isEmpty then ⟨fs, none⟩
    else match fs.ensureDirectory p with
      | .ok after => ⟨after, none⟩
      | .error fault =>
        if fault = .system .notFound then
          match depth, p.parent? with
          | depth + 1, some above =>
            let change := makeDirectoriesTo depth above
            match change.fault with
            | some fault => ⟨change.after, some fault⟩
            | none =>
              match change.after.ensureDirectory p with
              | .ok after => ⟨after, none⟩
              | .error fault => ⟨change.after, some fault⟩
          | _, _ => ⟨fs, some (.other "failed to create whole tree")⟩
        else ⟨fs, some fault⟩

/-- Makes a directory and those above it that are missing. -/
def makeDirectories (p : FilePath) : Change := fs.makeDirectoriesTo p.components.length p

/-- Whether the directory is there in which the last name of a path is looked up. -/
def hasParent (p : FilePath) : Bool :=
  match p.parent? with
  | none => true
  | some above => above.bytes.isEmpty || fs.hasDirectory above

/-- Gives a file a content. The file is created if its name is not taken; a device stays as it is. A
slash at the end of the path asks for a directory. -/
def writeFile (content : ByteArray) (p : FilePath) : Except IoFault FileSystem :=
  if p.endsWithSlash && (pathFault p).isNone && fs.hasParent p then .error (.system .isDirectory)
  else match fs.find true p with
  | .error fault => .error fault
  | .ok (.vacant directory n) => .ok (fs.put (directory ++ [n]) (.file content))
  | .ok (.occupied address (.file _)) => .ok (fs.put address (.file content))
  | .ok (.occupied _ .device) => .ok fs
  | .ok (.occupied ..) => .error (.system .isDirectory)

/-- What ends a write too early: so many bytes are stored, and then there is a fault. -/
structure Interruption where
  stored : Nat
  fault : IoFault
deriving DecidableEq, Repr, Inhabited

/-- Writes a content to a file, which is emptied before. If the write is interrupted before all of
the content is stored, the file is left with the part that is. -/
def write (content : ByteArray) (p : FilePath) (interruption : Option Interruption) : Change :=
  let occurring := interruption.filter fun i => i.stored < content.size
  let stored := match occurring with
    | none => content
    | some i => content.extract 0 i.stored
  match fs.writeFile stored p with
  | .error fault => ⟨fs, some fault⟩
  | .ok after => ⟨after, occurring.map Interruption.fault⟩

/-- Writes a text to a file, and makes the directories above it that are missing. -/
def writeText (text : String) (p : FilePath) (interruption : Option Interruption := none) :
    Change :=
  let change : Change := match p.parent? with
    | none => ⟨fs, none⟩
    | some above => fs.makeDirectories above
  match change.fault with
  | some _ => change
  | none => change.after.write text.toUTF8 p interruption

end RouteAtlas.FileSystem
