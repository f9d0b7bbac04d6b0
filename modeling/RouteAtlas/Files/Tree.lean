import RouteAtlas.Files.Path

/-!
# Directory trees

An `Entry` of a directory is a regular file, a symbolic link, a device, or a directory of its own.
The address of an entry is the list of names that leads to it from the top, without following links.
A `FileSystem` is a tree with the address of the directory that relative paths begin at.
-/

namespace RouteAtlas

/-- What a directory holds under a name. -/
inductive Entry where
  /-- A regular file. -/
  | file (content : ByteArray)
  /-- A symbolic link to the entry at a path. -/
  | link (target : FilePath)
  /-- A device that takes whatever is written to it and holds nothing. -/
  | device
  /-- A directory. No two of its entries have the same name. -/
  | directory (entries : List (Name × Entry))
deriving Inhabited

/-- The names that lead to an entry. -/
abbrev Address := List Name

namespace Entry

/-- Whether the entry is a directory. -/
def isDirectory : Entry → Bool
  | .directory _ => true
  | _ => false

/-- The entry at an address. -/
def at? : Address → Entry → Option Entry
  | [], e => some e
  | n :: ns, .directory entries => (entries.lookup n).bind (at? ns)
  | _ :: _, _ => none

/-- The entries of a directory with the entry of one name replaced or added. -/
def bind (n : Name) (e : Entry) : List (Name × Entry) → List (Name × Entry)
  | [] => [(n, e)]
  | b :: rest => if b.1 = n then (n, e) :: rest else b :: bind n e rest

/-- The tree with `new` at an address, whose directory is there. -/
def put (new : Entry) : Address → Entry → Entry
  | [], _ => new
  | n :: ns, .directory entries =>
    .directory (bind n (put new ns ((entries.lookup n).getD (.directory []))) entries)
  | _ :: _, e => e

mutual

/-- The regular files of a tree, with their addresses. -/
def files : Entry → List (Address × ByteArray)
  | .file content => [([], content)]
  | .link _ | .device => []
  | .directory entries => filesOf entries

/-- The regular files of the entries of a directory, with their addresses. -/
def filesOf : List (Name × Entry) → List (Address × ByteArray)
  | [] => []
  | (n, e) :: rest => (files e).map (fun (a, content) => (n :: a, content)) ++ filesOf rest

end

end Entry

/-- A tree of directories and the place in it where relative paths begin. -/
structure FileSystem where
  /-- The directory at the top. -/
  top : Entry
  /-- The address of the working directory. -/
  workingDirectory : Address
deriving Inhabited

namespace FileSystem

/-- The entry at an address. -/
def at? (fs : FileSystem) (a : Address) : Option Entry := fs.top.at? a

/-- The content of the regular file at an address. -/
def fileAt (fs : FileSystem) (a : Address) : Option ByteArray :=
  match fs.at? a with
  | some (.file content) => some content
  | _ => none

/-- The file system with `e` at an address. -/
def put (fs : FileSystem) (a : Address) (e : Entry) : FileSystem :=
  { fs with top := Entry.put e a fs.top }

/-- The regular files below the working directory, with their addresses from there. -/
def workingFiles (fs : FileSystem) : List (Address × ByteArray) :=
  ((fs.at? fs.workingDirectory).map Entry.files).getD []

end FileSystem

end RouteAtlas
