import RouteAtlas.Files.Lookup

/-!
# Scanning a directory for route files

A scan finds the regular files below a root whose names have the extension of route files. Links are
not followed below the root, and directories with an ignored name are left out with all they hold;
the root itself is scanned whatever its name.
-/

namespace RouteAtlas

/-- What a scan looks for. -/
structure Criteria where
  /-- The extension of route files, without its dot. -/
  extension : String
  /-- The names of directories that are left out. -/
  ignoredDirectories : List String := []

namespace Criteria

/-- Whether a file of this name is a route file. -/
def accepts (c : Criteria) (n : Name) : Bool := Text.endsWith ("." ++ c.extension) n.text

/-- Whether a directory of this name is left out. -/
def ignores (c : Criteria) (n : Name) : Bool := c.ignoredDirectories.contains n.text

end Criteria

namespace Entry

mutual

/-- The paths of the route files that an entry is or holds. -/
def routeFiles (c : Criteria) (path : FilePath) (n : Name) : Entry → List FilePath
  | .file _ => if c.accepts n then [path] else []
  | .link _ | .device => []
  | .directory entries => if c.ignores n then [] else routeFilesOf c path entries

/-- The paths of the route files in the directory at a path. -/
def routeFilesOf (c : Criteria) (path : FilePath) : List (Name × Entry) → List FilePath
  | [] => []
  | (n, e) :: rest => routeFiles c (path.join n) n e ++ routeFilesOf c path rest

end

end Entry

/-- What a scan found. -/
structure Scan where
  /-- The route files, each with the root at the front of its path. -/
  files : List FilePath := []
  /-- What could not be looked into. -/
  warnings : List String := []
deriving DecidableEq, Repr, Inhabited

namespace Scan

/-- The scan of a root that cannot be looked into. -/
def unreachable (root : FilePath) (fault : IoFault) : Scan :=
  ⟨[], ["Failed to access path: IO error for operation on " ++ root.text ++ ": " ++ fault.message]⟩

/-- Scans a root. A root that is a link is followed to a directory only. -/
def ofRoot (fs : FileSystem) (c : Criteria) (root : FilePath) : Scan :=
  match fs.entry false root with
  | .error fault => unreachable root fault
  | .ok (.file _) => ⟨if c.accepts root.lastName then [root] else [], []⟩
  | .ok (.directory entries) => ⟨Entry.routeFilesOf c root entries, []⟩
  | .ok .device => {}
  | .ok (.link _) =>
    match fs.entry true root with
    | .error fault => unreachable root fault
    | .ok (.directory entries) => ⟨Entry.routeFilesOf c root entries, []⟩
    | .ok _ => {}

end Scan

end RouteAtlas
