import RouteAtlas.Text.Affix
import RouteAtlas.Text.Utf8

/-!
# Paths

A path is a sequence of bytes, cut into pieces by slashes. Its components leave out what says
nothing: empty pieces, and a lone dot anywhere but at the front. Two paths with the same components
lead to the same place. `logicalPath` names a file by its place below a root, independent of where
the root is.
-/

namespace RouteAtlas

/-- The name of an entry of a directory. Names are bytes; most of them are UTF-8. -/
abbrev Name := List UInt8

namespace Name

/-- The name of the directory itself. -/
def dot : Name := [46]

/-- The name of the directory above. -/
def dotDot : Name := [46, 46]

/-- The name as a text; what is no text is replaced. -/
def text (n : Name) : String := Text.Utf8.lossyText n

/-- The bytes of a text as a name. -/
def ofText (s : String) : Name := s.toUTF8.toList

end Name

/-- A path through directories. -/
structure FilePath where
  bytes : List UInt8
deriving DecidableEq, Repr, Inhabited

/-- A part of a path that says where to go. -/
inductive Component where
  /-- The top of all directories. -/
  | top
  /-- The directory one is in, at the front of a path. -/
  | here
  /-- The directory above. -/
  | parent
  /-- The entry of a given name. -/
  | name (n : Name)
deriving DecidableEq, Repr, Inhabited

/-- The component as a text. -/
def Component.text : Component → String
  | .top => "/"
  | .here => "."
  | .parent => ".."
  | .name n => n.text

namespace FilePath

/-- The byte between the pieces of a path. -/
def slash : UInt8 := 47

/-- A text as a path. -/
def ofText (s : String) : FilePath := ⟨s.toUTF8.toList⟩

/-- The path as a text; what is no text is replaced. -/
def text (p : FilePath) : String := Text.Utf8.lossyText p.bytes

/-- What stands before, between and behind the slashes. -/
def piecesOf : List UInt8 → List (List UInt8)
  | [] => [[]]
  | b :: bs =>
    if b = slash then [] :: piecesOf bs
    else match piecesOf bs with
      | [] => [[b]]
      | piece :: rest => (b :: piece) :: rest

/-- The pieces of a path. -/
def pieces (p : FilePath) : List (List UInt8) := piecesOf p.bytes

/-- Whether the path begins at the top of all directories. -/
def isAbsolute (p : FilePath) : Bool := p.bytes.head? = some slash

/-- Whether the path ends with a slash. -/
def endsWithSlash (p : FilePath) : Bool := p.bytes.getLast? = some slash

/-- What a piece says, apart from where the path begins. -/
def componentOf? (piece : List UInt8) : Option Component :=
  if piece = [] || piece = Name.dot then none
  else if piece = Name.dotDot then some .parent
  else some (.name piece)

/-- The components of a path. -/
def components (p : FilePath) : List Component :=
  let first : List Component :=
    if p.isAbsolute then [.top] else if p.pieces.head? = some Name.dot then [.here] else []
  first ++ p.pieces.filterMap componentOf?

/-- The bytes of components that are all separated by slashes. -/
def bytesOf : List Component → List UInt8
  | [] => []
  | .top :: rest => slash :: bytesOf rest
  | c :: rest =>
    let own := match c with
      | .name n => n
      | .parent => Name.dotDot
      | _ => Name.dot
    if rest.isEmpty then own else own ++ slash :: bytesOf rest

/-- The path with the given components. -/
def ofComponents (cs : List Component) : FilePath := ⟨bytesOf cs⟩

/-- The path of an entry of the directory at `p`. -/
def join (p : FilePath) (n : Name) : FilePath :=
  if p.bytes.isEmpty || p.endsWithSlash then ⟨p.bytes ++ n⟩ else ⟨p.bytes ++ slash :: n⟩

/-- The path of the directory that the last component is looked up in. -/
def parent? (p : FilePath) : Option FilePath :=
  match p.components.getLast? with
  | none | some .top => none
  | some _ => some (ofComponents p.components.dropLast)

/-- The name at the end of a path; the whole path if it ends in none. -/
def lastName (p : FilePath) : Name :=
  match p.components.getLast? with
  | some (.name n) => n
  | _ => p.bytes

/-- The components of a path below a root; all of them if the path is not below it. -/
def below (root file : FilePath) : List Component :=
  if root.components.isPrefixOf file.components then
    file.components.drop root.components.length
  else file.components

end FilePath

/-- The name of a file in the manifest: its path below the root, with `logicalPrefix` in the place
of the root. -/
def logicalPath (logicalPrefix : String) (root file : FilePath) : String :=
  let relative := "/".intercalate ((root.below file).map Component.text)
  let front := Text.trimTrailing '/' logicalPrefix
  if front.isEmpty then relative else front ++ "/" ++ relative

end RouteAtlas
