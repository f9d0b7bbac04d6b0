import RouteAtlas.Diagnostic
import RouteAtlas.Files.Tree

/-!
# Looking up paths

A path is followed step by step. A step into a symbolic link goes on with the steps of its target,
at most forty times on one way. The way leads to a `Place`: an entry, or a name that an existing
directory does not have.
-/

namespace RouteAtlas

/-- A step on the way along a path. -/
inductive FilePath.Step where
  /-- Stays in the directory. -/
  | stay
  /-- Goes to the directory above. -/
  | up
  /-- Goes to the entry of a name. -/
  | enter (n : Name)
deriving DecidableEq, Repr, Inhabited

namespace FilePath

/-- The steps of the pieces of a path. An empty piece is no step, but at the end it asks for a
directory. -/
def stepsOf : List (List UInt8) → List Step
  | [] => []
  | piece :: rest =>
    let own : List Step :=
      if piece = [] then if rest.isEmpty then [.stay] else []
      else if piece = Name.dot then [.stay]
      else if piece = Name.dotDot then [.up]
      else [.enter piece]
    own ++ stepsOf rest

/-- The steps of a path. -/
def steps (p : FilePath) : List Step := stepsOf p.pieces

/-- The address behind a step from the directory at an address, unless the step leads into a link.
-/
def Step.next (here : Address) : Step → Address
  | .stay => here
  | .up => here.dropLast
  | .enter n => here ++ [n]

end FilePath

/-- What the way along a path leads to. -/
inductive Place where
  /-- An entry. -/
  | occupied (address : Address) (e : Entry)
  /-- A name that a directory does not have. -/
  | vacant (directory : Address) (n : Name)
deriving Inhabited

/-- What can be said of a way: the place it leads to, or why it leads nowhere. -/
abbrev Way := Except SystemError Place

namespace FileSystem

/-- The greatest length of a name. -/
def nameLimit : Nat := 255

/-- The greatest length of a path. -/
def pathLimit : Nat := 4095

/-- How many links one way may lead through. -/
def linkLimit : Nat := 40

variable (fs : FileSystem)

/-- Follows steps from the directory at an address. `followLast` says whether a link at the end of
the way is followed too; `onLink` goes on behind a link. -/
def walkWith (followLast : Bool) (onLink : Address → FilePath → List FilePath.Step → Way) :
    Address → List FilePath.Step → Way
  | here, [] =>
    match fs.at? here with
    | some e => .ok (.occupied here e)
    | none => .error .notFound
  | here, .stay :: rest => walkWith followLast onLink here rest
  | here, .up :: rest => walkWith followLast onLink here.dropLast rest
  | here, .enter n :: rest =>
    if nameLimit < n.length then .error .nameTooLong
    else match fs.at? (here ++ [n]) with
      | none => if rest.isEmpty then .ok (.vacant here n) else .error .notFound
      | some (.directory _) => walkWith followLast onLink (here ++ [n]) rest
      | some (.file content) =>
        if rest.isEmpty then .ok (.occupied (here ++ [n]) (.file content)) else .error .notDirectory
      | some .device =>
        if rest.isEmpty then .ok (.occupied (here ++ [n]) .device) else .error .notDirectory
      | some (.link target) =>
        if rest.isEmpty && !followLast then .ok (.occupied (here ++ [n]) (.link target))
        else onLink here target rest

/-- Follows steps through at most `links` links. -/
def walk (followLast : Bool) : (links : Nat) → Address → List FilePath.Step → Way
  | 0 => walkWith fs followLast fun _ _ _ => .error .tooManyLinks
  | links + 1 => walkWith fs followLast fun here target rest =>
    if target.bytes.isEmpty then .error .notFound
    else walk followLast links (if target.isAbsolute then [] else here) (target.steps ++ rest)

/-- Why a sequence of bytes cannot be followed at all. -/
def pathFault (p : FilePath) : Option IoFault :=
  if p.bytes.contains 0 then some (.other "file name contained an unexpected NUL byte")
  else if p.bytes.isEmpty then some (.system .notFound)
  else if pathLimit < p.bytes.length then some (.system .nameTooLong)
  else none

/-- The address of the directory that a path begins at. -/
def start (p : FilePath) : Address := if p.isAbsolute then [] else fs.workingDirectory

/-- The address that a path names if no link lies on the way. -/
def addressOf (p : FilePath) : Address := p.steps.foldl FilePath.Step.next (fs.start p)

/-- The place that a path leads to. -/
def find (followLast : Bool) (p : FilePath) : Except IoFault Place :=
  match pathFault p with
  | some fault => .error fault
  | none => (fs.walk followLast linkLimit (fs.start p) p.steps).mapError .system

/-- The entry that a path leads to. -/
def entry (followLast : Bool) (p : FilePath) : Except IoFault Entry :=
  match fs.find followLast p with
  | .error fault => .error fault
  | .ok (.vacant ..) => .error (.system .notFound)
  | .ok (.occupied _ e) => .ok e

/-- Whether a path leads to an entry. -/
def has (p : FilePath) : Bool := (fs.entry true p).toOption.isSome

/-- Whether a path leads to a directory. -/
def hasDirectory (p : FilePath) : Bool := (fs.entry true p).toOption.any Entry.isDirectory

/-- The content of the regular file that a path leads to; nothing can be read from a device. -/
def read (p : FilePath) : Except IoFault ByteArray :=
  match fs.entry true p with
  | .error fault => .error fault
  | .ok (.file content) => .ok content
  | .ok .device => .ok .empty
  | .ok _ => .error (.system .isDirectory)

end FileSystem

end RouteAtlas
