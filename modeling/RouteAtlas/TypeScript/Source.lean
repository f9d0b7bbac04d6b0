import RouteAtlas.Diagnostic
import RouteAtlas.Text.Utf8
import RouteAtlas.TypeScript.Parse

/-!
# Source files

The content of a source file is UTF-8 text whose syntax tree has no faulty node. Anything else is a
failure that names the file, and the place of the first faulty node where there is one.
-/

namespace RouteAtlas.TypeScript

open Syntax

/-- The content of a source file that was parsed without a fault. -/
structure Source where
  /-- The logical path of the file. -/
  path : String
  text : String
  tree : Node
deriving Inhabited

namespace Source

/-- The place of a node in words: line and column, both counted from one, the column in bytes. -/
def placeOf (n : Node) : String := s!"{n.start.rows + 1}:{n.start.columns + 1}"

/-- The source file with a given text and syntax tree, if the tree has no faulty node. -/
def ofTree (path text : String) (tree : Node) : Except Failure Source :=
  match tree.firstFault with
  | some n => .error (.parse path ("syntax error at " ++ placeOf n))
  | none => .ok ⟨path, text, tree⟩

/-- Parses the content of a file. -/
def parse (path : String) (content : ByteArray) : Except Failure Source :=
  match Text.Utf8.decode content with
  | .error fault => .error (.parse path ("content is not valid UTF-8: " ++ fault.message))
  | .ok text =>
    match parse? text with
    | none => .error (.parse path "parser produced no tree")
    | some tree => ofTree path text tree

end Source

end RouteAtlas.TypeScript
