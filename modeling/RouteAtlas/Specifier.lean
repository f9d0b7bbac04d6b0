/-!
# Module specifiers

An import in a route file names its module relative to that file. The manifest stands at the logical
root, so a hoisted import needs another specifier: `resolve` rebases one in the same directory, cuts
off one segment for each step up, and leaves packages as they are. Steps up are counted without a
look at the importing file's depth; the answer is right for a specifier that climbs to the root.
-/

namespace RouteAtlas.Specifier

/-- How often `../` occurs. -/
def climbs : List Char → Nat
  | '.' :: '.' :: '/' :: rest => climbs rest + 1
  | _ :: rest => climbs rest
  | [] => 0

/-- The path up to its last `/`, that one included; nothing for a bare file name. -/
def directory (path : List Char) : List Char := (path.reverse.dropWhile (· ≠ '/')).reverse

/-- The segments behind the first `n`, joined again. -/
def dropSegments (n : Nat) (specifier : List Char) : List Char :=
  ['/'].intercalate ((specifier.splitOn '/').drop n)

/-- The specifier, as a list of characters, for the manifest. -/
def resolveChars (specifier importing : List Char) : List Char :=
  match climbs specifier with
  | 0 =>
    match specifier with
    | '.' :: '/' :: rest => directory importing ++ rest
    | _ => specifier
  | n + 1 => '.' :: '/' :: dropSegments (n + 1) specifier

/-- The specifier under which the manifest imports what the file `importing` imports from
`specifier`. -/
def resolve (specifier importing : String) : String :=
  String.ofList (resolveChars specifier.toList importing.toList)

end RouteAtlas.Specifier
