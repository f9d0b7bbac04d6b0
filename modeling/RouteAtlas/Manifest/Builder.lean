import RouteAtlas.Manifest.Descriptor
import RouteAtlas.Text.Quoted

/-!
# The manifest

A `Builder` collects routes. The first route with a key is kept and a later one with that key is
refused; the imports of the kept routes are united. `Builder.build` writes the module: its imports
in order of module path and name, and its entries in order of key or of arrival.
-/

namespace RouteAtlas.Manifest

/-- A name that the manifest imports, with the module it comes from. -/
structure ImportLine where
  modulePath : String
  identifier : String
deriving DecidableEq, Repr, Inhabited

namespace ImportLine

/-- Lines are in order of module path, lines of one module in order of name. -/
instance : LT ImportLine where
  lt a b := a.modulePath < b.modulePath ∨ a.modulePath = b.modulePath ∧ a.identifier < b.identifier

theorem lt_def {a b : ImportLine} : a < b ↔
    a.modulePath < b.modulePath ∨ a.modulePath = b.modulePath ∧ a.identifier < b.identifier :=
  Iff.rfl

instance : DecidableLT ImportLine := fun _ _ => decidable_of_iff _ lt_def.symm

instance : LinearLT ImportLine where
  lt_trans := by
    intro a b c hab hbc
    rcases lt_def.1 hab with h | ⟨h, h'⟩ <;> rcases lt_def.1 hbc with k | ⟨k, k'⟩
    · exact .inl (String.lt_trans h k)
    · exact .inl (k ▸ h)
    · exact .inl (h ▸ k)
    · exact .inr ⟨h.trans k, String.lt_trans h' k'⟩
  eq_of_not_lt := by
    intro a b hab hba
    obtain ⟨p, i⟩ := a
    obtain ⟨q, j⟩ := b
    have paths : p = q :=
      LinearLT.eq_of_not_lt (fun h => hab (.inl h)) (fun h => hba (.inl h))
    subst paths
    have names : i = j :=
      LinearLT.eq_of_not_lt (fun h => hab (.inr ⟨rfl, h⟩)) (fun h => hba (.inr ⟨rfl, h⟩))
    rw [names]

/-- The line as the module writes it. -/
def render (l : ImportLine) : String :=
  "import \x7b " ++ l.identifier ++ " \x7d from " ++ Text.Literal.encode l.modulePath ++ "\n"

end ImportLine

/-- A route's place in the manifest. -/
structure Entry where
  key : String
  descriptor : String
deriving DecidableEq, Repr, Inhabited

/-- The entry as the module writes it. -/
def Entry.render (e : Entry) : String :=
  "  " ++ Text.Literal.encode e.key ++ ": " ++ e.descriptor ++ ",\n"

/-- What happened when a route was offered to a builder. -/
inductive Notice where
  /-- The key was taken and the route refused. -/
  | duplicateKey (key path : String)
  /-- The name comes from `first`, and now from `second` as well. -/
  | conflictingImport (identifier first second : String)
  /-- The route was accepted. -/
  | accepted (key : String) (method : Method) (path : String)
deriving DecidableEq, Repr, Inhabited

namespace Notice

/-- Whether the notice asks for attention. -/
def isWarning : Notice → Bool
  | .accepted .. => false
  | _ => true

/-- The notice in words. -/
def message : Notice → String
  | .duplicateKey key path =>
    "Duplicate route key " ++ Text.quoted key ++ " from " ++ path ++ ", keeping the first"
  | .conflictingImport name p q =>
    name ++ " is imported from both " ++ Text.quoted p ++ " and " ++ Text.quoted q
  | .accepted key method path =>
    "Adding route " ++ Text.quoted key ++ ": " ++ method.name ++ " " ++ path

end Notice

/-- A manifest under construction. The keys that are taken are those of the accepted entries, since
a key is taken exactly when its entry is added; there is no need to keep them a second time. -/
structure Builder where
  /-- The extension of route files, without its dot. -/
  extension : String
  /-- The beginning that keys lose once. -/
  apiPrefix : String
  /-- Whether entries stay in the order of their arrival. -/
  preserveOrder : Bool := false
  /-- The accepted entries, in the order of their arrival. -/
  entries : List Entry := []
  /-- What the accepted routes need imported. -/
  imports : AscendingSet ImportLine := ∅
  /-- Each hoisted name with the module it was first hoisted from. -/
  firstHoisted : List (String × String) := []
deriving Repr, Inhabited

namespace Builder

/-- The number of accepted routes. -/
def size (b : Builder) : Nat := b.entries.length

/-- Whether no route was accepted. -/
def isEmpty (b : Builder) : Bool := b.entries.isEmpty

/-- Whether an accepted route has this key. -/
def hasKey (b : Builder) (key : String) : Bool := b.entries.any fun e => e.key = key

/-- Imports `name` from `path`, and tells if another module was the first to give that name. -/
def hoist (b : Builder) (name path : String) : Builder × List Notice :=
  let imports := b.imports.insert ⟨path, name⟩
  match b.firstHoisted.lookup name with
  | none => (⟨b.extension, b.apiPrefix, b.preserveOrder, b.entries, imports,
      b.firstHoisted ++ [(name, path)]⟩, [])
  | some first => ({ b with imports },
      if first = path then [] else [.conflictingImport name first path])

/-- Imports all the given names in turn. -/
def hoistAll (b : Builder) : List (String × String) → Builder × List Notice
  | [] => (b, [])
  | (name, path) :: rest =>
    let (b, notices) := b.hoist name path
    let (b, more) := b.hoistAll rest
    (b, notices ++ more)

/-- What adding a route does. -/
structure Addition where
  /-- Whether the route was accepted. -/
  added : Bool
  builder : Builder
  notices : List Notice

/-- Offers a route to the builder. -/
def add (b : Builder) (r : Route) : Addition :=
  let key := Manifest.key b.extension b.apiPrefix r.path
  if b.hasKey key then ⟨false, b, [.duplicateKey key r.path]⟩
  else
    let (b, notices) := b.hoistAll r.hoistedImports
    let entry := ⟨key, renderDescriptor b.extension r⟩
    ⟨true, { b with entries := b.entries ++ [entry] }, notices ++ [.accepted key r.method r.path]⟩

/-- The entries in the order of the module. -/
def orderedEntries (b : Builder) : List Entry :=
  if b.preserveOrder then b.entries
  else b.entries.mergeSort fun x y => decide (x.key ≤ y.key)

/-- The first lines of every manifest. -/
def header : String := "// THIS IS GENERATED FILE\n// DO NOT EDIT\n\n"

/-- The import lines of the module. -/
def importBlock (b : Builder) : String := String.join (b.imports.toList.map ImportLine.render)

/-- The exported object of the module. -/
def exportBlock (b : Builder) : String :=
  if b.entries.isEmpty then "export default \x7b\x7d\n"
  else "export default \x7b\n" ++ String.join (b.orderedEntries.map Entry.render) ++ "\x7d\n"

/-- The whole module. -/
def build (b : Builder) : String := header ++ b.importBlock ++ "\n" ++ b.exportBlock

end Builder

end RouteAtlas.Manifest
