import RouteAtlas.Proofs.Manifest.Agreement
import RouteAtlas.Proofs.Text.Literals

/-!
# The literals of a manifest

Module paths, keys, methods, paths and addresses stand in the module as string literals. They are
read back as they were wherever they stand, if no carriage return is in them
(`Builder.literals_read_back`). With one, there is no literal to be read
(`Builder.carriage_return_unread`).
-/

namespace RouteAtlas.Manifest

/-! ## Reading lines and entries -/

/-- Reads a literal behind a label. -/
def field? (label text : String) : Option (List UInt16 × String) :=
  (Text.dropLeading? label text).bind Text.Literal.read?

/-- The values of the literals of a descriptor. -/
structure DescriptorTexts where
  method : List UInt16
  path : List UInt16
  address : List UInt16
deriving DecidableEq, Repr

/-- Reads the literals of the descriptor that a text begins with. -/
def descriptorTexts? (text : String) : Option DescriptorTexts := do
  let (method, text) ← field? "\x7b\n    method: " text
  let (path, text) ← field? ",\n    path: " text
  let (address, _) ← field? ",\n    url: " text
  return ⟨method, path, address⟩

/-- Reads the key of the entry that a text begins with, and the literals of its descriptor. -/
def entryTexts? (text : String) : Option (List UInt16 × DescriptorTexts) := do
  let (key, text) ← field? "  " text
  let text ← Text.dropLeading? ": " text
  let descriptor ← descriptorTexts? text
  return (key, descriptor)

/-- Reads the module path of the line that a text begins with, which imports a given name. -/
def importPath? (name text : String) : Option (List UInt16) :=
  (field? ("import \x7b " ++ name ++ " \x7d from ") text).map Prod.fst

/-- A field with a literal gives what the literal does. -/
lemma field?_encode_append (label s rest : String) :
    field? label (label ++ (Text.Literal.encode s ++ rest))
      = if '\r' ∈ s.toList then none else some (Text.units s, rest) := by
  have behind : Text.dropLeading? label (label ++ (Text.Literal.encode s ++ rest))
      = some (Text.Literal.encode s ++ rest) := Text.dropLeading?_eq_some_iff.mpr rfl
  rw [field?, behind, Option.bind_some, Text.Literal.read?_encode_append]

lemma importPath?_append (l : ImportLine) (rest : String) :
    importPath? l.identifier (l.render ++ rest)
      = if '\r' ∈ l.modulePath.toList then none else some (Text.units l.modulePath) := by
  have shape : l.render ++ rest = "import \x7b " ++ l.identifier ++ " \x7d from "
      ++ (Text.Literal.encode l.modulePath ++ ("\n" ++ rest)) := by
    simp only [ImportLine.render, String.append_assoc]
  rw [importPath?, shape, field?_encode_append]
  split <;> rfl

/-! ## Carriage returns -/

section Returns
variable {extension apiPrefix path s : String} {c : Char}

/-- Dropping a text at the front brings no character in. -/
lemma mem_of_mem_dropLeading (front : String)
    (mem : c ∈ ((Text.dropLeading? front s).getD s).toList) : c ∈ s.toList := by
  cases dropped : Text.dropLeading? front s with
  | none => rwa [dropped, Option.getD_none] at mem
  | some rest =>
    rw [dropped, Option.getD_some] at mem
    rw [Text.dropLeading?_eq_some_iff.mp dropped, String.toList_append]
    exact List.mem_append_right _ mem

/-- Cutting a path down to its name brings no character in. -/
lemma mem_of_mem_trimPath (extension : String) (mem : c ∈ (trimPath extension path).toList) :
    c ∈ path.toList := by
  rw [trimPath] at mem
  refine mem_of_mem_dropLeading "./" ?_
  generalize (Text.dropLeading? "./" path).getD path = name at mem ⊢
  cases stripped : Method.stripExtension? extension name with
  | none => rwa [stripped, Option.getD_none] at mem
  | some base =>
    rw [stripped, Option.getD_some] at mem
    rw [Text.dropTrailing?_bind_eq_some_iff.mp stripped, String.append_assoc, String.toList_append]
    exact List.mem_append_left _ mem

/-- There is no carriage return in a normalised path but those of the path. -/
lemma return_mem_of_normalizedPath (extension : String)
    (mem : '\r' ∈ (normalizedPath extension path).toList) :
    '\r' ∈ path.toList := by
  refine mem_of_mem_trimPath extension ?_
  rcases foldMethod_cases (trimPath extension path) with ⟨base, m, segment, folded⟩ | ⟨-, same⟩
  · rw [normalizedPath, folded] at mem
    rw [segment.2.2]
    simpa using mem
  · rwa [normalizedPath, same] at mem

/-- There is no carriage return in a key but those of the path. -/
lemma return_mem_of_key (mem : '\r' ∈ (key extension apiPrefix path).toList) :
    '\r' ∈ path.toList := by
  refine return_mem_of_normalizedPath extension ?_
  rw [key] at mem
  split at mem
  · exact mem
  · exact mem_of_mem_dropLeading apiPrefix mem

/-- There is no carriage return in an address but those of the path. -/
lemma return_mem_of_url (mem : '\r' ∈ (url extension path).toList) : '\r' ∈ path.toList := by
  refine return_mem_of_normalizedPath extension ?_
  rw [url, Text.replaceChar, String.toList_ofList, List.mem_map] at mem
  obtain ⟨c, mem, replaced⟩ := mem
  have same : c = '\r' := by
    split at replaced
    · exact absurd replaced (by decide)
    · exact replaced
  rw [same, withoutMethod] at mem
  cases found : keyedMethods.findSome? fun m =>
      (Text.dropTrailing? m.stem (normalizedPath extension path)).bind
        (Text.dropTrailing? ".") with
  | none => rwa [found, Option.getD_none] at mem
  | some base =>
    obtain ⟨m, -, dropped⟩ := List.exists_of_findSome?_eq_some found
    rw [found, Option.getD_some] at mem
    rw [Text.dropTrailing?_bind_eq_some_iff.mp dropped, String.append_assoc, String.toList_append]
    exact List.mem_append_left _ mem

lemma return_notMem_name (m : Method) : '\r' ∉ m.name.toList := by cases m <;> decide

end Returns

/-- The literals of a descriptor are read back, unless the path of the route has a carriage return.
-/
lemma descriptorTexts?_append (extension : String) (r : Route) (rest : String) :
    descriptorTexts? (renderDescriptor extension r ++ rest)
      = if '\r' ∈ r.path.toList then none
        else some ⟨Text.units r.method.name, Text.units r.path,
          Text.units (url extension r.path)⟩ := by
  obtain ⟨flags, shape⟩ : ∃ flags, renderDescriptor extension r ++ rest
      = "\x7b\n    method: " ++ (Text.Literal.encode r.method.name
        ++ (",\n    path: " ++ (Text.Literal.encode r.path
        ++ (",\n    url: " ++ (Text.Literal.encode (url extension r.path) ++ flags))))) := by
    -- Unfolding by an equation would evaluate the texts.
    delta renderDescriptor
    simp only [String.append_assoc]
    exact ⟨_, rfl⟩
  rw [descriptorTexts?, shape, field?_encode_append, if_neg (return_notMem_name r.method)]
  simp only [Option.bind_eq_bind, Option.bind_some, field?_encode_append]
  by_cases broken : '\r' ∈ r.path.toList
  · rw [if_pos broken, if_pos broken]
    rfl
  · rw [if_neg broken, if_neg broken, Option.bind_some, field?_encode_append,
      if_neg (mt return_mem_of_url broken)]
    simp only [Option.bind_some, Option.pure_def]

/-- So are the literals of an entry. -/
lemma entryTexts?_append (extension apiPrefix : String) (r : Route) (rest : String) :
    entryTexts? ((Entry.ofRoute extension apiPrefix r).render ++ rest)
      = if '\r' ∈ r.path.toList then none
        else some (Text.units (key extension apiPrefix r.path), ⟨Text.units r.method.name,
          Text.units r.path, Text.units (url extension r.path)⟩) := by
  have shape : (Entry.ofRoute extension apiPrefix r).render ++ rest
      = "  " ++ (Text.Literal.encode (key extension apiPrefix r.path)
        ++ (": " ++ (renderDescriptor extension r ++ (",\n" ++ rest)))) := by
    simp only [Entry.render, Entry.ofRoute, String.append_assoc]
  have behind : Text.dropLeading? ": " (": " ++ (renderDescriptor extension r ++ (",\n" ++ rest)))
      = some (renderDescriptor extension r ++ (",\n" ++ rest)) :=
    Text.dropLeading?_eq_some_iff.mpr rfl
  rw [entryTexts?, shape, field?_encode_append]
  by_cases broken : '\r' ∈ r.path.toList
  · rw [if_pos broken]
    by_cases broken' : '\r' ∈ (key extension apiPrefix r.path).toList
    · rw [if_pos broken']
      rfl
    · rw [if_neg broken']
      simp only [Option.bind_eq_bind, Option.bind_some, behind, descriptorTexts?_append,
        if_pos broken, Option.bind_none]
  · rw [if_neg (mt return_mem_of_key broken), if_neg broken]
    simp only [Option.bind_eq_bind, Option.bind_some, behind, descriptorTexts?_append,
      if_neg broken]
    rfl

/-! ## The module -/

namespace Builder

/-- A rendered piece stands somewhere in the joined pieces. -/
lemma exists_join_eq {α : Type} (render : α → String) {xs : List α} {x : α} (mem : x ∈ xs) :
    ∃ before after, String.join (xs.map render) = before ++ (render x ++ after) := by
  obtain ⟨front, back, rfl⟩ := List.append_of_mem mem
  refine ⟨String.join (front.map render), String.join (back.map render), ?_⟩
  rw [List.map_append, List.map_cons, String.join_append, String.join_cons]

/-- Each import stands in the module. -/
lemma exists_build_eq_import {b : Builder} {l : ImportLine} (mem : l ∈ b.imports.toList) :
    ∃ before after, b.build = before ++ (l.render ++ after) := by
  obtain ⟨before, after, joined⟩ := exists_join_eq ImportLine.render mem
  refine ⟨header ++ before, after ++ ("\n" ++ b.exportBlock), ?_⟩
  rw [build, importBlock, joined]
  simp only [String.append_assoc]

/-- Each entry stands in the module. -/
lemma exists_build_eq_entry {b : Builder} {e : Entry} (mem : e ∈ b.entries) :
    ∃ before after, b.build = before ++ (e.render ++ after) := by
  have some : b.entries.isEmpty = false := by
    rw [List.isEmpty_eq_false_iff]
    exact List.ne_nil_of_mem mem
  obtain ⟨before, after, joined⟩ :=
    exists_join_eq Entry.render (b.perm_orderedEntries.mem_iff.mpr mem)
  refine ⟨header ++ b.importBlock ++ "\n" ++ "export default \x7b\n" ++ before,
    after ++ "\x7d\n", ?_⟩
  rw [build, exportBlock, some, if_neg Bool.false_ne_true, joined]
  simp only [String.append_assoc]

/-- A literal gives back the text that it was written for, and so does each literal of the module:
the module path of every import, and the key, method, path and address of every route that was
accepted. The condition is that there is no carriage return in the text, or in the path of the
route; otherwise nothing can be read. -/
theorem literals_read_back (b : Builder) (routes : List Route) :
    let final := b.offerAll routes
    (∀ s rest : String, Text.Literal.read? (Text.Literal.encode s ++ rest)
      = if '\r' ∈ s.toList then none else some (Text.units s, rest)) ∧
    (∀ s t : String, Text.units s = Text.units t ↔ s = t) ∧
    (∀ l ∈ final.imports.toList, ∃ before after,
      final.build = before ++ (l.render ++ after) ∧
      importPath? l.identifier (l.render ++ after)
        = if '\r' ∈ l.modulePath.toList then none else some (Text.units l.modulePath)) ∧
    ∀ r ∈ b.kept routes, ∃ before after,
      final.build = before ++ ((b.entryOf r).render ++ after) ∧
      entryTexts? ((b.entryOf r).render ++ after)
        = if '\r' ∈ r.path.toList then none
          else some (Text.units (b.keyOf r), ⟨Text.units r.method.name, Text.units r.path,
            Text.units (url b.extension r.path)⟩) := by
  intro final
  refine ⟨Text.Literal.read?_encode_append, fun s t => Text.units_inj, fun l mem => ?_,
    fun r mem => ?_⟩
  · obtain ⟨before, after, built⟩ := exists_build_eq_import mem
    exact ⟨before, after, built, importPath?_append l after⟩
  · have listed : b.entryOf r ∈ final.entries := by
      rw [entries_offerAll]
      exact List.mem_append_right _ (List.mem_map_of_mem mem)
    obtain ⟨before, after, built⟩ := exists_build_eq_entry listed
    exact ⟨before, after, built, entryTexts?_append b.extension b.apiPrefix r after⟩

/-- A module path with a quote, and a path with quotes, a backslash and a line feed. -/
theorem literals_read_back_quoted :
    let b := fresh "ts" "api/v1/" false
    let l : ImportLine := ⟨"./\"a\"", "A"⟩
    let r : Route :=
      { method := .get
        path := "./api/v1/\"b\"\\n\n/get.ts"
        identifiers := (∅ : Identifiers).insert "A"
        imports := ({} : Imports).insert l.identifier l.modulePath }
    let final := b.offerAll [r]
    (l ∈ final.imports.toList ∧ ∃ before after, final.build = before ++ (l.render ++ after) ∧
      importPath? "A" (l.render ++ after) = some (Text.units "./\"a\"")) ∧
    (r ∈ b.kept [r] ∧ ∃ before after, final.build = before ++ ((b.entryOf r).render ++ after) ∧
      entryTexts? ((b.entryOf r).render ++ after)
        = some (Text.units "\"b\"\\n\n.get", ⟨Text.units "GET", Text.units r.path,
            Text.units "api/v1/\"b\"\\n\n"⟩)) := by
  intro b l r final
  have needed : l ∈ final.imports.toList := by decide +kernel
  have accepted : r ∈ b.kept [r] := by decide +kernel
  have key : b.keyOf r = "\"b\"\\n\n.get" := by decide +kernel
  have address : url b.extension r.path = "api/v1/\"b\"\\n\n" := by decide +kernel
  obtain ⟨-, -, imports, entries⟩ := literals_read_back b [r]
  obtain ⟨before, after, built, read⟩ := imports l needed
  obtain ⟨before', after', built', read'⟩ := entries r accepted
  rw [if_neg (by decide)] at read
  rw [if_neg (by decide), key, address] at read'
  exact ⟨⟨needed, before, after, built, read⟩, accepted, before', after', built', read'⟩

/-- The entry of a file in a directory with a carriage return in its name cannot be read, for the
line ends inside of its key. -/
theorem carriage_return_unread :
    let b := fresh "ts" "api/v1/" false
    let r : Route := { method := .get, path := "./api/v1/a\rb/get.ts" }
    (∃ before after, (b.offerAll [r]).build = before ++ ((b.entryOf r).render ++ after) ∧
      entryTexts? ((b.entryOf r).render ++ after) = none) ∧
    '\r' ∈ (Text.Literal.encode r.path).toList ∧
    Text.Literal.read? (Text.Literal.encode r.path) = none ∧
    ¬∀ s, Text.Literal.read? (Text.Literal.encode s) = some (Text.units s, "") := by
  intro b r
  have listed : b.entryOf r ∈ (b.offerAll [r]).entries := by decide +kernel
  have unread : Text.Literal.read? (Text.Literal.encode r.path) = none := by decide +kernel
  obtain ⟨before, after, built⟩ := exists_build_eq_entry listed
  refine ⟨⟨before, after, built, ?_⟩, by decide, unread, fun all => ?_⟩
  · exact (entryTexts?_append b.extension b.apiPrefix r after).trans (if_pos (by decide))
  · cases unread.symm.trans (all r.path)

end Builder

end RouteAtlas.Manifest
