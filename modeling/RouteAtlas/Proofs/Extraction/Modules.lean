import RouteAtlas.Proofs.Extraction.Hoisting

/-!
# Modules that names are imported from

The text between the quotes of a module is one node of the tree unless it has an escape, which
breaks it into several. A name is bound to a single part of that text, so the imports of a file are
those of its statements if no module is broken (`Extractor.imports_of_unbroken_modules`). Of a
module with an escape only the last part counts (`Extractor.broken_module_cut`).
-/

namespace RouteAtlas

open Query Syntax TypeScript

namespace Extraction

/-! ## Specifiers -/

/-- Whether an import statement has a specifier with a name, and a module between quotes. -/
structure HasSpecifier (statement specifier name quoted : Located) : Prop where
  isImport : statement.node.isOf "import_statement"
  isBelow : ∃ clause list : Located,
    [clause, quoted].Sublist statement.children ∧
    clause.node.isOf "import_clause" ∧
    list ∈ clause.children ∧ list.node.isOf "named_imports" ∧
    specifier ∈ list.children ∧ specifier.node.isOf "import_specifier" ∧
    name ∈ specifier.children ∧ name.node.isOf "identifier" ∧ name.node.field = some "name" ∧
    quoted.node.isOf "string" ∧ quoted.node.field = some "source"

/-- The parts of the text between quotes that are written as they are. -/
def fragments (quoted : Located) : List Located :=
  quoted.children.filter fun c => c.node.isOf "string_fragment"

/-- A named import is a specifier with a part of its module. -/
lemma hasNamedImport_iff {statement specifier name fragment : Located} :
    HasNamedImport statement specifier name fragment ↔
      ∃ quoted, HasSpecifier statement specifier name quoted ∧ fragment ∈ fragments quoted := by
  simp only [fragments, List.mem_filter]
  constructor
  · rintro ⟨isImport, clause, quoted, list, order, isClause, inClause, isList, inList, isSpecifier,
      inSpecifier, isName, isName', isString, isString', inQuoted, isFragment⟩
    exact ⟨quoted, ⟨isImport, clause, list, order, isClause, inClause, isList, inList, isSpecifier,
      inSpecifier, isName, isName', isString, isString'⟩, inQuoted, isFragment⟩
  · rintro ⟨quoted, ⟨isImport, clause, list, order, isClause, inClause, isList, inList, isSpecifier,
      inSpecifier, isName, isName', isString, isString'⟩, inQuoted, isFragment⟩
    exact ⟨isImport, clause, quoted, list, order, isClause, inClause, isList, inList, isSpecifier,
      inSpecifier, isName, isName', isString, isString', inQuoted, isFragment⟩

/-- Whether a file has a specifier with a name, in a statement with a module between quotes. -/
def Specifies (s : Source) (specifier name quoted : Located) : Prop :=
  ∃ statement : Located, statement.IsWithin ⟨[], s.tree⟩ ∧
    HasSpecifier statement specifier name quoted

/-- The text without its first and its last character. -/
def unquoted (text : String) : String := String.ofList (text.toList.drop 1).dropLast

/-- The text of characters without the first and the last of them. -/
lemma unquoted_ofList (cs : List Char) :
    unquoted (String.ofList cs) = String.ofList (cs.drop 1).dropLast := by
  rw [unquoted, String.toList_ofList]

/-- Whether the last specifier of a name in a file binds it to the path: that of the whole text
between the quotes of its module. A specifier whose module is empty does not count. -/
def LastSpecifier (s : Source) (x path : String) : Prop :=
  ∃ specifier name quoted, Specifies s specifier name quoted ∧
    name.node.text s.text = x ∧ unquoted (quoted.node.text s.text) ≠ "" ∧
    path = Specifier.resolve (unquoted (quoted.node.text s.text)) s.path ∧
    ∀ specifier' name' quoted', Specifies s specifier' name' quoted' →
      name'.node.text s.text = x → unquoted (quoted'.node.text s.text) ≠ "" →
        (compare quoted'.address quoted.address).isLE

/-- Whether the text between quotes is one node of the tree, or none if it is empty. -/
structure IsUnbroken (source : String) (quoted : Located) : Prop where
  leaves : ∀ c ∈ quoted.children, c.node.children = []
  parts : match fragments quoted with
    | [] => unquoted (quoted.node.text source) = ""
    | [fragment] => unquoted (quoted.node.text source) ≠ "" ∧
        fragment.node.text source = unquoted (quoted.node.text source)
    | _ => False

section Unbroken
variable {source : String} {quoted fragment : Located}

/-- A part of an unbroken text is the whole of it. -/
lemma IsUnbroken.of_mem (unbroken : IsUnbroken source quoted) (mem : fragment ∈ fragments quoted) :
    fragments quoted = [fragment] ∧ unquoted (quoted.node.text source) ≠ "" ∧
      fragment.node.text source = unquoted (quoted.node.text source) := by
  obtain ⟨-, parts⟩ := unbroken
  split at parts
  next none =>
    rw [none] at mem
    cases mem
  next f one =>
    rw [one, List.mem_singleton] at mem
    subst mem
    exact ⟨one, parts⟩
  next => exact parts.elim

/-- An unbroken text that is not empty has a part. -/
lemma IsUnbroken.exists_mem (unbroken : IsUnbroken source quoted)
    (nonempty : unquoted (quoted.node.text source) ≠ "") :
    ∃ fragment, fragment ∈ fragments quoted := by
  obtain ⟨-, parts⟩ := unbroken
  split at parts
  next => exact absurd parts nonempty
  next f one => exact ⟨f, one ▸ List.mem_singleton_self f⟩
  next => exact parts.elim

end Unbroken

/-! ## The order of modules -/

/-- Nodes of which neither stands below the other come in one order with all that is below them. -/
lemma compare_append {p q : Query.Address} (a b : Query.Address) (apart : ¬ p <+: q)
    (apart' : ¬ q <+: p) : compare (p ++ a) (q ++ b) = compare p q := by
  induction p generalizing q with
  | nil => exact absurd List.nil_prefix apart
  | cons i p ih =>
    cases q with
    | nil => exact absurd List.nil_prefix apart'
    | cons j q =>
      rw [List.cons_append, List.cons_append, List.compare_cons_cons, List.compare_cons_cons]
      by_cases same : i = j
      · subst same
        rw [List.prefix_cons_inj] at apart apart'
        rw [ih apart apart']
      · have decided (o : Ordering) : (compare i j).then o = compare i j := by
          cases order : compare i j
          case eq => exact absurd (Nat.compare_eq_eq.1 order) same
          all_goals rfl
        rw [decided, decided]

/-- What stands below a node that has only leaves is one of them. -/
lemma eq_or_leaf_of_prefix {l m root : Located} (within : l.IsWithin root)
    (within' : m.IsWithin root) (leaves : ∀ c ∈ l.children, c.node.children = [])
    (below : l.address <+: m.address) : m = l ∨ m.node.children = [] := by
  obtain ⟨rest, address⟩ := below
  cases rest with
  | nil => exact .inl (within'.ext within (by rw [← address, List.append_nil]))
  | cons i rest =>
    obtain ⟨p, leads, found⟩ := within
    obtain ⟨q, leads', found'⟩ := within'
    have way : q = p ++ i :: rest := by
      rw [leads', leads, List.append_assoc] at address
      exact (List.append_cancel_left address).symm
    rw [way, Node.at?_append, found, Option.bind_some, Node.at?] at found'
    cases child : l.node.children[i]? with
    | none =>
      rw [child] at found'
      cases found'
    | some c =>
      have leaf : c.children = [] := leaves ⟨l.address ++ [i], c⟩
        (Located.mem_children.2 ⟨i, child, rfl⟩)
      rw [child, Option.bind_some] at found'
      cases rest with
      | nil =>
        cases found'
        exact .inr leaf
      | cons j rest =>
        rw [Node.at?, leaf] at found'
        cases found'

section Order
variable {s : Source} {quoted quoted' fragment fragment' : Located}

/-- The parts of unbroken texts come in the order of these texts. -/
lemma IsUnbroken.compare_isLE (within : quoted.IsWithin ⟨[], s.tree⟩)
    (within' : quoted'.IsWithin ⟨[], s.tree⟩) (unbroken : IsUnbroken s.text quoted)
    (unbroken' : IsUnbroken s.text quoted') (mem : fragment ∈ fragments quoted)
    (mem' : fragment' ∈ fragments quoted') :
    (compare fragment.address fragment'.address).isLE ↔
      (compare quoted.address quoted'.address).isLE := by
  by_cases same : quoted = quoted'
  · -- The only part of one text.
    subst same
    have one : [fragment] = [fragment'] :=
      (unbroken.of_mem mem).1.symm.trans (unbroken.of_mem mem').1
    cases one
    simp
  · have inside := (List.mem_filter.1 mem).1
    have inside' := (List.mem_filter.1 mem').1
    have parent {l m : Located} (mem : m ∈ l.children) : l.node.children ≠ [] := by
      obtain ⟨i, child, -⟩ := Located.mem_children.1 mem
      intro leaf
      rw [leaf] at child
      cases child
    have apart : ¬ quoted.address <+: quoted'.address := by
      intro below
      rcases eq_or_leaf_of_prefix within within' unbroken.leaves below with rfl | leaf
      · exact same rfl
      · exact parent inside' leaf
    have apart' : ¬ quoted'.address <+: quoted.address := by
      intro below
      rcases eq_or_leaf_of_prefix within' within unbroken'.leaves below with rfl | leaf
      · exact same rfl
      · exact parent inside leaf
    obtain ⟨i, -, address⟩ := Located.mem_children.1 inside
    obtain ⟨j, -, address'⟩ := Located.mem_children.1 inside'
    rw [address, address', compare_append _ _ apart apart']

/-- The module of a specifier stands in the file. -/
lemma Specifies.isWithin {specifier name : Located}
    (specified : Specifies s specifier name quoted) : quoted.IsWithin ⟨[], s.tree⟩ := by
  obtain ⟨statement, within, -, clause, list, order, -⟩ := specified
  exact within.of_mem_children (order.subset (List.mem_cons_of_mem clause List.mem_cons_self))

/-- A named import of a file is a specifier with a part of its module. -/
lemma fileImports_iff {specifier name : Located} : FileImports s specifier name fragment ↔
    ∃ quoted, Specifies s specifier name quoted ∧ fragment ∈ fragments quoted := by
  simp only [FileImports, Specifies, hasNamedImport_iff]
  constructor
  · rintro ⟨statement, within, quoted, specified, mem⟩
    exact ⟨quoted, ⟨statement, within, specified⟩, mem⟩
  · rintro ⟨quoted, ⟨statement, within, specified⟩, mem⟩
    exact ⟨statement, within, quoted, specified, mem⟩

end Order

/-- If no module of a file is broken, the last named import of a name is its last specifier. -/
lemma lastImport_iff_lastSpecifier {s : Source} {x path : String}
    (unbroken : ∀ specifier name quoted, Specifies s specifier name quoted →
      IsUnbroken s.text quoted) : LastImport s x path ↔ LastSpecifier s x path := by
  constructor
  · rintro ⟨specifier, name, fragment, imported, named, rfl, latest⟩
    obtain ⟨quoted, specified, mem⟩ := fileImports_iff.1 imported
    have whole := unbroken _ _ _ specified
    obtain ⟨-, nonempty, text⟩ := whole.of_mem mem
    refine ⟨specifier, name, quoted, specified, named, nonempty, by rw [text], ?_⟩
    intro specifier' name' quoted' specified' named' nonempty'
    have whole' := unbroken _ _ _ specified'
    obtain ⟨fragment', mem'⟩ := whole'.exists_mem nonempty'
    apply (whole'.compare_isLE specified'.isWithin specified.isWithin whole mem' mem).1
    exact latest specifier' name' fragment' (fileImports_iff.2 ⟨quoted', specified', mem'⟩) named'
  · rintro ⟨specifier, name, quoted, specified, named, nonempty, rfl, latest⟩
    have whole := unbroken _ _ _ specified
    obtain ⟨fragment, mem⟩ := whole.exists_mem nonempty
    obtain ⟨-, -, text⟩ := whole.of_mem mem
    refine ⟨specifier, name, fragment, fileImports_iff.2 ⟨quoted, specified, mem⟩, named,
      by rw [text], ?_⟩
    intro specifier' name' fragment' imported' named'
    obtain ⟨quoted', specified', mem'⟩ := fileImports_iff.1 imported'
    have whole' := unbroken _ _ _ specified'
    obtain ⟨-, nonempty', -⟩ := whole'.of_mem mem'
    apply (whole'.compare_isLE specified'.isWithin specified.isWithin whole mem' mem).2
    exact latest specifier' name' quoted' specified' named' nonempty'

/-! ## Imports of a file -/

/-- The imports of a file bind a name to what the last part of a module says that belongs to a
specifier of that name. If no module of the file is broken, they bind the names of its specifiers,
each to the whole text between the quotes of its last module, and nothing else. -/
theorem Extractor.imports_of_unbroken_modules (extension : String) :
    (∀ (routeCall : Compiled) (s : Source) (x path : String),
      let e := Extractor.standard extension routeCall
      ((e.importsOf s).get? x = some path ↔ LastImport s x path) ∧
      ((∀ specifier name quoted, Specifies s specifier name quoted → IsUnbroken s.text quoted) →
        ((e.importsOf s).get? x = some path ↔ LastSpecifier s x path))) ∧
    ∀ routeFunction e path content r, Extractor.make routeFunction extension = .ok e →
      e.extract path content = .ok r → ∃ routeCall s, e = .standard extension routeCall ∧
        Source.parse path content = .ok s ∧ r.imports = e.importsOf s := by
  constructor
  · intro routeCall s x path e
    exact ⟨get?_importsOf rfl,
      fun unbroken => (get?_importsOf rfl).trans (lastImport_iff_lastSpecifier unbroken)⟩
  · intro routeFunction e path content r made extracted
    obtain ⟨method, s, -, parsed, rfl⟩ := Extractor.exists_of_extract extracted
    obtain ⟨-, -, -, imports⟩ := e.routeOf_frame method s
    exact ⟨e.routeCall, s, (Extractor.eq_standard made).1, parsed, imports⟩

/-- The sample has one module. -/
lemma string_sample {quoted : Located} (within : quoted.IsWithin ⟨[], sample.tree⟩)
    (isString : quoted.node.isOf "string") : quoted = sampleAt [0, 3] :=
  eq_of_only (by decide +kernel) within isString ⟨[0, 3], rfl, rfl⟩ rfl

/-- The modules of the sample have no escape. -/
theorem Extractor.imports_of_unbroken_modules_sample :
    (∀ specifier name quoted, Specifies sample specifier name quoted →
      IsUnbroken sample.text quoted) ∧
    ∀ x path, (sampleExtractor.importsOf sample).get? x = some path ↔
      LastSpecifier sample x path := by
  have unbroken : ∀ specifier name quoted, Specifies sample specifier name quoted →
      IsUnbroken sample.text quoted := by
    intro specifier name quoted specified
    have within := specified.isWithin
    obtain ⟨-, -, -, clause, list, -, -, -, -, -, -, -, -, -, isString, -⟩ := specified
    rw [string_sample within isString]
    have whole : unquoted ((sampleAt [0, 3]).node.text sample.text) = "./schema" :=
      (congrArg unquoted (text_sample _)).trans (unquoted_ofList _)
    refine ⟨by decide +kernel, ?_⟩
    change unquoted _ ≠ "" ∧ _ = unquoted _
    rw [whole]
    exact ⟨by decide, text_sample _⟩
  exact ⟨unbroken, fun x path => ((Extractor.imports_of_unbroken_modules "ts").1
    (routeCalls "createRoute") sample x path).2 unbroken⟩

section Broken

/-- A route file whose only module has an escape in it. -/
def escaped : Source where
  path := "./api/v1/product/get.ts"
  text := "import \x7b A \x7d from \"./a\\x41b\";"
  tree := sampleNode "program" none 0 29 [
    sampleNode "import_statement" none 0 29 [
      sampleToken "import" 0 6,
      sampleNode "import_clause" none 7 12 [
        sampleNode "named_imports" none 7 12 [
          sampleToken "\x7b" 7 8,
          sampleNode "import_specifier" none 9 10 [sampleNode "identifier" (some "name") 9 10 []],
          sampleToken "\x7d" 11 12]],
      sampleToken "from" 13 17,
      sampleNode "string" (some "source") 18 28 [
        sampleToken "\"" 18 19,
        sampleNode "string_fragment" none 19 22 [],
        sampleNode "escape_sequence" none 22 26 [],
        sampleNode "string_fragment" none 26 27 [],
        sampleToken "\"" 27 28],
      sampleToken ";" 28 29]]

/-- The characters of the file with an escape. -/
def escapedChars : { cs : List Char // escaped.text.toList = cs } := ⟨_, String.toList_ofList⟩

/-- The texts of the file with an escape are cut out of its characters. -/
lemma text_escaped (n : Node) : n.text escaped.text = n.partOf escapedChars.1 :=
  n.text_eq_partOf escapedChars.2

/-- The node of the file with an escape at an address. -/
def escapedAt (address : Query.Address) : Located :=
  ⟨address, (escaped.tree.at? address).getD default⟩

/-- Only the part behind the escape is known of the module. -/
lemma importsOf_escaped : sampleExtractor.importsOf escaped = ⟨[("A", "b")]⟩ := by
  have found : sampleExtractor.imports.matchesIn escaped.text ⟨[], escaped.tree⟩ = _ :=
    matchesIn_eq_foundIn escaped.text (by decide +kernel) (by decide +kernel)
  simp only [Extractor.importsOf, found, text_escaped]
  decide +kernel

/-- The name that is imported from a module with an escape in it is bound to what stands behind the
escape, and not to the module. -/
theorem Extractor.broken_module_cut :
    LastSpecifier escaped "A" "./api/v1/product/a\\x41b" ∧
      (sampleExtractor.importsOf escaped).get? "A" = some "b" := by
  have specified : HasSpecifier (escapedAt [0]) (escapedAt [0, 1, 0, 1]) (escapedAt [0, 1, 0, 1, 0])
      (escapedAt [0, 3]) :=
    ⟨rfl, escapedAt [0, 1], escapedAt [0, 1, 0],
      pair_sublist_iff.2 ⟨(escapedAt [0]).children.drop 2, ⟨(escapedAt [0]).children.take 1, rfl⟩,
        List.mem_of_getElem? (i := 1) rfl⟩,
      rfl, Located.mem_children.2 ⟨0, rfl, rfl⟩, rfl, Located.mem_children.2 ⟨1, rfl, rfl⟩, rfl,
      Located.mem_children.2 ⟨0, rfl, rfl⟩, rfl, rfl, rfl, rfl⟩
  have whole : unquoted ((escapedAt [0, 3]).node.text escaped.text) = "./a\\x41b" :=
    (congrArg unquoted (text_escaped _)).trans (unquoted_ofList _)
  constructor
  · refine ⟨_, _, escapedAt [0, 3], ⟨_, ⟨[0], rfl, rfl⟩, specified⟩, text_escaped _,
      by rw [whole]; decide, ?_, ?_⟩
    · rw [whole]
      decide +kernel
    rintro specifier name quoted specified' - -
    have within := specified'.isWithin
    obtain ⟨-, -, -, clause, list, -, -, -, -, -, -, -, -, -, isString, -⟩ := specified'
    have only : quoted = escapedAt [0, 3] :=
      eq_of_only (by decide +kernel) within isString ⟨[0, 3], rfl, rfl⟩ rfl
    rw [only]
    exact Std.ReflCmp.isLE_rfl
  · rw [importsOf_escaped]
    decide +kernel

end Broken

end Extraction

end RouteAtlas
