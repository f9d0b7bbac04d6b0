import RouteAtlas.Proofs.Extraction.Patterns

/-!
# The named imports of a file

What an extractor knows of the imports of a file is told by its tree: a name is bound to the module
of the last import statement with a specifier of that name (`get?_importsOf`). A specifier counts
under the name that its module exports, whether or not it has another one in the file.
-/

namespace RouteAtlas

open Query Syntax TypeScript

namespace Extraction

/-- Whether an import statement has a specifier with a name, and a text between the quotes of its
module of which a part is given. -/
def HasNamedImport (statement specifier name fragment : Located) : Prop :=
  statement.node.isOf "import_statement" ∧
  ∃ clause source list : Located,
    [clause, source].Sublist statement.children ∧
    clause.node.isOf "import_clause" ∧
    list ∈ clause.children ∧ list.node.isOf "named_imports" ∧
    specifier ∈ list.children ∧ specifier.node.isOf "import_specifier" ∧
    name ∈ specifier.children ∧ name.node.isOf "identifier" ∧ name.node.field = some "name" ∧
    source.node.isOf "string" ∧ source.node.field = some "source" ∧
    fragment ∈ source.children ∧ fragment.node.isOf "string_fragment"

/-- A part of the text between quotes is no root. -/
lemma HasNamedImport.address_ne_nil {statement specifier name fragment : Located}
    (imported : HasNamedImport statement specifier name fragment) : fragment.address ≠ [] := by
  obtain ⟨-, clause, source, list, -, -, -, -, -, -, -, -, -, -, -, inSource, -⟩ := imported
  exact Located.address_ne_nil inSource

/-- What the pattern of named imports finds at a node. -/
lemma namedImports_eq : ∃ place below,
    namedImports = ⟨[⟨[.node (.ofKind "import_statement" none [] place) below], []⟩]⟩ ∧
    ∀ (statement : Located) (captures : List Capture) (last : Query.Address),
      statement.node.isOf "import_statement" ∧ Finds below statement.children captures last ↔
        ∃ specifier name fragment, HasNamedImport statement specifier name fragment ∧
          captures = [⟨"identifier", name.address, name.node⟩,
            ⟨"path", fragment.address, fragment.node⟩] ∧
          last = fragment.address := by
  refine ⟨_, _, rfl, fun statement captures last => ?_⟩
  simp only [Written.patterns, Written.pattern?, Option.toList, List.nil_append, List.cons_append,
    finds_kind_pair, finds_kind, finds_nil, Option.mem_def, reduceCtorEq, false_imp_iff,
    implies_true, and_true, Option.some.injEq, forall_eq']
  -- The last node that is needed is the fragment, whose address is not that of a root.
  have complete {source fragment : Located} (mem : fragment ∈ source.children) :
      (if (if ([] : Query.Address).isEmpty then fragment.address else []).isEmpty then
          source.address
        else if ([] : Query.Address).isEmpty then fragment.address else []) = fragment.address := by
    simp [Located.address_ne_nil mem]
  constructor
  · rintro ⟨isImport, clause, source, order, isClause, isString, _, _,
      ⟨list, inClause, isList, _, _, ⟨specifier, inList, isSpecifier, _, _,
        ⟨name, inSpecifier, isName, _, _, ⟨rfl, rfl⟩, rfl, rfl⟩, rfl, rfl⟩, rfl, rfl⟩, _, _,
      ⟨fragment, inSource, isFragment, _, _, ⟨rfl, rfl⟩, rfl, rfl⟩, rfl, rfl⟩
    exact ⟨specifier, name, fragment, ⟨isImport, clause, source, list, order, isClause, inClause,
      isList, inList, isSpecifier, inSpecifier, isName.1, isName.2, isString.1, isString.2,
      inSource, isFragment⟩, rfl, complete inSource⟩
  · rintro ⟨specifier, name, fragment, ⟨isImport, clause, source, list, order, isClause, inClause,
      isList, inList, isSpecifier, inSpecifier, isName, isName', isString, isString', inSource,
      isFragment⟩, rfl, rfl⟩
    exact ⟨isImport, clause, source, order, isClause, ⟨isString, isString'⟩, _, _,
      ⟨list, inClause, isList, _, _, ⟨specifier, inList, isSpecifier, _, _,
        ⟨name, inSpecifier, ⟨isName, isName'⟩, _, _, ⟨rfl, rfl⟩, rfl, rfl⟩, rfl, rfl⟩, rfl, rfl⟩, _,
      _, ⟨fragment, inSource, isFragment, _, _, ⟨rfl, rfl⟩, rfl, rfl⟩, rfl,
      (complete inSource).symm⟩

/-- Whether a file has a named import. -/
def FileImports (s : Source) (specifier name fragment : Located) : Prop :=
  ∃ statement : Located, statement.IsWithin ⟨[], s.tree⟩ ∧
    HasNamedImport statement specifier name fragment

section File
variable {s : Source} {specifier name fragment : Located}

/-- The nodes of a named import stand in the file. -/
lemma FileImports.isWithin (imported : FileImports s specifier name fragment) :
    name.IsWithin ⟨[], s.tree⟩ ∧ fragment.IsWithin ⟨[], s.tree⟩ := by
  obtain ⟨statement, within, -, clause, source, list, order, -, inClause, -, inList, -,
    inSpecifier, -, -, -, -, inSource, -⟩ := imported
  have clauseWithin := within.of_mem_children (order.subset List.mem_cons_self)
  have sourceWithin := within.of_mem_children
    (order.subset (List.mem_cons_of_mem clause List.mem_cons_self))
  have listWithin := clauseWithin.of_mem_children inClause
  exact ⟨(listWithin.of_mem_children inList).of_mem_children inSpecifier,
    sourceWithin.of_mem_children inSource⟩

/-- What a match of the pattern of named imports holds. -/
def importCaptures (name fragment : Located) : List Capture :=
  [⟨"identifier", name.address, name.node⟩, ⟨"path", fragment.address, fragment.node⟩]

/-- What is found of a named import is told by the places of its name and of its module. -/
lemma FileImports.ext {specifier' name' fragment' : Located}
    (imported : FileImports s specifier name fragment)
    (imported' : FileImports s specifier' name' fragment') (named : name.address = name'.address)
    (sourced : fragment.address = fragment'.address) : name = name' ∧ fragment = fragment' :=
  ⟨imported.isWithin.1.ext imported'.isWithin.1 named,
    imported.isWithin.2.ext imported'.isWithin.2 sourced⟩

/-- The pattern of named imports finds the named imports of a file, in the order of their
modules. -/
lemma exists_ways_namedImports (s : Source) : ∃ ways : List Query.Way,
    namedImports.matchesIn s.text ⟨[], s.tree⟩
      = ways.map (fun w => Compiled.sortCaptures w.captures) ∧
    (ways.Pairwise fun v w => (compare v.last w.last).isLE) ∧
    ∀ captures last, (∃ w ∈ ways, w.captures = captures ∧ w.last = last) ↔
      ∃ specifier name fragment, FileImports s specifier name fragment ∧
        captures = importCaptures name fragment ∧ last = fragment.address := by
  obtain ⟨place, below, e, finds⟩ := namedImports_eq
  refine ⟨_, by rw [e, matchesIn_unconditional], pairwise_allWays _ _, fun captures last => ?_⟩
  refine exists_mem_allWays_iff rfl (P := fun captures last => ∃ specifier name fragment,
    FileImports s specifier name fragment ∧ captures = importCaptures name fragment ∧
      last = fragment.address) ?_ ?_
  · intro captures last
    simp only [accepts_ofKind, Option.not_mem_none, false_imp_iff, implies_true, and_true,
      Shape.capturesOf, List.map_nil, List.nil_append]
    constructor
    · rintro ⟨specifier, name, fragment, ⟨statement, within, imported⟩, rfl, rfl⟩
      obtain ⟨isImport, found⟩ :=
        (finds statement _ _).2 ⟨specifier, name, fragment, imported, rfl, rfl⟩
      exact ⟨statement, within, isImport, _, _, found, rfl,
        (if_neg (by simpa using imported.address_ne_nil)).symm⟩
    · rintro ⟨statement, within, isImport, captures, last, found, rfl, rfl⟩
      obtain ⟨specifier, name, fragment, imported, rfl, rfl⟩ :=
        (finds statement captures last).1 ⟨isImport, found⟩
      exact ⟨specifier, name, fragment, ⟨statement, within, imported⟩, rfl,
        if_neg (by simpa using imported.address_ne_nil)⟩
  · rintro _ _ _ _ ⟨_, name, fragment, imported, rfl, rfl⟩
      ⟨_, name', fragment', imported', rfl, rfl⟩ key
    simp only [importCaptures, List.map_cons, List.map_nil, List.cons.injEq, Prod.mk.injEq,
      true_and, and_true] at key
    obtain ⟨rfl, rfl⟩ := imported.ext imported' key.1 key.2
    exact ⟨rfl, rfl⟩

end File

/-- The first capture of a name is the only one. -/
lemma capture?_sortCaptures {captures : List Capture} {c : Capture} (mem : c ∈ captures)
    (only : ∀ d ∈ captures, d.name = c.name → d = c) :
    Extractor.capture? (Compiled.sortCaptures captures) c.name = some c := by
  rw [Extractor.capture?, Compiled.sortCaptures]
  cases found : List.find? (fun d : Capture => decide (d.name = c.name)) _ with
  | none =>
    have none := List.find?_eq_none.1 found c (List.mem_mergeSort.2 mem)
    simp at none
  | some d =>
    have named := List.find?_some found
    rw [only d (List.mem_mergeSort.1 (List.mem_of_find?_eq_some found)) (by simpa using named)]

/-- What bindings come to, one after the other: a name has the path of its last binding. -/
lemma get?_foldl_insert (bindings : List (String × String)) (imports : Imports) (x : String) :
    (bindings.foldl (fun imports b => imports.insert b.1 b.2) imports).get? x
      = (bindings.reverse.lookup x).or (imports.get? x) := by
  induction bindings generalizing imports with
  | nil => rfl
  | cons b bindings ih =>
    obtain ⟨name, path⟩ := b
    rw [List.foldl_cons, ih, Imports.get?_insert, List.reverse_cons, List.lookup_append,
      Option.or_assoc]
    congr 1
    by_cases same : x = name
    · simp [same]
    · simp [same, List.lookup_cons, beq_false_of_ne same]

/-- Whether the last of the named imports of a name in a file binds it to the path. -/
def LastImport (s : Source) (x path : String) : Prop :=
  ∃ specifier name fragment, FileImports s specifier name fragment ∧
    name.node.text s.text = x ∧ path = Specifier.resolve (fragment.node.text s.text) s.path ∧
    ∀ specifier' name' fragment', FileImports s specifier' name' fragment' →
      name'.node.text s.text = x → (compare fragment'.address fragment.address).isLE

/-- What a match of the pattern of named imports binds. -/
def bindingOf (s : Source) (captures : List Capture) : Option (String × String) :=
  match Extractor.capture? captures "identifier", Extractor.capture? captures "path" with
  | some name, some path =>
    some (name.node.text s.text, Specifier.resolve (path.node.text s.text) s.path)
  | _, _ => none

/-- A named import binds its name to its module. -/
lemma bindingOf_importCaptures (s : Source) (name fragment : Located) :
    bindingOf s (Compiled.sortCaptures (importCaptures name fragment))
      = some (name.node.text s.text, Specifier.resolve (fragment.node.text s.text) s.path) := by
  have named : Extractor.capture? (Compiled.sortCaptures (importCaptures name fragment))
      "identifier" = some ⟨"identifier", name.address, name.node⟩ :=
    capture?_sortCaptures (c := ⟨"identifier", name.address, name.node⟩)
      (by simp [importCaptures]) (by simp [importCaptures])
  have sourced : Extractor.capture? (Compiled.sortCaptures (importCaptures name fragment))
      "path" = some ⟨"path", fragment.address, fragment.node⟩ :=
    capture?_sortCaptures (c := ⟨"path", fragment.address, fragment.node⟩)
      (by simp [importCaptures]) (by simp [importCaptures])
  rw [bindingOf, named, sourced]

/-- The imports of a file are the bindings of the matches, one after the other. -/
lemma importsOf_eq_foldl (e : Extractor) (s : Source) :
    e.importsOf s = ((e.imports.matchesIn s.text ⟨[], s.tree⟩).filterMap (bindingOf s)).foldl
      (fun imports b => imports.insert b.1 b.2) {} := by
  rw [List.foldl_filterMap, Extractor.importsOf]
  congr 1
  funext imports captures
  rw [bindingOf]
  cases Extractor.capture? captures "identifier" <;>
    cases Extractor.capture? captures "path" <;> rfl

/-- The last of the elements that bind a name tells what it is bound to. -/
lemma exists_of_lookup_reverse {α κ ν : Type} [BEq κ] [LawfulBEq κ] {R : α → α → Prop}
    {f : α → Option (κ × ν)} {xs : List α} (sorted : xs.Pairwise R) {x : κ} {v : ν}
    (found : (xs.filterMap f).reverse.lookup x = some v) :
    ∃ a ∈ xs, f a = some (x, v) ∧ ∀ b ∈ xs, ∀ u, f b = some (x, u) → b = a ∨ R b a := by
  induction xs with
  | nil => cases found
  | cons a xs ih =>
    obtain ⟨before, sorted⟩ := List.pairwise_cons.1 sorted
    rw [← List.singleton_append, List.filterMap_append, List.reverse_append,
      List.lookup_append] at found
    cases behind : (xs.filterMap f).reverse.lookup x with
    | some u =>
      rw [behind, Option.some_or] at found
      obtain ⟨b, mem, bound, last⟩ := ih sorted (behind.trans found)
      refine ⟨b, List.mem_cons_of_mem a mem, bound, fun c memC w boundC => ?_⟩
      rcases List.mem_cons.1 memC with rfl | memC
      · exact .inr (before b mem)
      · exact last c memC w boundC
    | none =>
      rw [behind, Option.none_or] at found
      have unbound : ∀ b ∈ xs, ∀ u, f b ≠ some (x, u) := by
        intro b mem u bound
        have absent := List.lookup_eq_none_iff.1 behind (x, u)
          (List.mem_reverse.2 (List.mem_filterMap.2 ⟨b, mem, bound⟩))
        simp at absent
      cases bound : f a with
      | none =>
        rw [List.filterMap_cons_none bound] at found
        cases found
      | some b =>
        obtain ⟨name, u⟩ := b
        rw [List.filterMap_cons_some bound, List.filterMap_nil, List.reverse_singleton,
          List.lookup_cons] at found
        split at found
        next same =>
          cases found
          rw [beq_iff_eq] at same
          subst same
          refine ⟨a, List.mem_cons_self, bound, fun b mem w boundB => ?_⟩
          rcases List.mem_cons.1 mem with rfl | mem
          · exact .inl rfl
          · exact absurd boundB (unbound b mem w)
        next => cases found

/-- A name is bound to what the last element says that binds it, if elements at one address agree
on it. -/
lemma lookup_reverse_iff {α κ ν : Type} [BEq κ] [LawfulBEq κ] {address : α → Query.Address}
    {f : α → Option (κ × ν)} {xs : List α}
    (sorted : xs.Pairwise fun a b => (compare (address a) (address b)).isLE)
    (agree : ∀ a ∈ xs, ∀ b ∈ xs, ∀ x v u, f a = some (x, v) → f b = some (x, u) →
      address a = address b → v = u) {x : κ} {v : ν} :
    (xs.filterMap f).reverse.lookup x = some v ↔
      ∃ a ∈ xs, f a = some (x, v) ∧
        ∀ b ∈ xs, ∀ u, f b = some (x, u) → (compare (address b) (address a)).isLE := by
  have last {v : ν} (found : (xs.filterMap f).reverse.lookup x = some v) :
      ∃ a ∈ xs, f a = some (x, v) ∧
        ∀ b ∈ xs, ∀ u, f b = some (x, u) → (compare (address b) (address a)).isLE := by
    obtain ⟨a, mem, bound, last⟩ := exists_of_lookup_reverse sorted found
    refine ⟨a, mem, bound, fun b memB u boundB => ?_⟩
    rcases last b memB u boundB with rfl | before
    · exact Std.ReflCmp.isLE_rfl
    · exact before
  constructor
  · exact last
  · rintro ⟨a, mem, bound, latest⟩
    cases found : (xs.filterMap f).reverse.lookup x with
    | none =>
      have absent := List.lookup_eq_none_iff.1 found (x, v)
        (List.mem_reverse.2 (List.mem_filterMap.2 ⟨a, mem, bound⟩))
      simp at absent
    | some u =>
      -- Of two last elements, neither comes before the other: they are at one address.
      obtain ⟨b, mem', bound', latest'⟩ := last found
      have same := Std.LawfulEqCmp.eq_of_compare
        (Std.OrientedCmp.isLE_antisymm (latest b mem' u bound') (latest' a mem v bound))
      exact congrArg some (agree b mem' a mem x u v bound' bound same)

/-- A name of a file is bound to the module of the last named import of that name. -/
lemma get?_importsOf {e : Extractor} (standard : e.imports = namedImports) {s : Source}
    {x path : String} : (e.importsOf s).get? x = some path ↔ LastImport s x path := by
  obtain ⟨ways, matched, sorted, found⟩ := exists_ways_namedImports s
  have sound (w : Query.Way) (mem : w ∈ ways) := (found w.captures w.last).1 ⟨w, mem, rfl, rfl⟩
  have complete {specifier name fragment : Located}
      (imported : FileImports s specifier name fragment) :=
    (found _ _).2 ⟨specifier, name, fragment, imported, rfl, rfl⟩
  let binding (w : Query.Way) : Option (String × String) :=
    bindingOf s (Compiled.sortCaptures w.captures)
  have bound {w : Query.Way} {name fragment : Located}
      (e : w.captures = importCaptures name fragment) :
      binding w = some (name.node.text s.text,
        Specifier.resolve (fragment.node.text s.text) s.path) := by
    simp only [binding]
    rw [e, bindingOf_importCaptures]
  have agree : ∀ v ∈ ways, ∀ w ∈ ways, ∀ x p q, binding v = some (x, p) →
      binding w = some (x, q) → v.last = w.last → p = q := by
    intro v memV w memW x p q bindsV bindsW same
    obtain ⟨_, _, fragment, importedV, capturedV, endsV⟩ := sound v memV
    obtain ⟨_, _, fragment', importedW, capturedW, endsW⟩ := sound w memW
    rw [bound capturedV] at bindsV
    rw [bound capturedW] at bindsW
    have one : fragment = fragment' :=
      importedV.isWithin.2.ext importedW.isWithin.2 (endsV.symm.trans (same.trans endsW))
    rw [one] at bindsV
    exact (congrArg Prod.snd (Option.some.inj bindsV)).symm.trans
      (congrArg Prod.snd (Option.some.inj bindsW))
  rw [importsOf_eq_foldl, standard, matched, get?_foldl_insert, List.filterMap_map]
  change ((ways.filterMap binding).reverse.lookup x).or none = some path ↔ _
  rw [Option.or_none, lookup_reverse_iff sorted agree]
  constructor
  · rintro ⟨w, mem, bindsW, latest⟩
    obtain ⟨specifier, name, fragment, imported, captured, ends⟩ := sound w mem
    rw [bound captured] at bindsW
    cases bindsW
    refine ⟨specifier, name, fragment, imported, rfl, rfl, ?_⟩
    intro specifier' name' fragment' imported' same
    obtain ⟨v, mem', captured', ends'⟩ := complete imported'
    have bindsV := bound captured'
    rw [same] at bindsV
    rw [← ends, ← ends']
    exact latest v mem' _ bindsV
  · rintro ⟨specifier, name, fragment, imported, rfl, rfl, latest⟩
    obtain ⟨w, mem, captured, ends⟩ := complete imported
    refine ⟨w, mem, bound captured, fun v mem' path bindsV => ?_⟩
    obtain ⟨specifier', name', fragment', imported', captured', ends'⟩ := sound v mem'
    rw [bound captured'] at bindsV
    rw [ends, ends']
    exact latest specifier' name' fragment' imported' (congrArg Prod.fst (Option.some.inj bindsV))

end Extraction

end RouteAtlas
