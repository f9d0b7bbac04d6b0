import RouteAtlas.Proofs.Extraction.Identity
import RouteAtlas.Proofs.Extraction.Imports
import RouteAtlas.Proofs.Manifest.Hoisting

/-!
# What a file has hoisted

The options of a file say what its route refers to: the names that occur as identifiers in their
values (`mem_namesIn`, `mem_identifiers_routeOf`), the last value of a section being its text
(`section_routeOf`). A manifest that accepts the route imports these names, as far as the file does
under the name that their module gives them (`Extractor.mentioned_imports_hoisted`). A name that the
file gives itself is not imported (`Extractor.alias_not_hoisted`).
-/

namespace RouteAtlas

open Query Syntax TypeScript

namespace Syntax.Node

/-- The node's part of the characters of a text. -/
def partOf (n : Node) (cs : List Char) : String :=
  String.ofList ((cs.drop n.start.chars).take (n.info.finish.chars - n.start.chars))

/-- The text of a node is cut out of the characters of the whole. -/
lemma text_eq_partOf (n : Node) {source : String} {cs : List Char} (chars : source.toList = cs) :
    n.text source = n.partOf cs :=
  congrArg n.partOf chars

end Syntax.Node

namespace Extraction

/-! ## Names in a value -/

/-- Whether a name occurs in a value as an identifier. -/
def Mentions (source : String) (value : Located) (x : String) : Prop :=
  ∃ l : Located, l.IsWithin value ∧ l.node.isOf "identifier" ∧ l.node.text source = x

/-- The names that a value refers to are those of its identifiers. -/
lemma mem_namesIn {source x : String} {value : Located} :
    x ∈ namesIn identifierTokens source value ↔ Mentions source value x := by
  obtain ⟨place, e⟩ : ∃ place, identifierTokens
      = ⟨[⟨[.node (.ofKind "identifier" none ["identifier"] place) []], []⟩]⟩ := ⟨_, rfl⟩
  simp only [namesIn, e, matchesIn_unconditional, List.mem_map, List.mem_flatten]
  constructor
  · rintro ⟨c, ⟨_, ⟨w, mem, rfl⟩, captured⟩, rfl⟩
    obtain ⟨l, within, accepts, captures, last, found, names, -⟩ := exists_of_mem_allWays rfl mem
    obtain ⟨rfl, rfl⟩ := finds_nil.1 found
    have captured := List.mem_mergeSort.1 captured
    rw [names] at captured
    simp only [Shape.capturesOf, List.map_cons, List.map_nil, List.append_nil,
      List.mem_singleton] at captured
    subst captured
    exact ⟨l, within, (accepts_ofKind.1 accepts).1, rfl⟩
  · rintro ⟨l, within, kind, rfl⟩
    have accepts : (Shape.ofKind "identifier" none ["identifier"] place).accepts l.node :=
      accepts_ofKind.2 ⟨kind, by simp⟩
    obtain ⟨w, mem, key⟩ := exists_mem_allWays rfl within accepts (finds_nil.2 ⟨rfl, rfl⟩)
    obtain ⟨l', within', accepts', captures, last, found, names, -⟩ := exists_of_mem_allWays rfl mem
    obtain ⟨rfl, rfl⟩ := finds_nil.1 found
    -- The way may be another one that gives the name to the node at the same address.
    rw [Query.Way.key, names] at key
    simp only [Shape.capturesOf, List.map_cons, List.map_nil, List.append_nil, List.cons.injEq,
      Prod.mk.injEq, true_and, and_true] at key
    rw [within'.ext within key] at names
    refine ⟨⟨"identifier", l.address, l.node⟩, ⟨_, ⟨w, mem, rfl⟩, ?_⟩, rfl⟩
    rw [Compiled.sortCaptures, List.mem_mergeSort, names]
    simp [Shape.capturesOf]

/-! ## Options -/

/-- The section of the schema that an option sets. -/
def OptionKey.section? : OptionKey → Option (Schema → String)
  | .headers => some Schema.headers
  | .params => some Schema.params
  | .query => some Schema.query
  | .body => some Schema.body
  | .auth | .roles => none

/-- The option that a pair stands for. -/
def optionOf (source : String) (pair : Located) : Option (OptionKey × Located) :=
  match child? pair "key", child? pair "value" with
  | some key, some value =>
    (OptionKey.ofName? (keyName (key.node.text source))).map fun k => (k, value)
  | _, _ => none

/-- The options of a file, in their order. -/
def Extractor.options (e : Extractor) (s : Source) : List (OptionKey × Located) :=
  ((e.routePairs s).getD []).filterMap (optionOf s.text)

/-- The route of a file without options. -/
def Extractor.bareRoute (e : Extractor) (method : Method) (s : Source) : Route where
  method := method
  path := s.path
  imports := e.importsOf s

section Options
variable {identifiers : Compiled} {source : String}

/-- A pair applies the option that it stands for. -/
lemma applyPair_eq (r : Route) (pair : Located) :
    (applyPair identifiers source r pair).1 = match optionOf source pair with
      | some (key, value) => applyOption identifiers source r key value
      | none => r := by
  rw [applyPair, optionOf]
  cases child? pair "key" with
  | none => rfl
  | some key =>
    cases child? pair "value" with
    | none => rfl
    | some value =>
      dsimp only
      cases OptionKey.ofName? (keyName (key.node.text source)) <;> rfl

/-- The route of a file is what its options make of the route without any. -/
lemma routeOf_eq_foldl (e : Extractor) (method : Method) (s : Source) :
    (e.routeOf method s).1 = (e.options s).foldl
      (fun r option => applyOption e.identifiers s.text r option.1 option.2)
      (e.bareRoute method s) := by
  rw [Extractor.routeOf, Extractor.options]
  cases e.routePairs s with
  | none => rfl
  | some pairs =>
    have routes (r : Route) : (e.applyPairs s.text r pairs).1
        = pairs.foldl (fun r pair => (applyPair e.identifiers s.text r pair).1) r :=
      (List.foldl_hom Prod.fst fun _ _ => rfl).symm
    rw [Option.getD_some, List.foldl_filterMap, routes]
    congr 1
    funext r pair
    rw [applyPair_eq]
    cases optionOf s.text pair <;> rfl

/-- An option adds the names in its value, unless it is about authentication. -/
lemma mem_identifiers_applyOption {r : Route} {key : OptionKey} {value : Located} {x : String} :
    x ∈ (applyOption identifiers source r key value).identifiers.toList ↔
      x ∈ r.identifiers.toList ∨ key ≠ .auth ∧ x ∈ namesIn identifiers source value := by
  have added (names : List String) (s : Identifiers) :
      x ∈ (names.foldl (fun s x => s.insert x) s).toList ↔ x ∈ s.toList ∨ x ∈ names := by
    induction names generalizing s with
    | nil => simp
    | cons name names ih =>
      rw [List.foldl_cons, ih, AscendingSet.mem_insert, List.mem_cons]
      tauto
  cases key <;> simp [applyOption, addNames, added]

/-- An option of a section sets its text to that of the value, and leaves the other ones. -/
lemma section_applyOption {key : OptionKey} {text : Schema → String}
    (isSection : key.section? = some text) (r : Route) (key' : OptionKey) (value : Located) :
    text (applyOption identifiers source r key' value).schema
      = if key' = key then value.node.text source else text r.schema := by
  cases key <;> cases isSection <;> cases key' <;> rfl

end Options

section File
variable {e : Extractor} {method : Method} {s : Source}

/-- The names of a route are those in the values of its options, authentication apart. -/
lemma mem_identifiers_routeOf {x : String} :
    x ∈ (e.routeOf method s).1.identifiers.toList ↔ ∃ key value, (key, value) ∈ e.options s ∧
      key ≠ .auth ∧ x ∈ namesIn e.identifiers s.text value := by
  have run (options : List (OptionKey × Located)) (r : Route) :
      x ∈ (options.foldl (fun r option => applyOption e.identifiers s.text r option.1 option.2)
          r).identifiers.toList ↔
        x ∈ r.identifiers.toList ∨ ∃ key value, (key, value) ∈ options ∧ key ≠ .auth ∧
          x ∈ namesIn e.identifiers s.text value := by
    induction options generalizing r with
    | nil => simp
    | cons option options ih =>
      obtain ⟨key, value⟩ := option
      rw [List.foldl_cons, ih, mem_identifiers_applyOption]
      simp only [List.mem_cons, Prod.mk.injEq]
      constructor
      · rintro ((mem | ⟨other, mem⟩) | ⟨key', value', isOption, other, mem⟩)
        · exact .inl mem
        · exact .inr ⟨key, value, .inl ⟨rfl, rfl⟩, other, mem⟩
        · exact .inr ⟨key', value', .inr isOption, other, mem⟩
      · rintro (mem | ⟨key', value', ⟨rfl, rfl⟩ | isOption, other, mem⟩)
        · exact .inl (.inl mem)
        · exact .inl (.inr ⟨other, mem⟩)
        · exact .inr ⟨key', value', isOption, other, mem⟩
  rw [routeOf_eq_foldl, run]
  exact or_iff_right List.not_mem_nil

/-- What only the options of one key set is what the last of them sets it to. -/
lemma last_option {α : Type} (field : Route → α) {key : OptionKey} {given : Located → α}
    (sets : ∀ r key' value, field (applyOption e.identifiers s.text r key' value)
      = if key' = key then given value else field r) :
    field (e.routeOf method s).1
      = ((e.options s).reverse.lookup key).elim (field (e.bareRoute method s)) given := by
  have run (options : List (OptionKey × Located)) (r : Route) :
      field (options.foldl (fun r option => applyOption e.identifiers s.text r option.1 option.2) r)
        = (options.reverse.lookup key).elim (field r) given := by
    induction options generalizing r with
    | nil => rfl
    | cons option options ih =>
      obtain ⟨key', value⟩ := option
      rw [List.foldl_cons, ih, sets, List.reverse_cons, List.lookup_append]
      cases options.reverse.lookup key with
      | some value' => rfl
      | none =>
        by_cases same : key' = key
        · simp [same]
        · simp [same, List.lookup_cons, beq_false_of_ne (Ne.symm same)]
  rw [routeOf_eq_foldl, run]

/-- The text of a section is that of the value of its last option; without one it is empty. -/
lemma section_routeOf {key : OptionKey} {text : Schema → String}
    (isSection : key.section? = some text) :
    text (e.routeOf method s).1.schema
      = ((e.options s).reverse.lookup key).elim "" fun value => value.node.text s.text := by
  have empty : text {} = "" := by
    cases key <;> cases isSection <;> rfl
  rw [last_option (fun r => text r.schema) (section_applyOption isSection),
    show text (e.bareRoute method s).schema = "" from empty]

/-- A route hoists the names in the values of its options that its file imports, each from the
module of the last import of that name. -/
lemma mem_hoistedImports_routeOf {extension : String} {routeCall : Compiled} {x path : String} :
    let e := Extractor.standard extension routeCall
    (x, path) ∈ (e.routeOf method s).1.hoistedImports ↔
      (∃ key value, (key, value) ∈ e.options s ∧ key ≠ .auth ∧ Mentions s.text value x) ∧
        LastImport s x path := by
  intro e
  obtain ⟨-, -, -, imports⟩ := e.routeOf_frame method s
  rw [Route.mem_hoistedImports, imports, mem_identifiers_routeOf]
  refine and_congr ?_ (get?_importsOf rfl)
  exact exists_congr fun key => exists_congr fun value =>
    and_congr_right fun _ => and_congr_right fun _ => mem_namesIn

end File

/-! ## Imports of a manifest -/

open Manifest in
/-- In an accepted file, a section of the schema has the text of the last value that is given for
it, and every name that occurs in this value as an identifier is imported by the manifest, if the
file has a named import of that name: from the module of the last one, as the manifest sees it. A
name that a specifier gives to what it imports under another name does not count as imported, nor
does a property that stands for its own value count as an identifier. -/
theorem Extractor.mentioned_imports_hoisted (extension : String) :
    (∀ (routeCall : Compiled) (method : Method) (s : Source),
      let e := Extractor.standard extension routeCall
      let r := (e.routeOf method s).1
      (∀ key text, key.section? = some text → text r.schema
        = ((e.options s).reverse.lookup key).elim "" fun value => value.node.text s.text) ∧
      (∀ x path, (x, path) ∈ r.hoistedImports ↔
        (∃ key value, (key, value) ∈ e.options s ∧ key ≠ .auth ∧ Mentions s.text value x) ∧
          LastImport s x path) ∧
      ∀ (b : Builder) later, (b.add r).added = true →
        let final := b.offerAll (r :: later)
        final.build = Builder.header ++ String.join (final.imports.toList.map ImportLine.render)
          ++ "\n" ++ final.exportBlock ∧
        ∀ key text value, key.section? = some text → (e.options s).reverse.lookup key = some value →
          ∀ x path, Mentions s.text value x → LastImport s x path →
            ⟨path, x⟩ ∈ final.imports.toList) ∧
    ∀ routeFunction e path content r, Extractor.make routeFunction extension = .ok e →
      e.extract path content = .ok r → ∃ routeCall method s,
        e = .standard extension routeCall ∧
        (Read.isPlainText routeFunction → routeCall = routeCalls routeFunction) ∧
        Source.parse path content = .ok s ∧ r = (e.routeOf method s).1 := by
  constructor
  · intro routeCall method s e r
    refine ⟨fun key text isSection => section_routeOf isSection,
      fun x path => mem_hoistedImports_routeOf, fun b later accepted => ⟨rfl, ?_⟩⟩
    intro key text value isSection given x path mentioned imported
    have other : key ≠ .auth := by
      rintro rfl
      cases isSection
    obtain ⟨front, back, split, -⟩ := List.lookup_eq_some_iff.1 given
    have isOption : (key, value) ∈ e.options s := by
      rw [← List.mem_reverse, split]
      exact List.mem_append_right front List.mem_cons_self
    have hoisted : (x, path) ∈ r.hoistedImports :=
      mem_hoistedImports_routeOf.2 ⟨⟨key, value, isOption, other, mentioned⟩, imported⟩
    -- The builder keeps the route, whatever it is offered later, and its lines with it.
    have kept : r ∈ b.kept (r :: later) := Builder.mem_kept_iff.2 ⟨[], later, rfl, accepted⟩
    exact Builder.mem_imports_iff_hoistings.2 (.inr (List.mem_flatMap.2 ⟨r, kept, hoisted⟩))
  · intro routeFunction e path content r isMade extracted
    obtain ⟨method, s, -, parsed, rfl⟩ := Extractor.exists_of_extract extracted
    obtain ⟨standard, calls⟩ := Extractor.eq_standard isMade
    exact ⟨e.routeCall, method, s, standard, calls, parsed, rfl⟩

section Sample

/-- The position behind so many characters of the sample, whose first line has 38. -/
def sampleExtent (n : Nat) : Parsing.Extent :=
  if n < 38 then ⟨n, n, 0, n⟩ else if n < 86 then ⟨n, n, 1, n - 38⟩ else ⟨n, n, 2, 0⟩

/-- A node of the sample. -/
def sampleNode (kind : String) (field : Option String) (start finish : Nat)
    (children : List Node) : Node :=
  .node { kind, isNamed := true, field, start := sampleExtent start, finish := sampleExtent finish }
    children

/-- A token of the sample. -/
def sampleToken (text : String) (start finish : Nat) : Node :=
  .node { kind := text, isNamed := false, start := sampleExtent start
          finish := sampleExtent finish } []

/-- A route file that imports a name as it is, another one under an alias, and refers to both. -/
def sample : Source where
  path := "./api/v1/product/get.ts"
  text := "import \x7b A, B as C \x7d from \"./schema\";\n"
    ++ "export default createRoute(\x7b body: A.and(C) \x7d);\n"
  tree := sampleNode "program" none 0 86 [
    sampleNode "import_statement" none 0 37 [
      sampleToken "import" 0 6,
      sampleNode "import_clause" none 7 20 [
        sampleNode "named_imports" none 7 20 [
          sampleToken "\x7b" 7 8,
          sampleNode "import_specifier" none 9 10 [sampleNode "identifier" (some "name") 9 10 []],
          sampleToken "," 10 11,
          sampleNode "import_specifier" none 12 18 [
            sampleNode "identifier" (some "name") 12 13 [],
            sampleToken "as" 14 16,
            sampleNode "identifier" (some "alias") 17 18 []],
          sampleToken "\x7d" 19 20]],
      sampleToken "from" 21 25,
      sampleNode "string" (some "source") 26 36 [
        sampleToken "\"" 26 27,
        sampleNode "string_fragment" none 27 35 [],
        sampleToken "\"" 35 36],
      sampleToken ";" 36 37],
    sampleNode "export_statement" none 38 85 [
      sampleToken "export" 38 44,
      sampleToken "default" 45 52,
      sampleNode "call_expression" (some "value") 53 84 [
        sampleNode "identifier" (some "function") 53 64 [],
        sampleNode "arguments" (some "arguments") 64 84 [
          sampleToken "(" 64 65,
          sampleNode "object" none 65 83 [
            sampleToken "\x7b" 65 66,
            sampleNode "pair" none 67 81 [
              sampleNode "property_identifier" (some "key") 67 71 [],
              sampleToken ":" 71 72,
              sampleNode "call_expression" (some "value") 73 81 [
                sampleNode "member_expression" (some "function") 73 78 [
                  sampleNode "identifier" (some "object") 73 74 [],
                  sampleToken "." 74 75,
                  sampleNode "property_identifier" (some "property") 75 78 []],
                sampleNode "arguments" (some "arguments") 78 81 [
                  sampleToken "(" 78 79,
                  sampleNode "identifier" none 79 80 [],
                  sampleToken ")" 80 81]]],
            sampleToken "\x7d" 82 83],
          sampleToken ")" 83 84]],
      sampleToken ";" 84 85]]

/-- The characters of the sample. -/
def sampleChars : { cs : List Char // sample.text.toList = cs } :=
  ⟨_, String.toList_append.trans (congrArg₂ (· ++ ·) String.toList_ofList String.toList_ofList)⟩

/-- The texts of the sample are cut out of its characters. -/
lemma text_sample (n : Node) : n.text sample.text = n.partOf sampleChars.1 :=
  n.text_eq_partOf sampleChars.2

/-- The node of the sample at an address. -/
def sampleAt (address : Query.Address) : Located :=
  ⟨address, (sample.tree.at? address).getD default⟩

/-- The value of the body in the sample. -/
def sampleBody : Located := sampleAt [1, 2, 1, 1, 1, 2]

/-- The extractor for calls of `createRoute`. -/
def sampleExtractor : Extractor := .standard "ts" (routeCalls "createRoute")

/-- The sample has one option. -/
lemma lookup_sample : (sampleExtractor.options sample).reverse.lookup .body = some sampleBody := by
  have calls : sampleExtractor.routeCall.matchesIn sample.text ⟨[], sample.tree⟩ = _ :=
    matchesIn_eq_foundIn sample.text (by decide +kernel) (by decide +kernel)
  have held : optionOf sample.text = fun pair =>
      match child? pair "key", child? pair "value" with
      | some key, some value =>
        (OptionKey.ofName? (keyName (key.node.partOf sampleChars.1))).map fun k => (k, value)
      | _, _ => none := by
    funext pair
    simp only [optionOf, text_sample]
  rw [Extractor.options, Extractor.routePairs, calls, held]
  simp only [Filter.holds, text_sample]
  rfl

/-- The sample imports two names, each under the name that its module gives it. -/
lemma importsOf_sample : sampleExtractor.importsOf sample
    = ⟨[("A", "./api/v1/product/schema"), ("B", "./api/v1/product/schema")]⟩ := by
  have found : sampleExtractor.imports.matchesIn sample.text ⟨[], sample.tree⟩ = _ :=
    matchesIn_eq_foundIn sample.text (by decide +kernel) (by decide +kernel)
  simp only [Extractor.importsOf, found, text_sample]
  decide +kernel

open Manifest in
/-- The name that the sample imports as it is, is imported. -/
theorem Extractor.mentioned_imports_hoisted_sample :
    let r := (sampleExtractor.routeOf .get sample).1
    let final := (Builder.fresh "ts" "api/v1/" false).offerAll [r]
    Mentions sample.text sampleBody "A" ∧ LastImport sample "A" "./api/v1/product/schema" ∧
      ⟨"./api/v1/product/schema", "A"⟩ ∈ final.imports.toList := by
  intro r final
  have mentioned : Mentions sample.text sampleBody "A" :=
    ⟨sampleAt [1, 2, 1, 1, 1, 2, 0, 0], ⟨[0, 0], rfl, rfl⟩, rfl, text_sample _⟩
  have imported : LastImport sample "A" "./api/v1/product/schema" := by
    rw [← get?_importsOf (e := sampleExtractor) rfl, importsOf_sample]
    decide +kernel
  obtain ⟨sections, hoisted, lines⟩ :=
    (Extractor.mentioned_imports_hoisted "ts").1 (routeCalls "createRoute") .get sample
  exact ⟨mentioned, imported, (lines (Builder.fresh "ts" "api/v1/" false) []
    (Builder.added_iff.2 rfl)).2 .body _ _ rfl lookup_sample _ _ mentioned imported⟩

/-- The name under which a file knows what a specifier imports. -/
def localName (source : String) (specifier name : Located) : String :=
  match specifier.node.child? "alias" with
  | some other => other.text source
  | none => name.node.text source

open Manifest in
/-- The name that the sample gives to what it imports under another name occurs in the text of the
body, but the manifest does not import it. -/
theorem Extractor.alias_not_hoisted :
    let r := (sampleExtractor.routeOf .get sample).1
    let addition := (Builder.fresh "ts" "api/v1/" false).add r
    addition.added = true ∧ r.schema.body = "A.and(C)" ∧
      (sampleExtractor.options sample).reverse.lookup .body = some sampleBody ∧
      Mentions sample.text sampleBody "C" ∧
      (∃ specifier name fragment, FileImports sample specifier name fragment ∧
        localName sample.text specifier name = "C" ∧ name.node.text sample.text = "B" ∧
        fragment.node.text sample.text = "./schema") ∧
      ∀ l ∈ addition.builder.imports.toList, l.identifier ≠ "C" := by
  intro r addition
  have mentioned : Mentions sample.text sampleBody "C" :=
    ⟨sampleAt [1, 2, 1, 1, 1, 2, 1, 1], ⟨[1, 1], rfl, rfl⟩, rfl, text_sample _⟩
  have body : r.schema.body = "A.and(C)" := by
    have isSection : OptionKey.section? .body = some Schema.body := rfl
    rw [show Schema.body r.schema = _ from section_routeOf isSection, lookup_sample]
    exact text_sample _
  have imported : HasNamedImport (sampleAt [0]) (sampleAt [0, 1, 0, 3]) (sampleAt [0, 1, 0, 3, 0])
      (sampleAt [0, 3, 1]) :=
    ⟨rfl, sampleAt [0, 1], sampleAt [0, 3], sampleAt [0, 1, 0],
      pair_sublist_iff.2 ⟨(sampleAt [0]).children.drop 2, ⟨(sampleAt [0]).children.take 1, rfl⟩,
        List.mem_of_getElem? (i := 1) rfl⟩,
      rfl, Located.mem_children.2 ⟨0, rfl, rfl⟩, rfl, Located.mem_children.2 ⟨3, rfl, rfl⟩, rfl,
      Located.mem_children.2 ⟨0, rfl, rfl⟩, rfl, rfl, rfl, rfl,
      Located.mem_children.2 ⟨1, rfl, rfl⟩, rfl⟩
  refine ⟨Builder.added_iff.2 rfl, body, lookup_sample, mentioned,
    ⟨_, _, _, ⟨_, ⟨[0], rfl, rfl⟩, imported⟩, text_sample _, text_sample _, text_sample _⟩, ?_⟩
  rintro ⟨path, _⟩ mem rfl
  have line : ⟨path, "C"⟩ ∈ ((Builder.fresh "ts" "api/v1/" false).offerAll [r]).imports.toList :=
    mem
  obtain ⟨r', kept, hoisted⟩ := List.mem_flatMap.1
    ((Builder.mem_imports_iff_hoistings.1 line).resolve_left List.not_mem_nil)
  obtain rfl := List.mem_singleton.1 ((Builder.kept_sublist _ _).subset kept)
  obtain ⟨-, -, -, imports⟩ := sampleExtractor.routeOf_frame .get sample
  have known : r.imports = sampleExtractor.importsOf sample := imports
  have unknown := (Route.mem_hoistedImports.1 hoisted).2
  rw [known, importsOf_sample] at unknown
  simp [Imports.get?, List.lookup_cons] at unknown

end Sample

end Extraction

end RouteAtlas
