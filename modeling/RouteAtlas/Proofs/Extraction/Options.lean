import RouteAtlas.Config
import RouteAtlas.Proofs.Extraction.Calls
import RouteAtlas.Proofs.Extraction.Hoisting

/-!
# What options make of a route

A pair of the call that describes a route is an option if its key is a known name, with quotation
marks around it or not (`optionOf_eq_some_iff`). Each flag and each section of the schema is that of
the last option of its key (`lookup_options`), whereas the names in the values of all options count
(`Extractor.route_of_first_call`).
-/

namespace RouteAtlas

open Query Syntax TypeScript

namespace Extraction

/-! ## Keys -/

/-- The name of a key. -/
def OptionKey.name : OptionKey → String
  | .auth => "auth"
  | .roles => "roles"
  | .headers => "headers"
  | .params => "params"
  | .query => "query"
  | .body => "body"

/-- A key is known by its name. -/
lemma OptionKey.ofName?_eq_some_iff {x : String} {key : OptionKey} :
    OptionKey.ofName? x = some key ↔ x = key.name := by
  constructor
  · intro known
    unfold OptionKey.ofName? at known
    split at known <;> cases known <;> rfl
  · rintro rfl
    cases key <;> rfl

/-- Whether a text is a name, with any quotation marks before it and behind it. -/
def Spells (raw name : String) : Prop :=
  ∃ front back : List Char, front.all isQuote ∧ back.all isQuote ∧
    raw.toList = front ++ (name.toList ++ back)

/-- What is left when the elements of a kind are dropped from the front. -/
lemma dropWhile_eq_iff {α : Type} {p : α → Bool} {xs ys : List α}
    (stops : ∀ y ∈ ys.head?, p y = false) :
    xs.dropWhile p = ys ↔ ∃ front : List α, front.all p ∧ xs = front ++ ys := by
  constructor
  · rintro rfl
    exact ⟨xs.takeWhile p, List.all_takeWhile, List.takeWhile_append_dropWhile.symm⟩
  · rintro ⟨front, dropped, rfl⟩
    rw [List.dropWhile_append_of_pos (List.all_eq_true.1 dropped)]
    cases ys with
    | nil => rfl
    | cons y ys => exact List.dropWhile_cons_of_neg (by simp [stops y rfl])

/-- The name of a key is what its text spells. -/
lemma keyName_eq_iff {raw : String} {key : OptionKey} :
    keyName raw = key.name ↔ Spells raw key.name := by
  have first (back : List Char) : ∀ c ∈ (key.name.toList ++ back).head?, isQuote c = false := by
    cases key <;> simp [OptionKey.name, isQuote]
  have last : ∀ c ∈ key.name.toList.reverse.head?, isQuote c = false := by
    cases key <;> simp [OptionKey.name, isQuote]
  rw [keyName, ← String.toList_inj, String.toList_ofList, List.reverse_eq_iff,
    dropWhile_eq_iff last]
  constructor
  · rintro ⟨back, dropped, rest⟩
    rw [List.reverse_eq_iff, List.reverse_append, List.reverse_reverse,
      dropWhile_eq_iff (first _)] at rest
    obtain ⟨front, dropped', whole⟩ := rest
    exact ⟨front, back.reverse, dropped', by simpa using dropped, whole⟩
  · rintro ⟨front, back, dropped, dropped', whole⟩
    refine ⟨back.reverse, by simpa using dropped', ?_⟩
    rw [List.reverse_eq_iff, List.reverse_append, List.reverse_reverse, List.reverse_reverse,
      dropWhile_eq_iff (first _)]
    exact ⟨front, dropped, whole⟩

/-- Whether a pair has a key and a value for it. -/
def HasOption (source : String) (pair : Located) (key : OptionKey) (value : Located) : Prop :=
  ∃ name, child? pair "key" = some name ∧ child? pair "value" = some value ∧
    Spells (name.node.text source) key.name

/-- The option that a pair stands for. -/
lemma optionOf_eq_some_iff {source : String} {pair : Located} {key : OptionKey} {value : Located} :
    optionOf source pair = some (key, value) ↔ HasOption source pair key value := by
  rw [HasOption, optionOf]
  cases child? pair "key" with
  | none => simp
  | some name =>
    cases child? pair "value" with
    | none => simp
    | some value' =>
      simp only [Option.map_eq_some_iff, OptionKey.ofName?_eq_some_iff, Prod.mk.injEq,
        Option.some.injEq, exists_eq_left', ← keyName_eq_iff]
      constructor
      · rintro ⟨key', spelled, rfl, rfl⟩
        exact ⟨rfl, spelled⟩
      · rintro ⟨rfl, spelled⟩
        exact ⟨key, spelled, rfl, rfl⟩

/-! ## Options of a call -/

/-- Whether a call has an option with a value, and none of the same key behind it. -/
def LastOption (s : Source) (function : String) (call : Located) (key : OptionKey)
    (value : Located) : Prop :=
  ∃ pair, OwnsPair s function call pair ∧ HasOption s.text pair key value ∧
    ∀ pair' value', OwnsPair s function call pair' → HasOption s.text pair' key value' →
      (compare pair'.address pair.address).isLE

/-- Whether a value is a list with `Role.Admin` among its elements. -/
def ListsAdmin (source : String) (value : Located) : Prop :=
  value.node.kind = "array" ∧ ∃ element ∈ value.node.children, element.isNamed ∧
    element.kind = "member_expression" ∧ ∃ object property,
      element.child? "object" = some object ∧ element.child? "property" = some property ∧
        object.text source = "Role" ∧ property.text source = "Admin"

/-- Access is granted to administrators by a list with their role. -/
lemma grantsAdmin_iff {source : String} {value : Located} :
    grantsAdmin source value.node ↔ ListsAdmin source value := by
  have access (n : Node) : isAccess source "Role" "Admin" n ↔
      n.kind = "member_expression" ∧ ∃ object property, n.child? "object" = some object ∧
        n.child? "property" = some property ∧ object.text source = "Role" ∧
        property.text source = "Admin" := by
    rw [isAccess]
    cases n.child? "object" <;> cases n.child? "property" <;> simp
  simp only [grantsAdmin, Node.namedChildren, Bool.and_eq_true, decide_eq_true_eq, List.any_eq_true,
    List.mem_filter, access, ListsAdmin, and_assoc]

section Call
variable {s : Source} {function extension : String} {call : Located}

/-- The options of a file are those of the call that owns the first pair. -/
lemma mem_options (first : OwnsFirstPair s function call) {key : OptionKey} {value : Located} :
    (key, value) ∈ (Extractor.standard extension (routeCalls function)).options s ↔
      ∃ pair, OwnsPair s function call pair ∧ HasOption s.text pair key value := by
  obtain ⟨pairs, taken, -, mem⟩ := exists_routePairs extension first
  simp only [Extractor.options, taken, Option.getD_some, List.mem_filterMap, mem,
    optionOf_eq_some_iff]

variable (extension) in
/-- The last option of a key is the one that the text has last. -/
lemma lookup_options (first : OwnsFirstPair s function call) {key : OptionKey} {value : Located} :
    ((Extractor.standard extension (routeCalls function)).options s).reverse.lookup key
      = some value ↔ LastOption s function call key value := by
  obtain ⟨pairs, taken, sorted, mem⟩ := exists_routePairs extension first
  -- There is one pair at an address.
  have agree : ∀ a ∈ pairs, ∀ b ∈ pairs, ∀ key v u, optionOf s.text a = some (key, v) →
      optionOf s.text b = some (key, u) → a.address = b.address → v = u := by
    intro a memA b memB key v u optionA optionB same
    obtain ⟨_, ownedA, -⟩ := (mem a).1 memA
    obtain ⟨_, ownedB, -⟩ := (mem b).1 memB
    rw [ownedA.isWithin.2.2.ext ownedB.isWithin.2.2 same, optionB] at optionA
    cases optionA
    rfl
  rw [Extractor.options, taken, Option.getD_some, lookup_reverse_iff sorted agree]
  simp only [mem, optionOf_eq_some_iff, LastOption]
  refine exists_congr fun pair => and_congr_right fun _ => and_congr_right fun _ => ?_
  exact ⟨fun last pair' value' owned option => last pair' owned value' option,
    fun last pair' owned value' option => last pair' value' owned option⟩

/-- What only the options of one key set holds of a route if the last of them sets it. -/
lemma flag_routeOf {method : Method} (flag : Route → Bool) {key : OptionKey}
    {given : Located → Bool} (first : OwnsFirstPair s function call)
    (unset : flag ((Extractor.standard extension (routeCalls function)).bareRoute method s) = false)
    (sets : ∀ r key' value, flag (applyOption identifierTokens s.text r key' value)
      = if key' = key then given value else flag r) :
    flag ((Extractor.standard extension (routeCalls function)).routeOf method s).1 = true ↔
      ∃ value, LastOption s function call key value ∧ given value = true := by
  rw [last_option (e := .standard extension (routeCalls function)) flag sets, unset]
  simp only [← lookup_options extension first]
  cases (Extractor.options _ s).reverse.lookup key <;> simp

variable {method : Method}

/-- Authentication is asked for by the last option that is about it. -/
lemma auth_routeOf (first : OwnsFirstPair s function call) :
    ((Extractor.standard extension (routeCalls function)).routeOf method s).1.auth = true ↔
      ∃ value, LastOption s function call .auth value ∧ value.node.kind = "true" := by
  have sets (r : Route) (key : OptionKey) (value : Located) :
      (applyOption identifierTokens s.text r key value).auth
        = if key = .auth then decide (value.node.kind = "true") else r.auth := by
    cases key <;> rfl
  rw [flag_routeOf Route.auth first rfl sets]
  simp only [decide_eq_true_eq]

/-- Access is granted to administrators by the last option about roles. -/
lemma isAdmin_routeOf (first : OwnsFirstPair s function call) :
    ((Extractor.standard extension (routeCalls function)).routeOf method s).1.isAdmin = true ↔
      ∃ value, LastOption s function call .roles value ∧ ListsAdmin s.text value := by
  have sets (r : Route) (key : OptionKey) (value : Located) :
      (applyOption identifierTokens s.text r key value).isAdmin
        = if key = .roles then grantsAdmin s.text value.node else r.isAdmin := by
    cases key <;> rfl
  rw [flag_routeOf Route.isAdmin first rfl sets]
  simp only [grantsAdmin_iff]

/-- A section is the text of the last option about it. -/
lemma section_of_last (first : OwnsFirstPair s function call) {key : OptionKey}
    {text : Schema → String} (isSection : key.section? = some text) :
    let r := ((Extractor.standard extension (routeCalls function)).routeOf method s).1
    (∀ value, LastOption s function call key value → text r.schema = value.node.text s.text) ∧
      ((∀ value, ¬ LastOption s function call key value) → text r.schema = "") := by
  intro r
  have given : text r.schema = _ := section_routeOf isSection
  constructor
  · intro value last
    rw [given, (lookup_options extension first).2 last]
    rfl
  · intro none
    rw [given]
    cases found : (Extractor.options _ s).reverse.lookup key with
    | none => rfl
    | some value => exact absurd ((lookup_options extension first).1 found) (none value)

/-- The names are those of the values of all options except for authentication. -/
lemma mem_identifiers_iff (first : OwnsFirstPair s function call) {x : String} :
    x ∈ ((Extractor.standard extension (routeCalls function)).routeOf method s).1.identifiers.toList
      ↔ ∃ pair key value, OwnsPair s function call pair ∧ HasOption s.text pair key value ∧
        key ≠ .auth ∧ Mentions s.text value x := by
  rw [mem_identifiers_routeOf]
  constructor
  · rintro ⟨key, value, isOption, other, mem⟩
    obtain ⟨pair, owned, option⟩ := (mem_options first).1 isOption
    exact ⟨pair, key, value, owned, option, other, mem_namesIn.1 mem⟩
  · rintro ⟨pair, key, value, owned, option, other, mentioned⟩
    exact ⟨key, value, (mem_options first).2 ⟨pair, owned, option⟩, other,
      mem_namesIn.2 mentioned⟩

end Call

/-! ## The route of a file -/

/-- The names that a run accepts for the route function need no escape. -/
lemma isPlainText_of_isRouteFunction {function : String}
    (accepted : Config.isRouteFunction function) : Read.isPlainText function := by
  rw [Config.isRouteFunction, Bool.and_eq_true, List.all_eq_true] at accepted
  refine List.all_eq_true.2 fun c mem => ?_
  have allowed := accepted.2 c mem
  have other (d : Char) (refused : (d.isAlphanum || d = '_' || d = '$') = false) : c ≠ d := by
    rintro rfl
    rw [refused] at allowed
    cases allowed
  simp [other '"' rfl, other '\\' rfl, other '\n' rfl]

/-- What the call that owns the first pair makes of the route of a file: the flags and the sections
of the schema come from the last option of their key, the names from the values of all options
except for authentication. A file without such a call gives nothing but its method, its path and its
imports. A file is extracted to this route whenever its path ends in a method and it can be parsed,
if the name of the function needs no escape, as those that a run accepts. -/
theorem Extractor.route_of_first_call (function extension : String) :
    (∀ (method : Method) (s : Source),
      let e := Extractor.standard extension (routeCalls function)
      let r := (e.routeOf method s).1
      (r.method = method ∧ r.contentType = contentTypeJson ∧ r.path = s.path ∧
        r.imports = e.importsOf s) ∧
      (∀ call, OwnsFirstPair s function call →
        (r.auth = true ↔
          ∃ value, LastOption s function call .auth value ∧ value.node.kind = "true") ∧
        (r.isAdmin = true ↔
          ∃ value, LastOption s function call .roles value ∧ ListsAdmin s.text value) ∧
        (∀ key text, key.section? = some text →
          (∀ value, LastOption s function call key value →
            text r.schema = value.node.text s.text) ∧
          ((∀ value, ¬ LastOption s function call key value) → text r.schema = "")) ∧
        ∀ x, x ∈ r.identifiers.toList ↔ ∃ pair key value, OwnsPair s function call pair ∧
          HasOption s.text pair key value ∧ key ≠ .auth ∧ Mentions s.text value x) ∧
      (∀ call pair, OwnsPair s function call pair → ∃ first, OwnsFirstPair s function first) ∧
      ((∀ call pair, ¬ OwnsPair s function call pair) → r = e.bareRoute method s)) ∧
    (∀ e path content method s, Read.isPlainText function →
      Extractor.make function extension = .ok e → Method.ofPath? extension path = some method →
        Source.parse path content = .ok s → e = .standard extension (routeCalls function) ∧
          s.path = path ∧ e.extract path content = .ok (e.routeOf method s).1) ∧
    (Config.isRouteFunction function → Read.isPlainText function) := by
  refine ⟨?_, ?_, isPlainText_of_isRouteFunction⟩
  · intro method s e r
    refine ⟨e.routeOf_frame method s, fun call first => ?_, fun call pair => exists_ownsFirstPair,
      fun none => ?_⟩
    · exact ⟨auth_routeOf first, isAdmin_routeOf first, fun key text => section_of_last first,
        fun x => mem_identifiers_iff first⟩
    · have untouched : e.routePairs s = .none := routePairs_eq_none extension none
      simp only [r, Extractor.routeOf, untouched]
      rfl
  · intro e path content method s plain made named parsed
    obtain ⟨standard, calls⟩ := Extractor.eq_standard made
    rw [calls plain] at standard
    refine ⟨standard, Source.path_of_parse parsed, ?_⟩
    have named : Method.ofPath? e.extension path = some method := by
      rw [standard]
      exact named
    simp only [Extractor.extract, Extractor.extractWithEvents, named, parsed]

/-- The sample exports a call with a pair. -/
lemma fileCalls_sample : FileCalls sample (sampleAt [1, 2]) (sampleAt [1, 2, 0])
    (sampleAt [1, 2, 1, 1, 1]) :=
  ⟨sampleAt [1], ⟨[1], rfl, rfl⟩, rfl, Located.mem_children.2 ⟨2, rfl, rfl⟩, rfl, rfl,
    sampleAt [1, 2, 1], sampleAt [1, 2, 1, 1],
    pair_sublist_iff.2 ⟨(sampleAt [1, 2]).children.drop 1,
      ⟨(sampleAt [1, 2]).children.take 0, rfl⟩, List.mem_of_getElem? (i := 0) rfl⟩,
    rfl, rfl, rfl, rfl, Located.mem_children.2 ⟨1, rfl, rfl⟩, rfl,
    Located.mem_children.2 ⟨1, rfl, rfl⟩, rfl⟩

/-- The only call of the sample owns its only pair. -/
lemma ownsFirstPair_sample : OwnsFirstPair sample "createRoute" (sampleAt [1, 2]) := by
  refine ⟨_, ⟨_, fileCalls_sample, text_sample _⟩, ?_⟩
  rintro call pair ⟨name, other, -⟩
  have within := other.isWithin.2.2
  obtain ⟨statement, -, -, -, -, -, arguments, object, -, -, -, -, -, -, -, -, isPair⟩ := other
  have only : pair = sampleAt [1, 2, 1, 1, 1] :=
    eq_of_only (by decide +kernel) within isPair ⟨[1, 2, 1, 1, 1], rfl, rfl⟩ rfl
  rw [only]
  exact Std.ReflCmp.isLE_rfl

/-- The sample asks for no authentication, and refers to a name in its body. -/
theorem Extractor.route_of_first_call_sample :
    let r := (sampleExtractor.routeOf .get sample).1
    OwnsFirstPair sample "createRoute" (sampleAt [1, 2]) ∧
      LastOption sample "createRoute" (sampleAt [1, 2]) .body sampleBody ∧
      r.schema.body = sampleBody.node.text sample.text ∧ "C" ∈ r.identifiers.toList := by
  intro r
  have first := ownsFirstPair_sample
  have last := (lookup_options "ts" first).1 lookup_sample
  obtain ⟨-, calls, -⟩ := (Extractor.route_of_first_call "createRoute" "ts").1 .get sample
  obtain ⟨-, -, sections, names⟩ := calls _ first
  refine ⟨first, last, (sections .body _ rfl).1 _ last, ?_⟩
  obtain ⟨pair, owned, option, -⟩ := last
  refine (names "C").2 ⟨pair, .body, sampleBody, owned, option, by decide, ?_⟩
  exact ⟨sampleAt [1, 2, 1, 1, 1, 2, 1, 1], ⟨[1, 1], rfl, rfl⟩, rfl, text_sample _⟩

end Extraction

end RouteAtlas
