import Mathlib.Tactic.SplitIfs
import RouteAtlas.Proofs.Extraction.Compiling
import RouteAtlas.Proofs.Query.Finding

/-!
# Exported calls, without a pattern

The exported calls of a function can be looked for in the tree itself, without a pattern in which
the name of the function is written (`searchCalls`). The pattern of calls finds the same, and can be
compiled for every function that a run accepts (`Extractor.matches_eq_searchCalls`).
-/

namespace RouteAtlas.Extraction

open Query Syntax TypeScript

/-! ## The search -/

/-- An exported call, with the name that is called and one of the pairs that it is given. -/
structure CallPair where
  call : Located
  name : Located
  pair : Located

/-- Whether a node is of a kind, and stands under a field if one is given. -/
def isOf (kind : String) (field : Option String) (l : Located) : Bool :=
  l.node.isOf kind && (field.isNone || l.node.field = field)

/-- The nodes of a kind directly below others. -/
def childrenOf (kind : String) (nodes : List Located) : List Located :=
  nodes.flatMap fun l => l.children.filter (isOf kind none)

/-- The pairs in objects among arguments. -/
def pairsAmong (nodes : List Located) : List Located :=
  childrenOf "pair" (childrenOf "object" (nodes.filter (isOf "arguments" (some "arguments"))))

/-- The names that may be called among the nodes of a call, each with the pairs behind it. -/
def pairsOf (call : Located) : List Located → List CallPair
  | [] => []
  | name :: behind =>
    if isOf "identifier" (some "function") name then
      (pairsAmong behind).map (⟨call, name, ·⟩) ++ pairsOf call behind
    else pairsOf call behind

/-- The calls whose value a statement exports. -/
def exportedBy (statement : Located) : List CallPair :=
  (statement.children.filter (isOf "call_expression" (some "value"))).flatMap fun call =>
    pairsOf call call.children

/-- The exported calls of a tree, in the order of their pairs. -/
def exportedCalls (root : Located) : List CallPair :=
  ((root.nodes.filter (isOf "export_statement" none)).flatMap exportedBy).mergeSort fun a b =>
    (compare a.pair.address b.pair.address).isLE

/-- The exported calls of a function in a file, in the order of their pairs. -/
def searchCalls (s : Source) (function : String) : List CallPair :=
  (exportedCalls ⟨[], s.tree⟩).filter fun c => c.name.node.text s.text = function

/-! ## What the search finds -/

section Members
variable {kind : String} {field : Option String} {l call name pair : Located} {nodes : List Located}

lemma isOf_none : isOf kind none l ↔ l.node.isOf kind := by
  simp [isOf]

lemma isOf_some {f : String} : isOf kind (some f) l ↔ l.node.isOf kind ∧ l.node.field = some f := by
  simp [isOf]

lemma mem_childrenOf : l ∈ childrenOf kind nodes ↔
    ∃ m ∈ nodes, l ∈ m.children ∧ l.node.isOf kind := by
  simp [childrenOf, isOf_none]

/-- The pairs of a call stand behind the name. -/
lemma mem_pairsOf {c : CallPair} : c ∈ pairsOf call nodes ↔ c.call = call ∧
    ∃ behind, c.name :: behind <:+ nodes ∧ isOf "identifier" (some "function") c.name ∧
      c.pair ∈ pairsAmong behind := by
  induction nodes with
  | nil => simp [pairsOf]
  | cons n nodes ih =>
    have split : c ∈ pairsOf call (n :: nodes) ↔ (isOf "identifier" (some "function") n ∧
        ∃ pair ∈ pairsAmong nodes, ⟨call, n, pair⟩ = c) ∨ c ∈ pairsOf call nodes := by
      rw [pairsOf]
      split <;> simp_all
    rw [split, ih]
    constructor
    · rintro (⟨isName, pair, mem, rfl⟩ | ⟨same, behind, suffix, more⟩)
      · exact ⟨rfl, nodes, List.suffix_rfl, isName, mem⟩
      · exact ⟨same, behind, suffix.trans (List.suffix_cons n nodes), more⟩
    · rintro ⟨rfl, behind, suffix, isName, mem⟩
      rcases List.suffix_cons_iff.1 suffix with whole | inner
      · obtain ⟨rfl, rfl⟩ := List.cons.inj whole
        exact .inl ⟨isName, c.pair, mem, rfl⟩
      · exact .inr ⟨rfl, behind, inner, isName, mem⟩

/-- A statement exports the calls that have a pair. -/
lemma mem_exportedBy {statement : Located} {c : CallPair} :
    statement.node.isOf "export_statement" ∧ c ∈ exportedBy statement ↔
      HasPair statement c.call c.name c.pair := by
  simp only [exportedBy, List.mem_flatMap, List.mem_filter, mem_pairsOf, isOf_some, pairsAmong,
    mem_childrenOf]
  constructor
  · rintro ⟨isExport, call, ⟨exported, isCall, isValue⟩, rfl, behind, suffix, ⟨isName, named⟩,
      object, ⟨arguments, ⟨mem, isArguments, held⟩, inArguments, isObject⟩, inObject, isPair⟩
    exact ⟨isExport, exported, isCall, isValue, arguments, object,
      pair_sublist_iff.2 ⟨behind, suffix, mem⟩, isName, named, isArguments, held, inArguments,
      isObject, inObject, isPair⟩
  · rintro ⟨isExport, exported, isCall, isValue, arguments, object, order, isName, named,
      isArguments, held, inArguments, isObject, inObject, isPair⟩
    obtain ⟨behind, suffix, mem⟩ := pair_sublist_iff.1 order
    exact ⟨isExport, c.call, ⟨exported, isCall, isValue⟩, rfl, behind, suffix, ⟨isName, named⟩,
      object, ⟨arguments, ⟨mem, isArguments, held⟩, inArguments, isObject⟩, inObject, isPair⟩

/-- The exported calls of a tree are those that its statements export. -/
lemma mem_exportedCalls {root : Located} {c : CallPair} : c ∈ exportedCalls root ↔
    ∃ statement : Located, statement.IsWithin root ∧ HasPair statement c.call c.name c.pair := by
  simp only [exportedCalls, List.mem_mergeSort, List.mem_flatMap, List.mem_filter, isOf_none,
    Located.mem_nodes, ← mem_exportedBy, and_assoc]

/-- The search finds the exported calls of the function. -/
lemma mem_searchCalls {s : Source} {function : String} {c : CallPair} :
    c ∈ searchCalls s function ↔
      FileCalls s c.call c.name c.pair ∧ c.name.node.text s.text = function := by
  rw [searchCalls, List.mem_filter, mem_exportedCalls, decide_eq_true_eq]
  rfl

end Members

/-! ## What the pattern finds -/

section Outcomes
variable {kind : String} {field : Option String} {names : List String} {place : Nat}
  {nodes : List Located}

lemma filter_accepts : nodes.filter (fun l => (Shape.ofKind kind field names place).accepts l.node)
    = nodes.filter (isOf kind field) := by
  refine List.filter_congr fun l _ => ?_
  rw [Bool.eq_iff_iff, accepts_ofKind]
  cases field with
  | none => simp [isOf_none]
  | some f => simp [isOf_some]

/-- What is found at nodes of a kind, when nothing is asked for below them. -/
lemma outcomes_kind : outcomes [.node (.ofKind kind field names place) []] nodes
    = (nodes.filter (isOf kind field)).map fun l =>
        (names.map (⟨·, l.address, l.node⟩), l.address) := by
  rw [outcomes_single rfl, filter_accepts]
  simp [outcomes_nil, Shape.outcome, Shape.capturesOf, ← List.map_eq_flatMap]

/-- What is found at nodes of a kind and below them. -/
lemma outcomes_kind_above {s : Shape} {below ps : List Pattern} (loose : s.isLoose) :
    outcomes [.node (.ofKind kind field names place) (.node s below :: ps)] nodes
      = (nodes.filter (isOf kind field)).flatMap fun l =>
          (outcomes (.node s below :: ps) l.children).map fun v =>
            (names.map (⟨·, l.address, l.node⟩) ++ v.1, v.2) := by
  rw [outcomes_single rfl, filter_accepts]
  refine List.flatMap_congr fun l _ => List.map_congr_left fun v mem => ?_
  have last := last_ne_nil loose (fun m => Located.address_ne_nil) mem
  simp [Shape.outcome, Shape.capturesOf, last]

/-- The pattern of the pairs among arguments, with its places. -/
def pairsPattern (i j k : Nat) : Pattern :=
  .node (.ofKind "arguments" (some "arguments") [] i)
    [.node (.ofKind "object" none [] j) [.node (.ofKind "pair" none ["pair"] k) []]]

/-- The pattern finds the pairs in objects among arguments. -/
lemma outcomes_pairs (i j k : Nat) : outcomes [pairsPattern i j k] nodes
    = (pairsAmong nodes).map fun pair => ([⟨"pair", pair.address, pair.node⟩], pair.address) := by
  rw [pairsPattern, outcomes_kind_above rfl]
  simp only [outcomes_kind_above (s := .ofKind "pair" none ["pair"] k) rfl, outcomes_kind,
    pairsAmong, childrenOf, List.map_flatMap, List.flatMap_assoc, List.map_map, List.map_nil,
    List.nil_append, Prod.mk.eta, Function.comp_def]
  rfl

/-- The pattern finds the names that may be called, with the pairs behind each. -/
lemma outcomes_name (call : Located) (h i j k : Nat) :
    outcomes [.node (.ofKind "identifier" (some "function") ["function"] h) [],
        pairsPattern i j k] nodes
      = (pairsOf call nodes).map fun c => ([⟨"function", c.name.address, c.name.node⟩,
          ⟨"pair", c.pair.address, c.pair.node⟩], c.pair.address) := by
  have accepts (n : Located) :
      (Shape.ofKind "identifier" (some "function") ["function"] h).accepts n.node
        = isOf "identifier" (some "function") n := by
    rw [Bool.eq_iff_iff, accepts_ofKind, isOf_some]
    simp
  -- A pair stands below other nodes, so it is the last node that is needed.
  have here (n : Located) (behind : List Located) : (outcomes [pairsPattern i j k] behind).map
      (fun u => (Shape.ofKind "identifier" (some "function") ["function"] h).outcome n ([], []) u)
      = (pairsAmong behind).map fun pair => ([⟨"function", n.address, n.node⟩,
          ⟨"pair", pair.address, pair.node⟩], pair.address) := by
    rw [outcomes_pairs, List.map_map]
    refine List.map_congr_left fun pair mem => ?_
    obtain ⟨object, -, inObject, -⟩ := mem_childrenOf.1 mem
    simp [Shape.outcome, Shape.capturesOf, Located.address_ne_nil inObject]
  rw [outcomes_cons rfl]
  induction nodes with
  | nil => rfl
  | cons n nodes ih =>
    rw [candidates, if_neg Bool.false_ne_true, accepts, pairsOf]
    split
    · rw [List.flatMap_cons, ih, List.map_append, List.map_map, outcomes_nil, List.flatMap_cons,
        List.flatMap_nil, List.append_nil, here]
      rfl
    · exact ih

/-- What a match of the pattern of calls holds. -/
def CallPair.captures (c : CallPair) : List Capture := callCaptures c.call c.name c.pair

/-- What a match of the pattern of calls holds, and the node that completes it. -/
def CallPair.outcome (c : CallPair) : List Capture × Query.Address := (c.captures, c.pair.address)

/-- The pattern of the calls that a statement exports, with its places. -/
def callPattern (g h i j k : Nat) : Pattern :=
  .node (.ofKind "call_expression" (some "value") ["call"] g)
    [.node (.ofKind "identifier" (some "function") ["function"] h) [], pairsPattern i j k]

/-- The pattern finds what a statement exports. -/
lemma outcomes_call (g h i j k : Nat) (statement : Located) :
    outcomes [callPattern g h i j k] statement.children
      = (exportedBy statement).map CallPair.outcome := by
  rw [callPattern, outcomes_kind_above rfl, exportedBy, List.map_flatMap]
  refine List.flatMap_congr fun call _ => ?_
  rw [outcomes_name call, List.map_map]
  refine List.map_congr_left fun c mem => ?_
  obtain ⟨rfl, -⟩ := mem_pairsOf.1 mem
  rfl

/-- A statement has no name, and is not the last node that is needed. -/
lemma outcomes_statement (place g h i j k : Nat) (statement : Located) :
    (outcomes [callPattern g h i j k] statement.children).map (fun v =>
        (Shape.ofKind "export_statement" none [] place).outcome statement v ([], []))
      = (exportedBy statement).map CallPair.outcome := by
  rw [← outcomes_call g h i j k]
  refine (List.map_congr_left fun v mem => ?_).trans (List.map_id _)
  have last : v.2 ≠ [] := last_ne_nil rfl (fun m => Located.address_ne_nil) mem
  simp [Shape.outcome, Shape.capturesOf, last]

end Outcomes

/-! ## Distinct pairs -/

section Distinct
variable {nodes : List Located} {kind : String}

/-- Whether no two of several nodes stand at one address. -/
def AreApart (nodes : List Located) : Prop := nodes.Pairwise fun a b => a.address ≠ b.address

/-- The nodes directly below a node are told by an index, which grows. -/
lemma pairwise_children (l : Located) : l.children.Pairwise fun a b =>
    ∃ i j, i < j ∧ a.address = l.address ++ [i] ∧ b.address = l.address ++ [j] := by
  rw [Located.children, List.pairwise_iff_getElem]
  intro i j first second less
  exact ⟨i, j, less, by rw [List.getElem_mapIdx], by rw [List.getElem_mapIdx]⟩

lemma areApart_children (l : Located) : AreApart l.children := by
  refine (pairwise_children l).imp ?_
  rintro a b ⟨i, j, less, address, address'⟩ same
  rw [address, address', List.append_cancel_left_eq, List.cons.injEq] at same
  exact Nat.ne_of_lt less same.1

/-- What stands below nodes that are apart is apart. -/
lemma AreApart.childrenOf (apart : AreApart nodes) : AreApart (childrenOf kind nodes) := by
  rw [AreApart, Extraction.childrenOf, List.pairwise_flatMap]
  refine ⟨fun l _ => (areApart_children l).filter _, apart.imp fun {a b} other x mem y mem' => ?_⟩
  obtain ⟨i, -, address⟩ := Located.mem_children.1 (List.mem_of_mem_filter mem)
  obtain ⟨j, -, address'⟩ := Located.mem_children.1 (List.mem_of_mem_filter mem')
  rw [address, address']
  exact fun same => other (List.append_inj_left' same rfl)

/-- The places that tell exported calls apart. -/
def CallPair.key (c : CallPair) : List (String × Query.Address) :=
  c.captures.map fun capture => (capture.name, capture.address)

lemma CallPair.key_eq_iff {c d : CallPair} : c.key = d.key ↔ c.call.address = d.call.address ∧
    c.name.address = d.name.address ∧ c.pair.address = d.pair.address := by
  simp [key, captures, callCaptures]

/-- The names and pairs of a call are told by their places. -/
lemma pairwise_pairsOf (call : Located) (apart : AreApart nodes) :
    (pairsOf call nodes).Pairwise fun c d => c.key ≠ d.key := by
  induction nodes with
  | nil => exact List.Pairwise.nil
  | cons name behind ih =>
    obtain ⟨others, apart⟩ := List.pairwise_cons.1 apart
    rw [pairsOf]
    split
    · rw [List.pairwise_append]
      refine ⟨?_, ih apart, ?_⟩
      · have pairs : AreApart (pairsAmong behind) :=
          AreApart.childrenOf (AreApart.childrenOf (apart.filter _))
        exact List.pairwise_map.2
          (pairs.imp fun other same => other (CallPair.key_eq_iff.1 same).2.2)
      · intro c mem d mem' same
        obtain ⟨pair, -, rfl⟩ := List.mem_map.1 mem
        obtain ⟨-, rest, suffix, -⟩ := mem_pairsOf.1 mem'
        exact others d.name (suffix.subset List.mem_cons_self) (CallPair.key_eq_iff.1 same).2.1
    · exact ih apart

/-- The calls that a statement exports are told by their places. -/
lemma pairwise_exportedBy (statement : Located) :
    (exportedBy statement).Pairwise fun c d => c.key ≠ d.key := by
  rw [exportedBy, List.pairwise_flatMap]
  refine ⟨fun call _ => pairwise_pairsOf call (areApart_children call),
    ((areApart_children statement).filter _).imp fun {a b} other c mem d mem' same => other ?_⟩
  obtain ⟨rfl, -⟩ := mem_pairsOf.1 mem
  obtain ⟨rfl, -⟩ := mem_pairsOf.1 mem'
  exact (CallPair.key_eq_iff.1 same).1

end Distinct

/-! ## The pattern and the search -/

/-- A node comes before those below it, and before those behind. -/
lemma isLE_append (address : Query.Address) {p q : Query.Address} (before : (compare p q).isLE) :
    (compare (address ++ p) (address ++ q)).isLE := by
  induction address with
  | nil => exact before
  | cons i address ih =>
    have same : compare i i = .eq := Std.ReflCmp.compare_self
    rw [List.cons_append, List.cons_append, List.compare_cons_cons, same]
    exact ih

/-- The nodes of an exported call stand in the order in which a match holds them. -/
lemma HasPair.sortCaptures_eq {statement call name pair : Located}
    (owned : HasPair statement call name pair) :
    Compiled.sortCaptures (callCaptures call name pair) = callCaptures call name pair := by
  obtain ⟨-, -, -, -, arguments, object, order, -, -, -, -, inArguments, -, inObject, -⟩ := owned
  obtain ⟨i, j, less, named, held⟩ : ∃ i j, i < j ∧ name.address = call.address ++ [i] ∧
      arguments.address = call.address ++ [j] :=
    List.pairwise_pair.1 ((pairwise_children call).sublist order)
  obtain ⟨k, -, inner⟩ := Located.mem_children.1 inArguments
  obtain ⟨l, -, innermost⟩ := Located.mem_children.1 inObject
  have pairs : pair.address = call.address ++ [j, k, l] := by
    rw [innermost, inner, held]
    simp
  have first (p : Query.Address) : (compare call.address (call.address ++ p)).isLE := by
    have before : (compare [] p).isLE := by cases p <;> rfl
    simpa using isLE_append call.address before
  have second : (compare name.address pair.address).isLE := by
    rw [named, pairs]
    refine isLE_append _ ?_
    rw [List.compare_cons_cons, Nat.compare_eq_lt.2 less]
    rfl
  refine List.mergeSort_of_pairwise ?_
  simp only [callCaptures, List.pairwise_cons, List.mem_cons, List.not_mem_nil, or_false,
    forall_eq_or_imp, forall_eq, false_imp_iff, implies_true, List.Pairwise.nil, and_true]
  exact ⟨⟨named ▸ first _, pairs ▸ first _⟩, second⟩

/-- The ways of the pattern of calls are the exported calls. -/
lemma map_allWays_calls (place g h i j k : Nat) (root : Located) :
    (allWays [.node (.ofKind "export_statement" none [] place) [callPattern g h i j k]] root).map
        Way.outcome
      = (exportedCalls root).map CallPair.outcome := by
  refine (map_allWays rfl fun statement => ?_).trans ?_
  · have keys := congrArg (List.map fun v => v.1.map fun c => (c.name, c.address))
      (outcomes_statement place g h i j k statement)
    rw [List.map_map, List.map_map] at keys
    exact keys ▸ List.pairwise_map.2 (pairwise_exportedBy statement)
  · rw [filter_accepts, exportedCalls]
    simp only [outcomes_statement, ← List.map_flatMap]
    exact (List.map_mergeSort (f := CallPair.outcome) (s := fun a b => (compare a.2 b.2).isLE)
      fun a _ b _ => rfl).symm

/-- The pattern of calls finds what the search finds, in the same order. -/
theorem matchesIn_routeCalls (s : Source) (function : String) :
    (routeCalls function).matchesIn s.text ⟨[], s.tree⟩
      = (searchCalls s function).map CallPair.captures := by
  obtain ⟨place, g, h, i, j, k, e⟩ : ∃ place g h i j k, routeCalls function
      = ⟨[⟨[.node (.ofKind "export_statement" none [] place) [callPattern g h i j k]],
        [⟨.oneOf "function" [function], true, true⟩]⟩]⟩ := ⟨_, _, _, _, _, _, rfl⟩
  have ways : (allWays [.node (.ofKind "export_statement" none [] place) [callPattern g h i j k]]
      ⟨[], s.tree⟩).map (fun w => Compiled.sortCaptures w.captures)
      = (exportedCalls ⟨[], s.tree⟩).map CallPair.captures := by
    have sorted := congrArg (List.map fun o => Compiled.sortCaptures o.1)
      (map_allWays_calls place g h i j k ⟨[], s.tree⟩)
    rw [List.map_map, List.map_map] at sorted
    refine sorted.trans (List.map_congr_left fun c mem => ?_)
    obtain ⟨statement, -, owned⟩ := mem_exportedCalls.1 mem
    exact owned.sortCaptures_eq
  rw [e, matchesIn_conditional, ways, List.filter_map, searchCalls]
  congr 1
  refine List.filter_congr fun c _ => ?_
  -- The condition is about the only node that is named as the function.
  rw [Bool.eq_iff_iff]
  simp [holds_oneOf, CallPair.captures, callCaptures]

/-- For every function that a run accepts, and every extension, an extractor can be made, although
the name of the function becomes part of a pattern as it is. What its pattern of calls finds in a
file is what a search of the tree finds, in the same order: the exported calls of a name with
exactly that text, each with every pair of the objects it is given. -/
theorem Extractor.matches_eq_searchCalls (fs : FileSystem) (c : Config)
    (valid : c.validate fs = .ok ()) (extension : String) :
    ∃ e, Extractor.make c.routeFunction extension = .ok e ∧ e.extension = extension ∧
      ∀ s : Source,
        e.routeCall.matchesIn s.text ⟨[], s.tree⟩
          = (searchCalls s c.routeFunction).map CallPair.captures ∧
        ∀ o : CallPair, o ∈ searchCalls s c.routeFunction ↔
          FileCalls s o.call o.name o.pair ∧ o.name.node.text s.text = c.routeFunction := by
  have accepted : Config.isRouteFunction c.routeFunction := by
    rw [Config.validate] at valid
    split_ifs at valid with _ _ _ _ refused
    simpa using refused
  exact ⟨_, make_eq_ok (isPlainText_of_isRouteFunction accepted) extension, rfl,
    fun s => ⟨matchesIn_routeCalls s c.routeFunction, fun o => mem_searchCalls⟩⟩

/-- A run on an empty directory looks for the call that the sample exports. -/
theorem Extractor.matches_eq_searchCalls_sample :
    let fs : FileSystem := ⟨.directory [], []⟩
    let c : Config := { root := ⟨Name.dot⟩, logicalPrefix := ".", concurrency := 4 }
    c.validate fs = .ok () ∧ ∃ e, Extractor.make c.routeFunction "ts" = .ok e ∧
      callCaptures (sampleAt [1, 2]) (sampleAt [1, 2, 0]) (sampleAt [1, 2, 1, 1, 1])
        ∈ e.routeCall.matchesIn sample.text ⟨[], sample.tree⟩ := by
  intro fs c
  have valid : c.validate fs = .ok () := by decide +kernel
  obtain ⟨e, made, -, found⟩ := Extractor.matches_eq_searchCalls fs c valid "ts"
  obtain ⟨listed, searched⟩ := found sample
  refine ⟨valid, e, made, ?_⟩
  rw [listed]
  exact List.mem_map.2 ⟨⟨_, _, _⟩, (searched _).2 ⟨fileCalls_sample, text_sample _⟩, rfl⟩

end RouteAtlas.Extraction
