import Mathlib.Tactic.Lemma
import RouteAtlas.Query.Basic

/-!
# What is matched

The nodes of a tree are told by their addresses (`Syntax.Node.at?`), and a query goes through all of
them (`mem_places`). A pattern of nodes is found wherever there are nodes that it accepts, in their
order (`mem_ways_node`, `mem_waysAll_cons`), and the matches of a query are the ways to find it, in
the order of the nodes that complete them (`mem_matchesIn`, `pairwise_allWays`).
-/

namespace RouteAtlas

namespace Syntax.Node

/-- The node at an address: the indices of the children that lead to it. -/
def at? (n : Node) : List Nat → Option Node
  | [] => some n
  | i :: rest => n.children[i]?.bind fun c => c.at? rest

/-- The way to a node below another one leads through that one. -/
lemma at?_append (n : Node) (p q : List Nat) :
    n.at? (p ++ q) = (n.at? p).bind fun m => m.at? q := by
  induction p generalizing n with
  | nil => rfl
  | cons i p ih =>
    rw [List.cons_append, at?, at?]
    cases n.children[i]? with
    | none => rfl
    | some c => exact ih c

/-- Whether the node is of a syntactic kind, and no fault. -/
def isOf (kind : String) (n : Node) : Bool := n.kind = kind && n.isNamed && !n.info.isError

end Syntax.Node

namespace Query

open Syntax

/-! ## Nodes and addresses -/

namespace Located

/-- Whether the node is the root or stands below it, where its address says. -/
def IsWithin (l root : Located) : Prop :=
  ∃ p, l.address = root.address ++ p ∧ root.node.at? p = some l.node

variable {l m root : Located}

/-- The nodes directly below a node are told from it by an index. -/
lemma mem_children : m ∈ l.children ↔
    ∃ i, l.node.children[i]? = some m.node ∧ m.address = l.address ++ [i] := by
  rw [children, List.mem_mapIdx]
  constructor
  · rintro ⟨i, bound, rfl⟩
    exact ⟨i, List.getElem?_eq_getElem bound, rfl⟩
  · rintro ⟨i, found, address⟩
    obtain ⟨bound, found⟩ := List.getElem?_eq_some_iff.1 found
    refine ⟨i, bound, ?_⟩
    rw [found, ← address]

/-- What stands directly below a node within a tree is within that tree. -/
lemma IsWithin.of_mem_children (within : l.IsWithin root) (mem : m ∈ l.children) :
    m.IsWithin root := by
  obtain ⟨p, address, found⟩ := within
  obtain ⟨i, child, address'⟩ := mem_children.1 mem
  refine ⟨p ++ [i], by rw [address', address, List.append_assoc], ?_⟩
  rw [Node.at?_append, found, Option.bind_some, Node.at?, child]
  rfl

/-- Within a tree there is one node at an address. -/
lemma IsWithin.ext (within : l.IsWithin root) (within' : m.IsWithin root)
    (address : l.address = m.address) : l = m := by
  obtain ⟨p, leads, found⟩ := within
  obtain ⟨q, leads', found'⟩ := within'
  have same : p = q := by
    rw [leads, leads'] at address
    exact List.append_cancel_left address
  obtain ⟨a, n⟩ := l
  obtain ⟨b, n'⟩ := m
  cases address
  rw [same, found'] at found
  cases found
  rfl

lemma address_ne_nil (mem : m ∈ l.children) : m.address ≠ [] := by
  obtain ⟨i, -, address⟩ := mem_children.1 mem
  rw [address]
  exact List.append_ne_nil_of_right_ne_nil _ (List.cons_ne_nil i [])

end Located

mutual

/-- The places of a tree are its nodes, with addresses that continue that of the tree. -/
lemma mem_places {l : Located} (address : Address) (siblings : List Located) : (n : Node) →
    (l ∈ (places address siblings n).map Prod.fst ↔
      ∃ p, l.address = address ++ p ∧ n.at? p = some l.node)
  | .node info children => by
    rw [places, List.map_cons, List.mem_cons, mem_placesBelow address 0 children]
    constructor
    · rintro (rfl | ⟨i, p, same, found⟩)
      · exact ⟨[], by simp, rfl⟩
      · exact ⟨i :: p, by simpa using same, found⟩
    · rintro ⟨_ | ⟨i, p⟩, same, found⟩
      · refine .inl ?_
        obtain ⟨a, n⟩ := l
        cases found
        rw [List.append_nil] at same
        exact congrArg (Located.mk · _) same
      · exact .inr ⟨i, p, by simpa using same, found⟩

/-- The same for the nodes below an address, from an index on. -/
lemma mem_placesBelow {l : Located} (address : Address) (i : Nat) : (ns : List Node) →
    (l ∈ (placesBelow address i ns).map Prod.fst ↔
      ∃ j p, l.address = address ++ (i + j) :: p ∧ (ns[j]?.bind fun c => c.at? p) = some l.node)
  | [] => by simp [placesBelow]
  | n :: ns => by
    rw [placesBelow, List.map_append, List.mem_append, mem_places _ _ n,
      mem_placesBelow address (i + 1) ns]
    constructor
    · rintro (⟨p, same, found⟩ | ⟨j, p, same, found⟩)
      · exact ⟨0, p, by simpa using same, found⟩
      · exact ⟨j + 1, p, by rw [same, Nat.add_assoc, Nat.add_comm 1], found⟩
    · rintro ⟨_ | j, p, same, found⟩
      · exact .inl ⟨p, by simpa using same, found⟩
      · exact .inr ⟨j, p, by rw [same, Nat.add_assoc, Nat.add_comm 1], found⟩

end

/-- If all nodes of a kind are at one address, then there is only one. -/
lemma eq_of_only {l m : Located} {tree : Node} {kind : String} {address : Address}
    (only : ∀ l ∈ (places [] [] tree).map Prod.fst, l.node.isOf kind → l.address = address)
    (within : l.IsWithin ⟨[], tree⟩) (isKind : l.node.isOf kind) (within' : m.IsWithin ⟨[], tree⟩)
    (same : m.address = address) : l = m :=
  within.ext within' ((only l ((mem_places [] [] tree).2 within) isKind).trans same.symm)

/-! ## Ways -/

/-- Two elements of which one stands behind the other. -/
lemma pair_sublist_iff {α : Type} {x y : α} {xs : List α} :
    [x, y].Sublist xs ↔ ∃ rest, x :: rest <:+ xs ∧ y ∈ rest := by
  rw [List.cons_sublist_iff]
  constructor
  · rintro ⟨front, back, rfl, mem, behind⟩
    obtain ⟨before, between, rfl⟩ := List.append_of_mem mem
    exact ⟨between ++ back, ⟨before, by simp⟩,
      List.mem_append_right _ (List.singleton_sublist.1 behind)⟩
  · rintro ⟨rest, ⟨before, rfl⟩, mem⟩
    exact ⟨before ++ [x], rest, by simp, by simp, List.singleton_sublist.2 mem⟩

section Ways
variable {l : Located} {w : Way} {nodes rest behind : List Located} {s : Shape}
  {below ps : List Pattern} {captures : List Capture} {last : Address}

/-- The candidates are the accepted nodes, each with those behind it. -/
lemma mem_candidates {accepts : Located → Bool} :
    (l, rest) ∈ candidates false accepts nodes ↔ l :: rest <:+ nodes ∧ accepts l := by
  induction nodes with
  | nil => simp [candidates]
  | cons n nodes ih =>
    rw [List.suffix_cons_iff, or_and_right, ← ih, candidates, if_neg Bool.false_ne_true]
    by_cases accepted : accepts n
    · rw [if_pos accepted, List.mem_cons]
      refine or_congr_left ⟨?_, ?_⟩
      · rintro ⟨⟩
        exact ⟨rfl, accepted⟩
      · rintro ⟨⟨⟩, -⟩
        rfl
    · rw [if_neg accepted]
      refine (or_iff_right ?_).symm
      rintro ⟨⟨⟩, accepted'⟩
      exact accepted accepted'

/-- What a pattern finds at a node: the names that it gives there and below. -/
def Way.atNode (s : Shape) (l : Located) (v : Way) (rest : List Located) : Way where
  captures := s.capturesOf l ++ v.captures
  last := if v.last.isEmpty then l.address else v.last
  rest := rest

/-- Whether a shape neither ties a node to the one before it nor makes it the last. -/
def Shape.isLoose (s : Shape) : Bool := !s.isAdjacent && !s.isLast

/-- A pattern of a node is found at the nodes that it accepts. -/
lemma mem_ways_node (loose : s.isLoose) :
    w ∈ ways (.node s below) nodes ↔ ∃ l rest, l :: rest <:+ nodes ∧ s.accepts l.node ∧
      ∃ v ∈ waysAll below l.children, w = .atNode s l v rest := by
  simp only [Shape.isLoose, Bool.and_eq_true, Bool.not_eq_true'] at loose
  simp only [ways, loose.1, loose.2, Bool.false_and, Bool.false_eq_true, if_false, List.mem_flatMap,
    List.mem_map, Prod.exists, mem_candidates, and_assoc, Way.atNode, eq_comm]

/-- The ways to find the root of a query at a given node, which is tied to its place: among the
candidates there is that node alone. -/
lemma waysFrom_node (loose : s.isLoose) : waysFrom [.node s below] l behind
    = if s.accepts l.node then (waysAll below l.children).map fun v => .atNode s l v behind
      else [] := by
  simp only [Shape.isLoose, Bool.and_eq_true, Bool.not_eq_true'] at loose
  have alone (a : Way) : a.andThen { rest := a.rest } = a := by
    simp [Way.andThen]
  have root : ways (Pattern.node s below).adjacent (l :: behind)
      = if s.accepts l.node then (waysAll below l.children).map fun v => .atNode s l v behind
        else [] := by
    rw [Pattern.adjacent, Pattern.modifyFirst, ways, candidates, if_pos rfl]
    simp only [loose.2, Bool.false_and, Bool.false_eq_true, if_false]
    change List.flatMap _ (if s.accepts l.node then _ else _) = _
    split
    · rw [List.flatMap_singleton]
      rfl
    · rfl
  simp only [waysFrom, waysAll, List.map_cons, List.map_nil, alone, List.flatMap_singleton', root]

/-- The root of a query is found at a given node, if it accepts that. -/
lemma mem_waysFrom (loose : s.isLoose) :
    w ∈ waysFrom [.node s below] l behind ↔ s.accepts l.node ∧
      ∃ v ∈ waysAll below l.children, w = .atNode s l v behind := by
  rw [waysFrom_node loose]
  split
  next accepts => simp only [List.mem_map, accepts, true_and, eq_comm]
  next refused => simp [refused]

/-- Whether patterns are found one behind the other among nodes, with the given names and the given
last node. -/
def Finds (ps : List Pattern) (nodes : List Located) (captures : List Capture) (last : Address) :
    Prop :=
  ∃ w ∈ waysAll ps nodes, w.captures = captures ∧ w.last = last

/-- Nothing is asked for, and nothing found. -/
lemma finds_nil : Finds [] nodes captures last ↔ captures = [] ∧ last = [] := by
  simp [Finds, waysAll, eq_comm]

/-- A pattern of a node is found at a node that it accepts, with what is found below that node, and
the others are found behind it. -/
lemma finds_cons (loose : s.isLoose) : Finds (.node s below :: ps) nodes captures last ↔
    ∃ l rest, l :: rest <:+ nodes ∧ s.accepts l.node ∧
      ∃ within last', Finds below l.children within last' ∧
      ∃ others last'', Finds ps rest others last'' ∧
        captures = s.capturesOf l ++ within ++ others ∧
        last = if last''.isEmpty then if last'.isEmpty then l.address else last' else last'' := by
  simp only [Finds, waysAll, List.mem_flatMap, List.mem_map, mem_ways_node loose]
  constructor
  · rintro ⟨_, ⟨_, ⟨l, rest, behind, accepts, v, found, rfl⟩, u, others, rfl⟩, rfl, rfl⟩
    exact ⟨l, rest, behind, accepts, _, _, ⟨v, found, rfl, rfl⟩, _, _, ⟨u, others, rfl, rfl⟩, rfl,
      rfl⟩
  · rintro ⟨l, rest, behind, accepts, _, _, ⟨v, found, rfl, rfl⟩, _, _, ⟨u, others, rfl, rfl⟩, rfl,
      rfl⟩
    exact ⟨_, ⟨_, ⟨l, rest, behind, accepts, v, found, rfl⟩, u, others, rfl⟩, rfl, rfl⟩

/-- A pattern of one node is found at any of the nodes that it accepts. -/
lemma finds_single (loose : s.isLoose) : Finds [.node s below] nodes captures last ↔
    ∃ l ∈ nodes, s.accepts l.node ∧ ∃ within last', Finds below l.children within last' ∧
      captures = s.capturesOf l ++ within ∧
      last = if last'.isEmpty then l.address else last' := by
  rw [finds_cons loose]
  constructor
  · rintro ⟨l, rest, behind, accepts, within, last', found, others, last'', none, rfl, rfl⟩
    obtain ⟨rfl, rfl⟩ := finds_nil.1 none
    exact ⟨l, behind.subset List.mem_cons_self, accepts, within, last', found,
      List.append_nil _, rfl⟩
  · rintro ⟨l, mem, accepts, within, last', found, rfl, rfl⟩
    obtain ⟨front, rest, rfl⟩ := List.append_of_mem mem
    exact ⟨l, rest, List.suffix_append front _, accepts, within, last', found, [], [],
      finds_nil.2 ⟨rfl, rfl⟩, (List.append_nil _).symm, rfl⟩

/-- The shape of a node of a syntactic kind, held under a field or not. -/
abbrev Shape.ofKind (kind : String) (field : Option String) (names : List String) (place : Nat) :
    Shape where
  test := .kind kind true
  field := field
  captures := names
  place := place

section Kinds
variable {kind : String} {field : Option String} {names : List String} {place : Nat}

/-- What the shape of a kind accepts. -/
lemma accepts_ofKind {n : Node} : (Shape.ofKind kind field names place).accepts n ↔
    n.isOf kind ∧ ∀ f ∈ field, n.field = some f := by
  cases field with
  | none => simp [Shape.accepts, Test.accepts, Node.isOf]
  | some f =>
    simp only [Shape.accepts, Test.accepts, Node.isOf, Option.isNone_some, Bool.false_or,
      List.all_nil, Bool.and_true, Bool.and_eq_true, decide_eq_true_eq, Option.mem_some_iff,
      forall_eq']
    exact and_congr_right fun _ => eq_comm

/-- What is found at a node of a kind. -/
lemma finds_kind : Finds [.node (.ofKind kind field names place) below] nodes captures last ↔
    ∃ l ∈ nodes, (l.node.isOf kind ∧ ∀ f ∈ field, l.node.field = some f) ∧
      ∃ within last', Finds below l.children within last' ∧
        captures = (names.map fun name => ⟨name, l.address, l.node⟩) ++ within ∧
        last = if last'.isEmpty then l.address else last' := by
  simp only [finds_single (s := .ofKind kind field names place) rfl, accepts_ofKind,
    Shape.capturesOf]

/-- What is found at two nodes of given kinds below another one. -/
lemma finds_kind_pair {kind' : String} {field' : Option String} {names' : List String}
    {place' : Nat} {below' : List Pattern} : Finds [.node (.ofKind kind field names place) below,
      .node (.ofKind kind' field' names' place') below'] l.children captures last ↔
    ∃ m n, [m, n].Sublist l.children ∧ (m.node.isOf kind ∧ ∀ f ∈ field, m.node.field = some f) ∧
      (n.node.isOf kind' ∧ ∀ f ∈ field', n.node.field = some f) ∧
      ∃ within last', Finds below m.children within last' ∧
      ∃ within' last'', Finds below' n.children within' last'' ∧
        captures = (names.map fun name => ⟨name, m.address, m.node⟩) ++ within
          ++ ((names'.map fun name => ⟨name, n.address, n.node⟩) ++ within') ∧
        last = if last''.isEmpty then n.address else last'' := by
  simp only [finds_cons (s := .ofKind kind field names place) rfl, accepts_ofKind,
    Shape.capturesOf, finds_kind, pair_sublist_iff]
  -- The second node stands below another one, so it or a node below it is the last one.
  have overridden {m n : Located} {rest : List Located} {last' last'' : Address}
      (behind : m :: rest <:+ l.children) (mem : n ∈ rest) :
      (if (if last''.isEmpty then n.address else last'').isEmpty then
          if last'.isEmpty then m.address else last'
        else if last''.isEmpty then n.address else last'')
      = if last''.isEmpty then n.address else last'' := by
    have more := Located.address_ne_nil (behind.subset (List.mem_cons_of_mem m mem))
    cases last'' <;> simp [more]
  constructor
  · rintro ⟨m, rest, behind, kind, within, last', found, _, _,
      ⟨n, mem, kind', within', last'', found', rfl, rfl⟩, rfl, rfl⟩
    exact ⟨m, n, ⟨rest, behind, mem⟩, kind, kind', within, last', found, within', last'', found',
      rfl, overridden behind mem⟩
  · rintro ⟨m, n, ⟨rest, behind, mem⟩, kind, kind', within, last', found, within', last'', found',
      rfl, rfl⟩
    exact ⟨m, rest, behind, kind, within, last', found, _, _,
      ⟨n, mem, kind', within', last'', found', rfl, rfl⟩, rfl, (overridden behind mem).symm⟩

end Kinds

end Ways

/-! ## Matches -/

/-- What tells ways apart: which names they give to which nodes. -/
def Way.key (w : Way) : List (String × Address) := w.captures.map fun c => (c.name, c.address)

/-- Of several ways there is one for each key. -/
lemma mem_distinctWays (ws : List Way) :
    (∀ w ∈ distinctWays ws, w ∈ ws) ∧ ∀ w ∈ ws, ∃ v ∈ distinctWays ws, v.key = w.key := by
  -- A way is left out only if one with its key is there already, so no key is lost.
  let add (acc : List Way) (w : Way) : List Way :=
    if acc.any fun v => v.key = w.key then acc else acc ++ [w]
  have run (acc ws : List Way) : (∀ w ∈ ws.foldl add acc, w ∈ acc ∨ w ∈ ws) ∧
      ∀ w, w ∈ acc ∨ w ∈ ws → ∃ v ∈ ws.foldl add acc, v.key = w.key := by
    induction ws generalizing acc with
    | nil =>
      exact ⟨fun w mem => .inl mem, fun w mem => ⟨w, mem.resolve_right List.not_mem_nil, rfl⟩⟩
    | cons u ws ih =>
      obtain ⟨sound, complete⟩ := ih (add acc u)
      have of_add {w : Way} (mem : w ∈ add acc u) : w ∈ acc ∨ w = u := by
        revert mem
        simp only [add]
        split
        · exact .inl
        · simp
      have key_of_add {w : Way} (mem : w ∈ acc ∨ w = u) : ∃ v ∈ add acc u, v.key = w.key := by
        simp only [add]
        split
        next found =>
          rcases mem with mem | rfl
          · exact ⟨w, mem, rfl⟩
          · simpa using found
        next => exact ⟨w, by simpa using mem, rfl⟩
      rw [List.foldl_cons]
      constructor
      · intro w mem
        rcases sound w mem with mem | mem
        · rcases of_add mem with mem | rfl
          · exact .inl mem
          · exact .inr List.mem_cons_self
        · exact .inr (List.mem_cons_of_mem u mem)
      · intro w mem
        rw [List.mem_cons, ← or_assoc] at mem
        rcases mem with mem | mem
        · obtain ⟨v, mem, key⟩ := key_of_add mem
          obtain ⟨v', mem', key'⟩ := complete v (.inl mem)
          exact ⟨v', mem', key'.trans key⟩
        · exact complete w (.inr mem)
  obtain ⟨sound, complete⟩ := run [] ws
  exact ⟨fun w mem => (sound w mem).resolve_left List.not_mem_nil,
    fun w mem => complete w (.inr mem)⟩

section Matches
variable {root l : Located} {w : Way} {s : Shape} {below : List Pattern}
  {within : List Capture} {last : Address}

/-- Each way of a query is found at a node of the tree. -/
lemma exists_of_mem_allWays (loose : s.isLoose) (mem : w ∈ allWays [.node s below] root) :
    ∃ l : Located, l.IsWithin root ∧ s.accepts l.node ∧
      ∃ within last, Finds below l.children within last ∧ w.captures = s.capturesOf l ++ within ∧
        w.last = if last.isEmpty then l.address else last := by
  rw [allWays, List.mem_mergeSort, List.mem_flatMap] at mem
  obtain ⟨⟨l, behind⟩, place, mem⟩ := mem
  obtain ⟨accepts, v, found, rfl⟩ := (mem_waysFrom loose).1 ((mem_distinctWays _).1 w mem)
  exact ⟨l, (mem_places _ _ _).1 (List.mem_map_of_mem place), accepts, _, _,
    ⟨v, found, rfl, rfl⟩, rfl, rfl⟩

/-- For what is found at a node of the tree, there is a way of the query that gives the same names
to the nodes at the same addresses. -/
lemma exists_mem_allWays (loose : s.isLoose) (inTree : l.IsWithin root)
    (accepts : s.accepts l.node) (found : Finds below l.children within last) :
    ∃ w ∈ allWays [.node s below] root,
      w.key = (s.capturesOf l ++ within).map fun c => (c.name, c.address) := by
  obtain ⟨⟨l', behind⟩, place, rfl⟩ :=
    List.mem_map.1 ((mem_places root.address [] root.node).2 inTree)
  obtain ⟨v, found, rfl, -⟩ := found
  have way : Way.atNode s l' v behind ∈ waysFrom [.node s below] l' behind :=
    (mem_waysFrom loose).2 ⟨accepts, v, found, rfl⟩
  obtain ⟨w, mem, key⟩ := (mem_distinctWays _).2 _ way
  refine ⟨w, ?_, key⟩
  rw [allWays, List.mem_mergeSort, List.mem_flatMap]
  exact ⟨_, place, mem⟩

/-- The ways of a query are what is found at the nodes of the tree, if the places of the names tell
what is found. -/
lemma exists_mem_allWays_iff (loose : s.isLoose) {P : List Capture → Address → Prop}
    (finds : ∀ captures last, P captures last ↔ ∃ l : Located, l.IsWithin root ∧
      s.accepts l.node ∧ ∃ within last', Finds below l.children within last' ∧
        captures = s.capturesOf l ++ within ∧
        last = if last'.isEmpty then l.address else last')
    (determined : ∀ captures last captures' last', P captures last → P captures' last' →
      captures.map (fun c => (c.name, c.address)) = captures'.map (fun c => (c.name, c.address)) →
        captures = captures' ∧ last = last') {captures : List Capture} :
    (∃ w ∈ allWays [.node s below] root, w.captures = captures ∧ w.last = last) ↔
      P captures last := by
  constructor
  · rintro ⟨w, mem, rfl, rfl⟩
    exact (finds _ _).2 (exists_of_mem_allWays loose mem)
  · intro found
    obtain ⟨l, inTree, accepts, within, last', below, rfl, rfl⟩ := (finds _ _).1 found
    obtain ⟨w, mem, key⟩ := exists_mem_allWays loose inTree accepts below
    obtain ⟨captured, complete⟩ := determined _ _ _ _
      ((finds _ _).2 (exists_of_mem_allWays loose mem)) found key
    exact ⟨w, mem, captured, complete⟩

/-- The ways of a query are in the order of the nodes that complete them. -/
lemma pairwise_allWays (roots : List Pattern) (root : Located) :
    (allWays roots root).Pairwise fun a b => (compare a.last b.last).isLE := by
  refine List.pairwise_mergeSort ?_ ?_ _
  · intro a b c
    exact Std.TransCmp.isLE_trans
  · intro a b
    have swapped : compare b.last a.last = (compare a.last b.last).swap := Std.OrientedCmp.eq_swap
    rw [swapped]
    cases compare a.last b.last <;> rfl

/-- The matches of one clause are the ways to find it for which its conditions hold. -/
lemma matchesIn_conditional (roots : List Pattern) (filters : List Filter) (source : String)
    (root : Located) : (⟨[⟨roots, filters⟩]⟩ : Compiled).matchesIn source root
      = ((allWays roots root).map fun w => Compiled.sortCaptures w.captures).filter
          fun captures => filters.all fun f => f.holds source captures := by
  simp only [Compiled.matchesIn, List.flatMap_cons, List.flatMap_nil, List.append_nil]

/-- A condition that a text is one of several holds if all nodes of the name have one of these
texts. -/
lemma holds_oneOf {name source : String} {values : List String} {captures : List Capture} :
    (Filter.mk (.oneOf name values) true true).holds source captures ↔
      ∀ c ∈ captures, c.name = name → c.node.text source ∈ values := by
  simp [Filter.holds, Decidable.imp_iff_not_or]

/-- The matches of one clause without conditions are the ways to find it. -/
lemma matchesIn_unconditional (roots : List Pattern) (source : String) (root : Located) :
    (⟨[⟨roots, []⟩]⟩ : Compiled).matchesIn source root
      = (allWays roots root).map fun w => Compiled.sortCaptures w.captures := by
  simp [Compiled.matchesIn]

/-- What is found of a clause, node by node. -/
def foundIn (roots : List Pattern) (root : Located) : List Way :=
  (places root.address [] root.node).flatMap fun (l, behind) =>
    distinctWays (waysFrom roots l behind)

/-- Matches that are found in order, each with its captures in order, need no sorting. -/
lemma matchesIn_eq_foundIn {roots : List Pattern} {filters : List Filter} (source : String)
    {root : Located}
    (sorted : (foundIn roots root).Pairwise fun a b => (compare a.last b.last).isLE)
    (inside : ∀ w ∈ foundIn roots root,
      w.captures.Pairwise fun a b => (compare a.address b.address).isLE) :
    (⟨[⟨roots, filters⟩]⟩ : Compiled).matchesIn source root
      = ((foundIn roots root).map Way.captures).filter fun captures =>
        filters.all fun f => f.holds source captures := by
  have ways : allWays roots root = foundIn roots root := List.mergeSort_of_pairwise sorted
  have captures : (foundIn roots root).map (fun w => Compiled.sortCaptures w.captures)
      = (foundIn roots root).map Way.captures :=
    List.map_congr_left fun w mem => List.mergeSort_of_pairwise (inside w mem)
  simp only [Compiled.matchesIn, List.flatMap_cons, List.flatMap_nil, List.append_nil, ways,
    captures]

end Matches

end Query

end RouteAtlas
