import Mathlib.Tactic.Choose
import RouteAtlas.Proofs.Extraction.Imports

/-!
# The call that describes a route

A file may export several calls of the route function, each with objects of pairs. The one that owns
the first pair of them all counts: its pairs, and no others, are the options of the route, in the
order of the text (`exists_routePairs`). Without such a call there are none
(`routePairs_eq_none`).
-/

namespace RouteAtlas

open Query Syntax TypeScript

namespace Extraction

/-! ## Pairs of a call -/

/-- Whether an exported value is a call of a name, and has a pair in an object among its
arguments. -/
structure HasPair (statement call name pair : Located) : Prop where
  isExport : statement.node.isOf "export_statement"
  isExported : call ∈ statement.children
  isCall : call.node.isOf "call_expression"
  isValue : call.node.field = some "value"
  isBelow : ∃ arguments object : Located,
    [name, arguments].Sublist call.children ∧
    name.node.isOf "identifier" ∧ name.node.field = some "function" ∧
    arguments.node.isOf "arguments" ∧ arguments.node.field = some "arguments" ∧
    object ∈ arguments.children ∧ object.node.isOf "object" ∧
    pair ∈ object.children ∧ pair.node.isOf "pair"

/-- A pair is no root. -/
lemma HasPair.address_ne_nil {statement call name pair : Located}
    (owned : HasPair statement call name pair) : pair.address ≠ [] := by
  obtain ⟨-, -, -, -, arguments, object, -, -, -, -, -, -, -, inObject, -⟩ := owned
  exact Located.address_ne_nil inObject

/-- What a match of the pattern of calls holds. -/
def callCaptures (call name pair : Located) : List Capture :=
  [⟨"call", call.address, call.node⟩, ⟨"function", name.address, name.node⟩,
    ⟨"pair", pair.address, pair.node⟩]

/-- The captures of a match tell its nodes. -/
lemma callCaptures_inj {call name pair call' name' pair' : Located}
    (same : callCaptures call name pair = callCaptures call' name' pair') :
    call = call' ∧ pair = pair' := by
  simp only [callCaptures, List.cons.injEq, Capture.mk.injEq, true_and, and_true] at same
  obtain ⟨⟨address, node⟩, -, address', node'⟩ := same
  cases call
  cases pair
  simp_all

/-- What the pattern of calls finds at a node. -/
lemma routeCalls_eq (function : String) : ∃ place below,
    routeCalls function = ⟨[⟨[.node (.ofKind "export_statement" none [] place) below],
      [⟨.oneOf "function" [function], true, true⟩]⟩]⟩ ∧
    ∀ (statement : Located) (captures : List Capture) (last : Query.Address),
      statement.node.isOf "export_statement" ∧ Finds below statement.children captures last ↔
        ∃ call name pair, HasPair statement call name pair ∧
          captures = callCaptures call name pair ∧ last = pair.address := by
  refine ⟨_, _, rfl, fun statement captures last => ?_⟩
  simp only [Written.patterns, Written.pattern?, Option.toList, List.nil_append, List.cons_append,
    finds_kind_pair, finds_kind, finds_nil, Option.mem_def, reduceCtorEq, false_imp_iff,
    implies_true, and_true, Option.some.injEq, forall_eq']
  -- The last node that is needed is the pair, whose address is not that of a root.
  constructor
  · rintro ⟨isExport, call, inStatement, isCall, _, _,
      ⟨name, arguments, order, isName, isArguments, _, _, ⟨rfl, rfl⟩, _, _,
        ⟨object, inArguments, isObject, _, _, ⟨pair, inObject, isPair, _, _, ⟨rfl, rfl⟩, rfl, rfl⟩,
          rfl, rfl⟩, rfl, rfl⟩, rfl, rfl⟩
    exact ⟨call, name, pair, ⟨isExport, inStatement, isCall.1, isCall.2, arguments, object, order,
      isName.1, isName.2, isArguments.1, isArguments.2, inArguments, isObject, inObject, isPair⟩,
      rfl, by simp [Located.address_ne_nil inObject]⟩
  · rintro ⟨call, name, pair, ⟨isExport, inStatement, isCall, isCall', arguments, object, order,
      isName, isName', isArguments, isArguments', inArguments, isObject, inObject, isPair⟩, rfl,
      rfl⟩
    exact ⟨isExport, call, inStatement, ⟨isCall, isCall'⟩, _, _,
      ⟨name, arguments, order, ⟨isName, isName'⟩, ⟨isArguments, isArguments'⟩, _, _, ⟨rfl, rfl⟩, _,
        _, ⟨object, inArguments, isObject, _, _, ⟨pair, inObject, isPair, _, _, ⟨rfl, rfl⟩, rfl,
          rfl⟩, rfl, rfl⟩, rfl, rfl⟩, rfl, by simp [Located.address_ne_nil inObject]⟩

/-- Whether a file exports a call of a name with a pair. -/
def FileCalls (s : Source) (call name pair : Located) : Prop :=
  ∃ statement : Located, statement.IsWithin ⟨[], s.tree⟩ ∧ HasPair statement call name pair

/-- Whether a file exports a call of the function with a pair. -/
def OwnsPair (s : Source) (function : String) (call pair : Located) : Prop :=
  ∃ name, FileCalls s call name pair ∧ name.node.text s.text = function

section File
variable {s : Source} {call name pair : Located}

/-- The nodes of an exported call stand in the file. -/
lemma FileCalls.isWithin (owned : FileCalls s call name pair) : call.IsWithin ⟨[], s.tree⟩ ∧
    name.IsWithin ⟨[], s.tree⟩ ∧ pair.IsWithin ⟨[], s.tree⟩ := by
  obtain ⟨statement, within, -, inStatement, -, -, arguments, object, order, -, -, -, -,
    inArguments, -, inObject, -⟩ := owned
  have callWithin := within.of_mem_children inStatement
  have argumentsWithin := callWithin.of_mem_children
    (order.subset (List.mem_cons_of_mem name List.mem_cons_self))
  exact ⟨callWithin, callWithin.of_mem_children (order.subset List.mem_cons_self),
    (argumentsWithin.of_mem_children inArguments).of_mem_children inObject⟩

/-- A pair belongs to one call: the one three levels above it. -/
lemma FileCalls.address_eq (owned : FileCalls s call name pair) :
    ∃ i j k, pair.address = call.address ++ [i, j, k] := by
  obtain ⟨statement, within, -, -, -, -, arguments, object, order, -, -, -, -, inArguments, -,
    inObject, -⟩ := owned
  obtain ⟨i, -, address⟩ := Located.mem_children.1
    (order.subset (List.mem_cons_of_mem name List.mem_cons_self))
  obtain ⟨j, -, address'⟩ := Located.mem_children.1 inArguments
  obtain ⟨k, -, address''⟩ := Located.mem_children.1 inObject
  exact ⟨i, j, k, by rw [address'', address', address]; simp⟩

/-- The places of an exported call tell its nodes. -/
lemma FileCalls.ext {call' name' pair' : Located} (owned : FileCalls s call name pair)
    (owned' : FileCalls s call' name' pair') (called : call.address = call'.address)
    (named : name.address = name'.address) (held : pair.address = pair'.address) :
    call = call' ∧ name = name' ∧ pair = pair' :=
  ⟨owned.isWithin.1.ext owned'.isWithin.1 called, owned.isWithin.2.1.ext owned'.isWithin.2.1 named,
    owned.isWithin.2.2.ext owned'.isWithin.2.2 held⟩

/-- The pattern of calls finds the pairs of the exported calls of the function, in their order. -/
lemma exists_ways_routeCalls (s : Source) (function : String) : ∃ ways : List Query.Way,
    (routeCalls function).matchesIn s.text ⟨[], s.tree⟩
      = ways.map (fun w => Compiled.sortCaptures w.captures) ∧
    (ways.Pairwise fun v w => (compare v.last w.last).isLE) ∧
    ∀ captures last, (∃ w ∈ ways, w.captures = captures ∧ w.last = last) ↔
      ∃ call name pair, FileCalls s call name pair ∧ name.node.text s.text = function ∧
        captures = callCaptures call name pair ∧ last = pair.address := by
  obtain ⟨place, below, e, finds⟩ := routeCalls_eq function
  have all {captures : List Capture} {last : Query.Address} :
      (∃ w ∈ allWays [.node (.ofKind "export_statement" none [] place) below] ⟨[], s.tree⟩,
        w.captures = captures ∧ w.last = last) ↔ ∃ call name pair, FileCalls s call name pair ∧
          captures = callCaptures call name pair ∧ last = pair.address := by
    refine exists_mem_allWays_iff rfl (P := fun captures last => ∃ call name pair,
      FileCalls s call name pair ∧ captures = callCaptures call name pair ∧
        last = pair.address) ?_ ?_
    · intro captures last
      simp only [accepts_ofKind, Option.not_mem_none, false_imp_iff, implies_true, and_true,
        Shape.capturesOf, List.map_nil, List.nil_append]
      constructor
      · rintro ⟨call, name, pair, ⟨statement, within, owned⟩, rfl, rfl⟩
        obtain ⟨isExport, found⟩ :=
          (finds statement _ _).2 ⟨call, name, pair, owned, rfl, rfl⟩
        exact ⟨statement, within, isExport, _, _, found, rfl,
          (if_neg (by simpa using owned.address_ne_nil)).symm⟩
      · rintro ⟨statement, within, isExport, captures, last, found, rfl, rfl⟩
        obtain ⟨call, name, pair, owned, rfl, rfl⟩ :=
          (finds statement captures last).1 ⟨isExport, found⟩
        exact ⟨call, name, pair, ⟨statement, within, owned⟩, rfl,
          if_neg (by simpa using owned.address_ne_nil)⟩
    · rintro _ _ _ _ ⟨call, name, pair, owned, rfl, rfl⟩ ⟨call', name', pair', owned', rfl, rfl⟩ key
      simp only [callCaptures, List.map_cons, List.map_nil, List.cons.injEq, Prod.mk.injEq,
        true_and, and_true] at key
      obtain ⟨rfl, rfl, rfl⟩ := owned.ext owned' key.1 key.2.1 key.2.2
      exact ⟨rfl, rfl⟩
  let roots : List Pattern := [.node (.ofKind "export_statement" none [] place) below]
  let filters : List Filter := [⟨.oneOf "function" [function], true, true⟩]
  let holds (captures : List Capture) : Bool := filters.all fun f => f.holds s.text captures
  refine ⟨(allWays roots ⟨[], s.tree⟩).filter fun w => holds (Compiled.sortCaptures w.captures), ?_,
    (pairwise_allWays _ _).filter _, fun captures last => ?_⟩
  · rw [e, matchesIn_conditional, List.filter_map]
    rfl
  · -- The condition is about the only node that is named as the function.
    have called (call name pair : Located) :
        holds (Compiled.sortCaptures (callCaptures call name pair)) ↔
          name.node.text s.text = function := by
      simp [holds, filters, holds_oneOf, Compiled.sortCaptures, callCaptures]
    constructor
    · rintro ⟨w, mem, rfl, rfl⟩
      obtain ⟨mem, kept⟩ := List.mem_filter.1 mem
      obtain ⟨call, name, pair, owned, captured, complete⟩ := all.1 ⟨w, mem, rfl, rfl⟩
      rw [captured] at kept
      exact ⟨call, name, pair, owned, (called call name pair).1 kept, captured, complete⟩
    · rintro ⟨call, name, pair, owned, same, rfl, rfl⟩
      obtain ⟨w, mem, captured, complete⟩ := all.2 ⟨call, name, pair, owned, rfl, rfl⟩
      refine ⟨w, List.mem_filter.2 ⟨mem, ?_⟩, captured, complete⟩
      rw [captured]
      exact (called call name pair).2 same

end File

/-! ## The first call -/

/-- The only capture of a name, among the captures of a match. -/
lemma filter_sortCaptures {captures : List Capture} {name : String} {c : Capture}
    (only : captures.filter (fun d => d.name = name) = [c]) :
    (Compiled.sortCaptures captures).filter (fun d => d.name = name) = [c] := by
  apply List.perm_singleton.1
  rw [← only]
  exact (List.mergeSort_perm captures _).filter _

section Pairs
variable (s : Source) (function : String) {call pair : Located}

/-- The pairs that are taken are those of the first of all the exported calls of the function. -/
lemma exists_owned (extension : String) : ∃ owned : List (Located × Located),
    (Extractor.standard extension (routeCalls function)).routePairs s
      = owned.head?.map (fun first =>
          (owned.filter fun o => o.1.address = first.1.address).map Prod.snd) ∧
    (owned.Pairwise fun a b => (compare a.2.address b.2.address).isLE) ∧
    ∀ call pair, (call, pair) ∈ owned ↔ OwnsPair s function call pair := by
  obtain ⟨ways, matched, sorted, found⟩ := exists_ways_routeCalls s function
  have sound (w : Query.Way) (mem : w ∈ ways) := (found w.captures w.last).1 ⟨w, mem, rfl, rfl⟩
  choose! call name pair owned named captured complete using sound
  refine ⟨ways.map fun w => (call w, pair w), ?_, ?_, fun call' pair' => ?_⟩
  · have calls : ((Extractor.standard extension (routeCalls function)).routeCall.matchesIn s.text
        ⟨[], s.tree⟩).filterMap (fun captures =>
          (Extractor.capture? captures "call").map fun call => (call.address, captures))
        = ways.map fun w => ((call w).address, Compiled.sortCaptures w.captures) := by
      change ((routeCalls function).matchesIn s.text ⟨[], s.tree⟩).filterMap _ = _
      rw [matched, List.filterMap_map, ← List.filterMap_eq_map]
      refine List.filterMap_congr fun w mem => ?_
      have called : Extractor.capture? (Compiled.sortCaptures w.captures) "call"
          = some ⟨"call", (call w).address, (call w).node⟩ := by
        rw [captured w mem]
        exact capture?_sortCaptures (c := ⟨"call", (call w).address, (call w).node⟩)
          (by simp [callCaptures]) (by simp [callCaptures])
      simp only [Function.comp_apply, called, Option.map_some]
    have held (w : Query.Way) (mem : w ∈ ways) :
        ((Compiled.sortCaptures w.captures).filter (fun c => c.name = "pair")).map
          (fun p => (⟨p.address, p.node⟩ : Located)) = [pair w] := by
      rw [filter_sortCaptures (c := ⟨"pair", (pair w).address, (pair w).node⟩)
        (by simp [captured w mem, callCaptures])]
      rfl
    rw [Extractor.routePairs, calls]
    cases ways with
    | nil => rfl
    | cons first rest =>
      change some _ = some (((List.map _ _).filter _).map Prod.snd)
      rw [List.filter_map, List.filter_map, List.map_map, List.flatMap_map, List.map_eq_flatMap]
      refine congrArg some (List.flatMap_congr fun w mem => ?_)
      exact held w (List.mem_of_mem_filter mem)
  · rw [List.pairwise_map]
    exact sorted.imp_of_mem fun v w => by rw [← complete _ v, ← complete _ w]; exact id
  · simp only [List.mem_map, Prod.mk.injEq]
    constructor
    · rintro ⟨w, mem, rfl, rfl⟩
      exact ⟨name w, owned w mem, named w mem⟩
    · rintro ⟨name', owned', named'⟩
      obtain ⟨w, mem, captured', -⟩ := (found _ _).2 ⟨_, _, _, owned', named', rfl, rfl⟩
      obtain ⟨called, held⟩ := callCaptures_inj ((captured w mem).symm.trans captured')
      exact ⟨w, mem, called, held⟩

/-- Whether a call owns the first of all the pairs of exported calls of the function. -/
def OwnsFirstPair (call : Located) : Prop :=
  ∃ pair, OwnsPair s function call pair ∧ ∀ call' pair', OwnsPair s function call' pair' →
    (compare pair.address pair'.address).isLE

variable {s function}

/-- A pair has one call. -/
lemma OwnsPair.unique {call' pair' : Located} (owned : OwnsPair s function call pair)
    (owned' : OwnsPair s function call' pair') (same : pair.address = pair'.address) :
    call = call' := by
  obtain ⟨name, owned, -⟩ := owned
  obtain ⟨name', owned', -⟩ := owned'
  obtain ⟨i, j, k, address⟩ := owned.address_eq
  obtain ⟨i', j', k', address'⟩ := owned'.address_eq
  rw [address, address'] at same
  exact owned.isWithin.1.ext owned'.isWithin.1 (List.append_inj_left' same rfl)

/-- The first of sorted pairs comes before all of them. -/
lemma isLE_of_head {head owned : Located × Located} {rest : List (Located × Located)}
    (sorted : (head :: rest).Pairwise fun a b => (compare a.2.address b.2.address).isLE)
    (mem : owned ∈ head :: rest) : (compare head.2.address owned.2.address).isLE := by
  rcases List.mem_cons.1 mem with rfl | behind
  · exact Std.ReflCmp.isLE_rfl
  · exact List.rel_of_pairwise_cons sorted behind

/-- The pairs of the call that owns the first one are taken, in their order. -/
lemma exists_routePairs (extension : String) (first : OwnsFirstPair s function call) :
    ∃ pairs, (Extractor.standard extension (routeCalls function)).routePairs s = some pairs ∧
      (pairs.Pairwise fun a b => (compare a.address b.address).isLE) ∧
      ∀ pair, pair ∈ pairs ↔ OwnsPair s function call pair := by
  obtain ⟨owned, taken, sorted, mem⟩ := exists_owned s function extension
  obtain ⟨pair, owns, least⟩ := first
  cases owned with
  | nil => cases (mem call pair).2 owns
  | cons head rest =>
    obtain ⟨call', pair'⟩ := head
    -- The first pair is the one that the list begins with.
    have owns' := (mem call' pair').1 List.mem_cons_self
    have same : pair.address = pair'.address := Std.LawfulEqCmp.eq_of_compare
      (Std.OrientedCmp.isLE_antisymm (least call' pair' owns')
        (isLE_of_head sorted ((mem call pair).2 owns)))
    obtain rfl := owns.unique owns' same
    refine ⟨_, taken, ?_, fun pair'' => ?_⟩
    · exact List.pairwise_map.2 (sorted.filter _)
    · simp only [List.mem_map, List.mem_filter, decide_eq_true_eq]
      constructor
      · rintro ⟨⟨call', pair''⟩, ⟨listed, same⟩, rfl⟩
        have owns'' := (mem call' pair'').1 listed
        have one : call' = call := by
          obtain ⟨name, owned, -⟩ := owns
          obtain ⟨name'', owned'', -⟩ := owns''
          exact owned''.isWithin.1.ext owned.isWithin.1 same
        exact one ▸ owns''
      · intro owns''
        exact ⟨(call, pair''), ⟨(mem call pair'').2 owns'', rfl⟩, rfl⟩

/-- Of calls that own pairs one owns the first. -/
lemma exists_ownsFirstPair (owned : OwnsPair s function call pair) :
    ∃ first, OwnsFirstPair s function first := by
  obtain ⟨listed, -, sorted, mem⟩ := exists_owned s function ""
  cases listed with
  | nil => cases (mem call pair).2 owned
  | cons head rest =>
    obtain ⟨first, pair⟩ := head
    exact ⟨first, pair, (mem first pair).1 List.mem_cons_self,
      fun call' pair' owned => isLE_of_head sorted ((mem call' pair').2 owned)⟩

/-- Without an exported call of the function that has a pair, none are taken. -/
lemma routePairs_eq_none (extension : String)
    (none : ∀ call pair, ¬ OwnsPair s function call pair) :
    (Extractor.standard extension (routeCalls function)).routePairs s = .none := by
  obtain ⟨listed, taken, -, mem⟩ := exists_owned s function extension
  cases listed with
  | nil => exact taken
  | cons head rest => exact absurd ((mem _ _).1 List.mem_cons_self) (none head.1 head.2)

end Pairs

end Extraction

end RouteAtlas
