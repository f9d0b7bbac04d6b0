import Mathlib.Data.List.Nodup
import RouteAtlas.Proofs.Query.Matching

/-!
# What is found, in order

What patterns find is listed in the order in which a query comes upon it (`outcomes`). If no two of
the ways found at a node give the same names to the same nodes, the ways of the query are that list
for all nodes of the tree, sorted by the nodes that complete them (`map_allWays`).
-/

namespace RouteAtlas.Query

open Syntax

/-- The names that a way gives, and the last node that it needs. -/
def Way.outcome (w : Way) : List Capture × Address := (w.captures, w.last)

/-- What patterns find one behind the other among nodes. -/
def outcomes (ps : List Pattern) (nodes : List Located) : List (List Capture × Address) :=
  (waysAll ps nodes).map Way.outcome

/-- What is found at a node, with what is found below and behind it. -/
def Shape.outcome (s : Shape) (l : Located) (v u : List Capture × Address) :
    List Capture × Address :=
  (s.capturesOf l ++ v.1 ++ u.1,
    if u.2.isEmpty then if v.2.isEmpty then l.address else v.2 else u.2)

/-- Going through the elements that are kept, the others bring nothing. -/
lemma flatMap_filter {α β : Type} (keep : α → Bool) (f : α → List β) (xs : List α) :
    (xs.filter keep).flatMap f = xs.flatMap fun x => if keep x then f x else [] := by
  induction xs with
  | nil => rfl
  | cons x xs ih =>
    rw [List.flatMap_cons, ← ih, List.filter_cons]
    split <;> rfl

section Lists
variable {s : Shape} {l : Located} {below ps : List Pattern} {nodes behind : List Located}

lemma outcomes_nil : outcomes [] nodes = [([], [])] := rfl

/-- What is found begins with a candidate for the first pattern. -/
lemma outcomes_cons (loose : s.isLoose) : outcomes (.node s below :: ps) nodes
    = (candidates false (fun l => s.accepts l.node) nodes).flatMap fun c =>
        (outcomes below c.1.children).flatMap fun v =>
          (outcomes ps c.2).map fun u => s.outcome c.1 v u := by
  simp only [Shape.isLoose, Bool.and_eq_true, Bool.not_eq_true'] at loose
  simp only [outcomes, waysAll, ways, loose.1, loose.2, Bool.false_and, Bool.false_eq_true,
    if_false, List.flatMap_assoc, List.map_flatMap, List.flatMap_map, List.map_map]
  rfl

/-- Candidates without those behind them are the accepted nodes. -/
lemma map_candidates (accepts : Located → Bool) (nodes : List Located) :
    (candidates false accepts nodes).map Prod.fst = nodes.filter accepts := by
  induction nodes with
  | nil => rfl
  | cons n nodes ih =>
    rw [candidates, if_neg Bool.false_ne_true, List.filter_cons]
    split
    · rw [List.map_cons, ih]
    · exact ih

/-- What a single pattern finds. -/
lemma outcomes_single (loose : s.isLoose) : outcomes [.node s below] nodes
    = (nodes.filter fun l => s.accepts l.node).flatMap fun l =>
        (outcomes below l.children).map fun v => s.outcome l v ([], []) := by
  rw [outcomes_cons loose, ← map_candidates, List.flatMap_map]
  simp only [outcomes_nil, List.map_cons, List.map_nil, ← List.map_eq_flatMap]

/-- What is found at the root of a query. -/
lemma map_waysFrom (loose : s.isLoose) : (waysFrom [.node s below] l behind).map Way.outcome
    = if s.accepts l.node then (outcomes below l.children).map fun v => s.outcome l v ([], [])
      else [] := by
  rw [waysFrom_node loose]
  split
  · rw [outcomes, List.map_map, List.map_map]
    exact List.map_congr_left fun v _ => Prod.ext (List.append_nil _).symm rfl
  · rfl

/-- The last node that is needed is none of the given ones only if nothing is asked for. -/
lemma last_ne_nil (loose : s.isLoose) (proper : ∀ l ∈ nodes, l.address ≠ [])
    {o : List Capture × Address} (mem : o ∈ outcomes (.node s below :: ps) nodes) : o.2 ≠ [] := by
  rw [outcomes_cons loose] at mem
  simp only [List.mem_flatMap, List.mem_map] at mem
  obtain ⟨⟨l, rest⟩, candidate, v, -, u, -, rfl⟩ := mem
  have address := proper l ((mem_candidates.1 candidate).1.subset List.mem_cons_self)
  rw [Shape.outcome]
  split
  next => split <;> simp_all
  next => simp_all

end Lists

/-! ## Distinct ways -/

/-- Ways that all give other names, or the same to other nodes, are all kept. -/
lemma distinctWays_eq_self {ws : List Way} (distinct : (ws.map Way.key).Nodup) :
    distinctWays ws = ws := by
  let add (acc : List Way) (w : Way) : List Way :=
    if acc.any fun v => v.key = w.key then acc else acc ++ [w]
  have run (acc ws : List Way) (distinct : ((acc ++ ws).map Way.key).Nodup) :
      ws.foldl add acc = acc ++ ws := by
    induction ws generalizing acc with
    | nil => rw [List.append_nil]; rfl
    | cons w ws ih =>
      have new : ¬(acc.any fun v => v.key = w.key) := by
        rw [List.map_append, List.map_cons, List.nodup_append] at distinct
        simpa using fun v mem => distinct.2.2 _ (List.mem_map_of_mem mem) _ List.mem_cons_self
      have added : add acc w = acc ++ [w] := if_neg new
      rw [List.foldl_cons, added, ih _ (by simpa using distinct), List.append_assoc,
        List.singleton_append]
  exact run [] ws distinct

/-- The nodes of a tree, each before those below it. -/
def Located.nodes (root : Located) : List Located :=
  (places root.address [] root.node).map Prod.fst

lemma Located.mem_nodes {l root : Located} : l ∈ root.nodes ↔ l.IsWithin root :=
  mem_places root.address [] root.node

/-- The ways of a query are what is found node by node, in the order of the nodes that complete
them. -/
theorem map_allWays {s : Shape} {below : List Pattern} {root : Located} (loose : s.isLoose)
    (distinct : ∀ l : Located, ((outcomes below l.children).map fun v =>
      (s.outcome l v ([], [])).1.map fun c => (c.name, c.address)).Nodup) :
    (allWays [.node s below] root).map Way.outcome
      = ((root.nodes.filter fun l => s.accepts l.node).flatMap fun l =>
          (outcomes below l.children).map fun v => s.outcome l v ([], [])).mergeSort
        fun a b => (compare a.2 b.2).isLE := by
  have here (l : Located) (behind : List Located) :
      (distinctWays (waysFrom [.node s below] l behind)).map Way.outcome
        = if s.accepts l.node then (outcomes below l.children).map fun v => s.outcome l v ([], [])
          else [] := by
    rw [distinctWays_eq_self, map_waysFrom loose]
    have keys : (waysFrom [.node s below] l behind).map Way.key
        = ((waysFrom [.node s below] l behind).map Way.outcome).map fun o =>
            o.1.map fun c => (c.name, c.address) := by
      rw [List.map_map]
      rfl
    rw [keys, map_waysFrom loose]
    split
    · rw [List.map_map]
      exact distinct l
    · exact List.nodup_nil
  refine (List.map_mergeSort (r := fun a b : Way => (compare a.last b.last).isLE)
    (s := fun a b => (compare a.2 b.2).isLE) fun a _ b _ => rfl).trans ?_
  rw [List.map_flatMap, flatMap_filter, Located.nodes, List.flatMap_map]
  simp only [here]

end RouteAtlas.Query
