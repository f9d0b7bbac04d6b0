import RouteAtlas.Grammar.Rule
import Std.Data.HashMap

/-!
# Ranks in a conflict

A side of a conflict brings in the rank that it has there, and its rule. Numbers are compared as
numbers. Names are compared by the orderings of the grammar, each of which lists named ranks and
rules from the greatest.
-/

namespace RouteAtlas.Grammar

open Std (HashMap)

/-- A place in the orderings: the number of the ordering and the position in it. -/
abbrev Place := Nat × Nat

/-- What a side brings into a conflict: its rank, and the places of its rank and its rule. -/
structure Stake where
  rank : Precedence := .none
  places : Array Place := #[]
deriving Inhabited

/-- The orderings of a grammar, turned round: where each name occurs. -/
structure Ranking where
  /-- The places of the named ranks. -/
  ofRank : HashMap String (Array Place)
  /-- The places of the rules. -/
  ofRule : HashMap String (Array Place)

namespace Ranking

/-- The places of the entries that `nameOf` gives a name. -/
def placesOf (orderings : List (List RankEntry)) (nameOf : RankEntry → Option String) :
    HashMap String (Array Place) :=
  orderings.zipIdx.foldl
    (fun acc (ordering, o) => ordering.zipIdx.foldl
      (fun acc (entry, position) =>
        match nameOf entry with
        | some name => acc.insert name ((acc.getD name #[]).push (o, position))
        | none => acc)
      acc)
    ∅

/-- The ranking of some orderings. -/
def ofOrderings (orderings : List (List RankEntry)) : Ranking where
  ofRank := placesOf orderings fun entry =>
    match entry with
    | .named name => some name
    | .rule _ => none
  ofRule := placesOf orderings fun entry =>
    match entry with
    | .rule name => some name
    | .named _ => none

/-- What a rule brings into a conflict where it has a rank. -/
def stake (r : Ranking) (rank : Precedence) (rule : String) : Stake :=
  let byRank := match rank with
    | .named name => r.ofRank.getD name #[]
    | _ => #[]
  ⟨rank, byRank ++ r.ofRule.getD rule #[]⟩

end Ranking

/-- The first position of some places in an ordering, those at the places of `besides` left out. -/
def firstPosition (places besides : Array Place) (ordering : Nat) : Option Nat :=
  places.foldl
    (fun found place =>
      if place.1 = ordering && !besides.contains place then
        some (found.elim place.2 (min place.2))
      else found)
    none

/-- Compares places by the first ordering that has places of both; the side that comes first in it
is greater. A place of both counts for the left one. -/
def comparePlaces (left right : Array Place) : Ordering :=
  let decided := left.foldl
    (fun (found : Option (Nat × Ordering)) (ordering, _) =>
      if found.any (·.1 ≤ ordering) then found
      else match firstPosition left #[] ordering, firstPosition right left ordering with
        | some i, some j => some (ordering, if i < j then .gt else .lt)
        | _, _ => found)
    none
  (decided.map Prod.snd).getD .eq

/-- Compares what two sides bring into a conflict. -/
def Stake.compare (a b : Stake) : Ordering :=
  match a.rank, b.rank with
  | .level m, .level n =>
    if m != 0 || n != 0 then Ord.compare m n else comparePlaces a.places b.places
  | .level m, .none => if m != 0 then Ord.compare m 0 else comparePlaces a.places b.places
  | .none, .level n => if n != 0 then Ord.compare 0 n else comparePlaces a.places b.places
  | _, _ => comparePlaces a.places b.places

end RouteAtlas.Grammar
