/-!
# Finite sets in ascending order

A set is kept as the strictly ascending list of its members, so that two sets with the same members
are equal and a walk over a set meets its members in order. `mem_insert` says what insertion does.
-/

namespace RouteAtlas

/-- An order that is transitive and in which any two elements can be compared. -/
class LinearLT (α : Type) [LT α] : Prop where
  lt_trans {a b c : α} : a < b → b < c → a < c
  eq_of_not_lt {a b : α} : ¬a < b → ¬b < a → a = b

instance : LinearLT String where
  lt_trans := String.lt_trans
  eq_of_not_lt hab hba := String.le_antisymm (String.not_lt.1 hba) (String.not_lt.1 hab)

/-- A finite set, listed in strictly ascending order. -/
structure AscendingSet (α : Type) [LT α] where
  /-- The members, smallest first. -/
  toList : List α
  /-- No member stands before a smaller or an equal one. -/
  ascending : toList.Pairwise (· < ·)
deriving Repr, DecidableEq

namespace AscendingSet

section Insertion
variable {α : Type} [LT α] [DecidableLT α] [DecidableEq α]

/-- Puts `x` at its place in an ascending list, unless it is there. -/
def insertInto (x : α) : List α → List α
  | [] => [x]
  | y :: ys => if x < y then x :: y :: ys else if x = y then y :: ys else y :: insertInto x ys

theorem mem_insertInto {x z : α} {ys : List α} : z ∈ insertInto x ys ↔ z = x ∨ z ∈ ys := by
  induction ys with
  | nil => simp [insertInto]
  | cons y ys ih =>
    unfold insertInto
    split
    · simp
    · split
      · simp_all
      · simp only [List.mem_cons, ih]
        grind

variable [LinearLT α]

theorem pairwise_insertInto {x : α} {ys : List α} (asc : ys.Pairwise (· < ·)) :
    (insertInto x ys).Pairwise (· < ·) := by
  induction ys with
  | nil => simp [insertInto]
  | cons y ys ih =>
    have tail : ∀ z ∈ ys, y < z := fun z mem => List.rel_of_pairwise_cons asc mem
    unfold insertInto
    split
    next lt =>
      refine List.pairwise_cons.2 ⟨fun z mem => ?_, asc⟩
      rcases List.mem_cons.1 mem with rfl | mem
      · exact lt
      · exact LinearLT.lt_trans lt (tail z mem)
    next nlt =>
      split
      · exact asc
      next ne =>
        refine List.pairwise_cons.2 ⟨fun z mem => ?_, ih asc.of_cons⟩
        rcases mem_insertInto.1 mem with rfl | mem
        · exact Classical.byContradiction fun nlt' => ne (LinearLT.eq_of_not_lt nlt nlt')
        · exact tail z mem

/-- The set with `x` as a member. -/
def insert (x : α) (s : AscendingSet α) : AscendingSet α :=
  ⟨insertInto x s.toList, pairwise_insertInto s.ascending⟩

theorem mem_insert {x z : α} {s : AscendingSet α} :
    z ∈ (s.insert x).toList ↔ z = x ∨ z ∈ s.toList := mem_insertInto

end Insertion

variable {α : Type} [LT α]

/-- The set without members. -/
def empty : AscendingSet α := ⟨[], .nil⟩

instance : EmptyCollection (AscendingSet α) := ⟨empty⟩

instance : Inhabited (AscendingSet α) := ⟨empty⟩

/-- The number of members. -/
def size (s : AscendingSet α) : Nat := s.toList.length

/-- Whether there is no member. -/
def isEmpty (s : AscendingSet α) : Bool := s.toList.isEmpty

/-- Whether `x` is a member. -/
def contains [DecidableEq α] (s : AscendingSet α) (x : α) : Bool := s.toList.contains x

end AscendingSet

end RouteAtlas
