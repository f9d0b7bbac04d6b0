/-!
# Sets of tokens

A set of token numbers, kept as the binary digits of a number.
-/

namespace RouteAtlas.Grammar

/-- A set of tokens. -/
structure TokenSet where
  bits : Nat
deriving DecidableEq, Repr, Inhabited

namespace TokenSet

/-- All digits count for the hash, not only the lowest. -/
instance : Hashable TokenSet := ⟨fun s => hash (s.bits % ((1 <<< 61) - 1))⟩

/-- The set without members. -/
def empty : TokenSet := ⟨0⟩

instance : EmptyCollection TokenSet := ⟨empty⟩

/-- The set of one token. -/
def singleton (t : Nat) : TokenSet := ⟨1 <<< t⟩

/-- Whether the token is a member. -/
def contains (s : TokenSet) (t : Nat) : Bool := s.bits.testBit t

/-- The tokens that are in one of two sets. -/
def union (a b : TokenSet) : TokenSet := ⟨a.bits ||| b.bits⟩

instance : Union TokenSet := ⟨union⟩

/-- The tokens that are in both of two sets. -/
def inter (a b : TokenSet) : TokenSet := ⟨a.bits &&& b.bits⟩

/-- The tokens that are in the first of two sets only. -/
def diff (a b : TokenSet) : TokenSet := ⟨a.bits ^^^ (a.bits &&& b.bits)⟩

/-- The set with a further member. -/
def insert (s : TokenSet) (t : Nat) : TokenSet := s ∪ singleton t

/-- The set of the tokens in a list. -/
def ofList (tokens : List Nat) : TokenSet := tokens.foldl insert ∅

/-- Whether there is no member. -/
def isEmpty (s : TokenSet) : Bool := s.bits == 0

/-- The members below a bound, in order. -/
def toList (s : TokenSet) (bound : Nat) : List Nat := (List.range bound).filter s.contains

/-- Whether all tokens of the first set are in the second. -/
def isSubset (a b : TokenSet) : Bool := a.bits &&& b.bits == a.bits

theorem contains_union (a b : TokenSet) (t : Nat) :
    (a ∪ b).contains t = (a.contains t || b.contains t) := by
  show (a.bits ||| b.bits).testBit t = _
  simp [contains, Nat.testBit_or]

theorem contains_singleton (t u : Nat) : (singleton t).contains u = decide (t = u) := by
  simp [singleton, contains, Nat.one_shiftLeft, Nat.testBit_two_pow]

end TokenSet

end RouteAtlas.Grammar
