/-!
# Extents of text

An extent is the length of a stretch of text, counted in characters, in bytes of UTF-8, and in line
feeds with the bytes behind the last of them. Read from the beginning of a text it is a position.
-/

namespace RouteAtlas.Parsing

/-- The length of a stretch of text. -/
structure Extent where
  chars : Nat := 0
  bytes : Nat := 0
  /-- The number of line feeds. -/
  rows : Nat := 0
  /-- The number of bytes behind the last line feed. -/
  columns : Nat := 0
deriving DecidableEq, Repr, Inhabited

namespace Extent

/-- The extent of no text. -/
def zero : Extent := {}

instance : Zero Extent := ⟨zero⟩

/-- The extent of one stretch of text followed by another. -/
def add (a b : Extent) : Extent where
  chars := a.chars + b.chars
  bytes := a.bytes + b.bytes
  rows := a.rows + b.rows
  columns := if b.rows = 0 then a.columns + b.columns else b.columns

instance : Add Extent := ⟨add⟩

/-- The extent from a position to a later one. -/
def since (later earlier : Extent) : Extent where
  chars := later.chars - earlier.chars
  bytes := later.bytes - earlier.bytes
  rows := later.rows - earlier.rows
  columns := if later.rows = earlier.rows then later.columns - earlier.columns else later.columns

/-- The extent of one character. -/
def ofChar (c : Char) : Extent where
  chars := 1
  bytes := c.utf8Size
  rows := if c = '\n' then 1 else 0
  columns := if c = '\n' then 0 else c.utf8Size

/-- The position behind a further character. -/
def next (e : Extent) (c : Char) : Extent :=
  if c = '\n' then ⟨e.chars + 1, e.bytes + c.utf8Size, e.rows + 1, 0⟩
  else ⟨e.chars + 1, e.bytes + c.utf8Size, e.rows, e.columns + c.utf8Size⟩

theorem next_eq_add (e : Extent) (c : Char) : e.next c = e + ofChar c := by
  show e.next c = e.add (ofChar c)
  by_cases h : c = '\n' <;> simp [next, add, ofChar, h]

theorem add_assoc (a b c : Extent) : (a + b) + c = a + (b + c) := by
  show (a.add b).add c = a.add (b.add c)
  by_cases hb : b.rows = 0 <;> by_cases hc : c.rows = 0 <;>
    simp [add, hb, hc, Nat.add_assoc]

end Extent

end RouteAtlas.Parsing
