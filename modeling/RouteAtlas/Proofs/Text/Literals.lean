import Mathlib.Tactic.Lemma
import RouteAtlas.Text.Literal

/-!
# Reading string literals

`Literal.read?` reads a literal with double quotes as the language of the module defines it, with
all its escapes. The value of a literal is a sequence of 16-bit units; different texts have
different units (`units_inj`). What `Literal.encode` writes for a text is read back as the units of
the text, up to its last quote and whatever follows, unless the text has a carriage return: that one
is written as it is, and a line may not end inside of a literal (`Literal.read?_encode_append`).
-/

namespace RouteAtlas.Text

/-- The 16-bit units of a code point. -/
def unitsOf (n : Nat) : List UInt16 :=
  if n < 0x10000 then [UInt16.ofNat n]
  else [UInt16.ofNat (0xD800 + (n - 0x10000) / 0x400),
    UInt16.ofNat (0xDC00 + (n - 0x10000) % 0x400)]

/-- The 16-bit units of a text. -/
def units (s : String) : List UInt16 := s.toList.flatMap fun c => unitsOf c.toNat

namespace Literal

/-- What is read of a text: units, and the characters that are left. -/
abbrev Reading := Option (List UInt16 × List Char)

/-- A code point in front of what is read next. -/
def Reading.after (n : Nat) (next : Reading) : Reading :=
  next.map fun (value, rest) => (unitsOf n ++ value, rest)

/-- The value of a hexadecimal digit. -/
def hexDigit? (c : Char) : Option Nat :=
  if '0' ≤ c ∧ c ≤ '9' then some (c.toNat - '0'.toNat)
  else if 'a' ≤ c ∧ c ≤ 'f' then some (c.toNat - 'a'.toNat + 10)
  else if 'A' ≤ c ∧ c ≤ 'F' then some (c.toNat - 'A'.toNat + 10)
  else none

/-- The value of hexadecimal digits. -/
def hexNumber? (digits : List Char) : Option Nat :=
  digits.foldlM (fun n c => (hexDigit? c).map (16 * n + ·)) 0

/-- The code point that a character stands for behind a backslash. Digits are kept for octal
numbers, which modules do not have, and `x` and `u` for hexadecimal ones. -/
def shortEscape? (c : Char) : Option Nat :=
  match c with
  | 'b' => some 8
  | 't' => some 9
  | 'n' => some 10
  | 'v' => some 11
  | 'f' => some 12
  | 'r' => some 13
  | 'x' | 'u' => none
  | c => if c.isDigit then none else some c.toNat

/-- The characters that end a line. -/
def lineEnds : List Char := ['\n', '\r', '\u2028', '\u2029']

mutual

/-- Reads on between the quotes, up to the one that closes the literal. The line and paragraph
separators may stand there, the other line ends may not. -/
def readInside : List Char → Reading
  | [] => none
  | c :: rest =>
    if c = '"' then some ([], rest)
    else if c = '\\' then readEscape rest
    else if c = '\n' ∨ c = '\r' then none
    else (readInside rest).after c.toNat

/-- Reads on behind a backslash. A line end there stands for nothing. -/
def readEscape : List Char → Reading
  | [] => none
  | '\r' :: '\n' :: rest => readInside rest
  | 'x' :: a :: b :: rest => (hexNumber? [a, b]).bind fun n => (readInside rest).after n
  | 'u' :: '{' :: c :: rest => (hexDigit? c).bind fun n => readBraced n rest
  | 'u' :: a :: b :: c :: d :: rest =>
    (hexNumber? [a, b, c, d]).bind fun n => (readInside rest).after n
  | c :: rest =>
    if c ∈ lineEnds then readInside rest
    else if c = '0' ∧ !rest.head?.any Char.isDigit then (readInside rest).after 0
    else (shortEscape? c).bind fun n => (readInside rest).after n

/-- Reads on behind some digits of a code point in braces. -/
def readBraced (n : Nat) : List Char → Reading
  | [] => none
  | c :: rest =>
    if c = '}' then (readInside rest).after n
    else (hexDigit? c).bind fun d =>
      if 16 * n + d < 0x110000 then readBraced (16 * n + d) rest else none

end

/-- Reads the literal that a text begins with: the units of its value, and what follows it. -/
def read? (text : String) : Option (List UInt16 × String) :=
  match text.toList with
  | '"' :: rest => (readInside rest).map fun (value, rest) => (value, String.ofList rest)
  | _ => none

example : read? "\"\\r\\x41\\u{1F600}\\0\\\n\";" = some ([13, 65, 0xD83D, 0xDE00, 0], ";") := by
  decide +kernel

example : read? "\"\\01\"" = none ∧ read? "\"a" = none := by decide +kernel

end Literal

/-! ## Units -/

lemma unitsOf_of_lt {n : Nat} (small : n < 0x10000) : unitsOf n = [UInt16.ofNat n] := if_pos small

lemma unitsOf_of_le {n : Nat} (large : 0x10000 ≤ n) :
    unitsOf n = [UInt16.ofNat (0xD800 + (n - 0x10000) / 0x400),
      UInt16.ofNat (0xDC00 + (n - 0x10000) % 0x400)] := if_neg (Nat.not_lt.2 large)

/-- Different characters have different units, whatever follows them. -/
lemma unitsOf_append_inj {c d : Char} {x y : List UInt16}
    (same : unitsOf c.toNat ++ x = unitsOf d.toNat ++ y) : c = d ∧ x = y := by
  have valid (c : Char) : c.toNat < 0xD800 ∨ 0xDFFF < c.toNat ∧ c.toNat < 0x110000 := c.valid
  have first := valid c
  have second := valid d
  have unit (k l : Nat) : UInt16.ofNat k = UInt16.ofNat l ↔ k % 65536 = l % 65536 := by
    rw [← UInt16.toNat_inj]
    rfl
  rw [← Char.toNat_inj]
  -- The first of two units tells itself apart from a single one.
  rcases Nat.lt_or_ge c.toNat 0x10000 with small | large <;>
    rcases Nat.lt_or_ge d.toNat 0x10000 with small' | large'
  · rw [unitsOf_of_lt small, unitsOf_of_lt small'] at same
    simp only [List.cons_append, List.nil_append, List.cons.injEq, unit] at same
    exact ⟨by omega, same.2⟩
  · rw [unitsOf_of_lt small, unitsOf_of_le large'] at same
    simp only [List.cons_append, List.nil_append, List.cons.injEq, unit] at same
    omega
  · rw [unitsOf_of_le large, unitsOf_of_lt small'] at same
    simp only [List.cons_append, List.nil_append, List.cons.injEq, unit] at same
    omega
  · rw [unitsOf_of_le large, unitsOf_of_le large'] at same
    simp only [List.cons_append, List.nil_append, List.cons.injEq, unit] at same
    exact ⟨by omega, same.2.2⟩

/-- No character is without units. -/
lemma unitsOf_ne_nil (n : Nat) : unitsOf n ≠ [] := by
  rcases Nat.lt_or_ge n 0x10000 with small | large
  · simp [unitsOf_of_lt small]
  · simp [unitsOf_of_le large]

/-- Different texts have different units. -/
theorem units_inj {s t : String} : units s = units t ↔ s = t := by
  refine ⟨fun same => ?_, congrArg units⟩
  rw [← String.toList_inj]
  unfold units at same
  generalize s.toList = cs at same ⊢
  generalize t.toList = ds at same ⊢
  induction cs generalizing ds with
  | nil =>
    cases ds with
    | nil => rfl
    | cons d ds => simp [unitsOf_ne_nil] at same
  | cons c cs ih =>
    cases ds with
    | nil => simp [unitsOf_ne_nil] at same
    | cons d ds =>
      rw [List.flatMap_cons, List.flatMap_cons] at same
      obtain ⟨rfl, rest⟩ := unitsOf_append_inj same
      rw [ih ds rest]

namespace Literal

/-! ## Writing and reading -/

/-- What stands for a character in a literal is read as that character, unless it is a carriage
return. -/
lemma readInside_escape_append (c : Char) (rest : List Char) :
    readInside (escape c ++ rest)
      = if c = '\r' then none else (readInside rest).after c.toNat := by
  unfold escape
  split
  next => rfl
  next => rfl
  next => rfl
  next quote backslash feed =>
    have feed' : c ≠ '\n' := feed
    rw [List.singleton_append, readInside, if_neg quote, if_neg backslash]
    simp only [feed', false_or]

/-- What stands between the quotes of a literal is read as the text, up to the quote, unless there
is a carriage return in the text. -/
lemma readInside_body_append (cs rest : List Char) :
    readInside (body cs ++ '"' :: rest)
      = if '\r' ∈ cs then none else some (cs.flatMap fun c => unitsOf c.toNat, rest) := by
  induction cs with
  | nil => rfl
  | cons c cs ih =>
    rw [body, List.flatMap_cons, List.append_assoc, readInside_escape_append, ← body, ih]
    by_cases here : c = '\r'
    · simp [here]
    · by_cases later : '\r' ∈ cs
      · simp [here, later, Reading.after]
      · simp [here, Ne.symm here, later, Reading.after]

lemma read?_of_toList {text : String} {cs : List Char} (chars : text.toList = '"' :: cs) :
    read? text = (readInside cs).map fun (value, rest) => (value, String.ofList rest) := by
  unfold read?
  rw [chars]
  rfl

/-- The literal of a text is read as the text, up to its last quote. With a carriage return in the
text there is no literal. -/
theorem read?_encode_append (s rest : String) :
    read? (encode s ++ rest) = if '\r' ∈ s.toList then none else some (units s, rest) := by
  have chars : (encode s ++ rest).toList = '"' :: (body s.toList ++ '"' :: rest.toList) := by
    simp [encode]
  rw [read?_of_toList chars, readInside_body_append]
  split
  · rfl
  · simp [units]

end Literal
end RouteAtlas.Text
