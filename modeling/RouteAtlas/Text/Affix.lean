/-!
# Text that begins or ends another text

`dropLeading?` and `dropTrailing?` take a known piece off one end of a text. Each is pinned down by
an equivalence: the answer is `some r` exactly when the text is the piece put back onto `r`.
-/

namespace RouteAtlas.Text

/-- What follows the characters `p` in `s`, if `s` begins with them. -/
def afterChars? : List Char → List Char → Option (List Char)
  | [], s => some s
  | _ :: _, [] => none
  | c :: p, d :: s => if c = d then afterChars? p s else none

theorem afterChars?_eq_some_iff {p s r : List Char} : afterChars? p s = some r ↔ s = p ++ r := by
  induction p generalizing s with
  | nil => simp [afterChars?]
  | cons c p ih =>
    cases s with
    | nil => simp [afterChars?]
    | cons d s =>
      by_cases h : c = d
      · simp [afterChars?, h, ih]
      · simp [afterChars?, h, Ne.symm h]

/-- What follows `p` in `s`, if `s` begins with `p`. -/
def dropLeading? (p s : String) : Option String :=
  (afterChars? p.toList s.toList).map String.ofList

theorem dropLeading?_eq_some_iff {p s r : String} : dropLeading? p s = some r ↔ s = p ++ r := by
  simp only [dropLeading?, Option.map_eq_some_iff, afterChars?_eq_some_iff]
  constructor
  · rintro ⟨cs, h, rfl⟩
    rw [← String.toList_inj]
    simpa using h
  · rintro rfl
    exact ⟨r.toList, by simp, by simp⟩

/-- What precedes `q` in `s`, if `s` ends with `q`. -/
def dropTrailing? (q s : String) : Option String :=
  (afterChars? q.toList.reverse s.toList.reverse).map fun r => String.ofList r.reverse

theorem dropTrailing?_eq_some_iff {q s r : String} : dropTrailing? q s = some r ↔ s = r ++ q := by
  simp only [dropTrailing?, Option.map_eq_some_iff, afterChars?_eq_some_iff]
  constructor
  · rintro ⟨cs, h, rfl⟩
    rw [← String.toList_inj]
    simpa using congrArg List.reverse h
  · rintro rfl
    exact ⟨r.toList.reverse, by simp, by simp⟩

/-- Whether `s` begins with `p`. -/
def startsWith (p s : String) : Bool := (dropLeading? p s).isSome

/-- Whether `s` ends with `q`. -/
def endsWith (q s : String) : Bool := (dropTrailing? q s).isSome

theorem startsWith_iff {p s : String} : startsWith p s = true ↔ ∃ r, s = p ++ r := by
  simp [startsWith, Option.isSome_iff_exists, dropLeading?_eq_some_iff]

theorem endsWith_iff {q s : String} : endsWith q s = true ↔ ∃ r, s = r ++ q := by
  simp [endsWith, Option.isSome_iff_exists, dropTrailing?_eq_some_iff]

/-- The text with every character `a` turned into `b`. -/
def replaceChar (a b : Char) (s : String) : String :=
  String.ofList (s.toList.map fun c => if c = a then b else c)

/-- The text without any `c` at its end. -/
def trimTrailing (c : Char) (s : String) : String :=
  String.ofList (s.toList.reverse.dropWhile (· == c)).reverse

end RouteAtlas.Text
