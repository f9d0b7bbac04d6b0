/-!
# Regular expressions

A small language of regular expressions: characters, classes, groups, choices, repetitions and the
two ends of the text. `ofString?` reads an expression; `findsIn` tells whether it matches somewhere
in a text.
-/

namespace RouteAtlas.Text

/-- A set of characters. -/
structure CharClass where
  isNegated : Bool := false
  ranges : List (Char × Char)
deriving DecidableEq, Repr, Inhabited

/-- Whether the character is in the set. -/
def CharClass.contains (s : CharClass) (c : Char) : Bool :=
  s.isNegated != s.ranges.any fun (first, last) => first ≤ c && c ≤ last

/-- A regular expression. -/
inductive Expression where
  | empty
  | char (s : CharClass)
  | seq (a b : Expression)
  | choice (a b : Expression)
  /-- Any number of times, none included. -/
  | many (a : Expression)
  | atStart
  | atEnd
deriving Repr, Inhabited

namespace Expression

/-! ## Matching -/

/-- Adds places that a function leads to until none is new, at most `fuel` times. -/
def closure (next : Nat → List Nat) : Nat → List Nat → List Nat → List Nat
  | 0, _, known => known
  | fuel + 1, todo, known =>
    let new := ((todo.flatMap next).eraseDups).filter fun i => !known.contains i
    if new.isEmpty then known else closure next fuel new (known ++ new)

/-- The places where a match that begins at a place can end. -/
def ends (text : Array Char) : Expression → Nat → List Nat
  | .empty, i => [i]
  | .char s, i => if (text[i]?).any s.contains then [i + 1] else []
  | .seq a b, i => ((ends text a i).flatMap (ends text b)).eraseDups
  | .choice a b, i => (ends text a i ++ ends text b i).eraseDups
  | .many a, i => closure (ends text a) (text.size + 1) [i] [i]
  | .atStart, i => if i = 0 then [i] else []
  | .atEnd, i => if i = text.size then [i] else []

/-- Whether the expression matches somewhere in a text. -/
def findsIn (e : Expression) (text : String) : Bool :=
  let cs := text.toList.toArray
  (List.range (cs.size + 1)).any fun i => !(ends cs e i).isEmpty

/-! ## Reading -/

/-- As many times as the bounds say; without an upper bound, any number of times more. -/
def times (e : Expression) (least : Nat) (most : Option Nat) : Expression :=
  let required := (List.replicate least e).foldr .seq .empty
  match most with
  | none => .seq required (.many e)
  | some m => .seq required ((List.replicate (m - least) e).foldr
      (fun a rest => .choice (.seq a rest) .empty) .empty)

/-- The decimal digits. -/
def digits : List (Char × Char) := [('0', '9')]

/-- The characters of words. -/
def wordRanges : List (Char × Char) := [('0', '9'), ('A', 'Z'), ('_', '_'), ('a', 'z')]

/-- The blank characters. -/
def blankRanges : List (Char × Char) := [('\t', '\r'), (' ', ' ')]

/-- The set that an escape stands for. -/
def escapeClass? (c : Char) : Option CharClass :=
  match c with
  | 'd' => some ⟨false, digits⟩
  | 'D' => some ⟨true, digits⟩
  | 'w' => some ⟨false, wordRanges⟩
  | 'W' => some ⟨true, wordRanges⟩
  | 's' => some ⟨false, blankRanges⟩
  | 'S' => some ⟨true, blankRanges⟩
  | 'n' => some ⟨false, [('\n', '\n')]⟩
  | 'r' => some ⟨false, [('\r', '\r')]⟩
  | 't' => some ⟨false, [('\t', '\t')]⟩
  | c => if c.isAlphanum || 0x80 ≤ c.toNat then none else some ⟨false, [(c, c)]⟩

/-- The ranges of a set up to its closing bracket, and what follows. -/
def classTail : Nat → Bool → List (Char × Char) → List Char →
    Option (List (Char × Char) × List Char)
  | 0, _, _, _ => none
  | _, _, _, [] => none
  | fuel + 1, isFirst, acc, c :: cs =>
    if c = ']' && !isFirst then some (acc, cs)
    else
      let item : Option (List (Char × Char) × List Char) :=
        if c = '\\' then
          match cs with
          | e :: rest => (escapeClass? e).bind fun s =>
              if s.isNegated then none else some (s.ranges, rest)
          | [] => none
        else if c = '[' then none
        else some ([(c, c)], cs)
      match item with
      | none => none
      | some ([(low, _)], '-' :: high :: rest) =>
        if high = ']' then classTail fuel false (acc ++ [(low, low), ('-', '-')]) (high :: rest)
        else if high = '\\' || high = '[' || high < low then none
        else classTail fuel false (acc ++ [(low, high)]) rest
      | some (ranges, rest) => classTail fuel false (acc ++ ranges) rest

/-- The number in front of a text, and what follows. -/
def number? (cs : List Char) : Option (Nat × List Char) :=
  let ds := cs.takeWhile Char.isDigit
  if ds.isEmpty then none
  else some (ds.foldl (fun n d => 10 * n + (d.toNat - 48)) 0, cs.drop ds.length)

/-- The bounds of a repetition up to the closing brace, and what follows. -/
def bounds? (cs : List Char) : Option (Nat × Option Nat × List Char) := do
  let (least, rest) ← number? cs
  match rest with
  | '\x7d' :: rest => return (least, some least, rest)
  | ',' :: '\x7d' :: rest => return (least, none, rest)
  | ',' :: rest =>
    let (most, rest) ← number? rest
    match rest with
    | '\x7d' :: rest => if most < least then none else return (least, some most, rest)
    | _ => none
  | _ => none

/-- Without the mark that makes a repetition a short one. -/
def dropLazy : List Char → List Char
  | '?' :: cs => cs
  | cs => cs

/-- The repetitions behind an expression. -/
def repetitions : Nat → Expression → List Char → Option (Expression × List Char)
  | 0, _, _ => none
  | fuel + 1, e, cs =>
    match cs with
    | '*' :: rest => repetitions fuel (.many e) (dropLazy rest)
    | '+' :: rest => repetitions fuel (times e 1 none) (dropLazy rest)
    | '?' :: rest => repetitions fuel (times e 0 (some 1)) (dropLazy rest)
    | '\x7b' :: rest => do
      let (least, most, rest) ← bounds? rest
      repetitions fuel (times e least most) (dropLazy rest)
    | cs => some (e, cs)

mutual

/-- A choice up to a closing parenthesis or the end, and what follows. -/
def choiceOf : Nat → List Char → Option (Expression × List Char)
  | 0, _ => none
  | fuel + 1, cs => do
    let (a, rest) ← sequenceOf fuel .empty cs
    match rest with
    | '|' :: rest =>
      let (b, rest) ← choiceOf fuel rest
      return (.choice a b, rest)
    | rest => return (a, rest)

/-- The parts of a sequence behind those that were read. -/
def sequenceOf : Nat → Expression → List Char → Option (Expression × List Char)
  | 0, _, _ => none
  | fuel + 1, before, cs =>
    match cs with
    | [] | ')' :: _ | '|' :: _ => some (before, cs)
    | cs => do
      let (e, rest) ← atomOf fuel cs
      let (e, rest) ← repetitions fuel e rest
      sequenceOf fuel (.seq before e) rest

/-- A single part and what follows. -/
def atomOf : Nat → List Char → Option (Expression × List Char)
  | 0, _ => none
  | fuel + 1, cs =>
    match cs with
    | '(' :: '?' :: ':' :: rest | '(' :: rest => do
      let (e, rest) ← choiceOf fuel rest
      match rest with
      | ')' :: rest => return (e, rest)
      | _ => none
    | '[' :: '^' :: rest => do
      let (ranges, rest) ← classTail fuel true [] rest
      return (.char ⟨true, ranges⟩, rest)
    | '[' :: rest => do
      let (ranges, rest) ← classTail fuel true [] rest
      return (.char ⟨false, ranges⟩, rest)
    | '\\' :: c :: rest => do
      let s ← escapeClass? c
      return (.char s, rest)
    | '^' :: rest => some (.atStart, rest)
    | '$' :: rest => some (.atEnd, rest)
    | '.' :: rest => some (.char ⟨true, [('\n', '\n')]⟩, rest)
    | c :: rest =>
      if "*+?\\\x7b)|".toList.contains c then none else some (.char ⟨false, [(c, c)]⟩, rest)
    | [] => none

end

/-- The expression that a text is. -/
def ofString? (text : String) : Option Expression :=
  let cs := text.toList
  match choiceOf (4 * cs.length + 8) cs with
  | some (e, []) => some e
  | _ => none

end Expression

end RouteAtlas.Text
