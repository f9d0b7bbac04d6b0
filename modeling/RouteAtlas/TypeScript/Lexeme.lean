/-!
# Lexical classes

Each lexical class of TypeScript is given by the longest text of the class with which a list of
characters begins. The answers are lengths in characters; zero says that there is no such text. The
null character is in no text of any class.
-/

namespace RouteAtlas.TypeScript

/-! ## Characters -/

/-- The ranges of characters that may stand between tokens. -/
def blankRanges : List (Nat × Nat) := [
  (0x09, 0x0D), (0x20, 0x20), (0xA0, 0xA0), (0x1680, 0x1680), (0x2000, 0x200B), (0x2028, 0x2029),
  (0x202F, 0x202F), (0x205F, 0x2060), (0x3000, 0x3000), (0xFEFF, 0xFEFF)]

/-- Whether the character may stand between tokens. -/
def isBlank (c : Char) : Bool :=
  blankRanges.any fun (first, last) => first ≤ c.toNat && c.toNat ≤ last

/-- Whether a line comment ends before the character. -/
def endsLine (c : Char) : Bool :=
  c = '\n' || c = '\r' || c = '\u2028' || c = '\u2029' || c = '\x00'

/-- Whether the character is an ASCII mark that no word contains. -/
def isMark (c : Char) : Bool := ":;\x60\"'@#.,|^&<=>+-*/\\%?!~()[]\x7b\x7d".toList.contains c

/-- Whether a word may go on with the character. -/
def isWordPart (c : Char) : Bool := 0x20 ≤ c.toNat && !isBlank c && !isMark c

/-- Whether a word may begin with the character. -/
def isWordStart (c : Char) : Bool := isWordPart c && !c.isDigit

/-- Whether the character is a hexadecimal digit. -/
def isHexDigit (c : Char) : Bool :=
  c.isDigit || ('a' ≤ c && c ≤ 'f') || ('A' ≤ c && c ≤ 'F')

/-- Whether the character is an octal digit. -/
def isOctalDigit (c : Char) : Bool := '0' ≤ c && c ≤ '7'

/-! ## Words -/

/-- The length of the characters at the front of which the predicate holds. -/
def runLength (p : Char → Bool) : List Char → Nat
  | [] => 0
  | c :: cs => if p c then runLength p cs + 1 else 0

/-- A character of a word written by its number: the length of the number with its braces, and
whether it is complete. -/
def numberedLength : List Char → Nat × Bool
  | '\x7b' :: cs =>
    let digits := runLength isHexDigit cs
    if 0 < digits && cs[digits]? = some '\x7d' then (digits + 2, true) else (digits + 1, false)
  | cs =>
    let digits := min 4 (runLength isHexDigit cs)
    (digits, digits = 4)

/-- The length of the next character of a word. -/
def wordPartLength (p : Char → Bool) : List Char → Nat
  | '\\' :: 'u' :: cs =>
    match numberedLength cs with
    | (n, true) => n + 2
    | (_, false) => 0
  | c :: _ => if p c then 1 else 0
  | [] => 0

/-- The length of the characters with which a word goes on, of which there are at most `fuel`. -/
def wordTailLength : Nat → List Char → Nat
  | 0, _ => 0
  | fuel + 1, cs =>
    match wordPartLength isWordPart cs with
    | 0 => 0
    | n + 1 => n + 1 + wordTailLength fuel (cs.drop (n + 1))

/-- The length of a word. -/
def wordLength (cs : List Char) : Nat :=
  match wordPartLength isWordStart cs with
  | 0 => 0
  | n + 1 => n + 1 + wordTailLength cs.length (cs.drop (n + 1))

/-! ## Numbers -/

/-- The length of digits with single underscores between them. -/
def digitsLength (p : Char → Bool) : List Char → Nat
  | [] => 0
  | c :: cs => if p c then tail cs + 1 else 0
where
  /-- The length of the digits and underscores behind a digit. -/
  tail : List Char → Nat
    | [] => 0
    | ['_'] => 0
    | '_' :: d :: cs => if p d then tail cs + 2 else 0
    | d :: cs => if p d then tail cs + 1 else 0

/-- The length of an exponent. -/
def exponentLength : List Char → Nat
  | e :: cs =>
    if e = 'e' || e = 'E' then
      let sign := match cs with
        | '+' :: _ | '-' :: _ => 1
        | _ => 0
      match digitsLength Char.isDigit (cs.drop sign) with
      | 0 => 0
      | n + 1 => n + 1 + sign + 1
    else 0
  | [] => 0

/-- The length of digits that a point or an exponent may follow. -/
def wholeLength : List Char → Nat
  | '0' :: cs =>
    match cs with
    | d :: _ => if d.isDigit && d ≠ '0' then digitsLength Char.isDigit cs + 1 else 1
    | [] => 1
  | cs => digitsLength Char.isDigit cs

/-- The length of a number in one of the bases that a letter names. -/
def basedLength : List Char → Nat
  | '0' :: letter :: cs =>
    let digits :=
      if letter = 'x' || letter = 'X' then digitsLength isHexDigit cs
      else if letter = 'b' || letter = 'B' then digitsLength (fun c => c = '0' || c = '1') cs
      else if letter = 'o' || letter = 'O' then digitsLength isOctalDigit cs
      else 0
    if digits = 0 then 0 else digits + 2
  | _ => 0

/-- The length of a decimal number with a point. -/
def pointLength (cs : List Char) : Nat :=
  let whole := wholeLength cs
  match cs.drop whole with
  | '.' :: rest =>
    let digits := digitsLength Char.isDigit rest
    if whole = 0 && digits = 0 then 0
    else whole + 1 + digits + exponentLength (rest.drop digits)
  | _ => 0

/-- The length of a decimal number without a point. -/
def plainLength (cs : List Char) : Nat :=
  let whole := wholeLength cs
  let exponent := exponentLength (cs.drop whole)
  if 0 < whole && 0 < exponent then whole + exponent else 0

/-- The length of a number. -/
def numberLength (cs : List Char) : Nat :=
  let integer := max (basedLength cs) (digitsLength Char.isDigit cs)
  let big := if 0 < integer && cs[integer]? = some 'n' then integer + 1 else integer
  max big (max (pointLength cs) (plainLength cs))

/-! ## Comments, texts and patterns -/

/-- The length of a text up to the end of a block comment. -/
def blockLength : List Char → Option Nat
  | '*' :: '/' :: _ => some 2
  | c :: cs => if c = '\x00' then none else (blockLength cs).map (· + 1)
  | [] => none

/-- The length of a comment. -/
def commentLength : List Char → Nat
  | '/' :: '/' :: cs => runLength (fun c => !endsLine c) cs + 2
  | '/' :: '*' :: cs => ((blockLength cs).map (· + 2)).getD 0
  | _ => 0

/-- The length of the line that names an interpreter. -/
def hashBangLength : List Char → Nat
  | '#' :: '!' :: cs => runLength (fun c => c ≠ '\n' && c ≠ '\x00') cs + 2
  | _ => 0

/-- The length of a name with a hash in front. -/
def privateNameLength : List Char → Nat
  | '#' :: cs =>
    match wordLength cs with
    | 0 => 0
    | n + 1 => n + 2
  | _ => 0

/-- The length of the plain characters of a text in the given quotes. -/
def fragmentLength (quote : Char) : List Char → Nat :=
  runLength fun c => c ≠ quote && c ≠ '\\' && c ≠ '\r' && c ≠ '\n' && c ≠ '\x00'

/-- An escape behind its backslash: the length of what belongs to it, and whether it is complete. -/
def escapeTail : List Char → Nat × Bool
  | [] | '\x00' :: _ => (0, false)
  | 'x' :: cs =>
    let digits := min 2 (runLength isHexDigit cs)
    (digits + 1, digits = 2)
  | 'u' :: cs =>
    let (n, isComplete) := numberedLength cs
    (n + 1, isComplete)
  | c :: cs =>
    if isOctalDigit c then (min 3 (runLength isOctalDigit (c :: cs)), true)
    else
      let joins := match cs with
        | d :: _ => (c = '\r' || c = '?') && (d = '\n' || d = '\u2028' || d = '\u2029')
        | [] => false
      (if joins then 2 else 1, true)

/-- The length of an escape in a text. -/
def escapeLength : List Char → Nat
  | '\\' :: cs =>
    match escapeTail cs with
    | (n, true) => n + 1
    | (_, false) => 0
  | _ => 0

/-- Whether a pattern cannot go on with the character, escaped or not. -/
def endsPattern (c : Char) : Bool := c = '\n' || c = '\x00'

/-- The length of a class in a pattern, behind its bracket. -/
def patternClassLength : List Char → Option Nat
  | ']' :: _ => some 1
  | '\\' :: c :: cs => if endsPattern c then none else (patternClassLength cs).map (· + 2)
  | c :: cs => if endsPattern c || c = '\\' then none else (patternClassLength cs).map (· + 1)
  | [] => none

/-- The length of the next part of a pattern. -/
def patternPartLength : List Char → Nat
  | '[' :: cs => ((patternClassLength cs).map (· + 1)).getD 0
  | '\\' :: c :: _ => if endsPattern c then 0 else 2
  | c :: _ => if c = '/' || c = '\\' || endsPattern c then 0 else 1
  | [] => 0

/-- The length of a pattern, of which there are at most `fuel` parts. -/
def patternLength : Nat → List Char → Nat
  | 0, _ => 0
  | fuel + 1, cs =>
    match patternPartLength cs with
    | 0 => 0
    | n + 1 => n + 1 + patternLength fuel (cs.drop (n + 1))

/-! ## Classes -/

/-- A lexical class. -/
inductive Lexeme where
  | word
  | privateName
  | number
  | comment
  | hashBang
  | doubleFragment
  | singleFragment
  | escape
  | pattern
  | patternEnd
  | patternFlags
deriving DecidableEq, Repr

namespace Lexeme

/-- The class with a name in the grammar. -/
def ofName? : String → Option Lexeme
  | "identifier" => some .word
  | "private_property_identifier" => some .privateName
  | "number" => some .number
  | "comment" => some .comment
  | "hash_bang_line" => some .hashBang
  | "unescaped_double_string_fragment" => some .doubleFragment
  | "unescaped_single_string_fragment" => some .singleFragment
  | "escape_sequence" => some .escape
  | "regex_pattern" => some .pattern
  | "regex_end" => some .patternEnd
  | "regex_flags" => some .patternFlags
  | _ => none

/-- The length of the longest text of the class at the front. -/
def length : Lexeme → List Char → Nat
  | .word, cs => wordLength cs
  | .privateName, cs => privateNameLength cs
  | .number, cs => numberLength cs
  | .comment, cs => commentLength cs
  | .hashBang, cs => hashBangLength cs
  | .doubleFragment, cs => fragmentLength '"' cs
  | .singleFragment, cs => fragmentLength '\'' cs
  | .escape, cs => escapeLength cs
  | .pattern, cs => patternLength cs.length cs
  | .patternEnd, cs => if cs.head? = some '/' then 1 else 0
  | .patternFlags, cs => runLength (fun c => 'a' ≤ c && c ≤ 'z') cs

/-- Whether the class stands only directly behind the token before it. -/
def isImmediate : Lexeme → Bool
  | .doubleFragment | .singleFragment | .escape | .pattern | .patternEnd | .patternFlags => true
  | _ => false

/-- A class of higher priority is taken even if another token would be longer. -/
def priority : Lexeme → Int
  | .doubleFragment | .singleFragment | .patternEnd => 1
  | .pattern => -1
  | _ => 0

/-- Whether the class is also looked for where a reading was lost. -/
def isRecoverable : Lexeme → Bool
  | .doubleFragment | .singleFragment | .pattern | .patternFlags => false
  | _ => true

end Lexeme

end RouteAtlas.TypeScript
