import RouteAtlas.Report.Value

/-!
# YAML

`Yaml.render` writes a record in block style. A text is written plainly where a reader takes it for
the same text, between single quotes where it would be read as something else, as a literal block if
it has lines, and between double quotes with escapes where nothing else can hold it.
-/

namespace RouteAtlas.Report.Yaml

/-! ## Texts that look like other values -/

/-- Whether all characters are decimal digits, and there is one. -/
def allDigits (cs : List Char) : Bool := !cs.isEmpty && cs.all Char.isDigit

/-- The characters without one leading sign. -/
def dropSign : List Char → List Char
  | '-' :: cs => cs
  | '+' :: cs => cs
  | cs => cs

/-- The characters without one leading plus. -/
def dropPlus : List Char → List Char
  | '+' :: cs => cs
  | cs => cs

/-- Whether the characters begin with a sign. -/
def hasSign : List Char → Bool
  | '-' :: _ => true
  | '+' :: _ => true
  | _ => false

/-- Digits with a leading zero, which no reader takes for a number. -/
def isZeroPadded (cs : List Char) : Bool :=
  match dropSign cs with
  | '0' :: rest => allDigits rest
  | _ => false

/-- The value of a digit in a base up to sixteen. -/
def digitValue? (base : Nat) (c : Char) : Option Nat :=
  let n :=
    if c.isDigit then c.toNat - '0'.toNat
    else if 'a' ≤ c && c ≤ 'f' then c.toNat - 'a'.toNat + 10
    else if 'A' ≤ c && c ≤ 'F' then c.toNat - 'A'.toNat + 10
    else 16
  if n < base then some n else none

/-- The number written by a nonempty row of digits. -/
def numeral? (base : Nat) (cs : List Char) : Option Nat :=
  if cs.isEmpty then none
  else cs.foldlM (fun n c => (digitValue? base c).map (n * base + ·)) 0

/-- What stands behind a base mark, with the base. -/
def splitBase : List Char → Option (Nat × List Char)
  | '0' :: 'x' :: cs => some (16, cs)
  | '0' :: 'o' :: cs => some (8, cs)
  | '0' :: 'b' :: cs => some (2, cs)
  | _ => none

/-- Whether the characters write a number of the base, not above `limit`. -/
def isNumeral (base limit : Nat) (cs : List Char) : Bool :=
  match numeral? base cs with
  | some n => n ≤ limit
  | none => false

/-- Whether the text reads as an integer of at most 128 bits. -/
def isInteger (cs : List Char) : Bool :=
  let magnitude (limit : Nat) (cs : List Char) : Bool :=
    match splitBase cs with
    | some (base, digits) => isNumeral base limit digits
    | none => !isZeroPadded cs && isNumeral 10 limit cs
  match cs with
  | '-' :: rest => magnitude (1 <<< 127) rest
  | _ => magnitude ((1 <<< 128) - 1) (dropPlus cs)

/-- The number of an exponent, which `e` or `E` and maybe a sign announce. -/
def exponent? : List Char → Option Int
  | [] => some 0
  | e :: cs =>
    if e = 'e' || e = 'E' then
      match cs with
      | '-' :: digits => (numeral? 10 digits).map fun n => -(n : Int)
      | '+' :: digits => (numeral? 10 digits).map fun n => (n : Int)
      | digits => (numeral? 10 digits).map fun n => (n : Int)
    else none

/-- The digits of a decimal fraction, as an integer, and its power of ten. -/
def decimal? (cs : List Char) : Option (Nat × Int) :=
  let whole := cs.takeWhile Char.isDigit
  let rest := cs.dropWhile Char.isDigit
  let (fraction, rest) := match rest with
    | '.' :: rest => (rest.takeWhile Char.isDigit, rest.dropWhile Char.isDigit)
    | _ => ([], rest)
  match numeral? 10 (whole ++ fraction), exponent? rest with
  | some n, some e => some (n, e - fraction.length)
  | _, _ => none

/-- Whether `n · 10 ^ e` rounds to a finite double. -/
def isFinite (n : Nat) (e : Int) : Bool :=
  let bound := (1 <<< 1024) - (1 <<< 970)
  if n = 0 then true
  else if 0 ≤ e then e ≤ 400 && decide (n * Nat.pow 10 e.toNat < bound)
  else
    let digits := (Nat.toDigits 10 n).length
    digits ≤ (-e).toNat + 300 || decide (n < bound * Nat.pow 10 (-e).toNat)

/-- Whether the text reads as a number that is no integer. -/
def isFraction (cs : List Char) : Bool :=
  let unsigned := dropPlus cs
  [".inf", ".Inf", ".INF"].any (·.toList = unsigned)
    || ["-.inf", "-.Inf", "-.INF", ".nan", ".NaN", ".NAN"].any (·.toList = cs)
    || (match decimal? (dropSign cs) with
        | some (n, e) => isFinite n e
        | none => false)

/-- Whether a reader takes the plain text for something other than a text, or might. -/
def needsQuotes (cs : List Char) : Bool :=
  cs.isEmpty
    || ["null", "Null", "NULL", "~", "true", "True", "TRUE", "false", "False", "FALSE"].any
      (·.toList = cs)
    || isInteger cs || isZeroPadded cs || isFraction cs

/-! ## What a text is made of -/

/-- Whether the character breaks a line. -/
def isBreak (c : Char) : Bool :=
  c = '\n' || c = '\r' || c = '\x85' || c = '\u2028' || c = '\u2029'

/-- Whether the character, or the end, sets words apart. -/
def isBlank : Option Char → Bool
  | none => true
  | some c => c = ' ' || c = '\t' || c = '\x00' || isBreak c

/-- Whether the character can be written without an escape. -/
def isPlainChar (c : Char) : Bool :=
  let n := c.toNat
  c = '\n' || (0x20 ≤ n && n ≤ 0x7e) || (0xa0 ≤ n && n ≤ 0xfffd && n != 0xfeff)

/-- Characters with a meaning at the start of a plain text. -/
def openingMarks : List Char :=
  ['#', ',', '[', ']', '\x7b', '\x7d', '&', '*', '!', '|', '>', '\'', '"', '%', '@', '\x60']

/-- Whether a plain text would be read as some mark, from the character before to the end. -/
def marksInside : Option Char → List Char → Bool
  | _, [] => false
  | before, c :: cs =>
    (c = ':' && isBlank cs.head?) || (c = '#' && isBlank before) || marksInside (some c) cs

/-- Whether a plain text would be read as some mark. -/
def hasMarks (cs : List Char) : Bool :=
  match cs with
  | '-' :: '-' :: '-' :: _ => true
  | '.' :: '.' :: '.' :: _ => true
  | c :: rest =>
    openingMarks.contains c || ((c = '?' || c = ':' || c = '-') && isBlank rest.head?)
      || marksInside (some c) rest
  | [] => false

/-- Whether somewhere a character of the first kind stands before one of the second. -/
def hasPair (p q : Char → Bool) : List Char → Bool
  | a :: b :: cs => (p a && q b) || hasPair p q (b :: cs)
  | _ => false

/-- Whether the character is a space. -/
def isSpace (c : Char) : Bool := c = ' '

/-- Whether the first or the last character satisfies `p`. -/
def atEnds (p : Char → Bool) (cs : List Char) : Bool := cs.head?.any p || cs.getLast?.any p

/-- Whether neither plain text nor quotes without escapes nor a block can hold the text. -/
def needsEscapes (cs : List Char) : Bool :=
  hasPair isSpace isBreak cs || cs.any fun c => !isPlainChar c

/-- Whether the text can stand without quotes. -/
def allowsPlain (cs : List Char) : Bool :=
  !(atEnds (fun c => isSpace c || isBreak c) cs || cs.any isBreak || needsEscapes cs || hasMarks cs)

/-- Whether the text can stand between single quotes. -/
def allowsSingle (cs : List Char) : Bool := !(hasPair isBreak isSpace cs || needsEscapes cs)

/-- Whether the text can be a literal block. -/
def allowsBlock (cs : List Char) : Bool :=
  !(cs.isEmpty || cs.getLast?.any isSpace || needsEscapes cs)

/-! ## Styles -/

/-- How a text is written. -/
inductive Style where
  | plain
  | single
  | double
  | block
deriving DecidableEq, Repr

/-- The style of a text. -/
def style (cs : List Char) : Style :=
  if cs.contains '\n' then if allowsBlock cs then .block else .double
  else if !needsQuotes cs && allowsPlain cs then .plain
  else if allowsSingle cs then .single
  else .double

/-- A number in capital hexadecimal digits, `width` of them. -/
def hex (width n : Nat) : List Char :=
  let digits := (Nat.toDigits 16 n).map Char.toUpper
  List.replicate (width - digits.length) '0' ++ digits

/-- One character between double quotes. -/
def escape (c : Char) : List Char :=
  if isPlainChar c && !isBreak c && c != '"' && c != '\\' then [c]
  else
    match c with
    | '\x00' => ['\\', '0']
    | '\x07' => ['\\', 'a']
    | '\x08' => ['\\', 'b']
    | '\t' => ['\\', 't']
    | '\n' => ['\\', 'n']
    | '\x0b' => ['\\', 'v']
    | '\x0c' => ['\\', 'f']
    | '\r' => ['\\', 'r']
    | '\x1b' => ['\\', 'e']
    | '"' => ['\\', '"']
    | '\\' => ['\\', '\\']
    | '\x85' => ['\\', 'N']
    | '\u2028' => ['\\', 'L']
    | '\u2029' => ['\\', 'P']
    | c =>
      let n := c.toNat
      if n ≤ 0xff then '\\' :: 'x' :: hex 2 n
      else if n ≤ 0xffff then '\\' :: 'u' :: hex 4 n
      else '\\' :: 'U' :: hex 8 n

/-- The beginning of a line at an indentation. -/
def margin (indent : Nat) : List Char := List.replicate indent ' '

/-- The characters with a margin behind each row of line breaks, before what follows it. -/
def indented (indent : Nat) (emit : Char → List Char) : Bool → List Char → List Char
  | _, [] => []
  | atStart, c :: cs =>
    if isBreak c then c :: indented indent emit true cs
    else (if atStart then margin indent else []) ++ emit c ++ indented indent emit false cs

/-- A text between single quotes. -/
def single (indent : Nat) (cs : List Char) : List Char :=
  let double (c : Char) : List Char := if c = '\'' then ['\'', '\''] else [c]
  '\'' :: indented indent double false cs
    ++ (if cs.getLast?.any isBreak then margin indent else []) ++ ['\'']

/-- The marks behind the bar of a block: an explicit indentation if the block starts with a blank,
and how its last line breaks are kept. -/
def blockMarks (cs : List Char) : List Char :=
  let explicit := if cs.head?.any fun c => isSpace c || isBreak c then ['2'] else []
  let kept := match cs.reverse with
    | [] => ['-']
    | c :: before =>
      if !isBreak c then ['-']
      else match before with
        | [] => ['+']
        | d :: _ => if isBreak d then ['+'] else []
  explicit ++ kept

/-- A literal block with the end of its last line. -/
def block (indent : Nat) (cs : List Char) : List Char :=
  '|' :: blockMarks cs ++ '\n' :: indented indent (fun c => [c]) true cs
    ++ (if cs.getLast?.any isBreak then [] else ['\n'])

/-- A text with the end of its line, its further lines at `indent`. -/
def text (indent : Nat) (s : String) : List Char :=
  let cs := s.toList
  match style cs with
  | .plain => cs ++ ['\n']
  | .single => single indent cs ++ ['\n']
  | .double => '"' :: cs.flatMap escape ++ ['"', '\n']
  | .block => block indent cs

/-! ## Values -/

mutual

/-- The value of a field or item, from behind the mark that announces it, in a record or list whose
lines begin at `indent`. -/
def value (indent : Nat) : Value → List Char
  | .bool b => ' ' :: (toString b).toList ++ ['\n']
  | .nat n => ' ' :: (toString n).toList ++ ['\n']
  | .text s => ' ' :: text (indent + 2) s
  | .list [] => [' ', '[', ']', '\n']
  | .list vs => '\n' :: items indent vs
  | .record [] => [' ', '\x7b', '\x7d', '\n']
  | .record fs => '\n' :: fields (indent + 2) fs

/-- The items of a list. -/
def items (indent : Nat) : List Value → List Char
  | [] => []
  | .record ((k, v) :: fs) :: vs =>
    margin indent ++ '-' :: ' ' :: k.toList ++ [':'] ++ value (indent + 2) v
      ++ fields (indent + 2) fs ++ items indent vs
  | v :: vs => margin indent ++ ['-'] ++ value indent v ++ items indent vs

/-- The fields of a record, whose names are plain words. -/
def fields (indent : Nat) : List (String × Value) → List Char
  | [] => []
  | (k, v) :: fs =>
    margin indent ++ k.toList ++ [':'] ++ value indent v ++ fields indent fs

end

/-- The text of a record. -/
def render : Value → String
  | .record fs => String.ofList (fields 0 fs)
  | v => String.ofList (value 0 v)

end RouteAtlas.Report.Yaml
