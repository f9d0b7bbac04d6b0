/-!
# Tokens that only the context tells

Some tokens of TypeScript cannot be told by their own text. A semicolon is understood at the end of
a line, before a closing brace and at the end of the text, unless the next line goes on with the
statement; a question mark may be the operator of a choice or the mark of an optional name; the text
of a template is told by what it is not; and an arrow of an HTML comment is one only where no
operator can stand.
-/

namespace RouteAtlas.TypeScript

/-- Whether the character is blank to the rules about line ends. -/
def isSpace (c : Char) : Bool := c = ' ' || (0x09 ≤ c.toNat && c.toNat ≤ 0x0D)

/-- Whether a line ends with the character for the rules about line ends. -/
def isLineEnd (c : Char) : Bool := c = '\n' || c = '\u2028' || c = '\u2029'

/-- The next character; the end of the text counts as a null character. -/
def peek (cs : List Char) : Char := cs.headD '\x00'

/-! ## Templates -/

/-- The length of the text of a template, up to a substitution, an escape or the end; `length`
characters of it are known. -/
def templateCharsFrom (length : Nat) : List Char → Option Nat
  | [] => none
  | '\x00' :: _ => none
  | '\x60' :: _ | '\\' :: _ => if length = 0 then none else some length
  | '$' :: cs =>
    if peek cs = '\x7b' then if length = 0 then none else some length
    else templateCharsFrom (length + 1) cs
  | _ :: cs => templateCharsFrom (length + 1) cs

/-- The length of the text of a template. -/
def templateChars (cs : List Char) : Option Nat := templateCharsFrom 0 cs

/-! ## Semicolons -/

/-- The text behind a block comment, which may have no end. -/
def afterBlock : List Char → List Char
  | '*' :: '/' :: cs => cs
  | '\x00' :: cs => '\x00' :: cs
  | _ :: cs => afterBlock cs
  | [] => []

theorem length_afterBlock_le (cs : List Char) : (afterBlock cs).length ≤ cs.length := by
  fun_induction afterBlock cs with
  | case1 => simp; omega
  | case2 => simp
  | case3 _ _ _ _ ih => simp; omega
  | case4 => simp

/-- The text behind blanks and comments. -/
structure Skipped where
  rest : List Char
  /-- Whether there was a comment. -/
  commented : Bool
  /-- Whether a slash was met that begins no comment. -/
  slash : Bool

/-- Skips blanks and comments. -/
def skipComments (commented : Bool) (cs : List Char) : Skipped :=
  match _h : cs.dropWhile isSpace with
  | '/' :: '/' :: rest => skipComments true (rest.dropWhile fun c => c ≠ '\x00' && !isLineEnd c)
  | '/' :: '*' :: rest => skipComments true (afterBlock rest)
  | '/' :: rest => ⟨rest, commented, true⟩
  | rest => ⟨rest, commented, false⟩
termination_by cs.length
decreasing_by
  all_goals
    have h : (cs.dropWhile isSpace).length ≤ cs.length := (List.dropWhile_suffix _).length_le
    simp_all
  · have := (List.dropWhile_suffix (l := rest) fun c => c ≠ '\x00' && !isLineEnd c).length_le
    simp_all
    omega
  · have := length_afterBlock_le rest
    omega

/-- What is possible besides a semicolon. -/
structure Surroundings where
  /-- Whether an operator may stand here. -/
  operator : Bool
  /-- Whether the body of a function may stand here. -/
  body : Bool

/-- Whether a semicolon is understood; if not, what is left of the text, and whether a comment was
skipped. -/
inductive Understood where
  | yes
  | no (rest : List Char) (commented : Bool)

/-- The answer to a condition. -/
def Understood.ofBool (b : Bool) (rest : List Char) (commented : Bool) : Understood :=
  if b then .yes else .no rest commented

/-- Whether the text begins with a word up to a character that is no letter. -/
def beginsWithWord : List Char → List Char → Bool
  | [], cs => !(peek cs).isAlpha
  | w :: ws, cs => peek cs = w && beginsWithWord ws cs.tail

/-- Whether a semicolon is understood before the first token of a new line. -/
def understoodOnNewLine (s : Surroundings) (commented : Bool) (cs : List Char) : Understood :=
  let no (rest : List Char) : Understood := .no rest commented
  let c := peek cs
  if "\x60,.;*%><=?^|&/:".toList.contains c then no cs
  else if c = '\x7b' then .ofBool (!s.body) cs commented
  else if c = '(' || c = '[' then .ofBool (!s.operator) cs commented
  else if c = '+' || c = '-' then .ofBool (peek cs.tail = c) cs.tail commented
  else if c = '!' then .ofBool (peek cs.tail ≠ '=') cs.tail commented
  else if c = 'i' then
    if peek cs.tail ≠ 'n' then .yes
    else if !(peek (cs.drop 2)).isAlpha then no (cs.drop 2)
    else .ofBool (!beginsWithWord "stanceof".toList (cs.drop 2)) (cs.drop 10) commented
  else .yes

/-- Whether a semicolon is understood at the front of the text. -/
def understood (s : Surroundings) : List Char → Understood
  | [] => .yes
  | c :: cs =>
    if c = '\x00' then .yes
    else if c = '\x7d' then
      let rest := cs.dropWhile isSpace
      if peek rest = ':' then .ofBool s.operator rest false else .yes
    else if c = '\n' then
      let skipped := skipComments false cs
      if skipped.slash then .no skipped.rest skipped.commented
      else understoodOnNewLine s skipped.commented skipped.rest
    else if isSpace c then understood s cs
    else .no (c :: cs) false

/-! ## Choices -/

/-- Whether a question mark, of which the text behind is given, is the operator of a choice. -/
def isChoiceMark (cs : List Char) : Bool :=
  if peek cs = '?' || peek cs = '.' then false
  else
    let rest := cs.dropWhile isSpace
    let c := peek rest
    if c = ':' || c = ')' || c = ',' then false
    else if c = '.' then (peek rest.tail).isDigit
    else true

/-- The length of the blanks before the operator of a choice. -/
def choiceMark (cs : List Char) : Option Nat :=
  let rest := cs.dropWhile isSpace
  if peek rest = '?' && isChoiceMark rest.tail then some (cs.length - rest.length) else none

/-! ## Comments of HTML -/

/-- The lengths of the blanks before a comment of HTML and of the comment. -/
def htmlComment (cs : List Char) : Option (Nat × Nat) :=
  let rest := cs.dropWhile fun c => isSpace c || c = '\u2028' || c = '\u2029'
  let marks := ["<!--".toList, "-->".toList]
  match marks.find? fun m => m.isPrefixOf rest with
  | none => none
  | some m =>
    let line := (rest.drop m.length).takeWhile fun c => c ≠ '\x00' && !isLineEnd c
    some (cs.length - rest.length, m.length + line.length)

end RouteAtlas.TypeScript
