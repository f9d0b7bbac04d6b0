import RouteAtlas.Query.Pattern
import Std.Data.HashSet

/-!
# Reading patterns

The written form of patterns. A node is `(kind below…)`, a token `"text"`, any node `_`; a field
comes before its node with a colon, names behind it with an at sign, and conditions stand between
parentheses with a number sign. The reader knows the kinds and fields of a grammar and says where a
text fails to be a pattern, and why.
-/

namespace RouteAtlas.Query

open Std (HashSet)

/-- The names that patterns can be made of. -/
structure Names where
  /-- The syntactic kinds. -/
  kinds : HashSet String
  /-- The abstract kinds, each of which comprises others. -/
  abstract : HashSet String
  /-- The texts of tokens. -/
  tokens : HashSet String
  fields : HashSet String

/-- Why a text is no pattern. -/
inductive Fault where
  | form
  | kind
  | field
  | capture
  /-- No tree of the grammar has the structure. -/
  | shape
deriving DecidableEq, Repr

/-- What the reader keeps. -/
structure ReaderState where
  rest : List Char
  /-- The names that were given so far. -/
  captures : List String := []
  /-- The conditions of the present clause. -/
  conditions : List Condition := []

/-- A step of the reader. A fault is at the place that the state of the moment tells. -/
abbrev Read := EStateM Fault ReaderState

namespace Read

/-- The next character; the end of the text counts as a null character. -/
def peek : Read Char := return (← get).rest.headD '\x00'

/-- Goes on by one character. -/
def skip : Read Unit := modify fun s => { s with rest := s.rest.tail }

/-- Goes back to an earlier place and reports a fault there. -/
def failAt {α : Type} (rest : List Char) (fault : Fault) : Read α := do
  modify fun s => { s with rest }
  throw fault

/-- Whether the character is blank between the parts of a pattern. -/
def isBlank (c : Char) : Bool := c = ' ' || (0x09 ≤ c.toNat && c.toNat ≤ 0x0D)

/-- The text behind blanks and comments. -/
def afterBlanks (inComment : Bool) : List Char → List Char
  | [] => []
  | c :: cs =>
    if inComment then
      if c = '\n' || c = '\x00' then afterBlanks false (c :: cs) else afterBlanks true cs
    else if isBlank c then afterBlanks false cs
    else if c = ';' then afterBlanks true cs
    else c :: cs
termination_by cs => (cs.length, if inComment then 1 else 0)

/-- Skips blanks and comments. -/
def blanks : Read Unit := modify fun s => { s with rest := afterBlanks false s.rest }

/-- Whether a name can begin with the character. -/
def startsName (c : Char) : Bool := c.isAlphanum || c = '_' || c = '-'

/-- Whether a name can go on with the character. -/
def continuesName (c : Char) : Bool := startsName c || c = '.'

/-- Reads a name, whose first character is there. -/
def name : Read String := do
  let rest := (← get).rest
  let cs := rest.take 1 ++ rest.tail.takeWhile continuesName
  modify fun s => { s with rest := rest.drop cs.length }
  return String.ofList cs

/-- The value of the text behind a quotation mark, and what follows the mark at its end. -/
def quotedTail : List Char → Option (List Char × List Char)
  | [] => none
  | '"' :: cs => some ([], cs)
  | '\n' :: _ => none
  | '\\' :: c :: cs =>
    let value := match c with
      | 'n' => '\n'
      | 'r' => '\r'
      | 't' => '\t'
      | '0' => '\x00'
      | c => c
    (quotedTail cs).map fun (text, rest) => (value :: text, rest)
  | ['\\'] => none
  | c :: cs => (quotedTail cs).map fun (text, rest) => (c :: text, rest)

/-- Reads a text between quotation marks, the first of which is there. -/
def quoted : Read String := do
  match quotedTail (← get).rest.tail with
  | none => throw .form
  | some (text, rest) =>
    modify fun s => { s with rest }
    return String.ofList text

variable (names : Names)

/-- Whether a text is a beginning of a word. -/
def isBeginningOf (word name : String) : Bool := name.toList.isPrefixOf word.toList

/-- The test for a syntactic kind. -/
def kindTest? (name : String) : Option Test :=
  if isBeginningOf "ERROR" name then some .error
  else if names.abstract.contains name then some (.abstract name)
  else if names.kinds.contains name then some (.kind name true)
  else none

/-- Reads the kind of a token that the text lacks. -/
def missingTest : Read Test := do
  blanks
  let place := (← get).rest
  let c ← peek
  if startsName c then
    let kind ← name
    match kindTest? names kind with
    | some _ => return .missing (some (kind, true))
    | none => failAt place .kind
  else if c = '"' then
    let text ← quoted
    if names.tokens.contains text then return .missing (some (text, false))
    else failAt place.tail .kind
  else if c = ')' then return .missing none
  else throw .form

/-- Reads what stands directly behind an opening parenthesis: the kind of a node. -/
def nodeTest : Read Test := do
  let place := (← get).rest
  if !startsName (← peek) then throw .form
  let kind ← name
  let test ←
    if kind = "_" then pure .named
    else if isBeginningOf "MISSING" kind then missingTest names
    else match kindTest? names kind with
      | some test => pure test
      | none => failAt place .kind
  if (← peek) = '/' then subtype place test else return test
where
  /-- Reads the kind behind an abstract one. `place` is that of the latter. -/
  subtype (place : List Char) (test : Test) : Read Test := do
    match test with
    | .abstract _ =>
      skip
      let place := (← get).rest
      let c ← peek
      if startsName c then
        let kind ← name
        match kindTest? names kind with
        | some test => return test
        | none => failAt place .kind
      else if c = '"' then
        let text ← quoted
        if names.tokens.contains text then return .kind text false else failAt place .kind
      else throw .form
    | _ => failAt ('(' :: place) .shape

/-- Reads the arguments of a condition up to its end. -/
def arguments : Nat → List Argument → Read (List Argument)
  | 0, _ => throw .form
  | fuel + 1, acc => do
    let c ← peek
    if c = ')' then
      skip
      blanks
      return acc.reverse
    else
      let argument ←
        if c = '@' then do
          skip
          if !startsName (← peek) then throw .form
          let place := (← get).rest
          let capture ← name
          if (← get).captures.contains capture then pure (.capture capture)
          else failAt place .capture
        else if c = '"' then pure (.text (← quoted))
        else if startsName c then pure (.text (← name))
        else throw .form
      blanks
      arguments fuel (argument :: acc)

/-- Reads a condition behind its number sign. -/
def condition (fuel : Nat) : Read Unit := do
  if !startsName (← peek) then throw .form
  let word ← name
  let c ← peek
  if c ≠ '?' && c ≠ '!' then throw .form
  skip
  blanks
  let arguments ← arguments fuel []
  modify fun s => { s with
    conditions := s.conditions ++ [⟨word ++ String.singleton c, arguments⟩] }

/-- What was found in the place of a pattern. -/
inductive Part where
  | pattern (p : Pattern)
  /-- A condition, which is kept elsewhere. -/
  | condition
  /-- The bracket that ends the surrounding pattern. -/
  | closing

/-- Reads the marks behind a pattern: how often it occurs, and the names of its node. -/
def suffixes : Nat → Pattern → Read Pattern
  | 0, p => return p
  | fuel + 1, p => do
    let c ← peek
    if c = '+' then
      skip
      blanks
      suffixes fuel (.repeated p)
    else if c = '*' then
      skip
      blanks
      suffixes fuel (.optional (.repeated p))
    else if c = '?' then
      skip
      blanks
      suffixes fuel (.optional p)
    else if c = '@' then
      skip
      if !startsName (← peek) then throw .form
      let capture ← name
      blanks
      modify fun s => { s with
        captures := if s.captures.contains capture then s.captures else s.captures ++ [capture] }
      suffixes fuel (p.capture capture)
    else return p

/-- Reads the name of a field that has to be empty, behind its exclamation mark. -/
def absentField : Read String := do
  blanks
  if !startsName (← peek) then throw .form
  let place := (← get).rest
  let field ← name
  blanks
  if names.fields.contains field then return field else failAt place .field

/-- Skips a point, which says that the next node is adjacent. -/
def anchor : Read Bool := do
  if (← peek) = '.' then
    skip
    blanks
    return true
  else return false

/-- A pattern, adjacent to the node before it or not. -/
def place (isAdjacent : Bool) (p : Pattern) : Pattern := if isAdjacent then p.adjacent else p

/-- The patterns with the last of them standing last below its parent. -/
def closeLast : List Pattern → List Pattern
  | [] => []
  | [p] => [p.last]
  | p :: ps => p :: closeLast ps

/-- The pattern that stands for several side by side. -/
def together : List Pattern → Pattern
  | [p] => p
  | ps => .group ps

mutual

/-- Reads a pattern, a condition, or the end of the surrounding pattern. -/
def part : Nat → Read Part
  | 0 => throw .form
  | fuel + 1 => do
    let start := (← get).rest
    let c ← peek
    if c = ')' || c = ']' then return .closing
    else if c = '[' then
      skip
      blanks
      let branches ← branchesOf fuel []
      return .pattern (← finish fuel (.choice branches) start)
    else if c = '(' then
      skip
      blanks
      let c ← peek
      if c = '(' || c = '"' || c = '[' then
        let members ← membersOf fuel []
        return .pattern (← finish fuel (together members) start)
      else if c = '.' || c = '#' then
        skip
        condition fuel
        return .condition
      else
        let test ← nodeTest names
        blanks
        let (below, absent) ← belowOf fuel [] []
        return .pattern (← finish fuel (.node { test, absent } below) start)
    else if c = '_' then
      skip
      blanks
      return .pattern (← finish fuel (.node { test := .any } []) start)
    else if c = '"' then
      let text ← quoted
      if names.tokens.contains text then
        return .pattern (← finish fuel (.node { test := .kind text false } []) start)
      else failAt start.tail .kind
    else if startsName c then
      let field ← name
      blanks
      if (← peek) ≠ ':' then failAt start .form
      skip
      blanks
      match ← part fuel with
      | .pattern p =>
        if names.fields.contains field then
          return .pattern (← finish fuel (p.underField field) start)
        else failAt start .field
      | .condition => if names.fields.contains field then return .condition else failAt start .field
      | .closing => throw .form
    else throw .form

/-- Reads the marks behind a pattern and notes its place. -/
def finish : Nat → Pattern → List Char → Read Pattern
  | fuel, p, start => do
    blanks
    let p ← suffixes fuel p
    return p.atPlace start.length

/-- Reads the branches of a choice up to its end. -/
def branchesOf : Nat → List Pattern → Read (List Pattern)
  | 0, _ => throw .form
  | fuel + 1, acc => do
    match ← part fuel with
    | .pattern p => branchesOf fuel (p :: acc)
    | .condition => branchesOf fuel acc
    | .closing =>
      if (← peek) = ']' && !acc.isEmpty then
        skip
        return acc.reverse
      else throw .form

/-- Reads patterns side by side up to their end. -/
def membersOf : Nat → List Pattern → Read (List Pattern)
  | 0, _ => throw .form
  | fuel + 1, acc => do
    let isAdjacent ← anchor
    match ← part fuel with
    | .pattern p => membersOf fuel (place isAdjacent p :: acc)
    | .condition => membersOf fuel acc
    | .closing =>
      if (← peek) = ')' then
        skip
        return acc.reverse
      else throw .form

/-- Reads what is said of the nodes below a node, and the fields that have to be empty. -/
def belowOf : Nat → List Pattern → List String → Read (List Pattern × List String)
  | 0, _, _ => throw .form
  | fuel + 1, acc, absent => do
    if (← peek) = '!' then
      skip
      let field ← absentField names
      belowOf fuel acc (absent ++ [field])
    else
      let isAdjacent ← anchor
      match ← part fuel with
      | .pattern p => belowOf fuel (place isAdjacent p :: acc) absent
      | .condition => belowOf fuel acc absent
      | .closing =>
        if (← peek) ≠ ')' || (isAdjacent && acc.isEmpty) then throw .form
        else
          skip
          let below := acc.reverse
          return (if isAdjacent then closeLast below else below, absent)

end

/-- Reads all clauses of a text. -/
def clauses : Nat → List Clause → Read (List Clause)
  | 0, acc => return acc.reverse
  | fuel + 1, acc => do
    blanks
    let start := (← get).rest
    if start.isEmpty then return acc.reverse
    modify fun s => { s with conditions := [] }
    let roots ← match ← part names fuel with
      | .pattern (.group members) => pure members
      | .pattern p => pure [p]
      | .condition => pure []
      | .closing => throw .form
    let conditions := (← get).conditions
    clauses fuel (⟨roots, conditions, start.length⟩ :: acc)

end Read

/-- The number of bytes of a text before its last characters, of which the number is given. -/
def bytesBefore (text : List Char) (left : Nat) : Nat :=
  (text.take (text.length - left)).foldl (fun n c => n + c.utf8Size) 0

/-- The clauses of a text, or the first fault with the number of characters behind it. The places of
clauses and patterns are told in the same way. -/
def readClauses (names : Names) (text : List Char) : Except (Fault × Nat) (List Clause) :=
  match (Read.clauses names (2 * text.length + 2) []).run { rest := text } with
  | .ok clauses _ => .ok clauses
  | .error fault s => .error (fault, s.rest.length)

end RouteAtlas.Query
