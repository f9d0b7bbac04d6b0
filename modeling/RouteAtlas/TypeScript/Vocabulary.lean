import RouteAtlas.Parsing.Reader
import RouteAtlas.TypeScript.Family
import RouteAtlas.TypeScript.Juncture

/-!
# The tokens of a TypeScript text

A vocabulary is what the tokens of a grammar look like. With a text it makes the reader that a
parsing machine works with: of the possible tokens the longest is taken, words are compared with the
keywords, and tokens that only the context tells are looked for first.
-/

namespace RouteAtlas.TypeScript

open Grammar Parsing
open Std (HashMap)

/-- A token that is told by its own text. -/
structure Candidate where
  symbol : Nat
  /-- Whether the token stands only directly behind the token before it. -/
  isImmediate : Bool
  /-- A token of higher priority is taken even if another would be longer. -/
  priority : Int
  /-- Of tokens of equal length the one of higher rank is taken. -/
  rank : Nat
  /-- The length of the longest such token at the front of a text, or zero. -/
  length : List Char → Nat

/-- What the tokens of a grammar look like. -/
structure Vocabulary where
  candidates : Array Candidate
  /-- The words with a meaning of their own. -/
  keywords : HashMap String Nat
  keywordSet : TokenSet
  word : Nat
  /-- The tokens that are told by their own text, the end of the text included. -/
  plain : TokenSet
  /-- The tokens that are looked for where a reading was lost. -/
  recovery : TokenSet
  /-- The sets of tokens that are looked for together. -/
  families : List Family
  /-- The tokens that only the context tells. -/
  contextual : HashMap String Nat

/-- The length of a text if it is at the front of another, or zero. -/
def literalLength (text cs : List Char) : Nat := if text.isPrefixOf cs then text.length else 0

/-- Whether a token's text is a word. -/
def isWord (text : String) : Bool :=
  let cs := text.toList
  !cs.isEmpty && wordLength cs = cs.length

namespace Vocabulary

/-- What a token looks like, if its own text tells it and it is no keyword. -/
def candidateOf (symbol : Nat) : TokenShape → Option Candidate
  | .literal text =>
    if isWord text then none
    else some ⟨symbol, false, 0, 2, literalLength text.toList⟩
  | .lexeme name => (Lexeme.ofName? name).map fun l =>
    ⟨symbol, l.isImmediate, l.priority, if l.isImmediate then 1 else 0, l.length⟩
  | .finish | .contextual _ => none

/-- Whether a token is looked for where a reading was lost. The mark of an optional member would
hide the mark of a choice. -/
def isRecoverable : TokenShape → Bool
  | .lexeme name => (Lexeme.ofName? name).any Lexeme.isRecoverable
  | .literal text => text ≠ "?:"
  | _ => true

/-- The vocabulary of a grammar. -/
def ofGrammar (g : Prepared) : Vocabulary :=
  let numbered := (List.range g.tokens.size).filterMap fun t => (g.tokens[t]?).map fun s => (t, s)
  let keywords := numbered.filterMap fun (t, shape) =>
    match shape with
    | .literal text => if isWord text then some (text, t) else none
    | _ => none
  let candidates := (numbered.filterMap fun (t, shape) => candidateOf t shape).toArray
  let recovery := numbered.foldl
    (fun set (t, shape) => if isRecoverable shape then set.insert t else set) ∅
  let keywordSet := keywords.foldl (fun set k => set.insert k.2) ∅
  let plain := candidates.foldl (fun set c => set.insert c.symbol) (.singleton 0)
  { candidates
    keywords := HashMap.ofList keywords
    keywordSet
    word := g.word
    plain
    recovery
    families := Family.all g (recovery.inter plain)
    contextual := HashMap.ofList g.contextual.toList }

variable (v : Vocabulary)

/-- Whether a token that the context tells is possible. -/
def allows (possible : TokenSet) (name : String) : Bool :=
  (v.contextual[name]?).any possible.contains

/-- A token that a candidate found, and its length. -/
structure Find where
  candidate : Candidate
  length : Nat

/-- Whether a find is better than another. -/
def Find.beats (a b : Find) : Bool :=
  if a.candidate.priority ≠ b.candidate.priority then b.candidate.priority < a.candidate.priority
  else if a.length ≠ b.length then b.length < a.length
  else b.candidate.rank < a.candidate.rank

/-- The tokens to look for where the given ones are possible. A word is looked for for the sake of a
keyword too. -/
def sought (possible : TokenSet) : TokenSet :=
  let plain := possible.inter v.plain
  let plain := if (possible.inter v.keywordSet).isEmpty then plain else plain.insert v.word
  ((v.families.find? fun f => f.serves plain).map Family.members).getD plain

/-- The best of the sought tokens at the front of a text. -/
def best (sought : TokenSet) (p : Candidate → Bool) (cs : List Char) : Option Find :=
  v.candidates.foldl
    (fun found c =>
      if p c && sought.contains c.symbol then
        match c.length cs with
        | 0 => found
        | n + 1 =>
          let new : Find := ⟨c, n + 1⟩
          match found with
          | none => some new
          | some old => if new.beats old then some new else found
      else found)
    none

/-- How far the beginning of a word that is no word can be followed. -/
def begunWord : List Char → Nat
  | '\\' :: 'u' :: cs => 2 + (numberedLength cs).1
  | '\\' :: _ => 1
  | _ => 0

/-- How far the beginning of a token that is no token can be followed. -/
def begun (afterBlank : Bool) : List Char → Nat
  | '#' :: cs => 1 + begunWord cs
  | '\\' :: cs => if afterBlank then begunWord ('\\' :: cs) else 1 + (escapeTail cs).1
  | _ => 0

/-- The position behind the first characters of a text. -/
def behind (position : Extent) (cs : List Char) (count : Nat) : Extent :=
  (cs.take count).foldl Extent.next position

/-- The longest token at the front of a text, of those to look for where the given ones are
possible. -/
def longest (possible : TokenSet) (position : Extent) (cs : List Char) : Reading :=
  let sought := v.sought possible
  let blanks := runLength isBlank cs
  let direct := if blanks = 0 then v.best sought (fun _ => true) cs
    else v.best sought Candidate.isImmediate cs
  match direct with
  | some f => .token ⟨f.candidate.symbol, position, behind position cs f.length⟩
  | none =>
    let start := behind position cs blanks
    let rest := cs.drop blanks
    if rest.isEmpty then
      if sought.contains 0 then .token ⟨0, start, start⟩ else .nothing start start
    else
      match if blanks = 0 then none else v.best sought (fun c => !c.isImmediate) rest with
      | some f => .token ⟨f.candidate.symbol, start, behind start rest f.length⟩
      | none => .nothing start (behind start rest (begun (blanks ≠ 0) rest))

/-- A token that the context tells, among the possible ones. -/
def fromContext (possible : TokenSet) (position : Extent) (cs : List Char) : Option Token :=
  let token (name : String) (blanks length : Nat) : Option Token :=
    (v.contextual[name]?).map fun symbol =>
      ⟨symbol, behind position cs blanks, behind position cs (blanks + length)⟩
  let allows := v.allows possible
  let choice (skipped : List Char) : Option Token :=
    (choiceMark skipped).bind fun blanks =>
      token "_ternary_qmark" (cs.length - skipped.length + blanks) 1
  if allows "_template_chars" then
    if allows "_automatic_semicolon" then none
    else (templateChars cs).bind (token "_template_chars" 0)
  else if allows "_automatic_semicolon" || allows "_function_signature_automatic_semicolon" then
    let s : Surroundings := ⟨allows "||", allows "_function_signature_automatic_semicolon"⟩
    match understood s cs with
    | .yes => token "_automatic_semicolon" 0 0
    | .no rest commented =>
      if !commented && allows "_ternary_qmark" && peek rest = '?' then choice rest else none
  else if allows "_ternary_qmark" then choice cs
  else if allows "html_comment" && !allows "||" && !allows "escape_sequence"
      && !allows "regex_pattern" then
    (htmlComment cs).bind fun (blanks, length) => token "html_comment" blanks length
  else none

/-- What is left of a text at each of its places, the end included. -/
def suffixes : List Char → List (List Char)
  | [] => [[]]
  | c :: cs => (c :: cs) :: suffixes cs

/-- The reader of a text. -/
def reader (text : List Char) : Reader :=
  let suffixes := (suffixes text).toArray
  let at_ (position : Extent) : List Char := suffixes.getD position.chars []
  { contextual := fun possible position => v.fromContext possible position (at_ position)
    longest := fun possible position => v.longest possible position (at_ position)
    keyword := fun t =>
      if t.symbol = v.word then
        v.keywords[String.ofList ((at_ t.start).take (t.finish.chars - t.start.chars))]?
      else none
    recovery := v.recovery
    next := fun position => ((at_ position).head?).map position.next }

end Vocabulary

end RouteAtlas.TypeScript
