import RouteAtlas.Parsing.Subtree

/-!
# Reading tokens

Which token stands at a place in a text depends on the tokens that are possible there. Where none of
them stands, any token of the language is taken, and where there is none of these either, characters
are skipped until one begins.
-/

namespace RouteAtlas.Parsing

open Grammar

/-- A token in a text. -/
structure Token where
  symbol : Nat
  /-- The position behind the blank text before the token. -/
  start : Extent
  finish : Extent
deriving Inhabited

/-- The outcome of looking for a token. -/
inductive Reading where
  | token (t : Token)
  /-- No token begins at `start`; the beginning of one was followed up to `reached`. -/
  | nothing (start reached : Extent)
deriving Inhabited

/-- How the tokens of a text are found. -/
structure Reader where
  /-- A token that the context tells, among the possible ones, at a position. -/
  contextual : TokenSet → Extent → Option Token
  /-- The longest of the possible tokens at a position. -/
  longest : TokenSet → Extent → Reading
  /-- The keyword that a word spells. -/
  keyword : Token → Option Nat
  /-- The tokens that are looked for where a reading was lost. -/
  recovery : TokenSet
  /-- The position behind the next character. -/
  next : Extent → Option Extent

namespace Reader

variable (r : Reader) (g : Prepared)

/-- Looks for one of the possible tokens at a position. A token without text is taken only where
`allowsEmpty` says so. -/
def look (possible : TokenSet) (allowsEmpty : Bool) (position : Extent) : Reading :=
  match r.contextual possible position with
  | none => r.longest possible position
  | some t =>
    if t.finish.bytes ≤ position.bytes && !(allowsEmpty && !g.extras.contains t.symbol) then
      r.longest possible position
    else .token t

/-- Where the characters end that belong to no token, of which those up to `finish` are known. -/
def skipTo : Nat → Extent → Extent → Extent
  | 0, finish, _ => finish
  | fuel + 1, finish, reached =>
    let further := if reached.bytes = finish.bytes then r.next reached else some reached
    match further with
    | none => finish
    | some finish =>
      match r.look g r.recovery false finish with
      | .token _ => finish
      | .nothing _ reached => skipTo fuel finish reached

/-- The tree of a token. A word is a keyword if that is possible. -/
def leafOf (possible : TokenSet) (position : Extent) (t : Token) : Subtree :=
  let keyword := r.keyword t
  let symbol := (keyword.filter possible.contains).getD t.symbol
  .leaf g symbol (t.start.since position) (t.finish.since t.start) keyword.isSome

/-- The next token at a position. `isLost` says that the reading was lost before; `fuel` bounds the
number of characters that are skipped. -/
def lookahead (fuel : Nat) (possible : TokenSet) (isLost hasAdvanced : Bool) (position : Extent) :
    Subtree :=
  let anywhere := r.look g r.recovery false position
  let reading :=
    if isLost then anywhere
    else match r.look g possible hasAdvanced position with
      | .token t => .token t
      | .nothing _ _ => anywhere
  match reading with
  | .token t => r.leafOf g (if isLost then r.recovery else possible) position t
  | .nothing start reached =>
    .errorLeaf (start.since position) ((r.skipTo g fuel start reached).since start)

end Reader

end RouteAtlas.Parsing
