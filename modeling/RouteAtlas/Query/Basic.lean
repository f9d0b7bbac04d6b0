import RouteAtlas.Query.Matching
import RouteAtlas.Query.Structure
import RouteAtlas.Text.Expression

/-!
# Compiled patterns

A query is made of a text: its clauses are read, the grammar is asked whether they are possible, and
their conditions are checked. A match is a way to find a clause whose conditions hold.
-/

namespace RouteAtlas.Query

open Syntax

/-- A condition on the texts of named nodes. -/
inductive Condition.Meaning where
  /-- The texts of two names are the same. -/
  | sameText (a b : String)
  /-- The text of the name is one of the given ones. -/
  | oneOf (name : String) (values : List String)
  /-- The expression finds something in the text of the name. -/
  | finds (name : String) (e : Text.Expression)

/-- A condition that was understood. -/
structure Filter where
  meaning : Condition.Meaning
  /-- Whether the condition has to hold, or not to hold. -/
  isPositive : Bool
  /-- Whether it is about all nodes of the name, or about one of them. -/
  isForAll : Bool

/-- A clause whose conditions were understood. -/
structure Rule where
  roots : List Pattern
  filters : List Filter

/-- A compiled pattern. -/
structure Compiled where
  rules : List Rule

/-- Why a text is no query: what is wrong, and where. -/
structure CompileError where
  text : String
  row : Nat
  column : Nat
deriving DecidableEq, Repr

/-- The error in words. -/
def CompileError.message (e : CompileError) : String :=
  s!"{e.text} (row {e.row}, column {e.column})"

/-! ## Places in a text -/

/-- The lines of a text, without the marks that end them. -/
def linesOf (text : List Char) : List (List Char) :=
  let lines := go text
  let lines := if lines.getLast? = some [] then lines.dropLast else lines
  lines.map fun l => if l.getLast? = some '\r' then l.dropLast else l
where
  /-- The parts of the text between line feeds. -/
  go : List Char → List (List Char)
    | [] => [[]]
    | c :: cs =>
      if c = '\n' then [] :: go cs
      else match go cs with
        | [] => [[c]]
        | l :: ls => (c :: l) :: ls

/-- The number of bytes of a text. -/
def byteCount (text : List Char) : Nat := text.foldl (fun n c => n + c.utf8Size) 0

/-- A place in bytes as a row and a column, with the line if the text has one there. -/
def locate (offset : Nat) : Nat → Nat → List (List Char) → Nat × Nat × Option (List Char)
  | row, start, [] => (row, offset - start, none)
  | row, start, l :: ls =>
    let next := start + byteCount l + 1
    if offset < next then (row, offset - start, some l) else locate offset (row + 1) next ls

/-- Whether a name goes on with the character in an error text. -/
def continuesWord (c : Char) : Bool := c.isAlphanum || c = '_' || c = '-' || 0x80 ≤ c.toNat

/-- The text up to the quotation mark that ends it. -/
def upToQuote (isEscaped : Bool) : List Char → List Char
  | [] => []
  | c :: cs =>
    if c = '"' && !isEscaped then [] else c :: upToQuote (c = '\\' && !isEscaped) cs

/-- What is wrong with a text at a place that the number of characters behind it tells. -/
def describe (text : List Char) (fault : Fault) (left : Nat) : CompileError :=
  let offset := bytesBefore text left
  let (row, column, line) := locate offset 0 0 (linesOf text)
  let before := text.take (text.length - left)
  let rest := text.drop (text.length - left)
  let words := match fault with
    | .kind | .field | .capture =>
      if before.getLast? = some '"' then upToQuote false rest else rest.takeWhile continuesWord
    | .form | .shape =>
      match line with
      | some l => l ++ '\n' :: List.replicate column ' ' ++ ['^']
      | none => "Unexpected EOF".toList
  ⟨String.ofList words, row, column⟩

/-! ## Conditions -/

/-- How a condition that counts its arguments wrongly is refused. -/
def wrongCount (name expected : String) (count : Nat) : String :=
  s!"Wrong number of arguments to #{name} predicate. Expected {expected}, got {count}."

/-- How a condition that does not begin with a name is refused. -/
def noCapture (name value : String) : String :=
  s!"First argument to #{name} predicate must be a capture name. Got literal \"{value}\"."

/-- The condition that the texts are equal. -/
def equality (name : String) (isPositive isForAll : Bool) : List Argument → Except String Filter
  | [.capture a, .text s] => .ok ⟨.oneOf a [s], isPositive, isForAll⟩
  | [.capture a, .capture b] => .ok ⟨.sameText a b, isPositive, isForAll⟩
  | [.text s, _] => .error (noCapture name s)
  | arguments => .error (wrongCount name "2" arguments.length)

/-- The condition that an expression finds something. -/
def finding (name : String) (isPositive isForAll : Bool) : List Argument → Except String Filter
  | [.capture a, .text s] =>
    match Text.Expression.ofString? s with
    | some e => .ok ⟨.finds a e, isPositive, isForAll⟩
    | none => .error s!"Invalid regex '{s}'"
  | [.capture _, .capture b] =>
    .error s!"Second argument to #{name} predicate must be a literal. Got capture @{b}."
  | [.text s, _] => .error (noCapture name s)
  | arguments => .error (wrongCount name "2" arguments.length)

/-- The texts among arguments, unless there is a name among them. -/
def literals (name : String) : List Argument → Except String (List String)
  | [] => .ok []
  | .text s :: rest => (literals name rest).map (s :: ·)
  | .capture a :: _ =>
    .error s!"Arguments to #{name} predicate must be literals. Got capture @{a}."

/-- The condition that the text is one of several. -/
def membership (name : String) (isPositive : Bool) : List Argument → Except String Filter
  | .capture a :: values => (literals name values).map fun vs => ⟨.oneOf a vs, isPositive, true⟩
  | .text s :: _ => .error (noCapture name s)
  | [] => .error (wrongCount name "at least 1" 0)

/-- Checks the arguments of a condition that only gives a property. -/
def checkProperty (name : String) (arguments : List Argument) : Except String Unit :=
  if arguments.isEmpty || 3 < arguments.length then
    .error (s!"Wrong number of arguments to {name} predicate. " ++
      s!"Expected 1 to 3 arguments, got {arguments.length}.")
  else go false [] arguments
where
  /-- Goes through the arguments. -/
  go (hasCapture : Bool) (values : List String) : List Argument → Except String Unit
    | [] =>
      if values.isEmpty then .error s!"Invalid arguments to {name} predicate. Missing key argument"
      else .ok ()
    | .capture a :: rest =>
      if hasCapture then
        .error s!"Invalid arguments to {name} predicate. Unexpected second capture name @{a}"
      else go true values rest
    | .text s :: rest =>
      if 2 ≤ values.length then
        .error s!"Invalid arguments to {name} predicate. Unexpected third argument @{s}"
      else go hasCapture (values ++ [s]) rest

/-- What a condition means; nothing if it is no condition on texts. -/
def understand (c : Condition) : Except String (Option Filter) :=
  match c.name with
  | "eq?" => (equality c.name true true c.arguments).map some
  | "not-eq?" => (equality c.name false true c.arguments).map some
  | "any-eq?" => (equality c.name true false c.arguments).map some
  | "any-not-eq?" => (equality c.name false false c.arguments).map some
  | "match?" => (finding c.name true true c.arguments).map some
  | "not-match?" => (finding c.name false true c.arguments).map some
  | "any-match?" => (finding c.name true false c.arguments).map some
  | "any-not-match?" => (finding c.name false false c.arguments).map some
  | "any-of?" => (membership c.name true c.arguments).map some
  | "not-any-of?" => (membership c.name false c.arguments).map some
  | "set!" | "is?" | "is-not?" => (checkProperty c.name c.arguments).map fun () => none
  | _ => .ok none

/-- Understands the conditions of clauses. -/
def understandAll (text : List Char) : List Clause → Except CompileError (List Rule)
  | [] => .ok []
  | c :: cs => do
    let row := (text.take (text.length - c.place)).count '\n'
    let filters ← (c.conditions.mapM understand).mapError fun words =>
      (⟨words, row, 0⟩ : CompileError)
    let rules ← understandAll text cs
    return ⟨c.roots, filters.filterMap id⟩ :: rules

/-! ## Queries -/

/-- Compiles a pattern for the trees of a grammar. -/
def compile (b : Blueprint) (pattern : String) : Except CompileError Compiled :=
  let text := pattern.toList
  match readClauses b.names text with
  | .error (fault, left) => .error (describe text fault left)
  | .ok clauses =>
    match clauses.findSome? fun c => b.impossibleAny c.roots with
    | some left => .error (describe text .shape left)
    | none => (understandAll text clauses).map fun rules => ⟨rules⟩

namespace Filter

/-- Whether a condition holds of the captures of a match. -/
def holds (f : Filter) (source : String) (captures : List Capture) : Bool :=
  let textsOf (name : String) : List String :=
    (captures.filter fun c => c.name = name).map fun c => c.node.text source
  let decided (outcomes : List Bool) (otherwise : Bool) : Bool :=
    if f.isForAll then outcomes.all (· = f.isPositive) && otherwise
    else outcomes.any (· = f.isPositive) || otherwise
  match f.meaning with
  | .sameText a b =>
    let xs := textsOf a
    let ys := textsOf b
    decided ((xs.zip ys).map fun (x, y) => x = y) (xs.length = ys.length)
  | .oneOf name values => decided ((textsOf name).map values.contains) true
  | .finds name e => decided ((textsOf name).map e.findsIn) true

end Filter

namespace Compiled

/-- The captures of a match in the order of the text. -/
def sortCaptures (captures : List Capture) : List Capture :=
  captures.mergeSort fun a b => (compare a.address b.address).isLE

/-- All matches in a tree, each with its captures. -/
def matchesIn (q : Compiled) (source : String) (tree : Located) : List (List Capture) :=
  q.rules.flatMap fun r =>
    ((allWays r.roots tree).map fun w => sortCaptures w.captures).filter fun captures =>
      r.filters.all fun f => f.holds source captures

end Compiled

end RouteAtlas.Query
