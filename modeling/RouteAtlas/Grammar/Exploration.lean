import RouteAtlas.Grammar.Kernel

/-!
# Exploration

The states of a grammar are found from the first one: the kernels behind the symbols of a known
state are states too. Exploration numbers them in the order in which they are found.
-/

namespace RouteAtlas.Grammar

open Std (HashMap)

/-- The states found so far. -/
structure Exploration where
  kernels : Array Kernel
  numbers : HashMap Kernel Nat
  /-- The states behind the symbols of each state that has been looked at. -/
  successors : Array (Array (Nat × Nat))
  /-- What begins where given symbols are expected, as far as it was asked for. -/
  fresh : HashMap Expectation (Array (Nat × Kernel))
deriving Inhabited

namespace Exploration

/-- The exploration that knows the first state only. State 0 has no items: it is that of a parser
that has lost its way. -/
def start (t : Tables) : Exploration :=
  ⟨#[.ofItems #[], t.initial], (∅ : HashMap Kernel Nat).insert t.initial 1, #[#[]], ∅⟩

/-- The number of the state with a kernel, which is added if it is new. -/
def intern (e : Exploration) (k : Kernel) : Nat × Exploration :=
  match e.numbers[k]? with
  | some n => (n, e)
  | none =>
    let n := e.kernels.size
    (n, { e with kernels := e.kernels.push k, numbers := e.numbers.insert k n })

/-- What begins where symbols are expected. -/
def begin (t : Tables) (e : Exploration) (x : Expectation) : Array (Nat × Kernel) × Exploration :=
  match e.fresh[x]? with
  | some fresh => (fresh, e)
  | none =>
    let fresh := t.begin x
    (fresh, { e with fresh := e.fresh.insert x fresh })

/-- Looks at a state. -/
def visit (t : Tables) (e : Exploration) (k : Kernel) : Exploration :=
  let (fresh, e) := e.begin t (t.expected k)
  let (row, e) := (t.successors k fresh).foldl
    (fun (acc : Array (Nat × Nat) × Exploration) (symbol, next) =>
      let (row, e) := acc
      let (n, e) := e.intern next
      (row.push (symbol, n), e))
    (#[], e)
  { e with successors := e.successors.push row }

/-- Looks at the states that were not looked at, at most `fuel` of them. -/
def run (t : Tables) : Nat → Exploration → Exploration
  | 0, e => e
  | fuel + 1, e =>
    match e.kernels[e.successors.size]? with
    | none => e
    | some k => run t fuel (e.visit t k)

end Exploration

/-- All states of a grammar, if there are at most `bound`. -/
def Tables.explore (t : Tables) (bound : Nat) : Exploration := (Exploration.start t).run t bound

end RouteAtlas.Grammar
