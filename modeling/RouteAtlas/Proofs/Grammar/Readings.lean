import Mathlib.Data.List.Infix
import Mathlib.Tactic.Common
import RouteAtlas.Grammar.Prepared

/-!
# What a rule mentions

The productions of a rule are made of its choice-free readings, in which every repetition has become
the name of a rule. A reading mentions symbols, each with an alias and a field (`marks`), and the
steps of its production are the numbers of these symbols (`flatten_marks`). Naming repetitions
changes neither which readings there are (`alternatives_rename`) nor what they say of their symbols
(`marks_rename`).
-/

namespace RouteAtlas.Grammar

/-- A symbol as a rule mentions it: under an alias and under a field, if there are any. -/
structure Mark where
  target : Rule
  aliased : Option Alias := none
  field : Option String := none
deriving DecidableEq

/-- What a step says of its symbol, apart from ranks. -/
def Step.mark (s : Step) : Nat × Option Alias × Option String := (s.symbol, s.aliased, s.field)

/-- The step that a mark becomes, if its symbol has a number. -/
def Mark.step? (symbolOf : Rule → Option Nat) (m : Mark) :
    Option (Nat × Option Alias × Option String) :=
  (symbolOf m.target).map fun symbol => (symbol, m.aliased, m.field)

namespace Rule

mutual

/-- The symbols that a choice-free rule mentions, in order, under the alias and the field of the
rules around it. -/
def marks (outer : Option Alias) (under : Option String) : Rule → List Mark
  | .seq rs => marksAll outer under rs
  | .prec _ _ r => marks outer under r
  | .weight _ r => marks outer under r
  | .field n r => marks outer (some n) r
  | .aliased n r => marks (some n) under r
  | r => [⟨r, outer, under⟩]

/-- The symbols that several rules mention. -/
def marksAll (outer : Option Alias) (under : Option String) : List Rule → List Mark
  | [] => []
  | r :: rs => marks outer under r ++ marksAll outer under rs

end

/-! ## The steps of a reading -/

section Steps

/-- The marks of the steps so far. -/
def Flattened.marks (f : Flattened) : List (Nat × Option Alias × Option String) :=
  f.steps.toList.map Step.mark

lemma map_modify_toList {α β : Type} (g : α → β) {h : α → α} (same : ∀ x, g (h x) = g x)
    (xs : Array α) (i : Nat) : (xs.modify i h).toList.map g = xs.toList.map g := by
  rw [Array.toList_modify]
  apply List.ext_getElem?
  intro j
  simp only [List.getElem?_map, List.getElem?_modify]
  split <;> simp [Option.map_map, Function.comp_def, same]

@[simp] lemma Flattened.marks_setRank (f : Flattened) (rank : Precedence) :
    (f.setRank rank).marks = f.marks :=
  map_modify_toList (h := fun s => { s with rank }) Step.mark (fun _ => rfl) f.steps _

@[simp] lemma Flattened.marks_setAssoc (f : Flattened) (assoc : Option Associativity) :
    (f.setAssoc assoc).marks = f.marks :=
  map_modify_toList (h := fun s => { s with assoc }) Step.mark (fun _ => rfl) f.steps _

variable (symbolOf : Rule → Option Nat)

/-- A symbol is appended as it is mentioned. -/
lemma marks_push (f : Flattened) (m : Mark) (rank : Precedence) (assoc : Option Associativity)
    {symbol : Nat} (known : symbolOf m.target = some symbol) :
    Flattened.marks { f with steps := f.steps.push ⟨symbol, rank, assoc, m.aliased, m.field⟩ }
      = f.marks ++ [m].filterMap (Mark.step? symbolOf) := by
  simp [Mark.step?, known, Flattened.marks, Step.mark]

lemma marks_skip (f : Flattened) (m : Mark) (unknown : symbolOf m.target = none) :
    f.marks = f.marks ++ [m].filterMap (Mark.step? symbolOf) := by
  simp [Mark.step?, unknown]

mutual

/-- Flattening a rule appends the symbols that it mentions. -/
theorem flatten_marks : (r : Rule) → ∀ (ctx : Context) (atEnd : Bool) (f : Flattened),
    (flatten symbolOf ctx atEnd f r).1.marks
      = f.marks ++ (r.marks ctx.aliases.head? ctx.fields.head?).filterMap (Mark.step? symbolOf)
  | .seq rs, ctx, atEnd, f => by
    rw [flatten, flattenAll_marks rs, marks]
  | .prec rank assoc r, ctx, atEnd, f => by
    have inner := flatten_marks r { ctx with
      ranks := if rank = .none then ctx.ranks else rank :: ctx.ranks
      assocs := match assoc with
        | some a => a :: ctx.assocs
        | none => ctx.assocs } atEnd f
    simp only [flatten, marks]
    rw [← inner]
    -- What is changed behind the rule is the rank of its last symbol.
    generalize flatten symbolOf _ atEnd f r = out
    by_cases changed : out.2 && !atEnd
    · rw [if_pos changed]
      dsimp only
      split <;> split <;> simp
    · rw [if_neg changed]
  | .weight n r, ctx, atEnd, f => by
    rw [flatten, flatten_marks r, marks]
    congr 1
    split <;> rfl
  | .field n r, ctx, atEnd, f => by
    rw [flatten, flatten_marks r, marks]
    rfl
  | .aliased n r, ctx, atEnd, f => by
    rw [flatten, flatten_marks r, marks]
    rfl
  | .blank, ctx, atEnd, f | .literal _, ctx, atEnd, f | .lexeme _, ctx, atEnd, f
  | .ref _, ctx, atEnd, f | .choice _, ctx, atEnd, f | .repeat1 _, ctx, atEnd, f => by
    simp only [flatten, marks]
    split
    · exact marks_skip symbolOf f _ ‹_›
    · exact marks_push symbolOf f ⟨_, _, _⟩ _ _ ‹_›

theorem flattenAll_marks : (rs : List Rule) → ∀ (ctx : Context) (atEnd : Bool) (f : Flattened),
    (flattenAll symbolOf ctx atEnd f rs).1.marks
      = f.marks ++ (marksAll ctx.aliases.head? ctx.fields.head? rs).filterMap (Mark.step? symbolOf)
  | [], ctx, atEnd, f => by simp [flattenAll, marksAll]
  | [r], ctx, atEnd, f => by simp [flattenAll, marksAll, flatten_marks r]
  | r :: r' :: rs, ctx, atEnd, f => by
    rw [flattenAll, marksAll, List.filterMap_append, ← List.append_assoc,
      ← flatten_marks r ctx false f]
    · exact flattenAll_marks (r' :: rs) ctx atEnd _
    · simp

end

/-- The steps of a production are the symbols that its rule mentions. -/
lemma marks_toProduction (head : Nat) (r : Rule) :
    (toProduction symbolOf head r).steps.toList.map Step.mark
      = (r.marks none none).filterMap (Mark.step? symbolOf) :=
  flatten_marks symbolOf r {} true {}

end Steps

/-! ## Names for repetitions -/

section Repetitions
variable (table : Repetitions)

mutual

/-- The rule with its repetitions replaced by their names in a table. -/
def rename : Rule → Rule
  | .seq rs => .seq (renameAll rs)
  | .choice rs => .choice (renameAll rs)
  | .prec p a r => .prec p a (rename r)
  | .weight n r => .weight n (rename r)
  | .field n r => .field n (rename r)
  | .aliased n r => .aliased n (rename r)
  | .repeat1 r =>
    match table.find? fun entry => entry.1 == rename r with
    | some (_, name) => .ref name
    | none => .repeat1 (rename r)
  | r => r

/-- The rules with their repetitions replaced. -/
def renameAll : List Rule → List Rule
  | [] => []
  | r :: rs => rename r :: renameAll rs

end

/-- What becomes of a repetition. -/
lemma rename_repeat1 (r : Rule) : (∃ name, rename table (.repeat1 r) = .ref name) ∨
    rename table (.repeat1 r) = .repeat1 (rename table r) := by
  rw [rename]
  split
  · exact .inl ⟨_, rfl⟩
  · exact .inr rfl

mutual

/-- The readings are the same, but for the names of repetitions. -/
theorem alternatives_rename : (r : Rule) →
    (rename table r).alternatives = r.alternatives.map (rename table)
  | .seq rs => by
    rw [rename, alternatives, alternatives, ← alternativesOfSeq_rename rs [.blank]]
    rfl
  | .choice rs => by
    rw [rename, alternatives, alternatives, alternativesOfChoice_rename rs]
  | .prec p a r => by
    simp [rename, alternatives, alternatives_rename r, Function.comp_def]
  | .weight n r => by
    simp [rename, alternatives, alternatives_rename r, Function.comp_def]
  | .field n r => by
    simp [rename, alternatives, alternatives_rename r, Function.comp_def]
  | .aliased n r => by
    simp [rename, alternatives, alternatives_rename r, Function.comp_def]
  | .repeat1 r => by
    obtain ⟨name, e⟩ | e := rename_repeat1 table r <;>
      simp [alternatives, e]
  | .blank | .literal _ | .lexeme _ | .ref _ => by simp [rename, alternatives]

theorem alternativesOfSeq_rename : (rs : List Rule) → (before : List Rule) →
    alternativesOfSeq (before.map (rename table)) (renameAll table rs)
      = (alternativesOfSeq before rs).map (rename table)
  | [], before => by simp [renameAll, alternativesOfSeq]
  | r :: rs, before => by
    simp only [renameAll, alternativesOfSeq, ← alternativesOfSeq_rename rs, alternatives_rename r]
    congr 1
    simp [List.flatMap_map, List.map_flatMap, Function.comp_def, rename, renameAll]

theorem alternativesOfChoice_rename : (rs : List Rule) →
    alternativesOfChoice (renameAll table rs) = (alternativesOfChoice rs).map (rename table)
  | [] => by simp [renameAll, alternativesOfChoice]
  | r :: rs => by
    simp [renameAll, alternativesOfChoice, alternatives_rename r, alternativesOfChoice_rename rs]

end

end Repetitions

end Rule

/-- A mark with the repetitions of its symbol named. -/
def Mark.rename (table : Rule.Repetitions) (m : Mark) : Mark :=
  { m with target := m.target.rename table }

namespace Rule

section Repetitions
variable (table : Repetitions)

mutual

/-- A rule says the same of its symbols, but for the names of repetitions. -/
theorem marks_rename : (r : Rule) → ∀ (outer : Option Alias) (under : Option String),
    (rename table r).marks outer under = (r.marks outer under).map (Mark.rename table)
  | .seq rs, outer, under => by rw [rename, marks, marks, marksAll_rename rs]
  | .prec _ _ r, outer, under => by rw [rename, marks, marks, marks_rename r]
  | .weight _ r, outer, under => by rw [rename, marks, marks, marks_rename r]
  | .field _ r, outer, under => by rw [rename, marks, marks, marks_rename r]
  | .aliased _ r, outer, under => by rw [rename, marks, marks, marks_rename r]
  | .repeat1 r, outer, under => by
    obtain ⟨name, e⟩ | e := rename_repeat1 table r <;>
      simp [marks, e, Mark.rename]
  | .choice rs, outer, under => by simp [rename, marks, Mark.rename]
  | .blank, outer, under | .literal _, outer, under | .lexeme _, outer, under
  | .ref _, outer, under => by simp [rename, marks, Mark.rename]

theorem marksAll_rename : (rs : List Rule) → ∀ (outer : Option Alias) (under : Option String),
    marksAll outer under (renameAll table rs) = (marksAll outer under rs).map (Mark.rename table)
  | [], outer, under => by simp [renameAll, marksAll]
  | r :: rs, outer, under => by
    rw [renameAll, marksAll, marksAll, marks_rename r, marksAll_rename rs, List.map_append]

end

end Repetitions

end Rule

end RouteAtlas.Grammar
