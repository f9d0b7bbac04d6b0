import RouteAtlas.Proofs.Query.Possible
import RouteAtlas.Proofs.Query.Written

/-!
# Patterns that a grammar has

What rules mention of symbols, their trees have: it is known by its kind and its field, and has a
place in a production (`Mentions.exists_steps`). So a written pattern compiles whenever the rules
mention its nodes below each other, directly or below hidden symbols (`compile_of_isPossible`).
-/

namespace RouteAtlas

open Grammar

namespace Query.Blueprint

section Prepared
variable {g : Prepared} {abstract : List String} {p : Production} {s : Step} {kind : String}
  {symbol : Nat}

lemma shownAs_ofGrammar : (ofGrammar g abstract).shownAs s = appearanceAt g.symbols s := by
  rw [shownAs, appearanceAt]
  cases s.aliased <;> rfl

/-- A production is listed under its head. -/
lemma mem_productions (mem : p ∈ g.productions) (bound : p.head < g.symbols.size) :
    p ∈ (ofGrammar g abstract).productions.getD p.head #[] := by
  rw [ofGrammar]
  dsimp only
  rw [← Array.foldl_toList]
  refine foldl_of_mem (I := fun acc : Array (Array Production) => acc.size = g.symbols.size)
    (P := fun acc => p ∈ acc.getD p.head #[]) (Array.mem_toList_iff.2 mem) Array.size_replicate
    (fun acc q size => Array.size_modify.trans size) (fun acc size => ?_) fun acc q listed => ?_
  · rw [Array.getD_eq_getD_getElem?, Array.getElem?_modify, if_pos rfl,
      Array.getElem?_eq_getElem (size ▸ bound)]
    exact Array.mem_push_self
  · rw [Array.getD_eq_getD_getElem?] at listed ⊢
    rw [Array.getElem?_modify]
    split
    · cases known : acc[p.head]? with
      | none => simp [known] at listed
      | some ps =>
        rw [known] at listed
        exact Array.mem_push_of_mem q listed
    · exact listed

section Forms
variable {forms : Std.HashMap String (List Nat)}

/-- Forms are only added. -/
lemma mem_addForm (kind' : String) (symbol' : Nat) (known : symbol ∈ forms.getD kind []) :
    symbol ∈ (addForm forms kind' symbol').getD kind [] := by
  rw [addForm]
  split
  · exact known
  · rw [Std.HashMap.getD_insert]
    split
    · rename_i same
      rw [← beq_iff_eq.1 same] at known
      exact List.mem_append_left _ known
    · exact known

lemma mem_addForm_self : symbol ∈ (addForm forms kind symbol).getD kind [] := by
  rw [addForm]
  split
  · rename_i known
    exact List.contains_iff_mem.1 known
  · rw [Std.HashMap.getD_insert_self]
    exact List.mem_append_right _ List.mem_cons_self

lemma mem_addOwn {symbols : Array SymbolInfo} (n : Nat) (known : symbol ∈ forms.getD kind []) :
    symbol ∈ (addOwn symbols n forms).getD kind [] := by
  rw [addOwn]
  split
  · split
    · exact mem_addForm _ _ known
    · exact known
  · exact known

lemma mem_addAlias (t : Step) (known : symbol ∈ forms.getD kind []) :
    symbol ∈ (addAlias forms t).getD kind [] := by
  rw [addAlias]
  split
  · split
    · exact mem_addForm _ _ known
    · exact known
  · exact known

end Forms

/-- The steps of all productions. -/
lemma mem_steps (mem : p ∈ g.productions) (inSteps : s ∈ p.steps) :
    s ∈ (g.productions.map Production.steps).flatten :=
  Array.mem_flatten.2 ⟨p.steps, Array.mem_map_of_mem mem, inSteps⟩

/-- A step without an alias appears as its symbol does. -/
lemma own_of_appearanceAt {symbols : Array SymbolInfo} (bare : s.aliased = none)
    (appears : appearanceAt symbols s = some (kind, true)) :
    symbols[s.symbol]? = some ⟨kind, .named⟩ := by
  rw [appearanceAt, bare] at appears
  dsimp only at appears
  split at appears
  · rename_i own
    rw [own, (Prod.mk.inj (Option.some.inj appears)).1]
  all_goals cases appears

/-- A symbol is one of the forms of the kind that is its own. -/
lemma mem_ownForms {symbols : Array SymbolInfo}
    (own : symbols[symbol]? = some ⟨kind, .named⟩) (count : Nat) (bound : symbol < count) :
    symbol ∈ (count.fold (fun n _ forms => addOwn symbols n forms) ∅).getD kind [] := by
  induction count with
  | zero => cases bound
  | succ count ih =>
    rw [Nat.fold_succ]
    rcases Nat.eq_or_lt_of_le (Nat.le_of_lt_succ bound) with rfl | earlier
    · rw [addOwn, own]
      exact mem_addForm_self
    · exact mem_addOwn _ (ih earlier)

/-- A symbol that appears as a kind is one of the forms of it. -/
lemma mem_forms (mem : p ∈ g.productions) (inSteps : s ∈ p.steps)
    (appears : appearanceAt g.symbols s = some (kind, true)) :
    s.symbol ∈ (ofGrammar g abstract).forms.getD kind [] := by
  have inSteps' := Array.mem_toList_iff.2 (mem_steps mem inSteps)
  rw [ofGrammar]
  dsimp only
  rw [← Array.foldl_toList]
  cases given : s.aliased with
  | some a =>
    simp only [appearanceAt, given, Option.some.injEq, Prod.mk.injEq] at appears
    refine foldl_of_mem (I := fun _ => True)
      (P := fun acc : Std.HashMap String (List Nat) => s.symbol ∈ acc.getD kind [])
      inSteps' trivial (fun _ _ _ => trivial) (fun acc _ => ?_) fun _ t => mem_addAlias t
    simp only [addAlias, given, appears.1, appears.2, if_true]
    exact mem_addForm_self
  | none =>
    have own : g.symbols[s.symbol]? = some ⟨kind, .named⟩ := own_of_appearanceAt given appears
    exact List.foldlRecOn
      (motive := fun acc : Std.HashMap String (List Nat) => s.symbol ∈ acc.getD kind []) _ _
      (mem_ownForms own _ (Array.getElem?_eq_some_iff.1 own).1) fun _ known t _ =>
        mem_addAlias t known

/-- A kind that appears is known. -/
lemma mem_kinds (mem : p ∈ g.productions) (inSteps : s ∈ p.steps)
    (appears : appearanceAt g.symbols s = some (kind, true)) :
    kind ∈ (ofGrammar g abstract).names.kinds := by
  rw [ofGrammar]
  dsimp only
  rw [Std.HashSet.mem_ofList, List.contains_iff_mem, List.mem_append]
  cases given : s.aliased with
  | some a =>
    simp only [appearanceAt, given, Option.some.injEq, Prod.mk.injEq] at appears
    refine .inr (List.mem_map.2 ⟨a, Array.mem_toList_iff.2 (Array.mem_filter.2 ⟨?_, appears.2⟩),
      appears.1⟩)
    exact Array.mem_filterMap.2 ⟨s, mem_steps mem inSteps, given⟩
  | none =>
    have own : g.symbols[s.symbol]? = some ⟨kind, .named⟩ := own_of_appearanceAt given appears
    exact .inl (List.mem_filterMap.2
      ⟨_, Array.mem_toList_iff.2 (Array.mem_of_getElem? own), rfl⟩)

lemma mem_fields {field : String} (mem : p ∈ g.productions) (inSteps : s ∈ p.steps)
    (held : s.field = some field) : field ∈ (ofGrammar g abstract).names.fields := by
  rw [ofGrammar]
  dsimp only
  rw [Std.HashSet.mem_ofList, List.contains_iff_mem, Array.mem_toList_iff, Array.mem_filterMap]
  exact ⟨s, mem_steps mem inSteps, held⟩

end Prepared

end Query.Blueprint

/-! ## What rules mention -/

namespace Grammar.Definition

variable {d : Definition} {target : Rule} {m : Mark} {ms : List Mark} {abstract : List String}

/-- Whether a reading of a symbol mentions some others in their order. -/
structure Mentions (d : Definition) (target : Rule) (ms : List Mark) : Prop where
  kept : d.IsKept target
  reading : ∃ a, d.IsReading target a ∧ ms.Sublist (a.marks none none)
  known : ∀ m ∈ ms, d.IsKept m.target

/-- Whether a symbol is mentioned. -/
def Occurs (d : Definition) (m : Mark) : Prop := ∃ above ms, d.Mentions above ms ∧ m ∈ ms

/-- Whether a node under a field, of some kind, stands where a symbol is mentioned: as its tree, or
below so many levels of hidden symbols. -/
inductive Shows (d : Definition) (field : Option String) (kind : String) :
    Nat → Option String → Mark → Prop
  | shown {k : Nat} {outer : Option String} {m : Mark}
    (appears : d.appearance m = some (kind, true))
    (held : field = none ∨ field = m.field.or outer) : Shows d field kind k outer m
  | hidden {k : Nat} {outer : Option String} {m n : Mark} {ms : List Mark}
    (hides : d.appearance m = none) (mentions : d.Mentions m.target ms) (mem : n ∈ ms)
    (shows : Shows d field kind k (m.field.or outer) n) : Shows d field kind (k + 1) outer m

section Steps
variable (canInline : d.CanInline)
include canInline

/-- What a symbol mentions are steps of one of its productions. -/
lemma Mentions.exists_steps (abstract : List String) (mentions : d.Mentions target ms) :
    ∃ p ∈ d.prepare.productions,
      p ∈ (Query.Blueprint.ofGrammar d.prepare abstract).productions.getD (d.number target) #[] ∧
      ∃ steps : List Step, steps.Sublist p.steps.toList ∧
        steps.map (Step.view d.prepare.symbols) = ms.map d.view := by
  obtain ⟨kept, ⟨a, reading, sub⟩, known⟩ := mentions
  obtain ⟨p, mem, head, steps⟩ := exists_production canInline kept reading sub known
  exact ⟨p, mem, head ▸ Query.Blueprint.mem_productions mem (head ▸ kept.1.number_lt), steps⟩

/-- What is mentioned is a step of some production. -/
lemma Occurs.exists_step (occurs : d.Occurs m) : ∃ p ∈ d.prepare.productions, ∃ s ∈ p.steps,
    s.view d.prepare.symbols = d.view m := by
  obtain ⟨above, ms, mentions, mem⟩ := occurs
  obtain ⟨p, inProductions, -, steps, sub, views⟩ := mentions.exists_steps canInline []
  obtain ⟨s, inSteps, view⟩ := List.mem_map.1 (views ▸ List.mem_map_of_mem mem)
  exact ⟨p, inProductions, s, Array.mem_toList_iff.1 (sub.subset inSteps), view⟩

/-- Where rules show a node, productions provide it. -/
lemma Shows.provides {field : Option String} {kind : String} {k : Nat} {outer : Option String}
    (shows : d.Shows field kind k outer m) {s : Step} (view : s.view d.prepare.symbols = d.view m)
    {w : Query.Shape} (test : w.test = .kind kind true) (held : w.field = field) :
    (Query.Blueprint.ofGrammar d.prepare abstract).Provides w k outer s := by
  induction shows generalizing s with
  | @shown k outer m appears under =>
    have fields : s.field = m.field := congrArg View.field view
    refine .shown (Query.Blueprint.shownAs_ofGrammar.trans
      ((congrArg View.appearance view).trans appears)) ?_
    simpa [Query.Blueprint.couldBe, test, held, fields] using under
  | @hidden k outer m n ms hides mentions mem shows ih =>
    have fields : s.field = m.field := congrArg View.field view
    have symbol : s.symbol = d.number m.target := congrArg View.symbol view
    obtain ⟨p, -, inProductions, steps, sub, views⟩ :=
      mentions.exists_steps canInline abstract
    obtain ⟨t, inSteps, view'⟩ := List.mem_map.1 (views ▸ List.mem_map_of_mem mem)
    refine .hidden (Query.Blueprint.shownAs_ofGrammar.trans
      ((congrArg View.appearance view).trans hides)) (symbol ▸ inProductions)
      (Array.mem_toList_iff.1 (sub.subset inSteps)) ?_
    rw [fields]
    exact ih view'

end Steps

end Grammar.Definition

/-! ## Written patterns -/

namespace Query.Written

/-- The nodes among several, each with its field and its kind. -/
def nodesOf : List Written → List (Option String × String)
  | [] => []
  | .node _ field kind _ _ :: ws => (field, kind) :: nodesOf ws
  | .equal .. :: ws => nodesOf ws

/-- The shapes of written nodes have their kinds and their fields. -/
lemma exists_shapesOf (behind : Nat) (ws : List Written) : ∃ shapes : List Shape,
    Blueprint.shapesOf (patterns behind ws) = some shapes ∧ List.Forall₂
      (fun (n : Option String × String) (s : Shape) => s.test = .kind n.2 true ∧ s.field = n.1)
      (nodesOf ws) shapes := by
  induction ws with
  | nil => exact ⟨[], rfl, .nil⟩
  | cons w ws ih =>
    obtain ⟨shapes, e, same⟩ := ih
    cases w with
    | node gap field kind below given =>
      simp only [patterns, pattern?, Option.toList, List.singleton_append, Blueprint.shapesOf, e,
        Option.map_some, Option.some.injEq, exists_eq_left', nodesOf, List.forall₂_cons]
      exact ⟨⟨trivial, trivial⟩, same⟩
    | equal gap capture value => exact ⟨shapes, e, same⟩

section Possible
variable (d : Definition)

/-- Whether a symbol mentions what shows some nodes. -/
def HasBelow (target : Grammar.Rule) (nodes : List (Option String × String)) : Prop :=
  ∃ ms k, k ≤ nodes.length + 1 ∧ d.Mentions target ms ∧
    List.Forall₂ (fun m (n : Option String × String) => d.Shows n.1 n.2 k none m) ms nodes

mutual

/-- Whether rules mention its nodes where it has them. -/
def IsPossible : Written → Prop
  | .node _ field kind below _ =>
    ((∃ m, d.Occurs m ∧ d.appearance m = some (kind, true) ∧
        (nodesOf below = [] ∨ HasBelow d m.target (nodesOf below))) ∧
      ArePossible below) ∧ ∀ name ∈ field, ∃ m, d.Occurs m ∧ m.field = some name
  | .equal .. => True

/-- Whether rules mention the nodes of several where they have them. -/
def ArePossible : List Written → Prop
  | [] => True
  | w :: ws => IsPossible w ∧ ArePossible ws

end

variable {d} {abstract : List String}

mutual

/-- A possible pattern has known kinds and fields only. -/
theorem known_of_isPossible (canInline : d.CanInline) : (w : Written) → w.IsPossible d →
    w.Known (Blueprint.ofGrammar d.prepare abstract).names
  | .node _ field kind below _, ⟨⟨⟨m, occurs, appears, _⟩, more⟩, fields⟩ => by
    obtain ⟨p, inProductions, s, inSteps, view⟩ := occurs.exists_step canInline
    have isKind : kind ∈ (Blueprint.ofGrammar d.prepare abstract).names.kinds :=
      Blueprint.mem_kinds inProductions inSteps ((congrArg View.appearance view).trans appears)
    refine ⟨⟨Std.HashSet.mem_iff_contains.1 isKind,
      knownAll_of_arePossible canInline below more⟩, fun name given => ?_⟩
    obtain ⟨m, occurs, held⟩ := fields name given
    obtain ⟨p, inProductions, s, inSteps, view⟩ := occurs.exists_step canInline
    exact Std.HashSet.mem_iff_contains.1
      (Blueprint.mem_fields inProductions inSteps ((congrArg View.field view).trans held))
  | .equal .., _ => trivial

/-- Possible patterns have known kinds and fields only. -/
theorem knownAll_of_arePossible (canInline : d.CanInline) : (ws : List Written) →
    ArePossible d ws → KnownAll (Blueprint.ofGrammar d.prepare abstract).names ws
  | [], _ => trivial
  | w :: ws, ⟨first, others⟩ =>
    ⟨known_of_isPossible canInline w first, knownAll_of_arePossible canInline ws others⟩

end

/-- What rules show their productions provide, one by one. -/
lemma provided (canInline : d.CanInline) {k : Nat} {ms : List Mark}
    {nodes : List (Option String × String)} {steps : List Step} {shapes : List Shape}
    (shows : List.Forall₂ (fun m (n : Option String × String) => d.Shows n.1 n.2 k none m) ms nodes)
    (views : steps.map (Step.view d.prepare.symbols) = ms.map d.view)
    (same : List.Forall₂ (fun (n : Option String × String) (s : Shape) =>
      s.test = .kind n.2 true ∧ s.field = n.1) nodes shapes) :
    List.Forall₂ (fun s w => (Blueprint.ofGrammar d.prepare abstract).Provides w k none s) steps
      shapes := by
  induction shows generalizing steps shapes with
  | nil =>
    cases same
    rw [List.map_nil, List.map_eq_nil_iff] at views
    exact views ▸ .nil
  | cons first _ ih =>
    obtain ⟨t, steps, rfl, view, views⟩ := List.map_eq_cons_iff.1 views
    obtain ⟨s, shapes, ⟨test, held⟩, others, rfl⟩ := List.forall₂_cons_left_iff.1 same
    exact .cons (first.provides canInline view test held) (ih views others)

/-- What is written below a node is not out of place there. -/
lemma misplaced_below (canInline : d.CanInline) {m : Mark} {kind : String}
    {below : List Written} (occurs : d.Occurs m) (appears : d.appearance m = some (kind, true))
    (has : nodesOf below = [] ∨ HasBelow d m.target (nodesOf below)) (behind : Nat) :
    (Blueprint.ofGrammar d.prepare abstract).misplaced kind (patterns behind below) = none := by
  obtain ⟨shapes, e, same⟩ := exists_shapesOf behind below
  rcases has with nothing | ⟨ms, k, levels, mentions, shows⟩
  · rw [nothing, List.forall₂_nil_left_iff] at same
    rw [Blueprint.misplaced, e, same]
    rfl
  obtain ⟨p, inProductions, s, inSteps, view⟩ := occurs.exists_step canInline
  obtain ⟨q, -, below, steps, sub, views⟩ := mentions.exists_steps canInline abstract
  have symbol : s.symbol = d.number m.target := congrArg View.symbol view
  have form : s.symbol ∈ (Blueprint.ofGrammar d.prepare abstract).forms.getD kind [] :=
    Blueprint.mem_forms inProductions inSteps ((congrArg View.appearance view).trans appears)
  rw [symbol] at form
  exact Blueprint.misplaced_eq_none e form below sub (same.length_eq ▸ levels)
    (provided canInline shows views same)

mutual

/-- Every node of a possible pattern has a place. -/
theorem impossible_of_isPossible (canInline : d.CanInline) : (w : Written) → w.IsPossible d →
    ∀ behind, ∀ p ∈ w.pattern? behind,
      (Blueprint.ofGrammar d.prepare abstract).impossible p = none
  | .node _ field kind below given, ⟨⟨⟨m, occurs, appears, has⟩, more⟩, _⟩, behind, p, written => by
    rw [pattern?, Option.mem_some_iff] at written
    rw [← written, Blueprint.impossible, impossibleAny_of_arePossible canInline below more,
      Option.or_none]
    dsimp only
    split
    · rfl
    · exact misplaced_below canInline occurs appears has _
  | .equal .., _, _, _, written => nomatch written

/-- Every node of possible patterns has a place. -/
theorem impossibleAny_of_arePossible (canInline : d.CanInline) : (ws : List Written) →
    ArePossible d ws → ∀ behind,
      (Blueprint.ofGrammar d.prepare abstract).impossibleAny (patterns behind ws) = none
  | [], _, _ => by rw [patterns, Blueprint.impossibleAny]
  | w :: ws, ⟨first, others⟩, behind => by
    have others' := impossibleAny_of_arePossible canInline ws others behind
    rw [patterns]
    cases isNode : w.pattern? ((charsAll ws).length + behind) with
    | none => exact others'
    | some p =>
      rw [Option.toList, List.singleton_append, Blueprint.impossibleAny, others', Option.or_none]
      exact impossible_of_isPossible canInline w first _ p isNode

end

end Possible

/-- A written node is compiled, if rules mention its nodes where it has them. -/
theorem compile_of_isPossible {d : Definition} {abstract : List String} (canInline : d.CanInline)
    {w : Written} (possible : w.IsPossible d)
    (sound : w.isSound (Blueprint.ofGrammar d.prepare abstract).names.abstract.contains [])
    {before after : List Char} (blankBefore : before.all Read.isBlank)
    (blankAfter : after.all Read.isBlank) {p : Pattern} (isNode : w.pattern? after.length = some p)
    {filters : List (Option Filter)} (understood : w.conditions.mapM understand = .ok filters)
    {pattern : String} (written : pattern.toList = before ++ (w.chars ++ after)) :
    ∃ c, compile (Blueprint.ofGrammar d.prepare abstract) pattern = .ok c := by
  have read := (readClauses_chars sound blankBefore blankAfter isNode).1
    (known_of_isPossible canInline w possible)
  have placed : (Blueprint.ofGrammar d.prepare abstract).impossible p = none :=
    impossible_of_isPossible canInline w possible _ p isNode
  refine ⟨⟨[⟨[p], filters.filterMap id⟩]⟩, ?_⟩
  simp only [compile, written, read, List.findSome?_cons, List.findSome?_nil,
    Blueprint.impossibleAny, placed, Option.or_none, understandAll, understood]
  rfl

end Query.Written

end RouteAtlas
