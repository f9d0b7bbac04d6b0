import RouteAtlas.Proofs.Grammar.Numbering

/-!
# Prepared productions
-/

namespace RouteAtlas.Grammar

section Folds
variable {α β : Type} {f : β → α → β} {x : α}

/-- What one element of a list brings about, and the others leave alone, holds in the end. -/
lemma foldl_of_mem {I P : β → Prop} {xs : List α} {start : β} (mem : x ∈ xs) (holds : I start)
    (keeps : ∀ acc y, I acc → I (f acc y)) (brings : ∀ acc, I acc → P (f acc x))
    (leaves : ∀ acc y, P acc → P (f acc y)) : P (xs.foldl f start) := by
  obtain ⟨before, behind, rfl⟩ := List.append_of_mem mem
  rw [List.foldl_append, List.foldl_cons]
  exact List.foldlRecOn behind f
    (brings _ (List.foldlRecOn before f holds fun acc known y _ => keeps acc y known))
    fun acc known y _ => leaves acc y known

/-- Every element stays. -/
lemma mem_distinct [BEq α] [LawfulBEq α] [Hashable α] {xs : Array α} (mem : x ∈ xs) :
    x ∈ distinct xs := by
  rw [distinct, ← Array.foldl_toList]
  refine foldl_of_mem (P := fun acc : Array α × Std.HashSet α => x ∈ acc.1)
    (I := fun acc : Array α × Std.HashSet α => ∀ y ∈ acc.2, y ∈ acc.1)
    (Array.mem_toList_iff.2 mem) (by simp) ?_ ?_ ?_
  · intro acc y listed z
    split
    · exact listed z
    · simp only [Std.HashSet.mem_insert, beq_iff_eq, Array.mem_push]
      exact fun seen => seen.elim (fun e => .inr e.symm) fun earlier => .inl (listed z earlier)
  · intro acc listed
    split
    · exact listed x ‹_›
    · exact Array.mem_push_self
  · intro acc y listed
    split
    · exact listed
    · exact Array.mem_push_of_mem _ listed

end Folds

/-! ## Default aliases -/

/-- How the trees at a step appear, for symbols that appear in the given way. -/
def appearanceAt (symbols : Array SymbolInfo) (s : Step) : Option (String × Bool) :=
  match s.aliased with
  | some a => some (a.name, a.isNamed)
  | none =>
    match symbols[s.symbol]? with
    | some ⟨name, .named⟩ => some (name, true)
    | some ⟨name, .anonymous⟩ => some (name, false)
    | _ => none

/-- What can be told of a tree at a step. -/
structure View where
  symbol : Nat
  field : Option String
  appearance : Option (String × Bool)

/-- What can be told of the trees at a step, for symbols that appear in the given way. -/
def Step.view (symbols : Array SymbolInfo) (s : Step) : View :=
  ⟨s.symbol, s.field, appearanceAt symbols s⟩

namespace Definition

section DefaultAliases
variable {p : Production} {s : Step} {productions : Array Production} {count : Nat}

/-- Every step is one of the uses of its symbol. -/
lemma mem_usesOf (inProductions : p ∈ productions) (inSteps : s ∈ p.steps) {uses : Array Step}
    (found : (usesOf count productions)[s.symbol]? = some uses) : s ∈ uses := by
  let listed (acc : Array (Array Step)) : Prop := ∀ uses, acc[s.symbol]? = some uses → s ∈ uses
  have leaves (acc : Array (Array Step)) (t : Step) (known : listed acc) :
      listed (acc.modify t.symbol (·.push t)) := by
    intro uses found
    rw [Array.getElem?_modify] at found
    split at found
    · obtain ⟨earlier, found', rfl⟩ := Option.map_eq_some_iff.1 found
      exact Array.mem_push_of_mem _ (known earlier found')
    · exact known uses found
  have brings (acc : Array (Array Step)) : listed (acc.modify s.symbol (·.push s)) := by
    intro uses found
    rw [Array.getElem?_modify, if_pos rfl] at found
    obtain ⟨earlier, -, rfl⟩ := Option.map_eq_some_iff.1 found
    exact Array.mem_push_self
  rw [usesOf, ← Array.foldl_toList] at found
  refine foldl_of_mem (P := listed) (I := fun _ => True)
    (Array.mem_toList_iff.2 inProductions) trivial (fun _ _ => id) (fun acc _ => ?_)
    (fun acc q known => ?_) uses found
  · rw [← Array.foldl_toList]
    exact foldl_of_mem (I := fun _ => True) (Array.mem_toList_iff.2 inSteps) trivial
      (fun _ _ => id) (fun acc _ => brings acc) leaves
  · rw [← Array.foldl_toList]
    exact List.foldlRecOn _ _ known fun acc known t _ => leaves acc t known

lemma size_usesOf : (usesOf count productions).size = count := by
  rw [usesOf, ← Array.foldl_toList]
  refine List.foldlRecOn (motive := fun acc : Array (Array Step) => acc.size = count) _ _
    Array.size_replicate fun acc size q _ => ?_
  rw [← Array.foldl_toList]
  exact List.foldlRecOn (motive := fun acc : Array (Array Step) => acc.size = count) _ _ size
    fun acc size t _ => Array.size_modify.trans size

/-- A symbol that is used without an alias has no default alias. -/
lemma defaultAlias_eq_none {steps : Array Step} (mem : s ∈ steps) (bare : s.aliased = none) :
    defaultAlias steps = none := by
  rw [defaultAlias, if_pos]
  rw [Array.any_eq_true']
  exact ⟨s, mem, by simp [bare]⟩

lemma view_dropAlias {aliases : Array (Option Alias)} {symbols symbols' : Array SymbolInfo}
    (appears : appearanceAt symbols' (dropAlias aliases s) = appearanceAt symbols s) :
    (dropAlias aliases s).view symbols' = s.view symbols := by
  rw [Step.view, Step.view, appears, dropAlias]
  split <;> rfl

/-- Default aliases change nothing about how trees appear at the steps. -/
lemma applyDefaultAliases_spec (isInlined : Nat → Bool) (extras : Array Nat)
    (symbols : Array SymbolInfo) (productions : Array Production) :
    ∃ aliases : Array (Option Alias),
      (applyDefaultAliases isInlined extras symbols productions).2
        = productions.map (fun p => { p with steps := p.steps.map (dropAlias aliases) }) ∧
      ∀ p ∈ productions, ∀ s ∈ p.steps,
        (dropAlias aliases s).view (applyDefaultAliases isInlined extras symbols productions).1
          = s.view symbols := by
  let aliases := (usesOf symbols.size productions).mapIdx fun i steps =>
    if isInlined i || extras.contains i || steps.isEmpty then none else defaultAlias steps
  refine ⟨aliases, rfl, fun p inProductions s inSteps => view_dropAlias ?_⟩
  have shown : (applyDefaultAliases isInlined extras symbols productions).1[s.symbol]?
      = (symbols[s.symbol]?).map fun info =>
        match aliases.getD s.symbol none with
        | some a => ⟨a.name, if a.isNamed then .named else .anonymous⟩
        | none => info := by
    exact Array.getElem?_mapIdx
  cases given : s.aliased with
  | some a =>
    by_cases default : aliases.getD s.symbol none = some a
    · have bound : s.symbol < symbols.size := by
        by_contra beyond
        rw [Array.getD_eq_getD_getElem?, Array.getElem?_eq_none] at default
        · cases default
        · simpa [aliases, size_usesOf] using beyond
      rw [dropAlias, given, if_pos (by simp [default]), appearanceAt, appearanceAt, given, shown,
        default, Array.getElem?_eq_getElem bound]
      cases named : a.isNamed <;> simp [named]
    · have kept : ¬((some a).isSome && decide (some a = aliases.getD s.symbol none)) := by
        rw [Bool.and_eq_true, decide_eq_true_eq]
        exact fun both => default both.2.symm
      rw [dropAlias, given, if_neg kept, appearanceAt, appearanceAt, given]
  | none =>
    have noDefault : aliases.getD s.symbol none = none := by
      rw [Array.getD_eq_getD_getElem?, Array.getElem?_mapIdx]
      cases found : (usesOf symbols.size productions)[s.symbol]? with
      | none => rfl
      | some uses =>
        rw [Option.map_some, Option.getD_some,
          defaultAlias_eq_none (mem_usesOf inProductions inSteps found) given, ite_self]
    rw [dropAlias, given, if_neg (by simp), appearanceAt, appearanceAt, given, shown, noDefault]
    simp

end DefaultAliases

end Definition

/-! ## Inlined symbols -/

section Inlining
variable {inlined : Nat → Option (Array Production)} {steps : List Step}

/-- A replaced step gives way to others. -/
lemma exists_inserted (p q : Production) (i : Nat) (s : Step) : ∃ inserted,
    (p.substitute q i s).steps.toList
      = p.steps.toList.take i ++ (inserted ++ p.steps.toList.drop (i + 1)) := by
  have rest : (p.steps.toList.drop (i + 1)).take (p.steps.size - (i + 1))
      = p.steps.toList.drop (i + 1) := List.take_of_length_le (by simp)
  simp only [Production.substitute, Array.toList_append, Array.toList_extract,
    List.extract_eq_take_drop, Nat.sub_zero, List.drop_zero, List.append_assoc, rest]
  exact ⟨_, rfl⟩

/-- Steps that are not replaced stay when another one is. -/
lemma sublist_substitute {p q : Production} {i : Nat} {s : Step} (found : p.steps[i]? = some s)
    (replaced : (inlined s.symbol).isSome) (kept : ∀ t ∈ steps, inlined t.symbol = none)
    (sub : steps.Sublist p.steps.toList) : steps.Sublist (p.substitute q i s).steps.toList := by
  have split : p.steps.toList = p.steps.toList.take i ++ s :: p.steps.toList.drop (i + 1) := by
    obtain ⟨bound, e⟩ := Array.getElem?_eq_some_iff.1 found
    rw [← e, ← Array.getElem_toList bound, List.getElem_cons_drop, List.take_append_drop]
  rw [split] at sub
  obtain ⟨before, behind, rfl, sub, sub'⟩ := List.sublist_append_iff.1 sub
  have sub' : behind.Sublist (p.steps.toList.drop (i + 1)) := by
    rcases List.sublist_cons_iff.1 sub' with sub' | ⟨rest, rfl, -⟩
    · exact sub'
    · rw [kept s (by simp)] at replaced
      cases replaced
  obtain ⟨inserted, e⟩ := exists_inserted p q i s
  rw [e]
  exact sub.append (List.sublist_append_of_sublist_right sub')

/-- Steps that are not replaced stay in some of the productions that arise. -/
lemma exists_expand (filled : ∀ symbol ps, inlined symbol = some ps → ps ≠ #[])
    (kept : ∀ t ∈ steps, inlined t.symbol = none) (fuel : Nat) {p : Production}
    (sub : steps.Sublist p.steps.toList) :
    ∃ q ∈ p.expand inlined fuel, q.head = p.head ∧ steps.Sublist q.steps.toList := by
  induction fuel generalizing p with
  | zero => exact ⟨p, by simp [Production.expand], rfl, sub⟩
  | succ fuel ih =>
    rw [Production.expand]
    cases place : p.steps.findIdx? fun s => (inlined s.symbol).isSome with
    | none => exact ⟨p, by simp, rfl, sub⟩
    | some i =>
      dsimp only
      cases found : p.steps[i]? with
      | none => exact ⟨p, by simp, rfl, sub⟩
      | some s =>
        have replaced : (inlined s.symbol).isSome := by
          obtain ⟨bound, test, -⟩ := Array.findIdx?_eq_some_iff_getElem.1 place
          rwa [Array.getElem?_eq_some_iff.1 found |>.2] at test
        obtain ⟨ps, inner⟩ := Option.isSome_iff_exists.1 replaced
        obtain ⟨q, inPs⟩ := Array.exists_mem_of_ne_empty _ (filled _ _ inner)
        obtain ⟨r, expanded, head, sub'⟩ := ih (p := p.substitute q i s)
          (sublist_substitute found replaced kept sub)
        refine ⟨r, Array.mem_flatMap.2 ⟨q, ?_, expanded⟩, head, sub'⟩
        rwa [inner, Option.getD_some]

/-- A production whose head is not replaced stays, with the steps that are not replaced. -/
lemma Definition.exists_replaceInlined {numbers : List Nat} {productions : Array Production}
    {p : Production} (filled : ∀ n ∈ numbers, ∃ q ∈ productions, q.head = n)
    (mem : p ∈ productions) (stays : p.head ∉ numbers) (kept : ∀ t ∈ steps, t.symbol ∉ numbers)
    (sub : steps.Sublist p.steps.toList) : ∃ q ∈ replaceInlined numbers productions,
      q.head = p.head ∧ steps.Sublist q.steps.toList := by
  let replacements : Std.HashMap Nat (Array Production) := numbers.foldl
    (fun acc s => acc.insert s (productions.filter (·.head = s))) ∅
  have listed : ∀ (n : Nat) ps, replacements[n]? = some ps →
      n ∈ numbers ∧ ps = productions.filter (·.head = n) := by
    refine List.foldlRecOn (motive := fun acc : Std.HashMap Nat (Array Production) =>
      ∀ (n : Nat) ps, acc[n]? = some ps → n ∈ numbers ∧ ps = productions.filter (·.head = n)) _ _
      (by simp) fun acc known m mem n ps found => ?_
    rw [Std.HashMap.getElem?_insert] at found
    split at found
    · rename_i same
      rw [beq_iff_eq] at same
      cases found
      exact ⟨same ▸ mem, same ▸ rfl⟩
    · exact known n ps found
  have filled' : ∀ (n : Nat) ps, replacements[n]? = some ps → ps ≠ #[] := by
    intro n ps found
    obtain ⟨mem, rfl⟩ := listed n ps found
    obtain ⟨q, inProductions, head⟩ := filled n mem
    exact Array.ne_empty_of_mem (Array.mem_filter.2 ⟨inProductions, by simpa using head⟩)
  have kept' : ∀ t ∈ steps, replacements[t.symbol]? = none := by
    intro t mem
    rw [Option.eq_none_iff_forall_not_mem]
    exact fun ps found => kept t mem (listed _ ps found).1
  obtain ⟨q, expanded, head, sub'⟩ := exists_expand filled' kept' 64 sub
  refine ⟨q, mem_distinct (Array.mem_flatMap.2 ⟨p, ?_, expanded⟩), head, sub'⟩
  simpa [mem] using stays

end Inlining

/-! ## What the prepared productions show -/

namespace Definition

variable (d : Definition)

/-- The productions before symbols are inlined. -/
def listed : Array Production :=
  (((d.namedRules d.tokenNames).1 ++ d.table.toList.map repetitionRule).map
    (productionsOf d.numbering)).foldl (· ++ ·) #[]

/-- The names of the rules that could be tokens. -/
def tokenRules : List String := (d.rules.filter fun r => r.2.isToken).map Prod.fst

/-- Whether a choice-free rule is a reading of what a rule mentions, if that is no token. -/
def IsReading : Rule → Rule → Prop
  | .ref x, a => x ∉ d.tokenRules ∧ ∃ r ∈ d.rules, r.1 = x ∧ a ∈ r.2.alternatives
  | .repeat1 r, a => a ∈ r.alternatives
  | _, _ => False

/-- Whether a rule is named, or a repetition occurs in one that is. -/
def IsSymbol : Rule → Prop
  | .ref x => x ∈ d.rules.map Prod.fst ∧ ¬Rule.IsRepetitionName x
  | .repeat1 r => ∃ x a, d.IsReading (.ref x) a ∧ ∃ m ∈ a.marks none none, m.target = .repeat1 r
  | _ => False

/-- The name of the symbol for what a rule mentions. -/
def nameOf (target : Rule) : String :=
  match target.rename d.table with
  | .ref name => name
  | _ => ""

/-- The number of what a rule mentions. -/
def number (target : Rule) : Nat := d.numbering.number (d.nameOf target)

lemma nameOf_ref (x : String) : d.nameOf (.ref x) = x := by
  simp [nameOf, Rule.rename]

variable {d} {target a : Rule} {x : String}

/-- A rule whose name is not that of a token rule is no token. -/
lemma notMem_tokenNames (noToken : x ∉ d.tokenRules) : x ∉ d.tokenNames := by
  intro mem
  obtain ⟨r, rule, rfl, isToken⟩ := d.exists_of_mem_tokenNames mem
  exact noToken (List.mem_map_of_mem (List.mem_filter.2 ⟨rule, isToken⟩))

/-- A repetition has an entry in the table of names. -/
lemma IsSymbol.entry {inner : Rule} (isSymbol : d.IsSymbol (.repeat1 inner)) :
    Rule.rename d.table (.repeat1 inner) = .ref (d.nameOf (.repeat1 inner)) ∧
      (inner.rename d.table, d.nameOf (.repeat1 inner)) ∈ d.table := by
  obtain ⟨x, b, ⟨noToken, ⟨_, r⟩, rule, rfl, reading⟩, m, mentioned, isRepetition⟩ := isSymbol
  obtain ⟨name, renamed, entry⟩ := d.exists_name d.tokenNames rule (notMem_tokenNames noToken)
    reading mentioned isRepetition
  have e : Rule.rename d.table (.repeat1 inner) = .ref name := renamed
  rw [nameOf, e]
  exact ⟨rfl, entry⟩

/-- A symbol has a name, which has a number. -/
lemma IsSymbol.rename_eq (isSymbol : d.IsSymbol target) :
    target.rename d.table = .ref (d.nameOf target) ∧
      d.numbering.ofName[d.nameOf target]? = some (d.number target) := by
  obtain ⟨-, rules, repetitions⟩ := d.numbering_spec
  have numbered (name : String) (mem : name ∈ d.numbering.ofName) :
      d.numbering.ofName[name]? = some (d.numbering.number name) := by
    rw [Numbering.number, Std.HashMap.getD_eq_getD_getElem?,
      Std.HashMap.getElem?_eq_some_getElem mem, Option.getD_some]
  cases target with
  | ref x =>
    obtain ⟨r, mem, rfl⟩ := List.mem_map.1 isSymbol.1
    rw [number, nameOf_ref]
    exact ⟨by simp [Rule.rename], numbered _ (rules r mem)⟩
  | repeat1 inner => exact ⟨isSymbol.entry.1, numbered _ (repetitions _ isSymbol.entry.2)⟩
  | _ => cases isSymbol

/-- The number of a symbol leads back to its name. -/
lemma IsSymbol.symbols_eq (isSymbol : d.IsSymbol target) : d.numbering.symbols[d.number target]?
    = some ⟨d.nameOf target, d.visibility (d.nameOf target)⟩ :=
  d.numbering_spec.1 _ _ isSymbol.rename_eq.2

/-- The readings of a symbol are those of its rule, or of what it repeats. -/
lemma exists_rule (isSymbol : d.IsSymbol target) (reading : d.IsReading target a) :
    ∃ r ∈ (d.namedRules d.tokenNames).1 ++ d.table.toList.map repetitionRule,
      r.1 = d.nameOf target ∧ a.rename d.table ∈ r.2.alternatives := by
  cases target with
  | ref x =>
    obtain ⟨noToken, ⟨_, r⟩, rule, rfl, reading⟩ := reading
    refine ⟨(_, r.rename d.table), List.mem_append_left _ ?_, (d.nameOf_ref _).symm, ?_⟩
    · rw [(d.namedRules_eq d.tokenNames).1, List.mem_map]
      exact ⟨(_, r), List.mem_filter.2 ⟨rule, by simpa using notMem_tokenNames noToken⟩, rfl⟩
    · rw [Rule.alternatives_rename]
      exact List.mem_map_of_mem reading
  | repeat1 inner =>
    refine ⟨repetitionRule (inner.rename d.table, d.nameOf (.repeat1 inner)),
      List.mem_append_right _ (List.mem_map_of_mem (Array.mem_toList_iff.2 isSymbol.entry.2)),
      rfl, ?_⟩
    rw [repetitionRule, Rule.alternatives, Rule.alternativesOfChoice, Rule.alternativesOfChoice,
      Rule.alternativesOfChoice, Rule.alternatives_rename]
    exact List.mem_append_right _ (List.mem_append_left _ (List.mem_map_of_mem reading))
  | _ => cases isSymbol

lemma mem_listed {r : String × Rule} {p : Production}
    (rule : r ∈ (d.namedRules d.tokenNames).1 ++ d.table.toList.map repetitionRule)
    (mem : p ∈ productionsOf d.numbering r) : p ∈ d.listed := by
  rw [listed]
  exact foldl_of_mem (I := fun _ => True) (P := (p ∈ ·)) (List.mem_map_of_mem rule) trivial
    (fun _ _ => id) (fun acc _ => Array.mem_append_right _ mem)
    fun acc ps known => Array.mem_append_left _ known

/-- The step that a mention of a symbol becomes. -/
def stepOf (d : Definition) (m : Mark) : Nat × Option Alias × Option String :=
  (d.number m.target, m.aliased, m.field)

/-- Every reading of a symbol has a production, which has the symbols that the reading mentions. -/
lemma exists_listed (isSymbol : d.IsSymbol target) (reading : d.IsReading target a)
    {ms : List Mark} (sub : ms.Sublist (a.marks none none))
    (known : ∀ m ∈ ms, d.IsSymbol m.target) : ∃ p ∈ d.listed, p.head = d.number target ∧
      ∃ steps : List Step, steps.Sublist p.steps.toList ∧
        steps.map Step.mark = ms.map d.stepOf := by
  obtain ⟨r, rule, name, reading'⟩ := exists_rule isSymbol reading
  let p := Rule.toProduction d.numbering.symbolOf (d.numbering.number r.1) (a.rename d.table)
  refine ⟨p, mem_listed rule (mem_distinct (List.mem_toArray.2 (List.mem_map_of_mem reading'))),
    congrArg d.numbering.number name, ?_⟩
  have steps : p.steps.toList.map Step.mark
      = ((a.marks none none).map (Mark.rename d.table)).filterMap
          (Mark.step? d.numbering.symbolOf) := by
    rw [Rule.marks_toProduction, Rule.marks_rename]
  have shown : (ms.map (Mark.rename d.table)).filterMap (Mark.step? d.numbering.symbolOf)
      = ms.map d.stepOf := by
    rw [List.filterMap_map, ← List.filterMap_eq_map]
    refine List.filterMap_congr fun m mem => ?_
    obtain ⟨renamed, numbered⟩ := (known m mem).rename_eq
    rw [Function.comp_apply, Mark.step?, Mark.rename, renamed, Numbering.symbolOf, numbered]
    rfl
  have sub' := (sub.map (Mark.rename d.table)).filterMap (Mark.step? d.numbering.symbolOf)
  rw [shown, ← steps] at sub'
  obtain ⟨found, sub', e⟩ := List.sublist_map_iff.1 sub'
  exact ⟨found, sub', e.symm⟩

/-! ## What the prepared grammar shows -/

/-- Whether every inlined rule can be replaced, and no repetition can be taken for one. -/
def CanInline (d : Definition) : Prop :=
  ∀ x ∈ d.inlined, ¬Rule.IsRepetitionName x ∧ ∃ a, d.IsReading (.ref x) a

/-- Whether what a rule mentions keeps a symbol of its own. -/
def IsKept (d : Definition) (target : Rule) : Prop :=
  d.IsSymbol target ∧ ∀ x ∈ d.inlined, target ≠ .ref x

/-- How the trees of what a rule mentions appear. -/
def appearance (d : Definition) (m : Mark) : Option (String × Bool) :=
  match m.aliased with
  | some a => some (a.name, a.isNamed)
  | none =>
    match m.target with
    | .ref x => if d.isHidden x then none else some (x, true)
    | _ => none

/-- What can be told of the trees of what a rule mentions. -/
def view (d : Definition) (m : Mark) : View := ⟨d.number m.target, m.field, d.appearance m⟩

/-- Inlined rules have symbols too, until they are replaced. -/
lemma CanInline.isSymbol (canInline : d.CanInline) (isInlined : x ∈ d.inlined) :
    d.IsSymbol (.ref x) := by
  obtain ⟨plain, a, -, r, rule, rfl, -⟩ := canInline x isInlined
  exact ⟨List.mem_map_of_mem rule, plain⟩

/-- A symbol that is kept is told from the inlined ones. -/
lemma IsKept.not_inlined (canInline : d.CanInline) (kept : d.IsKept target) :
    d.number target ∉ d.inlined.map d.numbering.number := by
  intro mem
  obtain ⟨x, isInlined, same⟩ := List.mem_map.1 mem
  have symbol := (canInline.isSymbol isInlined).symbols_eq
  rw [number, nameOf_ref, same, kept.1.symbols_eq] at symbol
  have name : d.nameOf target = x := congrArg SymbolInfo.name (Option.some.inj symbol)
  cases target with
  | ref y =>
    rw [nameOf_ref] at name
    exact kept.2 x isInlined (congrArg Rule.ref name)
  | repeat1 inner =>
    have entry : (inner.rename d.table, d.nameOf (.repeat1 inner)) ∈ d.table := kept.1.entry.2
    have isRepetition := (d.namedRules_eq d.tokenNames).2.2 _ entry
    exact (canInline x isInlined).1 (name ▸ isRepetition)
  | _ => cases kept.1

/-- A step appears as what the rule mentions. -/
lemma view_of_mark {m : Mark} {s : Step} (isSymbol : d.IsSymbol m.target)
    (same : s.mark = d.stepOf m) : s.view d.numbering.symbols = d.view m := by
  obtain ⟨symbol, aliased, field⟩ : s.symbol = d.number m.target ∧ s.aliased = m.aliased ∧
      s.field = m.field := by simpa [Step.mark, stepOf] using same
  rw [Step.view, view, symbol, field, appearanceAt, appearance, aliased, symbol,
    isSymbol.symbols_eq]
  cases m.aliased with
  | some a => rfl
  | none =>
    cases target : m.target with
    | ref x =>
      rw [target] at isSymbol
      rw [nameOf_ref, visibility_of_not_repetition d isSymbol.2, visibilityOf]
      cases hidden : d.isHidden x <;> simp [hidden]
    | repeat1 inner =>
      rw [target] at isSymbol
      rw [visibility, if_pos]
      exact List.mem_map_of_mem (Array.mem_toList_iff.2 isSymbol.entry.2)
    | _ =>
      rw [target] at isSymbol
      cases isSymbol

lemma views_of_marks {steps : List Step} {ms : List Mark}
    (known : ∀ m ∈ ms, d.IsSymbol m.target) (same : steps.map Step.mark = ms.map d.stepOf) :
    steps.map (Step.view d.numbering.symbols) = ms.map d.view := by
  induction steps generalizing ms with
  | nil => cases ms <;> simp_all
  | cons s steps ih =>
    cases ms with
    | nil => cases same
    | cons m ms =>
      rw [List.forall_mem_cons] at known
      simp only [List.map_cons, List.cons.injEq] at same ⊢
      exact ⟨view_of_mark known.1 same.1, ih known.2 same.2⟩

/-- The symbols and the productions before inlined ones are replaced. -/
def aliased (d : Definition) : Array SymbolInfo × Array Production :=
  applyDefaultAliases (d.inlined.map d.numbering.number).contains
    (d.extras.map d.numbering.number).toArray d.numbering.symbols d.listed

lemma aliased_spec (d : Definition) : ∃ aliases : Array (Option Alias),
    d.aliased.2 = d.listed.map (fun p => { p with steps := p.steps.map (dropAlias aliases) }) ∧
      ∀ p ∈ d.listed, ∀ s ∈ p.steps,
        (dropAlias aliases s).view d.aliased.1 = s.view d.numbering.symbols :=
  applyDefaultAliases_spec ..

lemma prepare_symbols (d : Definition) : d.prepare.symbols = d.aliased.1 := rfl

lemma prepare_productions (d : Definition) : d.prepare.productions
    = #[⟨d.numbering.symbols.size,
        #[{ symbol := (d.rules.map (d.numbering.number ·.1)).headD 0 }], 0⟩]
      ++ replaceInlined (d.inlined.map d.numbering.number) d.aliased.2 := rfl

/-- Every reading of a symbol that is kept has a prepared production, which shows what the reading
mentions. -/
theorem exists_production (canInline : d.CanInline) (kept : d.IsKept target)
    (reading : d.IsReading target a) {ms : List Mark} (sub : ms.Sublist (a.marks none none))
    (known : ∀ m ∈ ms, d.IsKept m.target) :
    ∃ p ∈ d.prepare.productions, p.head = d.number target ∧
      ∃ steps : List Step, steps.Sublist p.steps.toList ∧
        steps.map (Step.view d.prepare.symbols) = ms.map d.view := by
  rw [prepare_symbols]
  have symbols : ∀ m ∈ ms, d.IsSymbol m.target := fun m mem => (known m mem).1
  obtain ⟨p, inListed, head, steps, sub, marks⟩ := exists_listed kept.1 reading sub symbols
  obtain ⟨aliases, replaced, appears⟩ := d.aliased_spec
  have filled : ∀ n ∈ d.inlined.map d.numbering.number, ∃ q ∈ d.listed.map
      (fun p => { p with steps := p.steps.map (dropAlias aliases) }), q.head = n := by
    intro n mem
    obtain ⟨x, isInlined, rfl⟩ := List.mem_map.1 mem
    obtain ⟨b, reading⟩ := (canInline x isInlined).2
    obtain ⟨q, inListed, head, -⟩ := exists_listed (canInline.isSymbol isInlined) reading
      (List.nil_sublist _) (by simp)
    refine ⟨_, Array.mem_map_of_mem inListed, head.trans ?_⟩
    rw [number, nameOf_ref]
  have views : (steps.map (dropAlias aliases)).map (Step.view d.aliased.1) = ms.map d.view := by
    rw [← views_of_marks symbols marks, List.map_map]
    exact List.map_congr_left fun s mem =>
      appears p inListed s (Array.mem_toList_iff.1 (sub.subset mem))
  have stays : ∀ t ∈ steps.map (dropAlias aliases),
      t.symbol ∉ d.inlined.map d.numbering.number := by
    intro t mem
    have viewed := List.mem_map_of_mem (f := Step.view d.aliased.1) mem
    rw [views] at viewed
    obtain ⟨m, inMarks, same⟩ := List.mem_map.1 viewed
    have symbol : d.number m.target = t.symbol := congrArg View.symbol same
    exact symbol ▸ (known m inMarks).not_inlined canInline
  obtain ⟨q, prepared, head', sub'⟩ := exists_replaceInlined filled
    (Array.mem_map_of_mem inListed) (head ▸ kept.not_inlined canInline) stays
    (by simpa using sub.map (dropAlias aliases))
  rw [← replaced] at prepared
  refine ⟨q, ?_, head'.trans head, _, sub', views⟩
  rw [prepare_productions]
  exact Array.mem_append_right _ prepared

/-- The number of a symbol is one of the prepared symbols. -/
lemma IsSymbol.number_lt (isSymbol : d.IsSymbol target) :
    d.number target < d.prepare.symbols.size := by
  have e : d.prepare.symbols.size = d.numbering.symbols.size := Array.size_mapIdx
  rw [e]
  exact (Array.getElem?_eq_some_iff.1 isSymbol.symbols_eq).1

end Definition

end RouteAtlas.Grammar
