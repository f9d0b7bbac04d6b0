import Mathlib.Logic.Function.Basic
import RouteAtlas.Proofs.Grammar.Repetitions

/-!
# Numbers of symbols

Every rule of a grammar gets a number: as the token that it is the whole of, or else as a rule of
its own; and so does every repetition. A number leads back to the name, and the symbol appears as
the name says (`IsFaithful`).
-/

namespace RouteAtlas.Grammar

namespace Rule

/-- Whether a rule is a token and nothing else. -/
def isToken : Rule → Bool
  | .literal _ | .lexeme _ => true
  | _ => false

mutual

/-- A rule mentions tokens that are nothing else. -/
theorem isToken_tokens : (r : Rule) → ∀ t ∈ r.tokens, t.isToken
  | .seq rs | .choice rs => by
    rw [tokens]
    exact isToken_tokensOfList rs
  | .repeat1 r | .prec _ _ r | .weight _ r | .field _ r | .aliased _ r => by
    rw [tokens]
    exact isToken_tokens r
  | .literal _ | .lexeme _ | .blank | .ref _ => by simp [tokens, isToken]

theorem isToken_tokensOfList : (rs : List Rule) → ∀ t ∈ tokens.tokensOfList rs, t.isToken
  | [] => by simp [tokens.tokensOfList]
  | r :: rs => by
    intro t mem
    rw [tokens.tokensOfList, List.mem_append] at mem
    exact mem.elim (isToken_tokens r t) (isToken_tokensOfList rs t)

end

end Rule

namespace Definition

namespace Numbering

variable {n n' : Numbering} {look : String → Visibility} {name : String}

/-- Whether each numbered name appears as itself, as visible as it is told to be. -/
def IsFaithful (look : String → Visibility) (n : Numbering) : Prop :=
  ∀ (name : String) (number : Nat), n.ofName[name]? = some number →
    n.symbols[number]? = some ⟨name, look name⟩

/-- A further symbol without a name changes nothing. -/
lemma IsFaithful.push (faithful : n.IsFaithful look) {info : SymbolInfo}
    (symbols : n'.symbols = n.symbols.push info) (ofName : n'.ofName = n.ofName) :
    n'.IsFaithful look := by
  intro name number known
  rw [ofName] at known
  have earlier := faithful name number known
  rw [symbols, Array.getElem?_push_lt (Array.getElem?_eq_some_iff.1 earlier).1,
    ← Array.getElem?_eq_getElem, earlier]

/-- A further name appears as it is given. -/
lemma IsFaithful.insert (faithful : n.IsFaithful look) (info : SymbolInfo)
    (symbols : n'.symbols = n.symbols.push info)
    (ofName : n'.ofName = n.ofName.insert info.name n.symbols.size) :
    n'.IsFaithful (Function.update look info.name info.visibility) := by
  intro name number known
  rw [ofName, Std.HashMap.getElem?_insert] at known
  by_cases same : info.name = name
  · subst same
    rw [if_pos (beq_self_eq_true _), Option.some.injEq] at known
    rw [symbols, ← known, Array.getElem?_push_size, Function.update_self]
  · rw [if_neg (by simpa using same)] at known
    have earlier := faithful name number known
    rw [symbols, Array.getElem?_push_lt (Array.getElem?_eq_some_iff.1 earlier).1,
      ← Array.getElem?_eq_getElem, earlier, Function.update_of_ne (Ne.symm same)]

/-- A further name that appears as it is told to. -/
lemma IsFaithful.insert_same (faithful : n.IsFaithful look)
    (symbols : n'.symbols = n.symbols.push ⟨name, look name⟩)
    (ofName : n'.ofName = n.ofName.insert name n.symbols.size) : n'.IsFaithful look := by
  have inserted := faithful.insert _ symbols ofName
  rwa [Function.update_eq_self] at inserted

end Numbering

open Definition.Numbering

variable (d : Definition)

/-- The names of rules that are tokens appear as themselves. -/
lemma numbering_addToken (tokens : List (Rule × Option String)) {n : Numbering}
    (faithful : n.IsFaithful d.visibilityOf) :
    let out := tokens.foldl (fun (n : Numbering) t =>
      n.addToken t.1 (t.2.map fun name => (name, d.visibilityOf name))) n
    out.IsFaithful d.visibilityOf ∧
      ∀ name, name ∈ tokens.filterMap Prod.snd ∨ name ∈ n.ofName → name ∈ out.ofName := by
  induction tokens generalizing n with
  | nil => exact ⟨faithful, by simp⟩
  | cons t tokens ih =>
    obtain ⟨token, _ | owner⟩ := t
    · obtain ⟨faithful', known⟩ := ih (n := n.addToken token none) (faithful.push rfl rfl)
      exact ⟨faithful', known⟩
    · obtain ⟨faithful', known⟩ :=
        ih (n := n.addToken token (some (owner, d.visibilityOf owner)))
          (faithful.insert_same rfl rfl)
      refine ⟨faithful', fun name listed => known name ?_⟩
      have first : name ∈ List.filterMap Prod.snd ((token, some owner) :: tokens) ↔
          name = owner ∨ name ∈ tokens.filterMap Prod.snd := by simp
      rw [first] at listed
      simp only [addToken, Std.HashMap.mem_insert, beq_iff_eq]
      tauto

/-- A token that only the context tells appears as its name. -/
lemma numbering_addContextual (tokens : List Rule) (known : String → Bool) {n : Numbering}
    (faithful : n.IsFaithful d.visibilityOf) :
    let out := tokens.foldl
      (fun (n : Numbering) r =>
        match r with
        | .ref name => if known name then n else n.addContextual name ⟨name, d.visibilityOf name⟩
        | _ => n)
      n
    out.IsFaithful d.visibilityOf ∧ ∀ name ∈ n.ofName, name ∈ out.ofName := by
  induction tokens generalizing n with
  | nil => exact ⟨faithful, fun _ => id⟩
  | cons r tokens ih =>
    rw [List.foldl_cons]
    split
    · rename_i name
      split
      · exact ih faithful
      · obtain ⟨faithful', later⟩ := ih (n := n.addContextual name ⟨name, d.visibilityOf name⟩)
          (faithful.insert_same rfl rfl)
        exact ⟨faithful', fun name known => later name (Std.HashMap.mem_insert.2 (.inr known))⟩
    · exact ih faithful

/-- The tokens appear as their names, if they have any. -/
lemma numbering_numberTokens (owned : Array (Rule × Option String)) :
    (d.numberTokens owned).IsFaithful d.visibilityOf ∧
      ∀ name ∈ owned.toList.filterMap Prod.snd, name ∈ (d.numberTokens owned).ofName := by
  have nothing : ({} : Numbering).IsFaithful d.visibilityOf := by
    intro name number known
    simp at known
  obtain ⟨faithful, known⟩ := d.numbering_addToken owned.toList nothing
  obtain ⟨faithful', later⟩ := d.numbering_addContextual d.contextual
    (fun name => d.rules.any fun r => r.1 = name) faithful
  rw [Array.foldl_toList] at faithful' later known
  exact ⟨faithful', fun name owner => later name (known name (.inl owner))⟩

/-- Rules appear as their names. -/
lemma numbering_addRule (rules : List (String × Rule)) {n : Numbering}
    (faithful : n.IsFaithful d.visibilityOf) :
    let out := rules.foldl
      (fun (n : Numbering) r => n.addRule r.1 (d.visibilityOf r.1) (d.kindOf r.1)) n
    out.IsFaithful d.visibilityOf ∧
      ∀ name, name ∈ rules.map Prod.fst ∨ name ∈ n.ofName → name ∈ out.ofName := by
  induction rules generalizing n with
  | nil => exact ⟨faithful, by simp⟩
  | cons r rules ih =>
    obtain ⟨faithful', known⟩ := ih (n := n.addRule r.1 (d.visibilityOf r.1) (d.kindOf r.1))
      (faithful.insert_same rfl rfl)
    refine ⟨faithful', fun name listed => known name ?_⟩
    simp only [List.map_cons, List.mem_cons, addRule, Std.HashMap.mem_insert, beq_iff_eq]
      at listed ⊢
    tauto

/-- Repetitions are hidden. -/
lemma numbering_addRepetition (repetitions : List (Rule × String)) {n : Numbering}
    {look : String → Visibility} (faithful : n.IsFaithful look) :
    let out := repetitions.foldl
      (fun (n : Numbering) r => n.addRule r.2 .hidden .repetition) n
    out.IsFaithful (fun name => if name ∈ repetitions.map Prod.snd then .hidden else look name) ∧
      ∀ name, name ∈ repetitions.map Prod.snd ∨ name ∈ n.ofName → name ∈ out.ofName := by
  induction repetitions generalizing n look with
  | nil => simpa using faithful
  | cons r repetitions ih =>
    obtain ⟨faithful', known⟩ := ih (n := n.addRule r.2 .hidden .repetition)
      (faithful.insert ⟨r.2, .hidden⟩ rfl rfl)
    refine ⟨?_, fun name listed => known name ?_⟩
    · intro name number found
      refine (faithful' name number found).trans ?_
      by_cases same : name = r.2
      · simp [same]
      · simp only [List.map_cons, List.mem_cons, same, false_or, Function.update_of_ne, ne_eq,
          not_false_eq_true]
    · simp only [List.map_cons, List.mem_cons, addRule, Std.HashMap.mem_insert, beq_iff_eq]
        at listed ⊢
      tauto

/-! ## Rules that are tokens -/

/-- The names of the rules that are tokens. -/
def tokenNames : List String := d.ownedTokens.toList.filterMap Prod.snd

/-- The tokens that are counted are mentioned. -/
lemma mem_countedTokens {t : Rule × Nat} (mem : t ∈ d.countedTokens) :
    t.1 ∈ d.rules.flatMap fun r => r.2.tokens := by
  rw [countedTokens, Array.mem_map] at mem
  obtain ⟨token, mem, rfl⟩ := mem
  refine List.foldlRecOn (motive := fun acc : Array Rule × Std.HashMap Rule Nat =>
    ∀ token ∈ acc.1, token ∈ d.rules.flatMap fun r => r.2.tokens) _ _ (by simp) ?_ token mem
  intro acc known t mentioned token mem
  split at mem
  · exact known token mem
  · rcases Array.mem_push.1 mem with mem | rfl
    · exact known token mem
    · exact mentioned

/-- A rule that is a token's name is that token. -/
lemma exists_of_mem_tokenNames {name : String} (mem : name ∈ d.tokenNames) :
    ∃ r ∈ d.rules, r.1 = name ∧ r.2.isToken := by
  simp only [tokenNames, ownedTokens, List.mem_filterMap, Array.mem_toList_iff, Array.mem_map,
    Array.mem_append, Array.mem_filter] at mem
  obtain ⟨-, ⟨t, counted, rfl⟩, owner⟩ := mem
  have counted : t ∈ d.countedTokens := counted.elim And.left And.left
  obtain ⟨r, -, mentioned⟩ := List.mem_flatMap.1 (d.mem_countedTokens counted)
  have isToken := r.2.isToken_tokens t.1 mentioned
  rw [ownerOf] at owner
  split at owner
  · obtain ⟨r, inRules, found⟩ := List.exists_of_findSome?_eq_some owner
    split at found
    · rename_i same
      rw [Bool.and_eq_true, beq_iff_eq] at same
      cases found
      exact ⟨r, List.mem_of_mem_drop inRules, rfl, same.1 ▸ isToken⟩
    · cases found
  · cases owner

/-! ## The symbols of a grammar -/

/-- The names of the repetitions. -/
def table : Rule.Repetitions := (d.namedRules d.tokenNames).2

/-- The numbers of all symbols. -/
def numbering : Numbering :=
  d.numberRules (d.numberTokens d.ownedTokens) (d.namedRules d.tokenNames).1 d.table

/-- How visible a named symbol is. -/
def visibility (name : String) : Visibility :=
  if name ∈ d.table.toList.map Prod.snd then .hidden else d.visibilityOf name

/-- Rules and repetitions have numbers, which lead back to their names. -/
theorem numbering_spec : d.numbering.IsFaithful d.visibility ∧
    (∀ r ∈ d.rules, r.1 ∈ d.numbering.ofName) ∧
    ∀ entry ∈ d.table, entry.2 ∈ d.numbering.ofName := by
  obtain ⟨tokens, owners⟩ := d.numbering_numberTokens d.ownedTokens
  obtain ⟨rules, named⟩ := d.numbering_addRule (d.namedRules d.tokenNames).1 tokens
  obtain ⟨faithful, repeated⟩ := numbering_addRepetition d.table.toList rules
  rw [Array.foldl_toList] at faithful repeated
  refine ⟨faithful, fun r mem => repeated r.1 (.inr (named r.1 ?_)), fun entry mem =>
    repeated entry.2 (.inl (List.mem_map_of_mem (Array.mem_toList_iff.2 mem)))⟩
  by_cases isToken : r.1 ∈ d.tokenNames
  · exact .inr (owners r.1 isToken)
  · left
    rw [(d.namedRules_eq d.tokenNames).1]
    simp only [List.map_map, List.mem_map, List.mem_filter]
    exact ⟨r, ⟨mem, by simpa using isToken⟩, rfl⟩

/-- Names of repetitions are told from those of rules. -/
lemma visibility_of_not_repetition {name : String} (plain : ¬Rule.IsRepetitionName name) :
    d.visibility name = d.visibilityOf name := by
  rw [visibility, if_neg]
  rw [List.mem_map]
  rintro ⟨entry, mem, rfl⟩
  exact plain ((d.namedRules_eq d.tokenNames).2.2 entry (Array.mem_toList_iff.1 mem))

end Definition

end RouteAtlas.Grammar
