import RouteAtlas.Proofs.Grammar.Readings

/-!
# Names of repetitions

Every repetition in the rules of a grammar gets a name, and equal ones share it. The table of names
only grows, so what a rule becomes is told by the whole table (`naming_nameRepetitions`). In the end
every rule is renamed by one table (`namedRules_eq`), and every repetition that a rule mentions has
a name in it (`exists_name`).
-/

namespace RouteAtlas.Grammar

namespace Rule

/-! ## Rules without repetitions -/

mutual

/-- Whether every repetition in a rule has got a name. -/
def isNamed : Rule → Bool
  | .seq rs => areNamed rs
  | .choice rs => areNamed rs
  | .repeat1 _ => false
  | .prec _ _ r | .weight _ r | .field _ r | .aliased _ r => isNamed r
  | .blank | .literal _ | .lexeme _ | .ref _ => true

/-- Whether every repetition in several rules has got a name. -/
def areNamed : List Rule → Bool
  | [] => true
  | r :: rs => isNamed r && areNamed rs

end

section Named

lemma isNamed_alternativesOf {before here : List Rule} (first : ∀ b ∈ before, b.isNamed)
    (second : ∀ a ∈ here, a.isNamed) :
    ∀ a ∈ before.flatMap fun b => here.map fun a => .seq [b, a], isNamed a := by
  intro a mem
  simp only [List.mem_flatMap, List.mem_map] at mem
  obtain ⟨b, inBefore, a, inHere, rfl⟩ := mem
  simp [isNamed, areNamed, first b inBefore, second a inHere]

mutual

/-- The readings of a rule without repetitions have none. -/
theorem isNamed_alternatives : (r : Rule) → r.isNamed → ∀ a ∈ r.alternatives, a.isNamed
  | .seq rs, named => by
    rw [alternatives]
    exact isNamed_alternativesOfSeq rs named [.blank] (by simp [isNamed])
  | .choice rs, named => by
    rw [alternatives]
    exact isNamed_alternativesOfChoice rs named
  | .prec p a r, named => by
    simpa [alternatives, isNamed] using isNamed_alternatives r named
  | .weight n r, named => by
    simpa [alternatives, isNamed] using isNamed_alternatives r named
  | .field n r, named => by
    simpa [alternatives, isNamed] using isNamed_alternatives r named
  | .aliased n r, named => by
    simpa [alternatives, isNamed] using isNamed_alternatives r named
  | .repeat1 r, named => by cases named
  | .blank, _ | .literal _, _ | .lexeme _, _ | .ref _, _ => by simp [alternatives, isNamed]

theorem isNamed_alternativesOfSeq : (rs : List Rule) → areNamed rs →
    ∀ before : List Rule, (∀ b ∈ before, b.isNamed) →
      ∀ a ∈ alternativesOfSeq before rs, a.isNamed
  | [], _, before, first => by simpa [alternativesOfSeq] using first
  | r :: rs, named, before, first => by
    rw [areNamed, Bool.and_eq_true] at named
    rw [alternativesOfSeq]
    exact isNamed_alternativesOfSeq rs named.2 _
      (isNamed_alternativesOf first (isNamed_alternatives r named.1))

theorem isNamed_alternativesOfChoice : (rs : List Rule) → areNamed rs →
    ∀ a ∈ alternativesOfChoice rs, a.isNamed
  | [], _ => by simp [alternativesOfChoice]
  | r :: rs, named => by
    rw [areNamed, Bool.and_eq_true] at named
    intro a mem
    rw [alternativesOfChoice, List.mem_append] at mem
    exact mem.elim (isNamed_alternatives r named.1 a) (isNamed_alternativesOfChoice rs named.2 a)

end

mutual

/-- A rule without repetitions mentions none. -/
theorem isNamed_marks : (r : Rule) → r.isNamed → ∀ outer under, ∀ m ∈ r.marks outer under,
    m.target.isNamed
  | .seq rs, named, outer, under => by
    rw [marks]
    exact areNamed_marksAll rs named outer under
  | .prec _ _ r, named, outer, under => by
    rw [marks]
    exact isNamed_marks r named outer under
  | .weight _ r, named, outer, under => by
    rw [marks]
    exact isNamed_marks r named outer under
  | .field n r, named, outer, under => by
    rw [marks]
    exact isNamed_marks r named outer (some n)
  | .aliased n r, named, outer, under => by
    rw [marks]
    exact isNamed_marks r named (some n) under
  | .repeat1 _, named, _, _ => by cases named
  | .choice rs, named, outer, under => by simpa [marks] using named
  | .blank, _, _, _ | .literal _, _, _, _ | .lexeme _, _, _, _ | .ref _, _, _, _ => by
    simp [marks, isNamed]

theorem areNamed_marksAll : (rs : List Rule) → areNamed rs → ∀ outer under,
    ∀ m ∈ marksAll outer under rs, m.target.isNamed
  | [], _, _, _ => by simp [marksAll]
  | r :: rs, named, outer, under => by
    rw [areNamed, Bool.and_eq_true] at named
    intro m mem
    rw [marksAll, List.mem_append] at mem
    exact mem.elim (isNamed_marks r named.1 outer under m)
      (areNamed_marksAll rs named.2 outer under m)

end

end Named

/-! ## The table of names -/

/-- Whether a name is one that repetitions get. -/
def IsRepetitionName (name : String) : Prop := "_repeat".toList <:+: name.toList

instance (name : String) : Decidable (IsRepetitionName name) :=
  inferInstanceAs (Decidable (_ <:+: _))

lemma infix_append (a b c : String) : b.toList <:+: (a ++ b ++ c).toList := by
  rw [String.toList_append, String.toList_append]
  exact List.infix_append _ _ _

lemma isRepetitionName_fresh (owner : String) (count : Nat) :
    IsRepetitionName s!"{owner}_repeat{count}" :=
  infix_append owner "_repeat" (toString count)

/-- What giving names to repetitions does: the table grows by such names, none is left without one,
and later tables agree. -/
structure Naming (before after : Repetitions) (isNamed : Bool) (agrees : Repetitions → Prop) :
    Prop where
  grows : before.toList <+: after.toList
  fresh : ∀ entry ∈ after, entry ∈ before ∨ IsRepetitionName entry.2
  named : isNamed
  agree : ∀ table : Repetitions, after.toList <+: table.toList → agrees table

section Naming
variable {before between after : Repetitions} {isNamed isNamed' : Bool}
  {agrees agrees' : Repetitions → Prop}

lemma Naming.nothing (named : isNamed) (agree : ∀ table, agrees table) :
    Naming before before isNamed agrees :=
  ⟨List.prefix_rfl, fun _ mem => .inl mem, named, fun table _ => agree table⟩

lemma Naming.imp (naming : Naming before after isNamed agrees)
    (weaker : ∀ table, agrees table → agrees' table) : Naming before after isNamed agrees' :=
  { naming with agree := fun table more => weaker table (naming.agree table more) }

lemma Naming.trans (first : Naming before between isNamed agrees)
    (second : Naming between after isNamed' agrees') :
    Naming before after (isNamed && isNamed') fun table => agrees table ∧ agrees' table where
  grows := first.grows.trans second.grows
  fresh entry mem := (second.fresh entry mem).elim (first.fresh entry) .inr
  named := by rw [first.named, second.named, Bool.and_self]
  agree table more := ⟨first.agree table (second.grows.trans more), second.agree table more⟩

/-- A later table has the same names for what is in an earlier one. -/
lemma find?_of_isPrefix {p : Rule × String → Bool} {entry : Rule × String}
    (grows : before.toList <+: after.toList) (found : before.find? p = some entry) :
    after.find? p = some entry := by
  obtain ⟨more, e⟩ := grows
  rw [← Array.find?_toList] at found ⊢
  rw [← e, List.find?_append, found, Option.some_or]

variable (owner : String)

/-- A repetition gets the name of an earlier one of the same rule, or else a new one. -/
lemma run_repeat1 (r : Rule) (state : Repetitions × Nat) :
    (nameRepetitions owner (.repeat1 r)).run state =
      let out := (nameRepetitions owner r).run state
      match out.2.1.find? fun entry => entry.1 == out.1 with
      | some (_, name) => (.ref name, out.2)
      | none =>
        let name := s!"{owner}_repeat{out.2.2 + 1}"
        (.ref name, out.2.1.push (out.1, name), out.2.2 + 1) := by
  simp only [nameRepetitions, StateT.run_bind, StateT.run_get]
  dsimp only [bind, pure]
  generalize (nameRepetitions owner r).run state = out
  cases out.2.1.find? fun entry => entry.1 == out.1 <;> rfl

mutual

/-- The repetitions of a rule get names. -/
theorem naming_nameRepetitions : (r : Rule) → ∀ state : Repetitions × Nat,
    let out := (nameRepetitions owner r).run state
    Naming state.1 out.2.1 out.1.isNamed fun table => rename table r = out.1
  | .seq rs, state => (naming_nameAllRepetitions rs state).imp fun table e => by
    simp only [rename, e]
    rfl
  | .choice rs, state => (naming_nameAllRepetitions rs state).imp fun table e => by
    simp only [rename, e]
    rfl
  | .prec p a r, state => (naming_nameRepetitions r state).imp fun table e => by
    simp only [rename, e]
    rfl
  | .weight n r, state => (naming_nameRepetitions r state).imp fun table e => by
    simp only [rename, e]
    rfl
  | .field n r, state => (naming_nameRepetitions r state).imp fun table e => by
    simp only [rename, e]
    rfl
  | .aliased n r, state => (naming_nameRepetitions r state).imp fun table e => by
    simp only [rename, e]
    rfl
  | .repeat1 r, state => by
    have inner := naming_nameRepetitions r state
    rw [run_repeat1]
    generalize (nameRepetitions owner r).run state = out at inner ⊢
    dsimp only at inner ⊢
    cases found : out.2.1.find? fun entry => entry.1 == out.1 with
    | some entry =>
      refine ⟨inner.grows, inner.fresh, rfl, fun table more => ?_⟩
      rw [rename, inner.agree table more, find?_of_isPrefix more found]
    | none =>
      have grows : out.2.1.toList <+:
          (out.2.1.push (out.1, s!"{owner}_repeat{out.2.2 + 1}")).toList := by simp
      refine ⟨inner.grows.trans grows, fun entry mem => ?_, rfl, fun table more => ?_⟩
      · rcases Array.mem_push.1 mem with known | rfl
        · exact inner.fresh entry known
        · exact .inr (isRepetitionName_fresh owner _)
      · -- The new entry is the first of its rule.
        have found' : (out.2.1.push (out.1, s!"{owner}_repeat{out.2.2 + 1}")).find?
            (fun entry => entry.1 == out.1) = some (out.1, s!"{owner}_repeat{out.2.2 + 1}") := by
          rw [Array.find?_push, found]
          simp
        rw [rename, inner.agree table (grows.trans more), find?_of_isPrefix more found']
  | .blank, _ | .literal _, _ | .lexeme _, _ | .ref _, _ =>
    .nothing rfl fun _ => by simp [rename]; rfl

theorem naming_nameAllRepetitions : (rs : List Rule) → ∀ state : Repetitions × Nat,
    let out := (nameAllRepetitions owner rs).run state
    Naming state.1 out.2.1 (areNamed out.1) fun table => renameAll table rs = out.1
  | [], _ => .nothing rfl fun _ => by simp [renameAll]; rfl
  | r :: rs, state => by
    have first := naming_nameRepetitions r state
    have second := naming_nameAllRepetitions rs ((nameRepetitions owner r).run state).2
    refine (first.trans second).imp fun table agree => ?_
    rw [renameAll, agree.1, agree.2]
    rfl

end

end Naming

end Rule

/-! ## The rules of a grammar -/

namespace Definition

open Rule

/-- Naming the repetitions of rules one after the other. -/
lemma naming_foldl (rs : List (String × Rule)) (acc : List (String × Rule) × Repetitions) :
    let out := rs.foldl
      (fun acc r =>
        let (rule, repetitions, _) := (nameRepetitions r.1 r.2).run (acc.2, 0)
        (acc.1 ++ [(r.1, rule)], repetitions))
      acc
    ∃ named, out.1 = acc.1 ++ named ∧ Naming acc.2 out.2 (named.all fun r => r.2.isNamed)
      fun table => rs.map (fun r => (r.1, rename table r.2)) = named := by
  induction rs generalizing acc with
  | nil => exact ⟨[], by simp, .nothing rfl fun _ => rfl⟩
  | cons r rs ih =>
    have first := naming_nameRepetitions r.1 r.2 (acc.2, 0)
    obtain ⟨named, e, rest⟩ := ih
      (acc.1 ++ [(r.1, ((nameRepetitions r.1 r.2).run (acc.2, 0)).1)],
        ((nameRepetitions r.1 r.2).run (acc.2, 0)).2.1)
    refine ⟨(r.1, ((nameRepetitions r.1 r.2).run (acc.2, 0)).1) :: named, ?_, ?_⟩
    · rw [List.foldl_cons, ← List.singleton_append (l := named), ← List.append_assoc]
      exact e
    · refine (first.trans rest).imp fun table agree => ?_
      rw [List.map_cons, agree.1, agree.2]

variable (d : Definition) (tokenNames : List String)

/-- All rules are renamed by one table, which has names of repetitions only. -/
theorem namedRules_eq :
    (d.namedRules tokenNames).1 = (d.rules.filter fun r => !tokenNames.contains r.1).map
        (fun r => (r.1, rename (d.namedRules tokenNames).2 r.2)) ∧
      (∀ r ∈ (d.namedRules tokenNames).1, r.2.isNamed) ∧
      ∀ entry ∈ (d.namedRules tokenNames).2, IsRepetitionName entry.2 := by
  obtain ⟨named, e, naming⟩ :=
    naming_foldl (d.rules.filter fun r => !tokenNames.contains r.1) ([], #[])
  have e : (d.namedRules tokenNames).1 = named := e
  refine ⟨?_, ?_, fun entry mem => ?_⟩
  · rw [e]
    exact (naming.agree _ List.prefix_rfl).symm
  · rw [e]
    exact List.all_eq_true.1 naming.named
  · exact (naming.fresh entry mem).resolve_left (by simp)

/-- A repetition that a reading of a rule mentions has a name. -/
theorem exists_name {x : String} {r a inner : Rule} {m : Mark} (rule : (x, r) ∈ d.rules)
    (noToken : x ∉ tokenNames) (reading : a ∈ r.alternatives) (mentioned : m ∈ a.marks none none)
    (isRepetition : m.target = .repeat1 inner) :
    ∃ name, rename (d.namedRules tokenNames).2 (.repeat1 inner) = .ref name ∧
      (rename (d.namedRules tokenNames).2 inner, name) ∈ (d.namedRules tokenNames).2 := by
  obtain ⟨rules, named, -⟩ := d.namedRules_eq tokenNames
  generalize (d.namedRules tokenNames).2 = table at *
  have renamed : (x, rename table r) ∈ (d.namedRules tokenNames).1 := by
    rw [rules, List.mem_map]
    exact ⟨(x, r), by simp [rule, noToken], rfl⟩
  have reading' : rename table a ∈ (rename table r).alternatives := by
    rw [alternatives_rename]
    exact List.mem_map_of_mem reading
  have mentioned' : m.rename table ∈ (rename table a).marks none none := by
    rw [marks_rename]
    exact List.mem_map_of_mem mentioned
  have isNamed := isNamed_marks _ (isNamed_alternatives _ (named _ renamed) _ reading') _ _ _
    mentioned'
  rw [Mark.rename, isRepetition, rename] at isNamed
  rw [rename]
  cases found : table.find? fun entry => entry.1 == rename table inner with
  | none =>
    rw [found] at isNamed
    cases isNamed
  | some entry =>
    obtain ⟨repeated, name⟩ := entry
    have same := Array.find?_some found
    rw [beq_iff_eq] at same
    exact ⟨name, rfl, same ▸ Array.mem_of_find?_eq_some found⟩

end Definition

end RouteAtlas.Grammar
