import Mathlib.Data.List.Nodup
import Mathlib.Data.List.ProdSigma
import Mathlib.Data.List.Perm.Subperm
import RouteAtlas.Query.Structure

/-!
# Hidden symbols below others

The hidden symbols that a search finds are all there are below the ones it begins with
(`mem_hiddenOf`): what is found is kept apart, and there are no more symbols and fields than the
search has time for.
-/

namespace RouteAtlas.Query.Blueprint

open Grammar

variable (b : Blueprint)

/-- Whether a step is hidden and leads on. -/
def IsHidden (s : Step) : Prop :=
  b.shownAs s = none ∧ b.productions.getD s.symbol #[] ≠ #[]

/-- Whether a production of a symbol has a step that is a hidden symbol. -/
def IsBelow (above below : Entry) : Prop :=
  ∃ p ∈ b.productions.getD above.1 #[], ∃ s ∈ p.steps,
    b.IsHidden s ∧ below = (s.symbol, s.field.or above.2)

/-- The hidden symbols with the fields under which they can stand. -/
def entries : List Entry := List.range b.productions.size ×ˢ b.fields

lemma length_entries : b.entries.length = b.hiddenBound := by
  rw [entries, List.length_product, List.length_range, hiddenBound]

variable {b} {above below : Entry}

/-- A production is one of a symbol that there is. -/
lemma mem_of_mem_getD {symbol : Nat} {p : Production}
    (mem : p ∈ b.productions.getD symbol #[]) :
    symbol < b.productions.size ∧ ∃ ps ∈ b.productions, p ∈ ps := by
  by_cases bound : symbol < b.productions.size
  · rw [Array.getD_eq_getD_getElem?, Array.getElem?_eq_getElem bound] at mem
    exact ⟨bound, _, Array.getElem_mem bound, mem⟩
  · rw [Array.getD_eq_getD_getElem?, Array.getElem?_eq_none (by omega)] at mem
    simp at mem

/-- Below an entry stand entries only. -/
lemma IsBelow.mem_entries (isBelow : b.IsBelow above below) (known : above.2 ∈ b.fields) :
    below ∈ b.entries := by
  obtain ⟨p, inProductions, s, inSteps, ⟨-, leads⟩, rfl⟩ := isBelow
  obtain ⟨q, inner⟩ := Array.exists_mem_of_ne_empty _ leads
  obtain ⟨-, ps, listed, mem⟩ := mem_of_mem_getD inProductions
  refine List.mem_product.2 ⟨List.mem_range.2 (mem_of_mem_getD inner).1, ?_⟩
  cases field : s.field with
  | none => exact known
  | some name =>
    refine List.mem_cons_of_mem _ ?_
    simp only [List.mem_flatMap, Array.mem_toList_iff, List.mem_map, Option.some_or]
    exact ⟨ps, listed, p, mem, s, inSteps, field⟩

/-- The symbol of a step is passed over unless it is hidden and new. -/
lemma noteHidden_condition {s : Step} {entry : Entry} {found : List Entry} :
    ((b.shownAs s).isSome || found.contains entry || (b.productions.getD s.symbol #[]).isEmpty)
      = true ↔ ¬(b.IsHidden s ∧ entry ∉ found) := by
  rw [IsHidden, ne_eq, ← Array.isEmpty_iff, ← Option.not_isSome_iff_eq_none, Bool.or_eq_true,
    Bool.or_eq_true, List.contains_iff_mem]
  tauto

/-- Going through steps adds the same entries to those to go on from and to those found: the hidden
ones that are new. -/
lemma exists_noted (b : Blueprint) (outer : Option String) (steps : List Step)
    (todo found : List Entry) (nodup : found.Nodup) : ∃ new : List Entry,
    steps.foldl (b.noteHidden outer) (todo, found) = (new ++ todo, new ++ found) ∧
      (new ++ found).Nodup ∧
      (∀ e ∈ new, ∃ s ∈ steps, b.IsHidden s ∧ e = (s.symbol, s.field.or outer)) ∧
      ∀ s ∈ steps, b.IsHidden s → (s.symbol, s.field.or outer) ∈ new ++ found := by
  induction steps generalizing todo found with
  | nil => exact ⟨[], rfl, nodup, by simp, by simp⟩
  | cons s steps ih =>
    let entry : Entry := (s.symbol, s.field.or outer)
    by_cases isNew : b.IsHidden s ∧ entry ∉ found
    · obtain ⟨new, e, nodup', sound, complete⟩ :=
        ih (entry :: todo) (entry :: found) (List.nodup_cons.2 ⟨isNew.2, nodup⟩)
      have split (l : List Entry) : (new ++ [entry]) ++ l = new ++ entry :: l := by simp
      refine ⟨new ++ [entry], ?_, ?_, ?_, ?_⟩
      · have noted : b.noteHidden outer (todo, found) s = (entry :: todo, entry :: found) :=
          if_neg fun old => noteHidden_condition.1 old isNew
        rw [List.foldl_cons, noted, e, split, split]
      · rwa [split]
      · intro x mem
        rcases List.mem_append.1 mem with mem | mem
        · obtain ⟨t, inSteps, known⟩ := sound x mem
          exact ⟨t, List.mem_cons_of_mem s inSteps, known⟩
        · obtain rfl := List.mem_singleton.1 mem
          exact ⟨s, List.mem_cons_self, isNew.1, rfl⟩
      · rw [split]
        intro t mem hidden
        rcases List.mem_cons.1 mem with rfl | mem
        · simp [entry]
        · exact complete t mem hidden
    · obtain ⟨new, e, nodup', sound, complete⟩ := ih todo found nodup
      refine ⟨new, ?_, nodup', ?_, ?_⟩
      · have noted : b.noteHidden outer (todo, found) s = (todo, found) :=
          if_pos (noteHidden_condition.2 isNew)
        rw [List.foldl_cons, noted, e]
      · intro x mem
        obtain ⟨t, inSteps, known⟩ := sound x mem
        exact ⟨t, List.mem_cons_of_mem s inSteps, known⟩
      · intro t mem hidden
        rcases List.mem_cons.1 mem with rfl | mem
        · refine List.mem_append_right _ ?_
          by_contra unseen
          exact isNew ⟨hidden, unseen⟩
        · exact complete t mem hidden

/-- Whether everything below an entry is among some. -/
def IsClosedAt (b : Blueprint) (found : List Entry) (above : Entry) : Prop :=
  ∀ below, b.IsBelow above below → below ∈ found

/-- What a search finds has nothing below it that is not found, if the search has time for all
entries. -/
theorem hiddenBelow_closed (fuel : Nat) (todo found : List Entry) (nodup : found.Nodup)
    (inside : ∀ e ∈ found, e ∈ b.entries) (fielded : ∀ e ∈ todo, e.2 ∈ b.fields)
    (enough : todo.length + b.entries.length ≤ fuel + found.length)
    (closed : ∀ e ∈ found, e ∈ todo ∨ b.IsClosedAt found e) :
    found ⊆ b.hiddenBelow fuel todo found ∧
      ∀ e, e ∈ todo ∨ e ∈ b.hiddenBelow fuel todo found →
        b.IsClosedAt (b.hiddenBelow fuel todo found) e := by
  induction fuel generalizing todo found with
  | zero =>
    -- Everything has been found, and nothing is left to be done.
    have atMost := (nodup.subperm inside).length_le
    obtain rfl : todo = [] := List.length_eq_zero_iff.1 (by omega)
    refine ⟨List.Subset.refl _, fun e known => ?_⟩
    exact (closed e (known.resolve_left List.not_mem_nil)).resolve_left List.not_mem_nil
  | succ fuel ih =>
    cases todo with
    | nil =>
      refine ⟨List.Subset.refl _, fun e known => ?_⟩
      exact (closed e (known.resolve_left List.not_mem_nil)).resolve_left List.not_mem_nil
    | cons e todo =>
      obtain ⟨new, added, nodup', sound, complete⟩ := exists_noted b e.2
        (((b.productions.getD e.1 #[]).map Production.steps).flatten).toList todo found nodup
      rw [Array.foldl_toList] at added
      rw [hiddenBelow, added]
      have isBelow (s : Step) : s ∈ (((b.productions.getD e.1 #[]).map
          Production.steps).flatten).toList ↔ ∃ p ∈ b.productions.getD e.1 #[], s ∈ p.steps := by
        simp only [Array.mem_toList_iff, Array.mem_flatten, Array.mem_map]
        exact ⟨fun ⟨_, ⟨p, mem, e⟩, mem'⟩ => ⟨p, mem, e ▸ mem'⟩,
          fun ⟨p, mem, mem'⟩ => ⟨_, ⟨p, mem, rfl⟩, mem'⟩⟩
      have above : ∀ x ∈ new, b.IsBelow e x := by
        intro x mem
        obtain ⟨s, inSteps, hidden, rfl⟩ := sound x mem
        obtain ⟨p, inProductions, inSteps⟩ := (isBelow s).1 inSteps
        exact ⟨p, inProductions, s, inSteps, hidden, rfl⟩
      have below : b.IsClosedAt (new ++ found) e := by
        rintro _ ⟨p, inProductions, s, inSteps, hidden, rfl⟩
        exact complete s ((isBelow s).2 ⟨p, inProductions, inSteps⟩) hidden
      have more {x : Entry} (known : b.IsClosedAt found x) : b.IsClosedAt (new ++ found) x :=
        fun y under => List.mem_append_right new (known y under)
      have known : ∀ x ∈ new, x ∈ b.entries :=
        fun x mem => (above x mem).mem_entries (fielded e List.mem_cons_self)
      have closed' : ∀ x ∈ new ++ found,
          x ∈ new ++ todo ∨ b.IsClosedAt (new ++ found) x := by
        intro x mem
        rcases List.mem_append.1 mem with mem | mem
        · exact .inl (List.mem_append_left todo mem)
        · rcases closed x mem with listed | known
          · rcases List.mem_cons.1 listed with rfl | listed
            · exact .inr below
            · exact .inl (List.mem_append_right new listed)
          · exact .inr (more known)
      obtain ⟨grows, done⟩ := ih (new ++ todo) (new ++ found) nodup'
        (fun x mem => (List.mem_append.1 mem).elim (known x) (inside x))
        (fun x mem => (List.mem_append.1 mem).elim (fun mem => (List.mem_product.1 (known x mem)).2)
          fun mem => fielded x (List.mem_cons_of_mem e mem))
        (by simp only [List.length_append, List.length_cons] at enough ⊢; omega) closed'
      refine ⟨fun x mem => grows (List.mem_append_right new mem), fun x mem => ?_⟩
      by_cases first : x = e
      · subst first
        exact fun y under => grows (below y under)
      · refine done x (mem.imp_left fun mem => List.mem_append_right new ?_)
        exact (List.mem_cons.1 mem).resolve_left first

/-- The hidden symbols below a kind are found, and those below them. -/
theorem mem_hiddenOf {kind : String} (isBelow : b.IsBelow above below)
    (known : above ∈ b.hiddenOf kind ∨ above.1 ∈ b.symbolsOf kind ∧ above.2 = none) :
    below ∈ b.hiddenOf kind := by
  let symbols := b.symbolsOf kind
  obtain ⟨-, closed⟩ := hiddenBelow_closed (b := b) (symbols.length + b.hiddenBound)
    (symbols.map (·, none)) [] List.nodup_nil (by simp) (by simp [fields])
    (by rw [length_entries]; simp) (by simp)
  refine closed above (known.elim .inr fun start => .inl ?_) below isBelow
  exact List.mem_map.2 ⟨above.1, start.1, by rw [← start.2]⟩

end RouteAtlas.Query.Blueprint
