import RouteAtlas.Proofs.Manifest.Entries

/-!
# The imports of a manifest

The routes that a builder accepts hoist names, each from a module (`hoistings`). The module has one
line for each name and module that were hoisted together, in the order of their bytes
(`import_block_exact`). A name that comes from another module than the first time is warned of, so
that a name is warned of exactly if the module imports it twice (`conflict_warned_iff`).
-/

namespace RouteAtlas

/-- A route hoists the names that it refers to and its file imports. -/
lemma Route.mem_hoistedImports {r : Route} {name path : String} :
    (name, path) ∈ r.hoistedImports ↔
      name ∈ r.identifiers.toList ∧ r.imports.get? name = some path := by
  simp only [Route.hoistedImports, List.mem_filterMap, Option.map_eq_some_iff]
  constructor
  · rintro ⟨_, mem, _, found, e⟩
    cases e
    exact ⟨mem, found⟩
  · rintro ⟨mem, found⟩
    exact ⟨name, mem, path, found, rfl⟩

end RouteAtlas

namespace RouteAtlas.Manifest

/-- The lines of a route import the names that it refers to and its file imports. -/
lemma ImportLine.mem_ofHoisted {r : Route} {l : ImportLine} :
    l ∈ ofHoisted r.hoistedImports ↔
      r.identifiers.contains l.identifier = true ∧
        r.imports.get? l.identifier = some l.modulePath := by
  obtain ⟨path, name⟩ := l
  rw [AscendingSet.contains, List.contains_iff_mem, ← Route.mem_hoistedImports, ofHoisted]
  simp

/-- Lines are in the order of the bytes of their modules, then of their names. -/
lemma ImportLine.lt_iff_bytes {l m : ImportLine} :
    l < m ↔ Text.bytes l.modulePath < Text.bytes m.modulePath ∨
      l.modulePath = m.modulePath ∧ Text.bytes l.identifier < Text.bytes m.identifier := by
  rw [Text.bytes_lt_iff, Text.bytes_lt_iff]
  exact ImportLine.lt_def

namespace Builder

/-- What a builder that is offered routes in turn hoists: names with their modules, in turn. -/
def hoistings (b : Builder) (routes : List Route) : List (String × String) :=
  (b.kept routes).flatMap Route.hoistedImports

/-- What is noted when routes are offered in turn. -/
def noticesOf (b : Builder) : List Route → List Notice
  | [] => []
  | r :: rest => (b.add r).notices ++ (b.add r).builder.noticesOf rest

/-- A builder imports what it imported before, and what was hoisted. -/
lemma mem_imports_iff_hoistings {b : Builder} {routes : List Route} {name path : String} :
    ⟨path, name⟩ ∈ (b.offerAll routes).imports.toList ↔
      ⟨path, name⟩ ∈ b.imports.toList ∨ (name, path) ∈ b.hoistings routes := by
  rw [mem_imports_offerAll, hoistings, List.mem_flatMap]
  refine or_congr_right (exists_congr fun r => and_congr_right fun _ => ?_)
  simp [ImportLine.ofHoisted]

section FirstHoisted
variable {b : Builder} {x p q : String}

/-- Hoisting a name records its module, unless the name has one. -/
lemma lookup_hoist (b : Builder) (name path x : String) :
    (b.hoist name path).1.firstHoisted.lookup x
      = (b.firstHoisted ++ [(name, path)]).lookup x := by
  unfold hoist
  cases known : b.firstHoisted.lookup name with
  | none => rfl
  | some first =>
    rw [List.lookup_append, List.lookup_cons]
    by_cases same : x = name
    · rw [same, known]
      rfl
    · simp [beq_false_of_ne same]

/-- Each hoisted name has the module that it was first hoisted from. -/
lemma lookup_hoistAll (b : Builder) (hoisted : List (String × String)) (x : String) :
    (b.hoistAll hoisted).1.firstHoisted.lookup x = (b.firstHoisted ++ hoisted).lookup x := by
  induction hoisted generalizing b with
  | nil => simp [hoistAll]
  | cons h rest ih =>
    obtain ⟨name, path⟩ := h
    rw [(b.hoistAll_cons name path rest).1, ih, List.lookup_append, lookup_hoist,
      ← List.lookup_append, List.append_assoc]
    rfl

/-- A name is warned of if its first module is another one. -/
lemma mem_notices_hoist {name path : String} :
    .conflictingImport x p q ∈ (b.hoist name path).2 ↔
      (x, q) = (name, path) ∧ b.firstHoisted.lookup x = some p ∧ p ≠ q := by
  unfold hoist
  cases known : b.firstHoisted.lookup name with
  | none =>
    simp only [List.not_mem_nil, false_iff]
    rintro ⟨e, found, _⟩
    cases e
    rw [known] at found
    cases found
  | some first =>
    dsimp only
    split
    · rename_i same
      simp only [List.not_mem_nil, false_iff]
      rintro ⟨e, found, ne⟩
      cases e
      rw [known] at found
      cases found
      exact ne same
    · rename_i ne
      simp only [List.mem_singleton, Notice.conflictingImport.injEq, Prod.mk.injEq]
      constructor
      · rintro ⟨rfl, rfl, rfl⟩
        exact ⟨⟨rfl, rfl⟩, known, ne⟩
      · rintro ⟨⟨rfl, rfl⟩, found, _⟩
        rw [known] at found
        cases found
        exact ⟨rfl, rfl, rfl⟩

/-- A name has its first module when it is hoisted again. -/
lemma lookup_of_mem {past hoisted : List (String × String)} (later : List (String × String))
    (mem : (x, q) ∈ hoisted) :
    (past ++ hoisted ++ later).lookup x = (past ++ hoisted).lookup x := by
  have found : ((past ++ hoisted).lookup x).isSome := by
    rw [List.lookup_isSome_iff]
    exact ⟨(x, q), List.mem_append_right past mem, by simp⟩
  rw [List.lookup_append, Option.or_of_isSome found]

/-- When names are hoisted, those are warned of that come from another module than first. -/
lemma mem_notices_hoistAll {hoisted : List (String × String)} :
    .conflictingImport x p q ∈ (b.hoistAll hoisted).2 ↔
      (x, q) ∈ hoisted ∧ (b.firstHoisted ++ hoisted).lookup x = some p ∧ p ≠ q := by
  induction hoisted generalizing b with
  | nil => simp [hoistAll]
  | cons h rest ih =>
    obtain ⟨name, path⟩ := h
    have known : ((b.hoist name path).1.firstHoisted ++ rest).lookup x
        = (b.firstHoisted ++ (name, path) :: rest).lookup x := by
      rw [List.lookup_append, lookup_hoist, ← List.lookup_append, List.append_assoc]
      rfl
    rw [(b.hoistAll_cons name path rest).2, List.mem_append, ih, mem_notices_hoist, known,
      List.mem_cons, or_and_right]
    refine or_congr_left (and_congr_right fun e => and_congr_left fun ne => ?_)
    -- The name had a module before, or would now get the very module that it comes from.
    cases e
    rw [List.lookup_append, List.lookup_cons_self]
    cases b.firstHoisted.lookup x with
    | none => simp [ne.symm]
    | some first => rfl

/-- When routes are offered, those names are warned of that come from another module than first. -/
lemma mem_noticesOf {routes : List Route} :
    .conflictingImport x p q ∈ b.noticesOf routes ↔
      (x, q) ∈ b.hoistings routes ∧
        (b.firstHoisted ++ b.hoistings routes).lookup x = some p ∧ p ≠ q := by
  induction routes generalizing b with
  | nil => simp [noticesOf, hoistings, kept]
  | cons r rest ih =>
    rw [noticesOf, List.mem_append, ih, hoistings, hoistings, kept, notices_add]
    cases taken : b.hasKey (b.keyOf r) with
    | true =>
      rw [(add_of_hasKey taken).2]
      simp
    | false =>
      -- What the route hoists is known to the routes behind it.
      have known : ((b.add r).builder.firstHoisted
            ++ ((b.add r).builder.kept rest).flatMap Route.hoistedImports).lookup x
          = (b.firstHoisted ++ r.hoistedImports
            ++ ((b.add r).builder.kept rest).flatMap Route.hoistedImports).lookup x := by
        rw [List.lookup_append, (add_of_not_hasKey taken).2, lookup_hoistAll, ← List.lookup_append]
      simp only [Bool.false_eq_true, if_false, List.flatMap_cons]
      rw [List.mem_append, mem_notices_hoistAll, known, List.mem_append, or_and_right,
        List.append_assoc]
      simp only [List.mem_singleton, reduceCtorEq, or_false]
      refine or_congr_left (and_congr_right fun mem => ?_)
      rw [← List.append_assoc, lookup_of_mem _ mem]

end FirstHoisted

section Fresh
variable (extension apiPrefix : String)

/-- The lines of a module import the names that accepted routes refer to and their files import. -/
lemma mem_imports_fresh (preserveOrder : Bool) (routes : List Route) (l : ImportLine) :
    let b := fresh extension apiPrefix preserveOrder
    l ∈ (b.offerAll routes).imports.toList ↔
      ∃ before r after, routes = before ++ r :: after ∧
        ((b.offerAll before).add r).added = true ∧
        r.identifiers.contains l.identifier = true ∧
        r.imports.get? l.identifier = some l.modulePath := by
  intro b
  rw [mem_imports_offerAll]
  simp only [mem_kept_iff, ImportLine.mem_ofHoisted]
  constructor
  · rintro (mem | ⟨r, ⟨before, after, split, accepted⟩, hoisted⟩)
    · cases mem
    · exact ⟨before, r, after, split, accepted, hoisted⟩
  · rintro ⟨before, r, after, split, accepted, hoisted⟩
    exact .inr ⟨r, ⟨before, after, split, accepted⟩, hoisted⟩

/-- Imports do not depend on the order of entries. -/
lemma imports_fresh (preserveOrder preserveOrder' : Bool) (routes : List Route) :
    ((fresh extension apiPrefix preserveOrder).offerAll routes).imports
      = ((fresh extension apiPrefix preserveOrder').offerAll routes).imports := by
  refine AscendingSet.ext_mem fun l => ?_
  have same (before : List Route) (r : Route) :
      (((fresh extension apiPrefix preserveOrder).offerAll before).add r).added
        = (((fresh extension apiPrefix preserveOrder').offerAll before).add r).added := by
    rw [Bool.eq_iff_iff, added_offerAll_iff, added_offerAll_iff]
    rfl
  have one := mem_imports_fresh extension apiPrefix preserveOrder routes l
  have other := mem_imports_fresh extension apiPrefix preserveOrder' routes l
  simp only [same] at one
  exact one.trans other.symm

/-- The module has one line for each name and module such that an accepted route refers to the name
and its file imports it from there: in the order of the bytes of modules and names, whatever the
order of entries. -/
theorem import_block_exact (routes : List Route) :
    ∃ lines : List ImportLine,
      (lines.Pairwise fun l m => Text.bytes l.modulePath < Text.bytes m.modulePath ∨
        l.modulePath = m.modulePath ∧ Text.bytes l.identifier < Text.bytes m.identifier) ∧
      ∀ preserveOrder,
        let b := fresh extension apiPrefix preserveOrder
        let final := b.offerAll routes
        final.build = header ++ String.join (lines.map ImportLine.render) ++ "\n"
          ++ final.exportBlock ∧
        ∀ l, l ∈ lines ↔ ∃ before r after, routes = before ++ r :: after ∧
          ((b.offerAll before).add r).added = true ∧
          r.identifiers.contains l.identifier = true ∧
          r.imports.get? l.identifier = some l.modulePath := by
  refine ⟨((fresh extension apiPrefix false).offerAll routes).imports.toList, ?_, ?_⟩
  · exact (AscendingSet.ascending _).imp ImportLine.lt_iff_bytes.mp
  · intro preserveOrder b final
    rw [imports_fresh extension apiPrefix false preserveOrder]
    exact ⟨rfl, mem_imports_fresh extension apiPrefix preserveOrder routes⟩

/-- A name is warned of exactly if the module has two lines that import it from different modules;
and each warning names the module that the name was first hoisted from and another one, both of
which have a line. -/
theorem conflict_warned_iff (preserveOrder : Bool) (routes : List Route) :
    let b := fresh extension apiPrefix preserveOrder
    let final := b.offerAll routes
    let lines := final.imports.toList
    final.build = header ++ String.join (lines.map ImportLine.render) ++ "\n"
      ++ final.exportBlock ∧
    ∀ x,
      ((∃ p q, .conflictingImport x p q ∈ b.noticesOf routes) ↔
        ∃ l ∈ lines, ∃ m ∈ lines, l.identifier = x ∧ m.identifier = x ∧
          l.modulePath ≠ m.modulePath) ∧
      ∀ p q, .conflictingImport x p q ∈ b.noticesOf routes →
        (b.hoistings routes).lookup x = some p ∧ q ≠ p ∧ ⟨p, x⟩ ∈ lines ∧ ⟨q, x⟩ ∈ lines := by
  intro b final lines
  have line (x p : String) : ⟨p, x⟩ ∈ lines ↔ (x, p) ∈ b.hoistings routes :=
    mem_imports_iff_hoistings.trans (or_iff_right List.not_mem_nil)
  have warned (x p q : String) : .conflictingImport x p q ∈ b.noticesOf routes ↔
      (x, q) ∈ b.hoistings routes ∧ (b.hoistings routes).lookup x = some p ∧ p ≠ q :=
    mem_noticesOf
  have first {x p : String} (found : (b.hoistings routes).lookup x = some p) : ⟨p, x⟩ ∈ lines := by
    obtain ⟨before, after, split, _⟩ := List.lookup_eq_some_iff.mp found
    exact (line x p).mpr (split ▸ List.mem_append_right before List.mem_cons_self)
  refine ⟨rfl, fun x => ⟨⟨?_, ?_⟩, fun p q mem => ?_⟩⟩
  · rintro ⟨p, q, mem⟩
    obtain ⟨again, found, ne⟩ := (warned x p q).mp mem
    exact ⟨⟨p, x⟩, first found, ⟨q, x⟩, (line x q).mpr again, rfl, rfl, ne⟩
  · -- Of two modules that give the name, at most one is the first.
    rintro ⟨⟨p, _⟩, memp, ⟨q, _⟩, memq, rfl, rfl, ne⟩
    have hoisted := (line _ _).mp memp
    have hoisted' := (line _ _).mp memq
    have known : ((b.hoistings routes).lookup _).isSome :=
      List.lookup_isSome_iff.mpr ⟨_, hoisted, beq_self_eq_true _⟩
    obtain ⟨first, found⟩ := Option.isSome_iff_exists.mp known
    by_cases same : first = p
    · exact ⟨first, q, (warned _ _ _).mpr ⟨hoisted', found, same ▸ ne⟩⟩
    · exact ⟨first, p, (warned _ _ _).mpr ⟨hoisted, found, same⟩⟩
  · obtain ⟨again, found, ne⟩ := (warned x p q).mp mem
    exact ⟨found, ne.symm, first found, (line x q).mpr again⟩

end Fresh

end Builder

end RouteAtlas.Manifest
