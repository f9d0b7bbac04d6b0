import Mathlib.Data.List.Perm.Subperm
import RouteAtlas.Proofs.Manifest.Reordering
import RouteAtlas.Run.Generation

/-!
# What a generation makes of the outcomes that arrived

If no outcome arrives twice and none that was not expected, every path that was found is that of one
route, of one diagnostic, or of one file that missed the deadline (`perm_expected`). The diagnostics
are in strictly ascending order of path (`pairwise_diagnostics`), so that they do not depend on the
order of arrival (`diagnostics_eq`). Neither does a manifest that is sorted by key
(`document_eq`).
-/

namespace RouteAtlas

namespace Outcome

@[simp] lemma routes_cons_ok (r : Route) (rest : List Outcome) :
    routes (.ok r :: rest) = r :: routes rest := rfl

@[simp] lemma routes_cons_error (d : Diagnostic) (rest : List Outcome) :
    routes (.error d :: rest) = routes rest := rfl

@[simp] lemma diagnostics_cons_ok (r : Route) (rest : List Outcome) :
    diagnostics (.ok r :: rest) = diagnostics rest := rfl

@[simp] lemma diagnostics_cons_error (d : Diagnostic) (rest : List Outcome) :
    diagnostics (.error d :: rest) = d :: diagnostics rest := rfl

/-- The routes among outcomes are the outcomes that are routes. -/
lemma mem_routes {outcomes : List Outcome} {r : Route} :
    r ∈ routes outcomes ↔ .ok r ∈ outcomes := by
  simp only [routes, List.mem_filterMap]
  constructor
  · rintro ⟨outcome, mem, e⟩
    cases outcome with
    | ok r' => cases e; exact mem
    | error d => cases e
  · intro mem
    exact ⟨_, mem, rfl⟩

/-- The diagnostics among outcomes are the outcomes that are diagnostics. -/
lemma mem_diagnostics {outcomes : List Outcome} {d : Diagnostic} :
    d ∈ diagnostics outcomes ↔ .error d ∈ outcomes := by
  simp only [diagnostics, List.mem_filterMap]
  constructor
  · rintro ⟨outcome, mem, e⟩
    cases outcome with
    | ok r => cases e
    | error d' => cases e; exact mem
  · intro mem
    exact ⟨_, mem, rfl⟩

/-- The routes of some outcomes are among the routes of all. -/
lemma subperm_routes {outcomes outcomes' : List Outcome} (part : outcomes.Subperm outcomes') :
    (routes outcomes).Subperm (routes outcomes') := by
  obtain ⟨l, perm, sub⟩ := part
  exact ⟨routes l, perm.filterMap _, sub.filterMap _⟩

/-- The diagnostics of some outcomes are among the diagnostics of all. -/
lemma subperm_diagnostics {outcomes outcomes' : List Outcome}
    (part : outcomes.Subperm outcomes') :
    (diagnostics outcomes).Subperm (diagnostics outcomes') := by
  obtain ⟨l, perm, sub⟩ := part
  exact ⟨diagnostics l, perm.filterMap _, sub.filterMap _⟩

/-- Reordered outcomes have the same routes. -/
lemma perm_routes {outcomes outcomes' : List Outcome} (perm : outcomes.Perm outcomes') :
    (routes outcomes).Perm (routes outcomes') := perm.filterMap _

/-- An outcome is a route or a diagnostic. -/
lemma perm_paths (outcomes : List Outcome) :
    ((routes outcomes).map Route.path ++ (diagnostics outcomes).map Diagnostic.path).Perm
      (outcomes.map Outcome.path) := by
  induction outcomes with
  | nil => exact .nil
  | cons outcome rest ih =>
    cases outcome with
    | ok r =>
      rw [routes_cons_ok, diagnostics_cons_ok]
      exact ih.cons r.path
    | error d =>
      rw [routes_cons_error, diagnostics_cons_error]
      exact List.perm_middle.trans (ih.cons d.path)

end Outcome

namespace Generation

/-- The paths of the files that were found and whose outcomes did not arrive. -/
def unseen (c : Config) (s : Scan) (outcomes : List Outcome) : List String :=
  (expected c s).filter fun path => !(outcomes.map Outcome.path).contains path

/-- The diagnostics of the files that missed the deadline. -/
def lateOnes (c : Config) (s : Scan) (outcomes : List Outcome) : List Diagnostic :=
  (unseen c s outcomes).map (late c)

/-- The paths of late files are those of the files whose outcomes did not arrive. -/
lemma paths_lateOnes (c : Config) (s : Scan) (outcomes : List Outcome) :
    (lateOnes c s outcomes).map Diagnostic.path = unseen c s outcomes := by
  simp [lateOnes, Function.comp_def, late]

/-- The diagnostics of a generation are those that arrived and those of late files. -/
lemma perm_diagnostics (c : Config) (s : Scan) (outcomes : List Outcome) :
    (ofOutcomes c s outcomes).diagnostics.Perm
      (Outcome.diagnostics outcomes ++ lateOnes c s outcomes) :=
  List.mergeSort_perm ..

section Accounting
variable {c : Config} {s : Scan} {outcomes : List Outcome}

/-- Every file that was found has an outcome that arrived, or is late. -/
lemma perm_expected (distinct : (expected c s).Nodup)
    (part : (outcomes.map Outcome.path).Subperm (expected c s)) :
    (outcomes.map Outcome.path ++ unseen c s outcomes).Perm (expected c s) := by
  have once : (outcomes.map Outcome.path).Nodup := by
    obtain ⟨l, perm, sub⟩ := part
    exact perm.nodup (distinct.sublist sub)
  have apart : (outcomes.map Outcome.path ++ unseen c s outcomes).Nodup := by
    refine List.nodup_append.mpr ⟨once, distinct.filter _, ?_⟩
    rintro path arrived _ late rfl
    simp only [unseen, List.mem_filter, Bool.not_eq_true', List.contains_eq_mem,
      decide_eq_false_iff_not] at late
    exact late.2 arrived
  refine (List.perm_ext_iff_of_nodup apart distinct).mpr fun path => ?_
  simp only [unseen, List.mem_append, List.mem_filter, Bool.not_eq_true', List.contains_eq_mem,
    decide_eq_false_iff_not]
  constructor
  · rintro (arrived | ⟨found, _⟩)
    · exact part.subset arrived
    · exact found
  · intro found
    by_cases arrived : path ∈ outcomes.map Outcome.path
    · exact .inl arrived
    · exact .inr ⟨found, arrived⟩

/-- Every path that was found is that of one route or of one diagnostic. -/
lemma perm_paths (distinct : (expected c s).Nodup)
    (part : (outcomes.map Outcome.path).Subperm (expected c s)) :
    ((Outcome.routes outcomes).map Route.path
      ++ (ofOutcomes c s outcomes).diagnostics.map Diagnostic.path).Perm (expected c s) := by
  have diagnostics := (perm_diagnostics c s outcomes).map Diagnostic.path
  rw [List.map_append, paths_lateOnes] at diagnostics
  refine (diagnostics.append_left _).trans ?_
  rw [← List.append_assoc]
  exact ((Outcome.perm_paths outcomes).append_right _).trans (perm_expected distinct part)

/-- A path that was found is that of one route, one diagnostic that arrived or one late file; no
other path is. -/
lemma count_path (distinct : (expected c s).Nodup)
    (part : (outcomes.map Outcome.path).Subperm (expected c s)) (path : String) :
    ((Outcome.routes outcomes).map Route.path).count path
        + ((Outcome.diagnostics outcomes).map Diagnostic.path).count path
        + ((lateOnes c s outcomes).map Diagnostic.path).count path
      = if path ∈ expected c s then 1 else 0 := by
  have arrived := (Outcome.perm_paths outcomes).count_eq path
  have all := (perm_expected distinct part).count_eq path
  rw [List.count_append] at arrived all
  rw [paths_lateOnes, arrived, all, distinct.count]

/-- A route or a diagnostic is there for every file that was found. -/
lemma length_diagnostics (distinct : (expected c s).Nodup)
    (part : (outcomes.map Outcome.path).Subperm (expected c s)) :
    (Outcome.routes outcomes).length + (ofOutcomes c s outcomes).diagnostics.length
      = s.files.length := by
  simpa [expected] using (perm_paths distinct part).length_eq

/-- No two diagnostics of a generation are on the same file. -/
lemma nodup_diagnostics (distinct : (expected c s).Nodup)
    (part : (outcomes.map Outcome.path).Subperm (expected c s)) :
    ((ofOutcomes c s outcomes).diagnostics.map Diagnostic.path).Nodup :=
  (((perm_paths distinct part).nodup_iff.mpr distinct).sublist (List.sublist_append_right ..))

end Accounting

/-- An outcome of a file that was found has arrived, or the file is late. -/
lemma arrived_or_late (outcomes : List Outcome) {c : Config} {s : Scan} {path : String}
    (found : path ∈ expected c s) :
    (∃ outcome ∈ outcomes, outcome.path = path) ∨ late c path ∈ lateOnes c s outcomes := by
  by_cases arrived : path ∈ outcomes.map Outcome.path
  · exact .inl (List.mem_map.mp arrived)
  · refine .inr (List.mem_map_of_mem (List.mem_filter.mpr ⟨found, ?_⟩))
    simpa using arrived

/-- A generation is complete if no fatal diagnostic arrived and no file is late. -/
lemma isComplete_iff (c : Config) (s : Scan) (outcomes : List Outcome) :
    (ofOutcomes c s outcomes).isComplete = true ↔
      (∀ d ∈ Outcome.diagnostics outcomes, d.isFatal = false) ∧ lateOnes c s outcomes = [] := by
  have fatal : ∀ d ∈ lateOnes c s outcomes, d.isFatal = true := by
    intro d mem
    obtain ⟨path, _, rfl⟩ := List.mem_map.mp mem
    rfl
  simp only [isComplete, Bool.not_eq_true', List.any_eq_false, Bool.not_eq_true,
    (perm_diagnostics c s outcomes).mem_iff, List.mem_append]
  constructor
  · intro none
    refine ⟨fun d mem => none d (.inl mem), List.eq_nil_iff_forall_not_mem.mpr fun d mem => ?_⟩
    exact Bool.noConfusion ((fatal d mem).symm.trans (none d (.inr mem)))
  · rintro ⟨harmless, empty⟩ d (mem | mem)
    · exact harmless d mem
    · exact absurd mem (empty ▸ List.not_mem_nil)

/-- The order of diagnostics is transitive. -/
lemma precedes_trans (x y z : Diagnostic) (xy : precedes x y) (yz : precedes y z) :
    precedes x z := by
  simp only [precedes, Bool.or_eq_true, Bool.and_eq_true, decide_eq_true_eq] at xy yz ⊢
  obtain xy | ⟨xy, xy'⟩ := xy
  · obtain yz | ⟨yz, _⟩ := yz
    · exact .inl (String.lt_trans xy yz)
    · exact .inl (yz ▸ xy)
  · obtain yz | ⟨yz, yz'⟩ := yz
    · exact .inl (xy ▸ yz)
    · exact .inr ⟨xy.trans yz, String.le_trans xy' yz'⟩

/-- Any two diagnostics are in order one way or the other. -/
lemma precedes_total (x y : Diagnostic) : (precedes x y || precedes y x) = true := by
  simp only [precedes, Bool.or_eq_true, Bool.and_eq_true, decide_eq_true_eq]
  by_cases xy : x.path < y.path
  · exact .inl (.inl xy)
  · by_cases yx : y.path < x.path
    · exact .inr (.inl yx)
    · have same : x.path = y.path := LinearLT.eq_of_not_lt xy yx
      obtain le | le := String.le_total x.message y.message
      · exact .inl (.inr ⟨same, le⟩)
      · exact .inr (.inr ⟨same.symm, le⟩)

/-- The diagnostics of a generation are in order. -/
lemma pairwise_precedes (c : Config) (s : Scan) (outcomes : List Outcome) :
    (ofOutcomes c s outcomes).diagnostics.Pairwise fun x y => precedes x y = true :=
  List.pairwise_mergeSort precedes_trans precedes_total _

/-- Diagnostics on different files are in strictly ascending order of path. -/
theorem pairwise_diagnostics {c : Config} {s : Scan} {outcomes : List Outcome}
    (distinct : (expected c s).Nodup)
    (part : (outcomes.map Outcome.path).Subperm (expected c s)) :
    ((ofOutcomes c s outcomes).diagnostics.map Diagnostic.path).Pairwise (· < ·) := by
  have different := List.pairwise_map.mp (nodup_diagnostics distinct part)
  refine List.pairwise_map.mpr ((pairwise_precedes c s outcomes).imp₂ ?_ different)
  intro x y xy unlike
  simp only [precedes, Bool.or_eq_true, Bool.and_eq_true, decide_eq_true_eq] at xy
  exact xy.resolve_right fun same => unlike same.1

/-- Late files are the same ones in any order of arrival. -/
lemma lateOnes_eq (c : Config) (s : Scan) {outcomes outcomes' : List Outcome}
    (perm : outcomes.Perm outcomes') : lateOnes c s outcomes = lateOnes c s outcomes' := by
  have same : ∀ path ∈ expected c s, (!(outcomes.map Outcome.path).contains path)
      = !(outcomes'.map Outcome.path).contains path := by
    intro path _
    simp only [List.contains_eq_mem, (perm.map Outcome.path).mem_iff]
  rw [lateOnes, lateOnes, unseen, unseen, List.filter_congr same]

/-- Diagnostics on different files have one order. -/
lemma eq_of_perm_of_precedes {ds ds' : List Diagnostic}
    (different : (ds.map Diagnostic.path).Nodup) (perm : ds.Perm ds')
    (ordered : ds.Pairwise fun x y => precedes x y = true)
    (ordered' : ds'.Pairwise fun x y => precedes x y = true) : ds = ds' := by
  refine List.Perm.eq_of_pairwise ?_ ordered ordered' perm
  intro x y memx memy xy yx
  -- Of two different diagnostics one has the smaller path, and stands first.
  have paths : x.path = y.path := by
    simp only [precedes, Bool.or_eq_true, Bool.and_eq_true, decide_eq_true_eq] at xy yx
    obtain xy | ⟨xy, _⟩ := xy
    · obtain yx | ⟨yx, _⟩ := yx
      · exact absurd (String.lt_trans xy yx) (String.lt_irrefl _)
      · exact yx.symm
    · exact xy
  exact List.inj_on_of_nodup_map different memx (perm.mem_iff.mpr memy) paths

/-- The diagnostics of a generation do not depend on the order of arrival. -/
theorem diagnostics_eq {c : Config} {s : Scan} {outcomes outcomes' : List Outcome}
    (distinct : (expected c s).Nodup)
    (part : (outcomes.map Outcome.path).Subperm (expected c s))
    (perm : outcomes.Perm outcomes') :
    (ofOutcomes c s outcomes).diagnostics = (ofOutcomes c s outcomes').diagnostics := by
  refine eq_of_perm_of_precedes (nodup_diagnostics distinct part) ?_
    (pairwise_precedes c s outcomes) (pairwise_precedes c s outcomes')
  refine (perm_diagnostics c s outcomes).trans (.trans ?_ (perm_diagnostics c s outcomes').symm)
  rw [lateOnes_eq c s perm]
  exact (perm.filterMap _).append_right _

end Generation

/-- The key of a path in the manifest of a run. -/
def Config.key (c : Config) (path : String) : String := Manifest.key c.extension c.apiPrefix path

/-- The entry of a route in the manifest of a run. -/
def Config.entry (c : Config) (r : Route) : Manifest.Entry := .ofRoute c.extension c.apiPrefix r

namespace Generation

open Manifest (ImportLine)

/-- A run offers its routes to a new builder. -/
lemma builderOf_eq (c : Config) (routes : List Route) :
    builderOf c routes
      = (Manifest.Builder.fresh c.extension c.apiPrefix c.preserveOrder).offerAll routes := rfl

/-- Entries of a manifest have different keys. -/
lemma nodup_keys_builderOf (c : Config) (routes : List Route) :
    ((builderOf c routes).entries.map Manifest.Entry.key).Nodup :=
  (emptyBuilder c).nodup_keys_offerAll List.nodup_nil routes

/-- Every entry of a manifest is that of a route. -/
lemma mem_entries_builderOf {c : Config} {routes : List Route} {e : Manifest.Entry}
    (mem : e ∈ (builderOf c routes).entries) : ∃ r ∈ routes, c.entry r = e := by
  have entries : (builderOf c routes).entries = [] ++ ((emptyBuilder c).kept routes).map c.entry :=
    (emptyBuilder c).entries_offerAll routes
  rw [entries, List.nil_append] at mem
  obtain ⟨r, kept, rfl⟩ := List.mem_map.mp mem
  exact ⟨r, ((emptyBuilder c).kept_sublist routes).subset kept, rfl⟩

section Distinct
variable {c : Config} {routes : List Route}
  (different : (routes.map fun r => c.key r.path).Nodup)
include different

/-- Routes with different keys all have their entries. -/
lemma entries_builderOf : (builderOf c routes).entries = routes.map c.entry :=
  Manifest.Builder.entries_fresh different

/-- Routes with different keys all have their imports. -/
lemma mem_imports_builderOf {l : ImportLine} :
    l ∈ (builderOf c routes).imports.toList ↔
      ∃ r ∈ routes, l ∈ ImportLine.ofHoisted r.hoistedImports :=
  Manifest.Builder.mem_imports_fresh_of_nodup different

/-- The number of entries does not depend on the order in which routes arrive. -/
lemma size_eq {routes' : List Route} (perm : routes.Perm routes') :
    (builderOf c routes).size = (builderOf c routes').size := by
  have different' : (routes'.map fun r => c.key r.path).Nodup :=
    (perm.map _).nodup_iff.mp different
  rw [Manifest.Builder.size, Manifest.Builder.size, entries_builderOf different,
    entries_builderOf different', List.length_map, List.length_map, perm.length_eq]

/-- A manifest that is sorted by key does not depend on the order in which routes arrive. -/
theorem document_eq {routes' : List Route} (sorted : c.preserveOrder = false)
    (perm : routes.Perm routes') : (builderOf c routes).build = (builderOf c routes').build := by
  rw [builderOf_eq, builderOf_eq, sorted]
  exact (Manifest.Builder.build_eq_of_perm different perm.symm).symm

end Distinct

/-- Routes that arrived have different keys, if all files that were found have. -/
lemma nodup_keys_routes {c : Config} {s : Scan} {outcomes : List Outcome}
    (different : ((expected c s).map c.key).Nodup)
    (part : (outcomes.map Outcome.path).Subperm (expected c s)) :
    ((Outcome.routes outcomes).map fun r => c.key r.path).Nodup := by
  have keys := ((perm_paths different.of_map part).map c.key).nodup_iff.mpr different
  rw [List.map_append, List.map_map] at keys
  exact keys.sublist (List.sublist_append_left ..)

end Generation

end RouteAtlas
