import Mathlib.Data.List.FinRange
import RouteAtlas.Proofs.Manifest.Entries

/-!
# The order of arrival

Routes with different keys are all accepted, so that the entries of a builder are theirs, in the
order of their arrival (`entries_fresh`), and its imports are those that one of them needs
(`mem_imports_fresh_of_nodup`). Which module a name was first hoisted from does depend on that
order, but the module does not show it: sorted by key, it is the same for every order, and otherwise
only its entries are reordered (`build_reordered`).
-/

namespace RouteAtlas.Manifest.Builder

/-- The exported object with the given entries. -/
def exportOf (entries : List Entry) : String :=
  if entries.isEmpty then "export default \x7b\x7d\n"
  else "export default \x7b\n" ++ String.join (entries.map Entry.render) ++ "\x7d\n"

/-- The module has its entries in their order. -/
lemma build_eq (b : Builder) :
    b.build = header ++ b.importBlock ++ "\n" ++ exportOf b.orderedEntries := by
  rw [build, exportBlock, exportOf, b.perm_orderedEntries.isEmpty_eq]

section Distinct
variable {extension apiPrefix : String} {preserveOrder : Bool} {routes routes' : List Route}
  (different : (routes.map fun r => Manifest.key extension apiPrefix r.path).Nodup)
include different

/-- Routes with different keys are all kept. -/
lemma kept_fresh : (fresh extension apiPrefix preserveOrder).kept routes = routes :=
  kept_eq_self different fun _ _ => rfl

/-- Routes with different keys all have their entries, in the order of their arrival. -/
lemma entries_fresh :
    ((fresh extension apiPrefix preserveOrder).offerAll routes).entries
      = routes.map (Entry.ofRoute extension apiPrefix) := by
  rw [entries_offerAll, kept_fresh different]
  rfl

/-- Routes with different keys all have their imports. -/
lemma mem_imports_fresh_of_nodup {l : ImportLine} :
    l ∈ ((fresh extension apiPrefix preserveOrder).offerAll routes).imports.toList ↔
      ∃ r ∈ routes, l ∈ ImportLine.ofHoisted r.hoistedImports := by
  rw [mem_imports_offerAll, kept_fresh different]
  exact or_iff_right List.not_mem_nil

/-- Routes with different keys have the same imports in every order. -/
lemma imports_eq_of_perm (perm : routes'.Perm routes) :
    ((fresh extension apiPrefix preserveOrder).offerAll routes').imports
      = ((fresh extension apiPrefix preserveOrder).offerAll routes).imports := by
  have different' : (routes'.map fun r => Manifest.key extension apiPrefix r.path).Nodup :=
    (perm.map _).nodup_iff.mpr different
  refine AscendingSet.ext_mem fun l => ?_
  rw [mem_imports_fresh_of_nodup different, mem_imports_fresh_of_nodup different']
  simp only [perm.mem_iff]

/-- Routes with different keys make up one module in every order, if it is sorted by key. -/
lemma build_eq_of_perm (perm : routes'.Perm routes) :
    ((fresh extension apiPrefix false).offerAll routes').build
      = ((fresh extension apiPrefix false).offerAll routes).build := by
  have different' : (routes'.map fun r => Manifest.key extension apiPrefix r.path).Nodup :=
    (perm.map _).nodup_iff.mpr different
  have sorted (offered : List Route) :
      ((fresh extension apiPrefix false).offerAll offered).preserveOrder = false :=
    (settings_offerAll _ offered).2.2
  refine build_eq_build (sorted routes') (sorted routes) ?_
    (nodup_keys_offerAll (fresh extension apiPrefix false) List.nodup_nil routes') fun l => ?_
  · rw [entries_fresh different, entries_fresh different']
    exact perm.map _
  · rw [imports_eq_of_perm different perm]

/-- A module that keeps the order of arrival has the entries of its routes in that order. -/
lemma build_of_preserveOrder :
    let b := (fresh extension apiPrefix true).offerAll routes
    b.build = header ++ b.importBlock ++ "\n"
      ++ exportOf (routes.map (Entry.ofRoute extension apiPrefix)) := by
  intro b
  have order : b.preserveOrder = true := (settings_offerAll _ routes).2.2
  rw [build_eq, orderedEntries, if_pos order, entries_fresh different]

/-- The order of arrival does not matter for routes with different keys: sorted by key, they make up
the same module in every order; otherwise the modules have the same beginning and the same imports,
and their entries are reordered as the routes are. -/
theorem build_reordered (σ : Equiv.Perm (Fin routes.length)) :
    let reordered := List.ofFn fun i => routes.get (σ i)
    let entry := fun i => Entry.ofRoute extension apiPrefix (routes.get i)
    let imports := ((fresh extension apiPrefix true).offerAll routes).importBlock
    ((fresh extension apiPrefix false).offerAll reordered).build
        = ((fresh extension apiPrefix false).offerAll routes).build ∧
      ((fresh extension apiPrefix true).offerAll routes).build
        = header ++ imports ++ "\n" ++ exportOf (List.ofFn entry) ∧
      ((fresh extension apiPrefix true).offerAll reordered).build
        = header ++ imports ++ "\n" ++ exportOf (List.ofFn (entry ∘ σ)) := by
  intro reordered entry imports
  have perm : reordered.Perm routes := by
    have perm := σ.ofFn_comp_perm routes.get
    rwa [List.ofFn_get] at perm
  have different' : (reordered.map fun r => Manifest.key extension apiPrefix r.path).Nodup :=
    (perm.map _).nodup_iff.mpr different
  have same : ((fresh extension apiPrefix true).offerAll reordered).importBlock = imports := by
    rw [importBlock, imports_eq_of_perm different perm]
    rfl
  have entries : routes.map (Entry.ofRoute extension apiPrefix) = List.ofFn entry := by
    conv_lhs => rw [← List.ofFn_get routes, List.map_ofFn]
    rfl
  have entries' : reordered.map (Entry.ofRoute extension apiPrefix) = List.ofFn (entry ∘ σ) :=
    List.map_ofFn ..
  refine ⟨build_eq_of_perm different perm, ?_, ?_⟩
  · rw [build_of_preserveOrder different, entries]
  · rw [build_of_preserveOrder different', same, entries']

end Distinct

namespace Sample

/-- A route that hoists one name. -/
def hoisting (path modulePath : String) : Route where
  method := .get
  path
  identifiers := AscendingSet.insert "Query" ∅
  imports := Imports.insert {} "Query" modulePath

/-- Three routes, two of which hoist a name from different modules. -/
def routes : List Route :=
  [hoisting "./item/get.ts" "./item/schema", hoisting "./user/get.ts" "./user/schema",
    { method := .put, path := "./item/put.ts" }]

/-- The first two routes in each other's place. -/
def swapped : Equiv.Perm (Fin routes.length) := Equiv.swap ⟨0, by decide⟩ ⟨1, by decide⟩

end Sample

/-- Three routes that arrive in two orders: the name is first hoisted from another module, which the
modules do not show. -/
theorem build_reordered_swapped :
    let reordered := List.ofFn fun i => Sample.routes.get (Sample.swapped i)
    let b := fresh "ts" "api/v1/" false
    (b.offerAll reordered).firstHoisted ≠ (b.offerAll Sample.routes).firstHoisted ∧
      (b.offerAll reordered).build = (b.offerAll Sample.routes).build := by
  have different :
      (Sample.routes.map fun r => Manifest.key "ts" "api/v1/" r.path).Nodup := by
    decide +kernel
  exact ⟨by decide +kernel, (build_reordered different Sample.swapped).1⟩

end RouteAtlas.Manifest.Builder
