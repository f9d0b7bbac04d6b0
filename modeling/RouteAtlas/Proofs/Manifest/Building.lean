import Mathlib.Data.List.Sort
import RouteAtlas.Manifest.Builder

/-!
# Building a manifest from many routes

A builder that is offered routes in turn keeps the first with each key (`kept`). Its entries are
those of the routes it keeps, in their order (`entries_offerAll`), no two with the same key
(`nodup_keys_offerAll`), and its imports are those that these routes need (`mem_imports_offerAll`).
Sorted by key, the module depends on the entries and imports alone, not on the order of arrival
(`build_eq_build`).
-/

namespace RouteAtlas

/-- Two sets with the same members are equal. -/
lemma AscendingSet.ext_mem {α : Type} [LT α] [LinearLT α] [Std.Irrefl fun a b : α => a < b]
    {s t : AscendingSet α} (same : ∀ x, x ∈ s.toList ↔ x ∈ t.toList) : s = t := by
  have antisymm : Std.Antisymm fun a b : α => a < b :=
    ⟨fun a b hab hba => absurd (LinearLT.lt_trans hab hba) (Std.Irrefl.irrefl a)⟩
  have lists := s.ascending.eq_of_mem_iff t.ascending same
  cases s
  cases t
  cases lists
  rfl

namespace Manifest

instance : Std.Irrefl fun a b : ImportLine => a < b where
  irrefl l lt := by
    obtain lt | ⟨_, lt⟩ := ImportLine.lt_def.mp lt
    · exact String.lt_irrefl _ lt
    · exact String.lt_irrefl _ lt

/-- The entry of a route. -/
def Entry.ofRoute (extension apiPrefix : String) (r : Route) : Entry :=
  ⟨Manifest.key extension apiPrefix r.path, renderDescriptor extension r⟩

/-- The lines that import a list of names. -/
def ImportLine.ofHoisted (hoisted : List (String × String)) : List ImportLine :=
  hoisted.map fun h => ⟨h.2, h.1⟩

namespace Builder

/-- The key of a route in this manifest. -/
def keyOf (b : Builder) (r : Route) : String := Manifest.key b.extension b.apiPrefix r.path

/-- The entry of a route in this manifest. -/
def entryOf (b : Builder) (r : Route) : Entry := .ofRoute b.extension b.apiPrefix r

/-- Hoisting a name adds its line to the imports and changes nothing but those and the record of
first modules. -/
lemma hoist_eq (b : Builder) (name path : String) :
    (b.hoist name path).1 = { b with
      imports := b.imports.insert ⟨path, name⟩
      firstHoisted := (b.hoist name path).1.firstHoisted } := by
  unfold hoist
  cases b.firstHoisted.lookup name with
  | none => rfl
  | some first => rfl

/-- Names are hoisted in turn. -/
lemma hoistAll_cons (b : Builder) (name path : String) (rest : List (String × String)) :
    (b.hoistAll ((name, path) :: rest)).1 = ((b.hoist name path).1.hoistAll rest).1 ∧
      (b.hoistAll ((name, path) :: rest)).2
        = (b.hoist name path).2 ++ ((b.hoist name path).1.hoistAll rest).2 :=
  ⟨rfl, rfl⟩

/-- Hoisting names changes nothing but the imports and the record of first modules. -/
lemma hoistAll_eq (b : Builder) (hoisted : List (String × String)) :
    (b.hoistAll hoisted).1 = { b with
      imports := (b.hoistAll hoisted).1.imports
      firstHoisted := (b.hoistAll hoisted).1.firstHoisted } := by
  induction hoisted generalizing b with
  | nil => rfl
  | cons h rest ih =>
    obtain ⟨name, path⟩ := h
    rw [(b.hoistAll_cons name path rest).1, ih, hoist_eq b name path]

/-- Hoisting names adds their lines to the imports. -/
lemma mem_imports_hoistAll {b : Builder} {hoisted : List (String × String)} {l : ImportLine} :
    l ∈ (b.hoistAll hoisted).1.imports.toList ↔
      l ∈ b.imports.toList ∨ l ∈ ImportLine.ofHoisted hoisted := by
  induction hoisted generalizing b with
  | nil => simp [hoistAll, ImportLine.ofHoisted]
  | cons h rest ih =>
    obtain ⟨name, path⟩ := h
    have first : (b.hoist name path).1.imports = b.imports.insert ⟨path, name⟩ := by
      rw [hoist_eq]
    rw [(b.hoistAll_cons name path rest).1, ih, first, AscendingSet.mem_insert]
    simp [ImportLine.ofHoisted]
    tauto

/-- A route whose key is taken leaves the builder as it is. -/
lemma add_of_hasKey {b : Builder} {r : Route} (taken : b.hasKey (b.keyOf r) = true) :
    (b.add r).added = false ∧ (b.add r).builder = b := by
  unfold add
  rw [keyOf] at taken
  simp [taken]

/-- What is noted about an offer: that its key is taken, or else the modules that differ from those
known before, and that it is accepted. -/
lemma notices_add (b : Builder) (r : Route) :
    (b.add r).notices = if b.hasKey (b.keyOf r) then [.duplicateKey (b.keyOf r) r.path]
      else (b.hoistAll r.hoistedImports).2 ++ [.accepted (b.keyOf r) r.method r.path] := by
  rw [add, keyOf]
  dsimp only
  split <;> rfl

/-- A route whose key is free adds its entry and its imports. -/
lemma add_of_not_hasKey {b : Builder} {r : Route} (free : b.hasKey (b.keyOf r) = false) :
    (b.add r).added = true ∧
      (b.add r).builder = { (b.hoistAll r.hoistedImports).1 with
        entries := b.entries ++ [b.entryOf r] } := by
  have extension : (b.hoistAll r.hoistedImports).1.extension = b.extension := by rw [hoistAll_eq]
  have entries : (b.hoistAll r.hoistedImports).1.entries = b.entries := by rw [hoistAll_eq]
  unfold add
  rw [keyOf] at free
  simp [free, extension, entries, entryOf, Entry.ofRoute]

/-- The builder that was offered routes in turn. -/
def offerAll (b : Builder) (routes : List Route) : Builder :=
  routes.foldl (fun b r => (b.add r).builder) b

/-- The routes that a builder keeps of those that it is offered in turn. -/
def kept (b : Builder) : List Route → List Route
  | [] => []
  | r :: rest =>
    if b.hasKey (b.keyOf r) then b.kept rest else r :: (b.add r).builder.kept rest

/-- A route offered first, and then the others. -/
lemma offerAll_cons (b : Builder) (r : Route) (rest : List Route) :
    b.offerAll (r :: rest) = (b.add r).builder.offerAll rest := rfl

/-- An offer leaves the settings of a builder as they are. -/
lemma settings_add (b : Builder) (r : Route) :
    (b.add r).builder.extension = b.extension ∧ (b.add r).builder.apiPrefix = b.apiPrefix ∧
      (b.add r).builder.preserveOrder = b.preserveOrder := by
  cases taken : b.hasKey (b.keyOf r) with
  | true =>
    rw [(add_of_hasKey taken).2]
    exact ⟨rfl, rfl, rfl⟩
  | false =>
    rw [(add_of_not_hasKey taken).2, hoistAll_eq]
    exact ⟨rfl, rfl, rfl⟩

/-- Offers leave the settings of a builder as they are. -/
lemma settings_offerAll (b : Builder) (routes : List Route) :
    (b.offerAll routes).extension = b.extension ∧ (b.offerAll routes).apiPrefix = b.apiPrefix ∧
      (b.offerAll routes).preserveOrder = b.preserveOrder := by
  induction routes generalizing b with
  | nil => exact ⟨rfl, rfl, rfl⟩
  | cons r rest ih =>
    obtain ⟨extension, apiPrefix, preserveOrder⟩ := ih (b.add r).builder
    obtain ⟨extension', apiPrefix', preserveOrder'⟩ := settings_add b r
    rw [offerAll_cons]
    exact ⟨extension.trans extension', apiPrefix.trans apiPrefix',
      preserveOrder.trans preserveOrder'⟩

/-- After an offer, a route has the key and the entry that it had before. -/
lemma entryOf_add (b : Builder) (r : Route) :
    (b.add r).builder.keyOf = b.keyOf ∧ (b.add r).builder.entryOf = b.entryOf := by
  obtain ⟨extension, apiPrefix, _⟩ := settings_add b r
  constructor
  · funext x
    simp only [keyOf, extension, apiPrefix]
  · funext x
    simp only [entryOf, extension, apiPrefix]

/-- The entries of a builder are those of the routes that it keeps, in their order. -/
theorem entries_offerAll (b : Builder) (routes : List Route) :
    (b.offerAll routes).entries = b.entries ++ (b.kept routes).map b.entryOf := by
  induction routes generalizing b with
  | nil => simp [offerAll, kept]
  | cons r rest ih =>
    rw [offerAll_cons, kept]
    cases taken : b.hasKey (b.keyOf r) with
    | true =>
      rw [(add_of_hasKey taken).2, ih]
      simp
    | false =>
      rw [ih, (entryOf_add b r).2, (add_of_not_hasKey taken).2]
      simp

/-- The imports of a builder are those that the routes it keeps need. -/
theorem mem_imports_offerAll {b : Builder} {routes : List Route} {l : ImportLine} :
    l ∈ (b.offerAll routes).imports.toList ↔
      l ∈ b.imports.toList ∨ ∃ r ∈ b.kept routes, l ∈ ImportLine.ofHoisted r.hoistedImports := by
  induction routes generalizing b with
  | nil => simp [offerAll, kept]
  | cons r rest ih =>
    rw [offerAll_cons, kept]
    cases taken : b.hasKey (b.keyOf r) with
    | true =>
      rw [(add_of_hasKey taken).2, ih]
      simp
    | false =>
      rw [ih, (add_of_not_hasKey taken).2, mem_imports_hoistAll]
      simp [or_assoc]

/-- A builder keeps some of the routes that it is offered, in their order. -/
lemma kept_sublist (b : Builder) (routes : List Route) : (b.kept routes).Sublist routes := by
  induction routes generalizing b with
  | nil => exact .slnil
  | cons r rest ih =>
    rw [kept]
    split
    · exact (ih b).cons r
    · exact (ih _).cons_cons r

/-- A key is taken after an offer if it was taken before, or is the key of the route. -/
lemma hasKey_add {b : Builder} {r : Route} {key : String} :
    (b.add r).builder.hasKey key = true ↔ b.hasKey key = true ∨ b.keyOf r = key := by
  cases taken : b.hasKey (b.keyOf r) with
  | true =>
    rw [(add_of_hasKey taken).2]
    exact ⟨.inl, fun h => h.elim id fun same => same ▸ taken⟩
  | false =>
    rw [(add_of_not_hasKey taken).2]
    simp [hasKey, entryOf, Entry.ofRoute, keyOf]

/-- Routes with different keys, none of which is taken, are all kept. -/
lemma kept_eq_self {b : Builder} {routes : List Route} (different : (routes.map b.keyOf).Nodup)
    (free : ∀ r ∈ routes, b.hasKey (b.keyOf r) = false) : b.kept routes = routes := by
  induction routes generalizing b with
  | nil => rfl
  | cons r rest ih =>
    obtain ⟨unlike, different⟩ := List.nodup_cons.mp different
    have free' : ∀ x ∈ rest, (b.add r).builder.hasKey (b.keyOf x) = false := by
      intro x mem
      rw [Bool.eq_false_iff, ne_eq, hasKey_add, not_or]
      refine ⟨by simp [free x (List.mem_cons_of_mem r mem)], fun same => unlike ?_⟩
      rw [same]
      exact List.mem_map_of_mem mem
    rw [kept, free r List.mem_cons_self]
    simp only [Bool.false_eq_true, if_false, List.cons.injEq, true_and]
    exact ih (by rwa [(entryOf_add b r).1]) (by rwa [(entryOf_add b r).1])

/-- No two entries of a builder have the same key. -/
theorem nodup_keys_offerAll (b : Builder) (different : (b.entries.map Entry.key).Nodup)
    (routes : List Route) : ((b.offerAll routes).entries.map Entry.key).Nodup := by
  induction routes generalizing b with
  | nil => exact different
  | cons r rest ih =>
    rw [offerAll_cons]
    apply ih
    cases taken : b.hasKey (b.keyOf r) with
    | true => rwa [(add_of_hasKey taken).2]
    | false =>
      rw [(add_of_not_hasKey taken).2]
      simp only [List.map_append, List.map_cons, List.map_nil]
      refine List.nodup_append.mpr ⟨different, by simp, ?_⟩
      simp only [hasKey, List.any_eq_false, decide_eq_true_eq] at taken
      simp only [List.mem_map, List.mem_singleton, entryOf, Entry.ofRoute]
      rintro _ ⟨e, mem, rfl⟩ _ rfl
      exact taken e mem

/-- The module has the entries of its builder, in some order. -/
lemma perm_orderedEntries (b : Builder) : b.orderedEntries.Perm b.entries := by
  unfold orderedEntries
  split
  · exact .refl _
  · exact List.mergeSort_perm _ _

/-- A builder that sorts by key has no entry before one with a smaller key. -/
lemma pairwise_orderedEntries {b : Builder} (sorted : b.preserveOrder = false) :
    b.orderedEntries.Pairwise fun x y => x.key ≤ y.key := by
  have trans : ∀ x y z : Entry, decide (x.key ≤ y.key) → decide (y.key ≤ z.key) →
      decide (x.key ≤ z.key) := by
    intro x y z xy yz
    simp only [decide_eq_true_eq] at xy yz ⊢
    exact String.le_trans xy yz
  have total : ∀ x y : Entry, (decide (x.key ≤ y.key) || decide (y.key ≤ x.key)) = true := by
    intro x y
    simpa using String.le_total x.key y.key
  rw [orderedEntries, sorted]
  exact (List.pairwise_mergeSort trans total b.entries).imp fun le => by simpa using le

/-- Entries with different keys have one order by key. -/
lemma eq_of_perm_of_sorted {entries entries' : List Entry}
    (different : (entries.map Entry.key).Nodup) (perm : entries.Perm entries')
    (sorted : entries.Pairwise fun x y => x.key ≤ y.key)
    (sorted' : entries'.Pairwise fun x y => x.key ≤ y.key) : entries = entries' := by
  refine List.Perm.eq_of_pairwise ?_ sorted sorted' perm
  intro x y memx memy xy yx
  exact List.inj_on_of_nodup_map different memx (perm.mem_iff.mpr memy) (String.le_antisymm xy yx)

/-- Builders with the same entries have them in the same order, if they sort by key. -/
lemma orderedEntries_eq {b c : Builder} (sorted : b.preserveOrder = false)
    (sorted' : c.preserveOrder = false) (same : b.entries.Perm c.entries)
    (different : (b.entries.map Entry.key).Nodup) : b.orderedEntries = c.orderedEntries := by
  refine eq_of_perm_of_sorted ?_ ?_ (pairwise_orderedEntries sorted)
    (pairwise_orderedEntries sorted')
  · exact (b.perm_orderedEntries.map Entry.key).nodup_iff.mpr different
  · exact b.perm_orderedEntries.trans (same.trans c.perm_orderedEntries.symm)

/-- Two builders that sort by key write the same module, if they have the same entries with
different keys and the same imports. -/
theorem build_eq_build {b c : Builder} (sorted : b.preserveOrder = false)
    (sorted' : c.preserveOrder = false) (same : b.entries.Perm c.entries)
    (different : (b.entries.map Entry.key).Nodup)
    (imports : ∀ l, l ∈ b.imports.toList ↔ l ∈ c.imports.toList) : b.build = c.build := by
  have blocks : b.importBlock = c.importBlock := by
    rw [importBlock, importBlock, AscendingSet.ext_mem imports]
  have empty : b.entries.isEmpty = c.entries.isEmpty := by
    rw [Bool.eq_iff_iff, List.isEmpty_iff, List.isEmpty_iff]
    exact ⟨fun e => (e ▸ same).nil_eq.symm, fun e => (e ▸ same).eq_nil⟩
  rw [build, build, blocks, exportBlock, exportBlock, empty,
    orderedEntries_eq sorted sorted' same different]

end Builder

end Manifest

end RouteAtlas
