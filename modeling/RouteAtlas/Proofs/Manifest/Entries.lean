import RouteAtlas.Proofs.Manifest.Building
import RouteAtlas.Proofs.Text.ByteOrder

/-!
# The entries of a manifest

An offer is accepted exactly if no earlier route has its key, and one that is refused leaves no
trace. So the module has one entry for each key that occurs, that of the first route with the key,
either in the order of these routes or in that of the bytes of the keys (`entries_of_firsts`).
-/

namespace RouteAtlas.Manifest.Builder

/-- A builder that was offered nothing. -/
def fresh (extension apiPrefix : String) (preserveOrder : Bool) : Builder :=
  { extension, apiPrefix, preserveOrder }

/-- No key of a new builder is taken. -/
@[simp] lemma hasKey_fresh (extension apiPrefix : String) (preserveOrder : Bool) (key : String) :
    (fresh extension apiPrefix preserveOrder).hasKey key = false := rfl

/-- Routes offered in two parts. -/
lemma offerAll_append (b : Builder) (routes more : List Route) :
    b.offerAll (routes ++ more) = (b.offerAll routes).offerAll more :=
  List.foldl_append

/-- Offers leave the keys and the entries of routes as they are. -/
lemma entryOf_offerAll (b : Builder) (routes : List Route) :
    (b.offerAll routes).keyOf = b.keyOf ∧ (b.offerAll routes).entryOf = b.entryOf := by
  induction routes generalizing b with
  | nil => exact ⟨rfl, rfl⟩
  | cons r rest ih =>
    obtain ⟨keyOf, entryOf⟩ := ih (b.add r).builder
    obtain ⟨keyOf', entryOf'⟩ := entryOf_add b r
    exact ⟨keyOf.trans keyOf', entryOf.trans entryOf'⟩

/-- A key is taken after some offers if it was taken before, or is the key of one of the routes. -/
lemma hasKey_offerAll {b : Builder} {routes : List Route} {key : String} :
    (b.offerAll routes).hasKey key = true ↔
      b.hasKey key = true ∨ ∃ q ∈ routes, b.keyOf q = key := by
  induction routes generalizing b with
  | nil => simp [offerAll]
  | cons r rest ih =>
    rw [offerAll_cons, ih, hasKey_add, (entryOf_add b r).1, or_assoc]
    simp

/-- An offer is accepted if the key of the route is free. -/
lemma added_iff {b : Builder} {r : Route} :
    (b.add r).added = true ↔ b.hasKey (b.keyOf r) = false := by
  cases taken : b.hasKey (b.keyOf r) with
  | true => simp [(add_of_hasKey taken).1]
  | false => simp [(add_of_not_hasKey taken).1]

/-- A refused offer leaves the builder as it is. -/
lemma add_of_refused {b : Builder} {r : Route} (refused : (b.add r).added = false) :
    (b.add r).builder = b := by
  cases taken : b.hasKey (b.keyOf r) with
  | true => exact (add_of_hasKey taken).2
  | false => exact absurd (added_iff.mpr taken) (by simp [refused])

/-- A route is accepted behind others if its key was free and none of them has it. -/
lemma added_offerAll_iff {b : Builder} {before : List Route} {r : Route} :
    ((b.offerAll before).add r).added = true ↔
      b.hasKey (b.keyOf r) = false ∧ ∀ q ∈ before, b.keyOf q ≠ b.keyOf r := by
  rw [added_iff, (entryOf_offerAll b before).1, ← Bool.not_eq_true, hasKey_offerAll]
  simp

/-- The routes that a builder keeps are those that it accepts, each behind those before it. -/
lemma mem_kept_iff {b : Builder} {routes : List Route} {r : Route} :
    r ∈ b.kept routes ↔ ∃ before after, routes = before ++ r :: after ∧
      ((b.offerAll before).add r).added = true := by
  induction routes generalizing b with
  | nil => simp [kept]
  | cons q rest ih =>
    have later : (∃ before after, q :: rest = before ++ r :: after ∧
        ((b.offerAll before).add r).added = true) ↔
        q = r ∧ (b.add r).added = true ∨ ∃ before after, rest = before ++ r :: after ∧
          (((b.add q).builder.offerAll before).add r).added = true := by
      constructor
      · rintro ⟨before, after, split, accepted⟩
        cases before with
        | nil =>
          cases split
          exact .inl ⟨rfl, accepted⟩
        | cons p before =>
          cases split
          exact .inr ⟨before, after, rfl, accepted⟩
      · rintro (⟨rfl, accepted⟩ | ⟨before, after, rfl, accepted⟩)
        · exact ⟨[], rest, rfl, accepted⟩
        · exact ⟨q :: before, after, rfl, accepted⟩
    rw [later, kept, ← ih]
    cases taken : b.hasKey (b.keyOf q) with
    | true =>
      rw [(add_of_hasKey taken).2]
      refine (or_iff_right ?_).symm
      rintro ⟨rfl, accepted⟩
      rw [(add_of_hasKey taken).1] at accepted
      cases accepted
    | false =>
      simp only [Bool.false_eq_true, if_false, List.mem_cons]
      refine or_congr_left ⟨fun same => ?_, fun h => h.1.symm⟩
      exact ⟨same.symm, same ▸ (add_of_not_hasKey taken).1⟩

/-- The keys of the routes that a builder keeps are those that were free, each once and in the order
in which they first occur. -/
lemma keys_kept (b : Builder) (routes : List Route) :
    (b.kept routes).map b.keyOf
      = ((routes.map b.keyOf).filter fun key => !b.hasKey key).eraseDups := by
  induction routes generalizing b with
  | nil => rfl
  | cons r rest ih =>
    rw [kept, List.map_cons]
    cases taken : b.hasKey (b.keyOf r) with
    | true =>
      rw [List.filter_cons_of_neg (by simp [taken]), ← ih]
      rfl
    | false =>
      have keyOf := (entryOf_add b r).1
      have free (key : String) : (!(b.add r).builder.hasKey key)
          = (!b.hasKey key && !(key == b.keyOf r)) := by
        rw [Bool.eq_iff_iff]
        simp only [Bool.not_eq_true', Bool.and_eq_true, ← Bool.not_eq_true, hasKey_add, not_or,
          beq_iff_eq]
        exact and_congr_right fun _ => ne_comm
      have rest' := ih (b.add r).builder
      rw [keyOf] at rest'
      rw [List.filter_cons_of_pos (by simp [taken]), List.eraseDups_cons, List.filter_filter]
      simp only [Bool.false_eq_true, if_false, List.map_cons, rest', free, Bool.and_comm]

/-- The keys of a builder are those that occur, in the order in which they first do. -/
lemma keys_offerAll_fresh (extension apiPrefix : String) (preserveOrder : Bool)
    (routes : List Route) :
    ((fresh extension apiPrefix preserveOrder).offerAll routes).entries.map Entry.key
      = (routes.map fun r => Manifest.key extension apiPrefix r.path).eraseDups := by
  have keys := keys_kept (fresh extension apiPrefix preserveOrder) routes
  simp only [hasKey_fresh, Bool.not_false, List.filter_true] at keys
  rw [entries_offerAll, List.map_append, List.map_map]
  exact keys

/-- Each entry is that of a route before which no other one has its key. -/
lemma exists_of_mem_entries {b : Builder} (empty : b.entries = []) {routes : List Route}
    {e : Entry} (mem : e ∈ (b.offerAll routes).entries) :
    ∃ before r after, routes = before ++ r :: after ∧
      (∀ q ∈ before, b.keyOf q ≠ b.keyOf r) ∧ e = b.entryOf r := by
  rw [entries_offerAll, empty, List.nil_append] at mem
  obtain ⟨r, kept, rfl⟩ := List.mem_map.mp mem
  obtain ⟨before, after, split, accepted⟩ := mem_kept_iff.mp kept
  exact ⟨before, r, after, split, (added_offerAll_iff.mp accepted).2, rfl⟩

/-- Different keys that are sorted are in the strict order of their bytes. -/
lemma ascending_orderedEntries {b : Builder} (sorted : b.preserveOrder = false)
    (different : (b.entries.map Entry.key).Nodup) :
    (b.orderedEntries.map Entry.key).Pairwise fun x y => Text.bytes x < Text.bytes y := by
  have different : (b.orderedEntries.map Entry.key).Nodup :=
    (b.perm_orderedEntries.map Entry.key).nodup_iff.mpr different
  have ascending : (b.orderedEntries.map Entry.key).Pairwise (· ≤ ·) :=
    List.pairwise_map.mpr (pairwise_orderedEntries sorted)
  refine (ascending.and different).imp ?_
  rintro x y ⟨le, ne⟩
  exact Text.bytes_lt_iff.mpr (lt_of_le_of_ne le ne)

/-- The module has one entry for each key that occurs, that of the first route with the key: in the
order of these routes, or of the bytes of the keys. An offer is accepted exactly if no route before
it has its key, and can be left out otherwise. -/
theorem entries_of_firsts (extension apiPrefix : String) (preserveOrder : Bool)
    (routes : List Route) :
    let b := fresh extension apiPrefix preserveOrder
    let key := fun r : Route => Manifest.key extension apiPrefix r.path
    let keys := (routes.map key).eraseDups
    let final := b.offerAll routes
    (∃ entries : List Entry,
      final.build = header ++ final.importBlock ++ "\n" ++
        (if entries.isEmpty then "export default \x7b\x7d\n"
          else "export default \x7b\n" ++ String.join (entries.map Entry.render) ++ "\x7d\n") ∧
      (entries.map Entry.key).Perm keys ∧
      (∀ e ∈ entries, ∃ before r after, routes = before ++ r :: after ∧
        (∀ q ∈ before, key q ≠ key r) ∧ e = ⟨key r, renderDescriptor extension r⟩) ∧
      (if preserveOrder then entries.map Entry.key = keys
        else (entries.map Entry.key).Pairwise fun x y => Text.bytes x < Text.bytes y)) ∧
    final.size = keys.length ∧
    ∀ before r after, routes = before ++ r :: after →
      (((b.offerAll before).add r).added = true ↔ ∀ q ∈ before, key q ≠ key r) ∧
      (((b.offerAll before).add r).added = false → ∀ more,
        b.offerAll (before ++ r :: more) = b.offerAll (before ++ more)) := by
  intro b key keys final
  have listed : final.entries.map Entry.key = keys :=
    keys_offerAll_fresh extension apiPrefix preserveOrder routes
  have order : final.preserveOrder = preserveOrder := (settings_offerAll b routes).2.2
  have first (before : List Route) (r : Route) :
      ((b.offerAll before).add r).added = true ↔ ∀ q ∈ before, key q ≠ key r := by
    rw [added_offerAll_iff]
    exact and_iff_right rfl
  refine ⟨⟨final.orderedEntries, ?_, ?_, ?_, ?_⟩, ?_, fun before r after _ => ⟨first before r, ?_⟩⟩
  · rw [build, exportBlock, final.perm_orderedEntries.isEmpty_eq]
  · exact listed ▸ final.perm_orderedEntries.map Entry.key
  · intro e mem
    exact exists_of_mem_entries rfl (final.perm_orderedEntries.mem_iff.mp mem)
  · cases preserveOrder with
    | true =>
      rw [if_pos rfl, orderedEntries, if_pos order]
      exact listed
    | false =>
      rw [if_neg Bool.false_ne_true]
      exact ascending_orderedEntries order (nodup_keys_offerAll b List.nodup_nil routes)
  · rw [← listed, List.length_map]
    rfl
  · intro refused more
    rw [offerAll_append, offerAll_cons, add_of_refused refused, offerAll_append]

end RouteAtlas.Manifest.Builder
