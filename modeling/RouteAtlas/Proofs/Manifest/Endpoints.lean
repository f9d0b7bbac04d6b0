import Mathlib.Data.List.Perm.Basic
import RouteAtlas.Proofs.Manifest.Addresses
import RouteAtlas.Proofs.Manifest.Reordering

/-!
# Endpoints

Entries have different keys, but may be reached by one method at one address. The address of a route
file is its name with slashes for dots, without a last segment that names a keyed method
(`url_eq_dropMethod`). So two entries share an endpoint exactly if their names overlap: they are the
same but for dots and slashes, or one has the method as a further segment of its own
(`shared_endpoints_overlap`). Names whose directories have no dot, and whose last segment is just a
method, do not overlap. Of the others, some do (`endpoints_shared`).
-/

namespace RouteAtlas.Manifest

/-- A text with slashes for its dots. -/
def slashed (s : String) : String := Text.replaceChar '.' '/' s

@[simp] lemma slashed_stem (m : Method) : slashed m.stem = m.stem :=
  Text.replaceChar_eq_self '/' m.dot_notMem_stem

lemma slashed_append (s t : String) : slashed (s ++ t) = slashed s ++ slashed t :=
  Text.replaceChar_append '.' '/' s t

/-- A method that a slash or a dot sets apart becomes a segment. -/
lemma slashed_segment (base : String) (m : Method) :
    slashed (base ++ "/" ++ m.stem) = slashed base ++ "/" ++ m.stem ∧
      slashed (base ++ "." ++ m.stem) = slashed base ++ "/" ++ m.stem := by
  constructor
  · rw [slashed_append, slashed_append, slashed_stem]
    rfl
  · rw [slashed_append, slashed_append, slashed_stem]
    rfl

/-- A slash is a slash or a dot of the text before. -/
lemma exists_of_slashed_eq {s r : String} (e : slashed s = r ++ "/") :
    (∃ b, s = b ++ "/") ∨ ∃ b, s = b ++ "." := by
  obtain ⟨b, d, rfl, same⟩ := Text.exists_of_replaceChar_eq (c := '/') e
  by_cases dot : d = '.'
  · exact .inr ⟨b, by rw [dot]; rfl⟩
  · rw [if_neg dot] at same
    exact .inl ⟨b, by rw [same]; rfl⟩

/-- A text without its last segment, if that names a method and the method is keyed. -/
def dropMethod (m : Method) (s : String) : String :=
  if m ∈ keyedMethods then (Text.dropTrailing? ("/" ++ m.stem) s).getD s else s

/-- One text is the other with one more segment, which is the first that names the method. -/
def AddsMethod (m : Method) (s t : String) : Prop :=
  t = s ++ "/" ++ m.stem ∧ ∀ r, s ≠ r ++ "/" ++ m.stem

section DropMethod
variable {m : Method} {s t : String}

lemma dropMethod_append (keyed : m ∈ keyedMethods) (s : String) :
    dropMethod m (s ++ "/" ++ m.stem) = s := by
  rw [dropMethod, if_pos keyed, String.append_assoc, Text.dropTrailing?_append, Option.getD_some]

/-- Nothing else is dropped. -/
lemma dropMethod_eq_self (plain : ∀ r, s ≠ r ++ "/" ++ m.stem) : dropMethod m s = s := by
  have none : Text.dropTrailing? ("/" ++ m.stem) s = none := by
    rw [Option.eq_none_iff_forall_ne_some]
    intro r found
    rw [Text.dropTrailing?_eq_some_iff, ← String.append_assoc] at found
    exact plain r found
  rw [dropMethod, none, Option.getD_none, ite_self]

/-- Two texts are the same without a keyed method, if they are the same or only one has it. -/
lemma dropMethod_eq_iff (keyed : m ∈ keyedMethods) :
    dropMethod m s = dropMethod m t ↔ s = t ∨ AddsMethod m s t ∨ AddsMethod m t s := by
  -- If both texts have the segment, or neither has it, none can be the other with it added.
  by_cases hs : ∃ r, s = r ++ "/" ++ m.stem
  · obtain ⟨r, rfl⟩ := hs
    by_cases ht : ∃ r, t = r ++ "/" ++ m.stem
    · obtain ⟨q, rfl⟩ := ht
      rw [dropMethod_append keyed, dropMethod_append keyed, String.append_left_inj,
        String.append_left_inj]
      refine (or_iff_left ?_).symm
      rintro (adds | adds)
      · exact adds.2 r rfl
      · exact adds.2 q rfl
    · rw [dropMethod_append keyed, dropMethod_eq_self (not_exists.mp ht)]
      constructor
      · rintro rfl
        exact .inr (.inr ⟨rfl, not_exists.mp ht⟩)
      · rintro (e | adds | adds)
        · exact absurd ⟨r, e.symm⟩ ht
        · exact absurd rfl (adds.2 r)
        · exact (String.append_left_inj _).mp ((String.append_left_inj _).mp adds.1)
  · by_cases ht : ∃ r, t = r ++ "/" ++ m.stem
    · obtain ⟨q, rfl⟩ := ht
      rw [dropMethod_append keyed, dropMethod_eq_self (not_exists.mp hs)]
      constructor
      · rintro rfl
        exact .inr (.inl ⟨rfl, not_exists.mp hs⟩)
      · rintro (e | adds | adds)
        · exact absurd ⟨q, e⟩ hs
        · exact ((String.append_left_inj _).mp ((String.append_left_inj _).mp adds.1)).symm
        · exact absurd rfl (adds.2 q)
    · rw [dropMethod_eq_self (not_exists.mp hs), dropMethod_eq_self (not_exists.mp ht)]
      refine (or_iff_left ?_).symm
      rintro (adds | adds)
      · exact ht ⟨s, adds.1⟩
      · exact hs ⟨t, adds.1⟩

end DropMethod

section Address
variable {m : Method} {s : String}

/-- A path whose method is not keyed keeps it. -/
lemma withoutMethod_foldMethod_of_not_keyed (unkeyed : m ∉ keyedMethods) :
    withoutMethod (foldMethod (s ++ m.stem)) = s ++ m.stem := by
  rw [foldMethod_eq_self, withoutMethod_eq_self]
  · intro n keyed base e
    exact unkeyed ((Method.append_stem_inj.mp e).2 ▸ keyed)
  · intro n keyed base _ e
    exact unkeyed ((Method.append_stem_inj.mp e).2 ▸ keyed)

/-- A path keeps a method that no slash and no dot sets apart. -/
lemma withoutMethod_foldMethod_of_bare (directory : ∀ b, s ≠ b ++ "/")
    (suffix : ∀ b, s ≠ b ++ ".") : withoutMethod (foldMethod (s ++ m.stem)) = s ++ m.stem := by
  rw [foldMethod_eq_self, withoutMethod_eq_self]
  · intro n _ base e
    exact suffix base (Method.append_stem_inj.mp e).1
  · intro n _ base _ e
    exact directory base (Method.append_stem_inj.mp e).1

/-- A path loses a keyed method that a dot sets apart. -/
lemma withoutMethod_foldMethod_of_suffix (keyed : m ∈ keyedMethods) (base : String) :
    withoutMethod (foldMethod (base ++ "." ++ m.stem)) = base := by
  rw [foldMethod_eq_self, withoutMethod_of_suffix keyed]
  intro n _ base' _ e
  have last := congrArg (fun x => x.toList.reverse) (Method.append_stem_inj.mp e).1
  simp at last

/-- A path loses a keyed method that is the file's whole name, in a directory. -/
lemma withoutMethod_foldMethod_of_directory (keyed : m ∈ keyedMethods) {base : String}
    (nonempty : base ≠ "") : withoutMethod (foldMethod (base ++ "/" ++ m.stem)) = base := by
  rw [foldMethod_of_directory keyed nonempty, withoutMethod_of_suffix keyed]

/-- What the address of a path is made from is the path without its method. -/
lemma slashed_withoutMethod_foldMethod (relative : Text.startsWith "/" (s ++ m.stem) = false) :
    slashed (withoutMethod (foldMethod (s ++ m.stem))) = dropMethod m (slashed (s ++ m.stem)) := by
  by_cases keyed : m ∈ keyedMethods
  · by_cases directory : ∃ b, s = b ++ "/"
    · obtain ⟨base, rfl⟩ := directory
      have nonempty : base ≠ "" := by
        rintro rfl
        have front : Text.startsWith "/" ("" ++ "/" ++ m.stem) = true :=
          Text.startsWith_iff.mpr ⟨m.stem, rfl⟩
        exact Bool.noConfusion (front.symm.trans relative)
      rw [withoutMethod_foldMethod_of_directory keyed nonempty, (slashed_segment base m).1,
        dropMethod_append keyed]
    -- A dot before the method becomes a slash, so that the spelled out path has the segment too.
    · by_cases suffix : ∃ b, s = b ++ "."
      · obtain ⟨base, rfl⟩ := suffix
        rw [withoutMethod_foldMethod_of_suffix keyed, (slashed_segment base m).2,
          dropMethod_append keyed]
      · rw [withoutMethod_foldMethod_of_bare (not_exists.mp directory) (not_exists.mp suffix),
          dropMethod_eq_self]
        intro r e
        rw [slashed_append, slashed_stem, String.append_left_inj] at e
        exact (exists_of_slashed_eq e).elim directory suffix
  · rw [withoutMethod_foldMethod_of_not_keyed keyed, dropMethod, if_neg keyed]

end Address

/-- A route is that of the file with the given name, which is named after its method. -/
structure IsNamed (extension : String) (r : Route) (name : String) : Prop where
  path : r.path = "./" ++ name ++ "." ++ extension
  relative : Text.startsWith "/" name = false
  method : Method.ofPath? extension r.path = some r.method

/-- How a route is reached. -/
def endpoint (extension : String) (r : Route) : Method × String := (r.method, url extension r.path)

/-- The name of a route file with slashes for its dots. -/
def spelling (extension : String) (r : Route) : String := slashed (trimPath extension r.path)

/-- Two route files of one method have names that are the same but for dots and slashes, or one of
them has a segment more, which names the method. -/
def Overlap (extension : String) (r q : Route) : Prop :=
  r.method = q.method ∧
    (spelling extension r = spelling extension q ∨
      r.method ∈ keyedMethods ∧
        (AddsMethod r.method (spelling extension r) (spelling extension q) ∨
          AddsMethod r.method (spelling extension q) (spelling extension r)))

/-- Whether a route file lies in a directory, has just its method for a name, and no dot comes
before. -/
def IsPlain (extension : String) (r : Route) : Prop :=
  ∃ directory, '.' ∉ directory.toList ∧
    trimPath extension r.path = directory ++ "/" ++ r.method.stem

section Endpoint
variable {extension name name' : String} {r q : Route}

/-- The address of a route is its name with slashes for dots, without its method. -/
lemma url_eq_dropMethod (named : IsNamed extension r name) :
    url extension r.path = dropMethod r.method (spelling extension r) := by
  obtain ⟨path, relative, method⟩ := named
  have trimmed : trimPath extension r.path = name := by rw [path, trimPath_eq]
  obtain ⟨s, e⟩ := Method.ofPath?_eq_some_iff.mp method
  rw [path, String.append_left_inj, String.append_left_inj] at e
  have front : "." ++ "/" ++ name = s ++ r.method.stem := e
  obtain ⟨t, rfl⟩ := Method.exists_of_slash_append front
  rw [spelling, trimmed, ← slashed_withoutMethod_foldMethod relative, url, normalizedPath, trimmed,
    slashed]

/-- Two route files share an endpoint exactly if their names overlap. -/
lemma endpoint_eq_iff (named : IsNamed extension r name) (named' : IsNamed extension q name') :
    endpoint extension r = endpoint extension q ↔ Overlap extension r q := by
  rw [endpoint, endpoint, Prod.mk.injEq, url_eq_dropMethod named, url_eq_dropMethod named', Overlap]
  refine and_congr_right fun same => ?_
  rw [← same]
  by_cases keyed : r.method ∈ keyedMethods
  · rw [dropMethod_eq_iff keyed, and_iff_right keyed]
  · rw [dropMethod, dropMethod, if_neg keyed, if_neg keyed]
    exact (or_iff_left fun h => keyed h.1).symm

/-- Plain names do not overlap, unless they are the same. -/
lemma Overlap.trimPath_eq (plain : IsPlain extension r) (plain' : IsPlain extension q)
    (overlap : Overlap extension r q) :
    trimPath extension r.path = trimPath extension q.path := by
  obtain ⟨directory, dotless, name⟩ := plain
  obtain ⟨directory', dotless', name'⟩ := plain'
  have spelled : spelling extension r = directory ++ "/" ++ r.method.stem := by
    rw [spelling, name, (slashed_segment directory r.method).1, slashed,
      Text.replaceChar_eq_self '/' dotless]
  have spelled' : spelling extension q = directory' ++ "/" ++ q.method.stem := by
    rw [spelling, name', (slashed_segment directory' q.method).1, slashed,
      Text.replaceChar_eq_self '/' dotless']
  obtain ⟨same, e | ⟨_, adds | adds⟩⟩ := overlap
  · rw [name, name', ← spelled, ← spelled', e]
  · exact absurd spelled (adds.2 directory)
  · rw [same] at adds
    exact absurd spelled' (adds.2 directory')

end Endpoint

/-- Files with the same name have the same key. -/
lemma key_eq_of_trimPath_eq {extension path path' : String} (apiPrefix : String)
    (same : trimPath extension path = trimPath extension path') :
    key extension apiPrefix path = key extension apiPrefix path' := by
  rw [key, key, normalizedPath, normalizedPath, same]

namespace Builder

/-- The entries of a module are those of the accepted routes, in some order. -/
lemma exists_listed {b : Builder} (empty : b.entries = []) (routes : List Route) :
    ∃ listed : List Route, listed.Perm (b.kept routes) ∧
      (b.offerAll routes).orderedEntries = listed.map b.entryOf := by
  have perm := (b.offerAll routes).perm_orderedEntries
  rw [entries_offerAll, empty, List.nil_append] at perm
  obtain ⟨listed, entries, perm⟩ := (congrFun₂ (List.eq_map_comp_perm b.entryOf) _ _).mpr perm
  exact ⟨listed, perm, entries⟩

/-- Accepted routes have different keys. -/
lemma nodup_keys_kept {b : Builder} (empty : b.entries = []) (routes : List Route) :
    ((b.kept routes).map b.keyOf).Nodup := by
  have keys := nodup_keys_offerAll b (by rw [empty]; exact List.nodup_nil) routes
  rw [entries_offerAll, empty, List.nil_append, List.map_map] at keys
  exact keys

/-- Two entries of a module are reached in the same way exactly if the names of their files overlap.
So any two differ in how they are reached, if each file lies in a directory, has just its method for
a name, and no dot comes before. -/
theorem shared_endpoints_overlap (extension apiPrefix : String) (preserveOrder : Bool)
    (routes : List Route) (named : ∀ r ∈ routes, ∃ name, IsNamed extension r name) :
    let final := (fresh extension apiPrefix preserveOrder).offerAll routes
    ∃ listed : List Route, listed.Subperm routes ∧
      final.build = header ++ final.importBlock ++ "\n"
        ++ exportOf (listed.map (Entry.ofRoute extension apiPrefix)) ∧
      (listed.Pairwise fun r q =>
        endpoint extension r = endpoint extension q ↔ Overlap extension r q) ∧
      ((∀ r ∈ routes, IsPlain extension r) →
        listed.Pairwise fun r q => endpoint extension r ≠ endpoint extension q) := by
  intro final
  have empty : (fresh extension apiPrefix preserveOrder).entries = [] := rfl
  obtain ⟨listed, perm, entries⟩ := exists_listed empty routes
  have part : listed.Subperm routes := perm.subperm.trans (kept_sublist _ routes).subperm
  have shared : ∀ r ∈ listed, ∀ q ∈ listed,
      (endpoint extension r = endpoint extension q ↔ Overlap extension r q) := by
    intro r memr q memq
    obtain ⟨name, hr⟩ := named r (part.subset memr)
    obtain ⟨name', hq⟩ := named q (part.subset memq)
    exact endpoint_eq_iff hr hq
  refine ⟨listed, part, ?_, List.pairwise_of_forall_mem_list shared, fun plain => ?_⟩
  · rw [build_eq, entries]
    rfl
  · have keys : (listed.map (fresh extension apiPrefix preserveOrder).keyOf).Nodup :=
      (perm.map _).nodup_iff.mpr (nodup_keys_kept empty routes)
    refine (List.pairwise_map.mp keys).imp_of_mem fun {r q} memr memq ne same => ne ?_
    have overlap := (shared r memr q memq).mp same
    exact key_eq_of_trimPath_eq apiPrefix
      (overlap.trimPath_eq (plain r (part.subset memr)) (plain q (part.subset memq)))

end Builder

namespace Sample

/-- The route of the GET file with a given name. -/
def getting (name : String) : Route := { method := .get, path := "./" ++ name ++ "." ++ "ts" }

/-- Files that are named after their method and lie in directories without dots. -/
def plain : List Route := [getting "item/get", getting "item/new/get"]

/-- Two files whose directories are the same but for a dot, and two of which one lies in a directory
that has the name of the other. -/
def overlapping : List Route :=
  [getting "a.b/get", getting "a/b/get", getting "get", getting "get/get"]

lemma isNamed_plain : ∀ r ∈ plain, ∃ name, IsNamed "ts" r name := by
  intro r mem
  simp only [plain, List.mem_cons, List.not_mem_nil, or_false] at mem
  obtain rfl | rfl := mem
  · exact ⟨_, rfl, by decide +kernel, by decide +kernel⟩
  · exact ⟨_, rfl, by decide +kernel, by decide +kernel⟩

lemma isNamed_overlapping : ∀ r ∈ overlapping, ∃ name, IsNamed "ts" r name := by
  intro r mem
  simp only [overlapping, List.mem_cons, List.not_mem_nil, or_false] at mem
  obtain rfl | rfl | rfl | rfl := mem
  · exact ⟨_, rfl, by decide +kernel, by decide +kernel⟩
  · exact ⟨_, rfl, by decide +kernel, by decide +kernel⟩
  · exact ⟨_, rfl, by decide +kernel, by decide +kernel⟩
  · exact ⟨_, rfl, by decide +kernel, by decide +kernel⟩

end Sample

namespace Builder

/-- Plain files are reached in different ways. -/
theorem shared_endpoints_overlap_plain :
    ((fresh "ts" "api/v1/" false).offerAll Sample.plain).size = 2 ∧
      ∃ listed : List Route, listed.Subperm Sample.plain ∧
        listed.Pairwise fun r q => endpoint "ts" r ≠ endpoint "ts" q := by
  obtain ⟨listed, part, _, _, differ⟩ :=
    shared_endpoints_overlap "ts" "api/v1/" false Sample.plain Sample.isNamed_plain
  refine ⟨by decide +kernel, listed, part, differ fun r mem => ?_⟩
  simp only [Sample.plain, List.mem_cons, List.not_mem_nil, or_false] at mem
  obtain rfl | rfl := mem
  · exact ⟨"item", by decide +kernel, by decide +kernel⟩
  · exact ⟨"item/new", by decide +kernel, by decide +kernel⟩

/-- Four files with different paths, all of which have entries: two are reached in one way, and the
other two in another. -/
theorem endpoints_shared :
    (∀ r ∈ Sample.overlapping, ∃ name, IsNamed "ts" r name) ∧
      (Sample.overlapping.map Route.path).Nodup ∧
      ((fresh "ts" "api/v1/" false).offerAll Sample.overlapping).orderedEntries.Perm
        (Sample.overlapping.map (Entry.ofRoute "ts" "api/v1/")) ∧
      Sample.overlapping.map (endpoint "ts")
        = [(.get, "a/b"), (.get, "a/b"), (.get, "get"), (.get, "get")] := by
  refine ⟨Sample.isNamed_overlapping, by decide +kernel, ?_, by decide +kernel⟩
  have entries : ((fresh "ts" "api/v1/" false).offerAll Sample.overlapping).entries
      = Sample.overlapping.map (Entry.ofRoute "ts" "api/v1/") := by decide +kernel
  exact entries ▸ perm_orderedEntries _

end Builder

end RouteAtlas.Manifest
