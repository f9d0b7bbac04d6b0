import RouteAtlas.Proofs.Specifier.Targets

/-!
# Resolving twice

A specifier that is not relative and has no segment that climbs is that of a package, and stays as
it is however often it is resolved. One that has such a segment inside turns into a relative
specifier, and that one is resolved anew: it stays the same if just one segment of it climbs
(`resolve_resolve_iff`). If none does, it moves below the importing file, and if several do, it
loses further segments (`resolve_resolve_ne`).
-/

namespace RouteAtlas.Specifier

section Join
variable {ss ts : List (List Char)}

/-- Different segments make different paths. -/
lemma join_inj (free : ∀ s ∈ ss, '/' ∉ s) (more : ss ≠ []) (free' : ∀ s ∈ ts, '/' ∉ s)
    (more' : ts ≠ []) : join ss = join ts ↔ ss = ts := by
  refine ⟨fun same => ?_, congrArg join⟩
  rw [← segments_join free more, same, segments_join free' more']

end Join

/-- A relative specifier without climbing moves below the importing file, and one that climbs loses
all but one of the segments that make it climb. -/
lemma resolveChars_dot_join_iff {rest : List (List Char)} (free : ∀ s ∈ rest, '/' ∉ s)
    (more : rest ≠ []) (importing : List Char) :
    resolveChars (join (dot :: rest)) importing = join (dot :: rest) ↔
      ascents rest = 1 ∨ ascents rest = 0 ∧ directory importing = ['.', '/'] := by
  cases count : ascents rest with
  | zero =>
    have split : join (dot :: rest) = ['.', '/'] ++ join rest := join_cons dot more
    rw [resolveChars_dot_join_of_staying importing free more count, split, List.append_left_inj]
    simp
  | succ n =>
    have free' : ∀ ss ⊆ rest, ∀ s ∈ dot :: ss, '/' ∉ s := fun ss part =>
      List.forall_mem_cons.2 ⟨by decide, fun s mem => free s (part mem)⟩
    have all : rest.drop n = rest ↔ n = 0 := by
      constructor
      · intro same
        have length := congrArg List.length same
        rw [List.length_drop] at length
        have some := List.length_pos_iff.2 more
        omega
      · rintro rfl
        rfl
    rw [resolveChars_dot_join_of_climbing importing free more count,
      join_inj (free' _ (List.drop_subset n rest)) (by simp) (free' _ (List.Subset.refl rest))
        (by simp),
      List.cons_inj_right, all]
    simp

section Twice
variable {specifier : String}

/-- A specifier that is not relative stays as it is, if no segment of it climbs. -/
lemma resolve_eq_self (other : isRelative specifier = false)
    (none : ascents (segments specifier.toList) = 0) (p : String) :
    resolve specifier p = specifier := by
  have plain : ∀ r, specifier.toList ≠ '.' :: '/' :: r := by
    intro r e
    rw [isRelative, Bool.or_eq_false_iff] at other
    refine Bool.noConfusion ((Text.startsWith_iff.2 ⟨String.ofList r, ?_⟩).symm.trans other.1)
    rw [← String.toList_inj, e]
    simp
  rw [resolve, resolveChars_of_other p.toList none plain, String.ofList_toList]

/-- A specifier that climbs is resolved to the segments that are left, and what climbs among those
decides whether resolving it again changes anything. -/
lemma resolve_resolve_of_climbing (climbing : ascents (segments specifier.toList) ≠ 0)
    (p q : String) :
    let rest := (segments specifier.toList).drop (ascents (segments specifier.toList))
    resolve (resolve specifier p) q = resolve specifier p ↔
      ascents rest = 1 ∨ ascents rest = 0 ∧ directory q.toList = ['.', '/'] := by
  intro rest
  have more : rest ≠ [] := drop_ascents_ne_nil (segments_ne_nil specifier.toList)
  have free : ∀ s ∈ rest, '/' ∉ s := fun s mem =>
    slash_notMem_of_mem_segments specifier.toList s (List.mem_of_mem_drop mem)
  have once : resolve specifier p = String.ofList (join (dot :: rest)) :=
    congrArg String.ofList (resolveChars_of_climbing p.toList climbing)
  rw [once, resolve, String.toList_ofList, String.ofList_inj, resolveChars_dot_join_iff free more]

/-- Of a specifier that is not relative, what resolving gives is not changed by resolving it again
exactly if no segment of it climbs, or just one does among those that are left. If none of those
does, it is not changed in files at the root. Without a segment that climbs, the specifier stays as
it is. -/
theorem resolve_resolve_iff (other : isRelative specifier = false) :
    let ss := segments specifier.toList
    let rest := ss.drop (ascents ss)
    (ascents ss = 0 → ∀ p, resolve specifier p = specifier) ∧
      (∀ p q, resolve (resolve specifier p) q = resolve specifier p ↔
        ascents ss = 0 ∨ ascents rest = 1 ∨
          ascents rest = 0 ∧ directory q.toList = ['.', '/']) ∧
      ((∀ p q, resolve (resolve specifier p) q = resolve specifier p) ↔
        ascents ss = 0 ∨ ascents rest = 1) := by
  intro ss rest
  have again (p q : String) : resolve (resolve specifier p) q = resolve specifier p ↔
      ascents ss = 0 ∨ ascents rest = 1 ∨
        ascents rest = 0 ∧ directory q.toList = ['.', '/'] := by
    by_cases none : ascents ss = 0
    · rw [resolve_eq_self other none, resolve_eq_self other none]
      simp [none]
    · exact (resolve_resolve_of_climbing none p q).trans (or_iff_right none).symm
  refine ⟨resolve_eq_self other, again, fun all => ?_, fun settled p q => (again p q).2 ?_⟩
  · -- A file in the directory `a` does not lie at the root.
    have apart : directory "a/".toList ≠ ['.', '/'] := by decide
    rcases (again "" "a/").1 (all "" "a/") with none | one | ⟨-, root⟩
    · exact .inl none
    · exact .inr one
    · exact absurd root apart
  · exact settled.imp_right .inl

/-- A path into a package that climbs inside of it stays the same from the first time on. -/
theorem resolve_resolve_package :
    let specifier := "@acme/ui/../forms"
    isRelative specifier = false ∧
      ∀ p q, resolve (resolve specifier p) q = resolve specifier p := by
  intro specifier
  have other : isRelative specifier = false := by decide
  exact ⟨other, (resolve_resolve_iff other).2.2.2 (.inr (by decide))⟩

/-- A name that ends in two dots makes a package a relative specifier, which moves below the
importing file; and a path into a package that climbs twice loses a segment more. -/
theorem resolve_resolve_ne :
    let importing := "./api/v1/product/get.ts"
    (isRelative "lib../schema" = false ∧ resolve "lib../schema" importing = "./schema" ∧
      resolve (resolve "lib../schema" importing) importing = "./api/v1/product/schema") ∧
    (isRelative "@acme/ui/../../forms" = false ∧
      resolve "@acme/ui/../../forms" importing = "./../../forms" ∧
      resolve (resolve "@acme/ui/../../forms" importing) importing = "./../forms") ∧
    ¬∀ specifier p q, isRelative specifier = false →
      resolve (resolve specifier p) q = resolve specifier p := by
  intro importing
  have moved :
      resolve (resolve "lib../schema" importing) importing = "./api/v1/product/schema" := by
    decide +kernel
  have once : resolve "lib../schema" importing = "./schema" := by decide +kernel
  refine ⟨⟨by decide, once, moved⟩, ⟨by decide, by decide +kernel, by decide +kernel⟩,
    fun all => ?_⟩
  have same := all "lib../schema" importing importing (by decide)
  rw [moved, once] at same
  exact absurd same (by decide)

end Twice

end RouteAtlas.Specifier
