import RouteAtlas.Proofs.Manifest.Collisions

/-!
# Method, key and address

The method of a file, its key and its address are read off one path in three ways. They agree: the
method is the one whose stem the name ends in (`ofPath?_pathOf`), and where the key or the address
takes a method off the name, it is that method (`method_key_url_agree`). So the files of the keyed
methods in one directory have one address and different keys.
-/

namespace RouteAtlas.Manifest

section Name
variable {extension name base : String} {m n : Method}

/-- A file has the method whose stem its name ends in. -/
lemma ofPath?_pathOf :
    Method.ofPath? extension (pathOf extension name) = some m ↔ ∃ s, name = s ++ m.stem := by
  rw [Method.ofPath?_eq_some_iff, pathOf]
  simp only [String.append_left_inj]
  constructor
  · rintro ⟨s, e⟩
    have front : "." ++ "/" ++ name = s ++ m.stem := e
    exact Method.exists_of_slash_append front
  · rintro ⟨s, rfl⟩
    exact ⟨"./" ++ s, by simp only [String.append_assoc]⟩

/-- Whether a name ends in a keyed method behind a dot. -/
def HasSuffix (name base : String) (m : Method) : Prop :=
  m ∈ keyedMethods ∧ name = base ++ "." ++ m.stem

/-- The address of a file is made from its folded name. -/
lemma url_pathOf :
    url extension (pathOf extension name) = slashed (withoutMethod (foldMethod name)) := by
  rw [url, normalizedPath_pathOf, slashed]

lemma foldMethod_of_hasSegment (segment : HasSegment name base m) :
    foldMethod name = base ++ "." ++ m.stem := by
  obtain ⟨keyed, nonempty, rfl⟩ := segment
  exact foldMethod_of_directory keyed nonempty

lemma foldMethod_of_not_hasSegment (plain : ∀ base m, ¬HasSegment name base m) :
    foldMethod name = name :=
  foldMethod_eq_self fun m keyed base nonempty e => plain base m ⟨keyed, nonempty, e⟩

/-- A name with a method behind a dot has none behind a slash. -/
lemma HasSuffix.not_hasSegment (suffix : HasSuffix name base m) (inner : String) (n : Method) :
    ¬HasSegment name inner n := by
  rintro ⟨-, -, e⟩
  exact slash_ne_dot (e.symm.trans suffix.2)

/-- A name loses a keyed method that a slash or a dot sets apart, and nothing else. -/
lemma withoutMethod_foldMethod_cases (name : String) :
    (∃ base m, (HasSegment name base m ∨ HasSuffix name base m) ∧
        foldMethod name = base ++ "." ++ m.stem ∧ withoutMethod (foldMethod name) = base) ∨
      ((∀ base m, ¬HasSegment name base m) ∧ ∀ base m, ¬HasSuffix name base m) ∧
        foldMethod name = name ∧ withoutMethod (foldMethod name) = name := by
  rcases foldMethod_cases name with ⟨base, m, segment, folded⟩ | ⟨plain, folded⟩
  · refine .inl ⟨base, m, .inl segment, folded, ?_⟩
    rw [folded, withoutMethod_of_suffix segment.1]
  · by_cases suffix : ∃ base m, HasSuffix name base m
    · obtain ⟨base, m, keyed, rfl⟩ := suffix
      refine .inl ⟨base, m, .inr ⟨keyed, rfl⟩, folded, ?_⟩
      rw [folded, withoutMethod_of_suffix keyed]
    · refine .inr ⟨⟨plain, fun base m has => suffix ⟨base, m, has⟩⟩, folded, ?_⟩
      rw [folded, withoutMethod_eq_self]
      intro m keyed base e
      exact suffix ⟨base, m, keyed, e⟩

/-- The files of two keyed methods in one directory have different keys. -/
lemma key_inj_of_hasSegment {apiPrefix name' : String} (segment : HasSegment name base m)
    (segment' : HasSegment name' base n)
    (same : key extension apiPrefix (pathOf extension name)
      = key extension apiPrefix (pathOf extension name')) : m = n := by
  rw [key_pathOf, key_pathOf, dropPrefix_eq_iff, foldMethod_of_hasSegment segment,
    foldMethod_of_hasSegment segment'] at same
  -- Whatever is put before a path, it ends in its method.
  rcases same with e | ⟨-, extended | extended⟩
  · exact Method.eq_of_append_stem e
  · have e := extended.1
    rw [← String.append_assoc] at e
    exact Method.eq_of_append_stem e
  · have e := extended.1
    rw [← String.append_assoc] at e
    exact (Method.eq_of_append_stem e).symm

end Name

/-- The method of a file is the one whose stem its name ends in, and there is at most one. A keyed
method that is the last segment of the name, behind a directory, becomes a suffix of the normalised
path, and the address is that of the directory; a keyed method behind a dot is missing from the
address; every other name is its own normalised path, and its address is the name with slashes for
its dots. So a method that is folded, or left out of the address, is the method of the file, and the
files of the keyed methods in one directory have one address and different keys. -/
theorem method_key_url_agree (extension name : String) :
    let path := pathOf extension name
    let normalized := normalizedPath extension path
    (∀ m, Method.ofPath? extension path = some m ↔ ∃ s, name = s ++ m.stem) ∧
      (∀ (m n : Method) (s t : String), name = s ++ m.stem → name = t ++ n.stem → m = n) ∧
      (∀ directory m, HasSegment name directory m →
        normalized = directory ++ "." ++ m.stem ∧ url extension path = slashed directory) ∧
      (∀ base m, HasSuffix name base m → url extension path = slashed base) ∧
      ((∀ directory m, ¬HasSegment name directory m) → (∀ base m, ¬HasSuffix name base m) →
        normalized = name ∧ url extension path = slashed name) ∧
      (normalized ≠ name → ∃ directory m, HasSegment name directory m ∧
        Method.ofPath? extension path = some m) ∧
      (withoutMethod normalized ≠ normalized → ∃ m ∈ keyedMethods,
        normalized = withoutMethod normalized ++ "." ++ m.stem ∧
          Method.ofPath? extension path = some m) ∧
      ∀ directory m n apiPrefix name', HasSegment name directory m → HasSegment name' directory n →
        url extension path = url extension (pathOf extension name') ∧
          (m ≠ n →
            key extension apiPrefix path ≠ key extension apiPrefix (pathOf extension name')) := by
  intro path normalized
  have folds : normalized = foldMethod name := normalizedPath_pathOf extension name
  have ofSegment {name base : String} {m : Method} (segment : HasSegment name base m) :
      url extension (pathOf extension name) = slashed base := by
    rw [url_pathOf, foldMethod_of_hasSegment segment, withoutMethod_of_suffix segment.1]
  refine ⟨fun m => ofPath?_pathOf, ?_, ?_, ?_, ?_, ?_, ?_, ?_⟩
  · rintro m n s t rfl e
    exact Method.eq_of_append_stem e
  · intro directory m segment
    exact ⟨by rw [folds, foldMethod_of_hasSegment segment], ofSegment segment⟩
  · intro base m suffix
    rw [url_pathOf, foldMethod_of_not_hasSegment suffix.not_hasSegment, suffix.2,
      withoutMethod_of_suffix suffix.1]
  · intro noSegment noSuffix
    have folded := foldMethod_of_not_hasSegment noSegment
    refine ⟨by rw [folds, folded], ?_⟩
    rw [url_pathOf, folded, withoutMethod_eq_self]
    exact fun m keyed base e => noSuffix base m ⟨keyed, e⟩
  · rw [folds]
    intro changed
    rcases foldMethod_cases name with ⟨base, m, segment, -⟩ | ⟨-, same⟩
    · exact ⟨base, m, segment, ofPath?_pathOf.mpr ⟨_, segment.2.2⟩⟩
    · exact absurd same changed
  · rw [folds]
    intro changed
    rcases withoutMethod_foldMethod_cases name with
      ⟨base, m, found, folded, dropped⟩ | ⟨-, same, none⟩
    · refine ⟨m, found.elim And.left And.left, by rw [dropped, folded], ?_⟩
      exact ofPath?_pathOf.mpr (found.elim (fun h => ⟨_, h.2.2⟩) fun h => ⟨_, h.2⟩)
    · exact absurd (none.trans same.symm) changed
  · intro directory m n apiPrefix name' segment segment'
    refine ⟨(ofSegment segment).trans (ofSegment segment').symm, fun different same => different ?_⟩
    exact key_inj_of_hasSegment segment segment' same

/-- The files of GET and DELETE in a directory, whose name has a dot. -/
theorem method_key_url_agree_item :
    let path := pathOf "ts" "shop.v2/item/get"
    let path' := pathOf "ts" "shop.v2/item/delete"
    Method.ofPath? "ts" path = some .get ∧ url "ts" path = url "ts" path' ∧
      key "ts" "shop.v2/" path ≠ key "ts" "shop.v2/" path' := by
  intro path path'
  have segment : HasSegment "shop.v2/item/get" "shop.v2/item" .get :=
    ⟨by decide, by decide, rfl⟩
  have segment' : HasSegment "shop.v2/item/delete" "shop.v2/item" .delete :=
    ⟨by decide, by decide, rfl⟩
  obtain ⟨methods, -, -, -, -, -, -, siblings⟩ := method_key_url_agree "ts" "shop.v2/item/get"
  obtain ⟨address, keys⟩ := siblings _ _ _ "shop.v2/" _ segment segment'
  exact ⟨(methods .get).mpr ⟨_, segment.2.2⟩, address, keys (by decide)⟩

end RouteAtlas.Manifest
