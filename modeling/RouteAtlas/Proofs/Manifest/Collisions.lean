import RouteAtlas.Proofs.Manifest.Endpoints

/-!
# Keys that collide

Folding a method is one-to-one but for names that show the method as a segment and as a suffix of
one base (`foldMethod_eq_iff`), and dropping the shared beginning is one-to-one but for a path that
is another one with that beginning put before it (`dropPrefix_eq_iff`). Together they tell when two
files have one key (`keys_collide_iff`). The beginning is dropped from the key of every file below
it, except for those that have just a keyed method for a name and lie directly there
(`prefixed_key_eq_iff`): folding has turned the slash that the beginning ends with into a dot
(`prefix_kept`).
-/

namespace RouteAtlas.Manifest

/-- The logical path of the file with a given name. -/
def pathOf (extension name : String) : String := "./" ++ name ++ "." ++ extension

lemma normalizedPath_pathOf (extension name : String) :
    normalizedPath extension (pathOf extension name) = foldMethod name := by
  rw [normalizedPath, pathOf, trimPath_eq]

/-- A path without one leading `front`, if that is not empty. -/
def dropPrefix (front path : String) : String :=
  if front.isEmpty then path else (Text.dropLeading? front path).getD path

lemma key_pathOf (extension apiPrefix name : String) :
    key extension apiPrefix (pathOf extension name) = dropPrefix apiPrefix (foldMethod name) := by
  rw [key, normalizedPath_pathOf, dropPrefix]

/-! ## Folding -/

/-- Whether a name has a keyed method for its last segment, and something before it. -/
def HasSegment (name base : String) (m : Method) : Prop :=
  m ∈ keyedMethods ∧ base ≠ "" ∧ name = base ++ "/" ++ m.stem

/-- A name either has a keyed method for its last segment or is not folded. -/
lemma foldMethod_cases (name : String) :
    (∃ base m, HasSegment name base m ∧ foldMethod name = base ++ "." ++ m.stem) ∨
      (∀ base m, ¬HasSegment name base m) ∧ foldMethod name = name := by
  by_cases segment : ∃ base m, HasSegment name base m
  · obtain ⟨base, m, keyed, nonempty, rfl⟩ := segment
    exact .inl ⟨base, m, ⟨keyed, nonempty, rfl⟩, foldMethod_of_directory keyed nonempty⟩
  · refine .inr ⟨fun base m has => segment ⟨base, m, has⟩, foldMethod_eq_self ?_⟩
    intro m keyed base nonempty e
    exact segment ⟨base, m, keyed, nonempty, e⟩

/-- A slash and a dot before a stem tell two names apart. -/
lemma slash_ne_dot {s t : String} {m n : Method} : s ++ "/" ++ m.stem ≠ t ++ "." ++ n.stem := by
  intro e
  have last := congrArg (fun x => x.toList.reverse) (Method.append_stem_inj.mp e).1
  simp at last

/-- One name shows a keyed method as its last segment, and the other one as a suffix. -/
def Alternates (x y : String) : Prop :=
  ∃ base m, HasSegment x base m ∧ y = base ++ "." ++ m.stem

/-- Two names are folded to one exactly if they show one method in the two ways. -/
lemma foldMethod_eq_iff {x y : String} (different : x ≠ y) :
    foldMethod x = foldMethod y ↔ Alternates x y ∨ Alternates y x := by
  constructor
  · intro same
    rcases foldMethod_cases x with ⟨base, m, segment, folded⟩ | ⟨-, folded⟩
    · rcases foldMethod_cases y with ⟨base', m', segment', folded'⟩ | ⟨-, folded'⟩
      · -- Both are folded, so they have one base and one method.
        rw [folded, folded', Method.append_stem_inj, String.append_left_inj] at same
        obtain ⟨rfl, rfl⟩ := same
        exact absurd (segment.2.2.trans segment'.2.2.symm) different
      · exact .inl ⟨base, m, segment, by rw [← folded', ← same, folded]⟩
    · rcases foldMethod_cases y with ⟨base', m', segment', folded'⟩ | ⟨-, folded'⟩
      · exact .inr ⟨base', m', segment', by rw [← folded, same, folded']⟩
      · rw [folded, folded'] at same
        exact absurd same different
  · have folded {x y : String} (alternate : Alternates x y) : foldMethod x = foldMethod y := by
      obtain ⟨base, m, ⟨keyed, nonempty, rfl⟩, rfl⟩ := alternate
      rw [foldMethod_of_directory keyed nonempty, foldMethod_eq_self]
      intro n _ base' _ e
      exact slash_ne_dot e.symm
    rintro (alternate | alternate)
    · exact folded alternate
    · exact (folded alternate).symm

/-! ## The shared beginning -/

/-- One path is another one with the beginning put before it, and that other one does not begin so
itself. -/
def Extends (front s t : String) : Prop := s = front ++ t ∧ Text.startsWith front t = false

lemma dropPrefix_append {front : String} (nonempty : front ≠ "") (s : String) :
    dropPrefix front (front ++ s) = s := by
  rw [dropPrefix, if_neg (by simpa using nonempty), Text.dropLeading?_eq_some_iff.mpr rfl,
    Option.getD_some]

lemma dropPrefix_eq_self {front s : String} (apart : Text.startsWith front s = false) :
    dropPrefix front s = s := by
  rw [Text.startsWith, Option.isSome_eq_false_iff, Option.isNone_iff_eq_none] at apart
  rw [dropPrefix, apart, Option.getD_none, ite_self]

/-- A path begins with a text or does not. -/
lemma startsWith_cases (front s : String) :
    (∃ r, s = front ++ r) ∨ Text.startsWith front s = false := by
  cases starts : Text.startsWith front s with
  | true => exact .inl (Text.startsWith_iff.mp starts)
  | false => exact .inr rfl

lemma ne_append_of_apart {front s : String} (apart : Text.startsWith front s = false) (r : String) :
    s ≠ front ++ r := by
  intro e
  exact Bool.noConfusion ((Text.startsWith_iff.mpr ⟨r, e⟩).symm.trans apart)

/-- Two paths are the same without the beginning exactly if they are the same, or one of them is the
other one with the beginning. -/
lemma dropPrefix_eq_iff {front s t : String} : dropPrefix front s = dropPrefix front t ↔
    s = t ∨ front ≠ "" ∧ (Extends front s t ∨ Extends front t s) := by
  by_cases empty : front = ""
  · simp [dropPrefix, empty]
  rw [and_iff_right empty]
  rcases startsWith_cases front s with ⟨r, rfl⟩ | apart
  · rcases startsWith_cases front t with ⟨q, rfl⟩ | apart'
    · -- Both lose it, and neither is the other one with a second beginning.
      rw [dropPrefix_append empty, dropPrefix_append empty, String.append_right_inj]
      refine (or_iff_left ?_).symm
      rintro (extended | extended)
      · exact ne_append_of_apart extended.2 q rfl
      · exact ne_append_of_apart extended.2 r rfl
    · rw [dropPrefix_append empty, dropPrefix_eq_self apart']
      constructor
      · rintro rfl
        exact .inr (.inl ⟨rfl, apart'⟩)
      · rintro (rfl | extended | extended)
        · exact absurd rfl (ne_append_of_apart apart' r)
        · exact (String.append_right_inj front).mp extended.1
        · exact absurd extended.1 (ne_append_of_apart apart' _)
  · rcases startsWith_cases front t with ⟨q, rfl⟩ | apart'
    · rw [dropPrefix_eq_self apart, dropPrefix_append empty]
      constructor
      · rintro rfl
        exact .inr (.inr ⟨rfl, apart⟩)
      · rintro (rfl | extended | extended)
        · exact absurd rfl (ne_append_of_apart apart q)
        · exact absurd extended.1 (ne_append_of_apart apart _)
        · exact ((String.append_right_inj front).mp extended.1).symm
    · rw [dropPrefix_eq_self apart, dropPrefix_eq_self apart']
      refine (or_iff_left ?_).symm
      rintro (extended | extended)
      · exact ne_append_of_apart apart _ extended.1
      · exact ne_append_of_apart apart' _ extended.1

/-- Two files with different names have one normalised path exactly if one shows a keyed method as
its last segment and the other one as a suffix. They have one key exactly if, besides, one
normalised path is the other one with the shared beginning put before it. -/
theorem keys_collide_iff (extension apiPrefix : String) {x y : String} (different : x ≠ y) :
    let path := normalizedPath extension (pathOf extension x)
    let path' := normalizedPath extension (pathOf extension y)
    (path = path' ↔ Alternates x y ∨ Alternates y x) ∧
      (key extension apiPrefix (pathOf extension x) = key extension apiPrefix (pathOf extension y) ↔
        path = path' ∨
          apiPrefix ≠ "" ∧ (Extends apiPrefix path path' ∨ Extends apiPrefix path' path)) := by
  simp only [normalizedPath_pathOf, key_pathOf]
  exact ⟨foldMethod_eq_iff different, dropPrefix_eq_iff⟩

/-- Two files that collide because one shows its method as a suffix, and two that do because one
lies below the shared beginning. -/
theorem keys_collide_items :
    ("item/get" ≠ "item.get" ∧
      normalizedPath "ts" (pathOf "ts" "item/get") = normalizedPath "ts" (pathOf "ts" "item.get")) ∧
    ("api/v1/item/get" ≠ "item/get" ∧ key "ts" "api/v1/" (pathOf "ts" "api/v1/item/get")
      = key "ts" "api/v1/" (pathOf "ts" "item/get")) := by
  have different : "item/get" ≠ "item.get" := by decide
  have different' : "api/v1/item/get" ≠ "item/get" := by decide
  refine ⟨⟨different, ?_⟩, different', ?_⟩
  · exact (keys_collide_iff "ts" "api/v1/" different).1.mpr
      (.inl ⟨"item", .get, ⟨by decide, by decide, rfl⟩, rfl⟩)
  · exact (keys_collide_iff "ts" "api/v1/" different').2.mpr
      (.inr ⟨by decide, .inl ⟨by decide +kernel, by decide +kernel⟩⟩)

/-! ## Files below the shared beginning -/

/-- A text that ends another one, which ends in a slash, ends in a slash itself. -/
lemma exists_of_append_eq_slash {s t r : String} (e : s ++ t = r ++ "/") (more : t ≠ "") :
    ∃ t', t = t' ++ "/" := by
  have chars := congrArg String.toList e
  simp only [String.toList_append] at chars
  obtain empty | ⟨front, last, concat⟩ := List.eq_nil_or_concat t.toList
  · exact absurd (String.toList_eq_nil_iff.mp empty) more
  · rw [List.concat_eq_append] at concat
    rw [concat, ← List.append_assoc] at chars
    have same := List.append_inj_right' chars rfl
    refine ⟨String.ofList front, ?_⟩
    rw [← String.toList_inj, concat, same]
    simp

section Below
variable {base name : String} {m : Method}

/-- Whether a file directly at the beginning has just a keyed method for a name, or would have if
an empty segment counted. -/
def IsAtPrefix (base name : String) : Prop :=
  ∃ m ∈ keyedMethods, name = m.stem ∧ base ≠ "" ∨ name = "/" ++ m.stem

/-- A name without a segment for its method gets none from the beginning, unless it is at it. -/
lemma not_hasSegment_append (apart : ¬IsAtPrefix base name)
    (plain : ∀ inner m, ¬HasSegment name inner m) (outer : String) (m : Method) :
    ¬HasSegment (base ++ "/" ++ name) outer m := by
  rintro ⟨keyed, nonempty, e⟩
  obtain ⟨t, rfl⟩ := Method.exists_of_slash_append e
  rw [← String.append_assoc, String.append_left_inj] at e
  by_cases bare : t = ""
  · subst bare
    rw [String.append_empty, String.append_left_inj] at e
    refine apart ⟨m, keyed, .inl ⟨String.empty_append, ?_⟩⟩
    rwa [e]
  · obtain ⟨inner, rfl⟩ := exists_of_append_eq_slash e bare
    by_cases empty : inner = ""
    · subst empty
      exact apart ⟨m, keyed, .inr (by rw [String.empty_append])⟩
    · exact plain inner m ⟨keyed, empty, rfl⟩

lemma not_hasSegment_stem (inner : String) (n : Method) : ¬HasSegment m.stem inner n := by
  rintro ⟨-, -, e⟩
  apply m.slash_notMem_stem
  rw [e]
  simp

/-- The beginning of a file at it stays: its slash has become a dot. -/
lemma dropPrefix_foldMethod_at (keyed : m ∈ keyedMethods) (nonempty : base ≠ "") :
    dropPrefix (base ++ "/") (foldMethod (base ++ "/" ++ m.stem)) = base ++ "." ++ m.stem := by
  rw [foldMethod_of_directory keyed nonempty, dropPrefix_eq_self]
  rw [← Bool.not_eq_true, Text.startsWith_iff]
  rintro ⟨r, e⟩
  rw [String.append_assoc, String.append_assoc, String.append_right_inj] at e
  have first := congrArg (fun x => x.toList.head?) e
  simp at first

/-- The beginning is dropped, unless a keyed method stands directly behind it. -/
lemma dropPrefix_foldMethod_iff : dropPrefix (base ++ "/") (foldMethod (base ++ "/" ++ name))
    = foldMethod name ↔ ¬IsAtPrefix base name := by
  have nonempty : base ++ "/" ≠ "" := by simp
  constructor
  · rintro same ⟨m, keyed, ⟨rfl, more⟩ | rfl⟩
    · rw [dropPrefix_foldMethod_at keyed more, foldMethod_eq_self] at same
      · have length := congrArg String.length same
        simp only [String.length_append] at length
        have dot : ".".length = 1 := rfl
        omega
      · intro n keyed' inner nonempty' e
        exact not_hasSegment_stem inner n ⟨keyed', nonempty', e⟩
    · -- The empty segment is folded behind the beginning, and not without it.
      have split : base ++ "/" ++ ("/" ++ m.stem) = base ++ "/" ++ "/" ++ m.stem := by
        simp only [String.append_assoc]
      have split' : base ++ "/" ++ "." ++ m.stem = base ++ "/" ++ ("." ++ m.stem) := by
        simp only [String.append_assoc]
      rw [split, foldMethod_of_directory keyed nonempty, split', dropPrefix_append nonempty,
        foldMethod_eq_self] at same
      · have first := congrArg (fun x => x.toList.head?) same
        simp at first
      · intro n _ inner nonempty' e
        have start : "" ++ "/" ++ m.stem = inner ++ "/" ++ n.stem := by
          rw [String.empty_append, e]
        rw [Method.append_stem_inj, String.append_left_inj] at start
        exact nonempty' start.1.symm
  · intro apart
    rcases foldMethod_cases name with ⟨inner, m, ⟨keyed, more, rfl⟩, folded⟩ | ⟨plain, folded⟩
    · have more' : base ++ "/" ++ inner ≠ "" := by simp
      have split : base ++ "/" ++ (inner ++ "/" ++ m.stem)
          = base ++ "/" ++ inner ++ "/" ++ m.stem := by
        simp only [String.append_assoc]
      have split' : base ++ "/" ++ inner ++ "." ++ m.stem
          = base ++ "/" ++ (inner ++ "." ++ m.stem) := by
        simp only [String.append_assoc]
      rw [folded, split, foldMethod_of_directory keyed more', split', dropPrefix_append nonempty]
    · rw [folded, foldMethod_eq_self, dropPrefix_append nonempty]
      intro m keyed outer nonempty' e
      exact not_hasSegment_append apart plain outer m ⟨keyed, nonempty', e⟩

end Below

/-- The key of a file below the shared beginning is the normalised path of what follows, unless that
is just a keyed method: then the beginning stays, with a dot for the slash at its end. -/
theorem prefixed_key_eq_iff (extension name : String) {apiPrefix base : String}
    (ends : apiPrefix = base ++ "/") :
    (key extension apiPrefix (pathOf extension (apiPrefix ++ name))
        = normalizedPath extension (pathOf extension name) ↔ ¬IsAtPrefix base name) ∧
      ∀ m ∈ keyedMethods, base ≠ "" →
        key extension apiPrefix (pathOf extension (apiPrefix ++ m.stem))
          = base ++ "." ++ m.stem := by
  subst ends
  simp only [key_pathOf, normalizedPath_pathOf]
  exact ⟨dropPrefix_foldMethod_iff, fun m keyed nonempty => dropPrefix_foldMethod_at keyed nonempty⟩

/-- The key of a file whose directory lies below the beginning does not show the beginning. -/
theorem prefixed_key_eq_item : "api/v1/" = "api/v1" ++ "/" ∧
    key "ts" "api/v1/" (pathOf "ts" ("api/v1/" ++ "item/api/v1/get"))
      = normalizedPath "ts" (pathOf "ts" "item/api/v1/get") := by
  have ends : "api/v1/" = "api/v1" ++ "/" := rfl
  refine ⟨ends, (prefixed_key_eq_iff "ts" "item/api/v1/get" ends).1.mpr ?_⟩
  rintro ⟨m, -, at_⟩
  revert at_
  cases m <;> decide

/-- The key of a file directly at the beginning still shows it. -/
theorem prefix_kept :
    key "ts" "api/v1/" "./api/v1/get.ts" = "api/v1.get" ∧ normalizedPath "ts" "./get.ts" = "get" ∧
      key "ts" "api/v1/" ("./" ++ "api/v1/" ++ "get.ts") ≠ normalizedPath "ts" ("./" ++ "get.ts") :=
    by decide +kernel

end RouteAtlas.Manifest
