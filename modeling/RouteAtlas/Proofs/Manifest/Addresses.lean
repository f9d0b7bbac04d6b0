import Mathlib.Tactic.Lemma
import RouteAtlas.Manifest.Key

/-!
# Methods at the end of a path

No method's stem ends in another one, so a path ends in the stem of one method at most
(`Method.eq_of_append_stem`), the one that it is read to have (`Method.ofPath?_eq_some_iff`).
Folding and dropping a method each take off what their name says and leave every other path as it is
(`foldMethod_of_directory`, `foldMethod_eq_self`, `withoutMethod_of_suffix`,
`withoutMethod_eq_self`).
-/

namespace RouteAtlas

namespace Text

lemma dropTrailing?_append (s q : String) : dropTrailing? q (s ++ q) = some s :=
  dropTrailing?_eq_some_iff.mpr rfl

/-- Two pieces are taken off one after the other. -/
lemma dropTrailing?_bind_eq_some_iff {p q s r : String} :
    (dropTrailing? q s).bind (dropTrailing? p) = some r ↔ s = r ++ p ++ q := by
  simp only [Option.bind_eq_some_iff, dropTrailing?_eq_some_iff]
  constructor
  · rintro ⟨_, rfl, rfl⟩
    rfl
  · intro e
    exact ⟨r ++ p, e, rfl⟩

lemma replaceChar_append (a b : Char) (s t : String) :
    replaceChar a b (s ++ t) = replaceChar a b s ++ replaceChar a b t := by
  simp [replaceChar, String.ofList_append]

/-- A text without a character stays as it is when that character is replaced. -/
lemma replaceChar_eq_self {a : Char} (b : Char) {s : String} (absent : a ∉ s.toList) :
    replaceChar a b s = s := by
  have same : s.toList.map (fun c => if c = a then b else c) = s.toList.map id :=
    List.map_congr_left fun c mem => if_neg fun (e : c = a) => absent (e ▸ mem)
  rw [replaceChar, same, List.map_id, String.ofList_toList]

/-- The last character of a text is the replaced last character of the text before. -/
lemma exists_of_replaceChar_eq {a b c : Char} {s r : String}
    (e : replaceChar a b s = r ++ String.singleton c) :
    ∃ t d, s = t ++ String.singleton d ∧ (if d = a then b else d) = c := by
  have chars := congrArg String.toList e
  simp only [replaceChar, String.toList_ofList, String.toList_append] at chars
  obtain ⟨before, last, split, _, replaced⟩ := List.map_eq_append_iff.mp chars
  simp only [String.toList_singleton, List.map_eq_singleton_iff] at replaced
  obtain ⟨d, rfl, same⟩ := replaced
  refine ⟨String.ofList before, d, ?_, same⟩
  rw [← String.toList_inj, split]
  simp

end Text

namespace Method

/-- No stem ends in the stem of another method. -/
lemma eq_of_append_stem {m n : Method} {s t : String} (e : s ++ m.stem = t ++ n.stem) : m = n := by
  have last := congrArg (fun x => x.toList.reverse) e
  cases m <;> cases n <;> simp [stem] at last ⊢

/-- A text that ends in a stem does so in one way. -/
lemma append_stem_inj {m n : Method} {s t : String} :
    s ++ m.stem = t ++ n.stem ↔ s = t ∧ m = n := by
  constructor
  · intro e
    obtain rfl := eq_of_append_stem e
    exact ⟨(String.append_left_inj m.stem).mp e, rfl⟩
  · rintro ⟨rfl, rfl⟩
    rfl

lemma slash_notMem_stem (m : Method) : '/' ∉ m.stem.toList := by cases m <;> decide

lemma dot_notMem_stem (m : Method) : '.' ∉ m.stem.toList := by cases m <;> decide

/-- A path has the method whose stem stands before the extension. -/
lemma ofPath?_eq_some_iff {extension path : String} {m : Method} :
    ofPath? extension path = some m ↔ ∃ s, path = s ++ m.stem ++ "." ++ extension := by
  have base (s : String) :
      stripExtension? extension path = some s ↔ path = s ++ "." ++ extension :=
    Text.dropTrailing?_bind_eq_some_iff
  simp only [ofPath?, Option.bind_eq_bind, Option.bind_eq_some_iff, base]
  constructor
  · rintro ⟨_, rfl, found⟩
    have ends := List.find?_some found
    obtain ⟨s, rfl⟩ := Text.endsWith_iff.mp ends
    exact ⟨s, rfl⟩
  · rintro ⟨s, rfl⟩
    refine ⟨s ++ m.stem, rfl, ?_⟩
    have ends : Text.endsWith m.stem (s ++ m.stem) = true := Text.endsWith_iff.mpr ⟨s, rfl⟩
    have found : (all.find? fun n => Text.endsWith n.stem (s ++ m.stem)).isSome :=
      List.find?_isSome.mpr ⟨m, by cases m <;> decide, ends⟩
    obtain ⟨n, found⟩ := Option.isSome_iff_exists.mp found
    have ends' := List.find?_some found
    obtain ⟨t, e⟩ := Text.endsWith_iff.mp ends'
    rw [found, eq_of_append_stem e]

/-- A stem stands behind the last slash before it. -/
lemma exists_of_slash_append {front name s : String} {m : Method}
    (e : front ++ "/" ++ name = s ++ m.stem) : ∃ t, name = t ++ m.stem := by
  have chars := congrArg String.toList e
  simp only [String.toList_append] at chars
  obtain ⟨t, _, split⟩ | ⟨t, split, rest⟩ := List.append_eq_append_iff.mp chars
  · refine ⟨String.ofList t, ?_⟩
    rw [← String.toList_inj, split]
    simp
  · -- The stem would reach over the slash, but has none.
    obtain rfl | ⟨t, last, rfl⟩ := List.eq_nil_or_concat t
    · refine ⟨"", ?_⟩
      rw [← String.toList_inj, String.toList_append, rest]
      simp
    · rw [List.concat_eq_append, ← List.append_assoc] at split
      have slash := List.append_inj_right' split rfl
      have stem := m.slash_notMem_stem
      rw [rest] at stem
      simp_all

end Method

namespace Manifest

/-- Of all keyed methods, only one can give an answer. -/
lemma findSome?_keyedMethods {α : Type} {f : Method → Option α} {m : Method}
    (only : ∀ n, n ≠ m → f n = none) :
    keyedMethods.findSome? f = if m ∈ keyedMethods then f m else none := by
  cases m <;> simp [keyedMethods, List.findSome?_cons, only] <;> cases f _ <;> rfl

/-- A path of a run loses the front and the extension. -/
lemma trimPath_eq (extension name : String) :
    trimPath extension ("./" ++ name ++ "." ++ extension) = name := by
  have front : Text.dropLeading? "./" ("./" ++ name ++ "." ++ extension)
      = some (name ++ "." ++ extension) := by
    rw [Text.dropLeading?_eq_some_iff]
    simp only [String.append_assoc]
  have back : Method.stripExtension? extension (name ++ "." ++ extension) = some name :=
    Text.dropTrailing?_bind_eq_some_iff.mpr rfl
  rw [trimPath, front, Option.getD_some, back, Option.getD_some]

/-- The directory of a method is what stands before its segment, if anything does. -/
lemma methodDirectory?_eq_some_iff {m : Method} {path directory : String} :
    methodDirectory? m path = some directory ↔
      path = directory ++ "/" ++ m.stem ∧ directory ≠ "" := by
  rw [methodDirectory?, Option.filter_eq_some_iff, Text.dropTrailing?_bind_eq_some_iff]
  simp

section Folding
variable {m : Method} {path : String}

/-- A last segment that names a keyed method becomes a suffix. -/
lemma foldMethod_of_directory (keyed : m ∈ keyedMethods) {directory : String}
    (nonempty : directory ≠ "") :
    foldMethod (directory ++ "/" ++ m.stem) = directory ++ "." ++ m.stem := by
  have only : ∀ n, n ≠ m → ((methodDirectory? n (directory ++ "/" ++ m.stem)).map
      fun base => (base, n)) = none := by
    intro n ne
    rw [Option.map_eq_none_iff, Option.eq_none_iff_forall_ne_some]
    intro base found
    exact ne (Method.eq_of_append_stem (methodDirectory?_eq_some_iff.mp found).1).symm
  have found : methodDirectory? m (directory ++ "/" ++ m.stem) = some directory :=
    methodDirectory?_eq_some_iff.mpr ⟨rfl, nonempty⟩
  rw [foldMethod, findSome?_keyedMethods only, if_pos keyed, found]
  rfl

/-- A path without such a segment stays as it is. -/
lemma foldMethod_eq_self
    (plain : ∀ m ∈ keyedMethods, ∀ base, base ≠ "" → path ≠ base ++ "/" ++ m.stem) :
    foldMethod path = path := by
  have none : (keyedMethods.findSome? fun m =>
      (methodDirectory? m path).map fun base => (base, m)) = none := by
    rw [List.findSome?_eq_none_iff]
    intro m keyed
    rw [Option.map_eq_none_iff, Option.eq_none_iff_forall_ne_some]
    intro base found
    obtain ⟨e, nonempty⟩ := methodDirectory?_eq_some_iff.mp found
    exact plain m keyed base nonempty e
  rw [foldMethod, none]

/-- A suffix that names a keyed method is dropped. -/
lemma withoutMethod_of_suffix (keyed : m ∈ keyedMethods) (base : String) :
    withoutMethod (base ++ "." ++ m.stem) = base := by
  have only : ∀ n, n ≠ m → ((Text.dropTrailing? n.stem (base ++ "." ++ m.stem)).bind
      (Text.dropTrailing? ".")) = none := by
    intro n ne
    rw [Option.eq_none_iff_forall_ne_some]
    intro rest found
    exact ne (Method.eq_of_append_stem (Text.dropTrailing?_bind_eq_some_iff.mp found)).symm
  have found : ((Text.dropTrailing? m.stem (base ++ "." ++ m.stem)).bind
      (Text.dropTrailing? ".")) = some base := Text.dropTrailing?_bind_eq_some_iff.mpr rfl
  rw [withoutMethod, findSome?_keyedMethods only, if_pos keyed, found, Option.getD_some]

/-- A path without such a suffix stays as it is. -/
lemma withoutMethod_eq_self
    (plain : ∀ m ∈ keyedMethods, ∀ base, path ≠ base ++ "." ++ m.stem) :
    withoutMethod path = path := by
  have none : (keyedMethods.findSome? fun m =>
      (Text.dropTrailing? m.stem path).bind (Text.dropTrailing? ".")) = none := by
    rw [List.findSome?_eq_none_iff]
    intro m keyed
    rw [Option.eq_none_iff_forall_ne_some]
    intro base found
    exact plain m keyed base (Text.dropTrailing?_bind_eq_some_iff.mp found)
  rw [withoutMethod, none, Option.getD_none]

end Folding

end Manifest

end RouteAtlas
