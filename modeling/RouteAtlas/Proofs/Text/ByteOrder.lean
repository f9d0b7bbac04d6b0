import Mathlib.Data.String.Basic

/-!
# The order of texts is that of their bytes

Texts are compared character by character. In UTF-8, the bytes of the smaller of two characters come
first whatever follows them (`encode_append_lt`), so that comparing texts and comparing their bytes
is one thing (`bytes_lt_iff`).
-/

namespace RouteAtlas.Text

/-- The bytes of a text in UTF-8. -/
def bytes (s : String) : List UInt8 := s.toByteArray.data.toList

/-- The bytes of a text are those of its characters. -/
lemma bytes_eq_flatMap (s : String) : bytes s = s.toList.flatMap String.utf8EncodeChar := by
  have e : s.toByteArray = s.toList.utf8Encode := by
    conv_lhs => rw [← String.ofList_toList (s := s)]
    exact String.toByteArray_ofList
  rw [bytes, e, List.utf8Encode]
  exact List.toList_data_toByteArray

/-- A number below `2 ^ 21` is made of its digits in base 64. -/
lemma eq_digits {n : Nat} (small : n < 2097152) :
    n = 262144 * (n / 262144 % 8) + 4096 * (n / 4096 % 64) + 64 * (n / 64 % 64) + n % 64 := by
  omega

/-- The bytes of the smaller of two characters come first, whatever follows them. -/
lemma encode_append_lt {c d : Char} (lt : c < d) (x y : List UInt8) :
    String.utf8EncodeChar c ++ x < String.utf8EncodeChar d ++ y := by
  have values : c.val.toNat < d.val.toNat := UInt32.lt_iff_toNat_lt.mp lt
  have most : d.val.toNat < 0x110000 := by
    rcases d.valid with h | h <;> omega
  unfold String.utf8EncodeChar
  dsimp only
  generalize c.val.toNat = m at *
  generalize d.val.toNat = n at *
  have byte (k l : Nat) : UInt8.ofNat k < UInt8.ofNat l ↔ k % 256 < l % 256 := by
    rw [UInt8.lt_iff_toNat_lt]
    rfl
  have same (k l : Nat) : UInt8.ofNat k = UInt8.ofNat l ↔ k % 256 = l % 256 := by
    rw [← UInt8.toNat_inj]
    rfl
  have first (k : Nat) : (k % 8 + 240) % 256 = k % 8 + 240 := by omega
  have later (k : Nat) : (k % 64 + 128) % 256 = k % 64 + 128 := by omega
  -- Characters of different lengths differ in their first bytes, those of one length in some digit.
  have digits := eq_digits (n := m) (by omega)
  have digits' := eq_digits (n := n) (by omega)
  split_ifs <;>
    simp only [List.cons_append, List.nil_append, List.cons_lt_cons_iff, byte, same, first,
      later] <;>
    omega

/-- The bytes of the smaller of two lists of characters come first. -/
lemma flatMap_encode_lt {cs ds : List Char} (lt : cs < ds) :
    cs.flatMap String.utf8EncodeChar < ds.flatMap String.utf8EncodeChar := by
  induction cs generalizing ds with
  | nil =>
    cases ds with
    | nil => cases lt
    | cons d ds =>
      have more : String.utf8EncodeChar d ≠ [] := String.utf8EncodeChar_ne_nil
      obtain ⟨b, bs, e⟩ := List.exists_cons_of_ne_nil more
      rw [List.flatMap_nil, List.flatMap_cons, e]
      exact List.nil_lt_cons b _
  | cons c cs ih =>
    cases ds with
    | nil => cases lt
    | cons d ds =>
      rw [List.flatMap_cons, List.flatMap_cons]
      rcases List.cons_lt_cons_iff.mp lt with lt | ⟨rfl, rest⟩
      · exact encode_append_lt lt _ _
      · exact List.append_left_lt (ih rest)

/-- One text comes before another exactly if its bytes do. -/
theorem bytes_lt_iff {s t : String} : bytes s < bytes t ↔ s < t := by
  have forward {s t : String} (lt : s < t) : bytes s < bytes t := by
    rw [bytes_eq_flatMap, bytes_eq_flatMap]
    exact flatMap_encode_lt (String.lt_iff_toList_lt.mp lt)
  refine ⟨fun lt => ?_, forward⟩
  rcases lt_trichotomy s t with h | rfl | h
  · exact h
  · exact absurd lt (List.lt_irrefl _)
  · exact absurd (forward h) (List.lt_asymm lt)

end RouteAtlas.Text
