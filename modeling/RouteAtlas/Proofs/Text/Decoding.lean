import Mathlib.Tactic.SplitIfs
import RouteAtlas.Proofs.Text.ByteOrder
import RouteAtlas.Text.Utf8

/-!
# Decoding what was encoded

A byte sequence that begins with the bytes of a character begins with that character
(`next_encode_append`), so both ways of decoding give back a text from its bytes
(`decode_toUTF8`, `lossyText_bytes`). Whatever the bytes are, a slash is read only where there is
one (`slash_notMem_lossyText`).
-/

namespace RouteAtlas.Text.Utf8

/-! ## Lead bytes -/

section Lead
variable {b : UInt8}

/-- A byte below 128 is a character of its own. -/
lemma lead_one (below : b.toNat < 0x80) : lead b = some (1, b.toNat, 0, 0) := by
  simp only [lead, UInt8.lt_iff_toNat_lt, UInt8.le_iff_toNat_le, ← UInt8.toNat_inj,
    UInt8.reduceToNat]
  grind

lemma lead_two (above : 0xc2 ≤ b.toNat) (below : b.toNat < 0xe0) :
    lead b = some (2, b.toNat - 0xc0, 0x80, 0xbf) := by
  simp only [lead, UInt8.lt_iff_toNat_lt, UInt8.le_iff_toNat_le, ← UInt8.toNat_inj,
    UInt8.reduceToNat]
  grind

lemma lead_three (above : 0xe0 ≤ b.toNat) (below : b.toNat < 0xf0) :
    lead b = some (3, b.toNat - 0xe0, if b.toNat = 0xe0 then 0xa0 else 0x80,
      if b.toNat = 0xed then 0x9f else 0xbf) := by
  simp only [lead, UInt8.lt_iff_toNat_lt, UInt8.le_iff_toNat_le, ← UInt8.toNat_inj,
    UInt8.reduceToNat]
  grind

lemma lead_four (above : 0xf0 ≤ b.toNat) (below : b.toNat < 0xf5) :
    lead b = some (4, b.toNat - 0xf0, if b.toNat = 0xf0 then 0x90 else 0x80,
      if b.toNat = 0xf4 then 0x8f else 0xbf) := by
  simp only [lead, UInt8.lt_iff_toNat_lt, UInt8.le_iff_toNat_le, ← UInt8.toNat_inj,
    UInt8.reduceToNat]
  grind

/-- No other byte leads a character. -/
lemma lead_none (above : 0x80 ≤ b.toNat) (outside : b.toNat < 0xc2 ∨ 0xf5 ≤ b.toNat) :
    lead b = none := by
  simp only [lead, UInt8.lt_iff_toNat_lt, UInt8.le_iff_toNat_le, ← UInt8.toNat_inj,
    UInt8.reduceToNat]
  grind

end Lead

/-! ## One character -/

section Next
variable {b c : UInt8} {bs : List UInt8}

/-- Behind a lead byte, the second byte must lie in the range that it gives. -/
lemma next_of_within {n bits : Nat} {lo hi : UInt8} (led : lead b = some (n + 2, bits, lo, hi))
    (above : lo.toNat ≤ c.toNat) (below : c.toNat ≤ hi.toNat) :
    next b (c :: bs) = continuation (bits * 64 + low c) 2 n bs := by
  have within : (lo ≤ c && c ≤ hi) = true := by
    simp [UInt8.le_iff_toNat_le, above, below]
  simp [next, led, within]

lemma continuation_of_within {acc taken n : Nat} (above : 0x80 ≤ c.toNat) (below : c.toNat ≤ 0xbf) :
    continuation acc taken (n + 1) (c :: bs)
      = continuation (acc * 64 + low c) (taken + 1) n bs := by
  have within : isContinuation c = true := by
    simp [isContinuation, UInt8.le_iff_toNat_le, above, below]
  rw [continuation, if_pos within]

/-- A byte sequence that begins with the bytes of a character begins with that character. -/
lemma next_encode_append {c : Char} (encoded : String.utf8EncodeChar c = b :: bs)
    (rest : List UInt8) : next b (bs ++ rest) = .scalar c (bs.length + 1) := by
  have valid : c.val.toNat < 0xD800 ∨ 0xDFFF < c.val.toNat ∧ c.val.toNat < 0x110000 := c.valid
  have same : Char.ofNat c.val.toNat = c := Char.ofNat_toNat c
  unfold String.utf8EncodeChar at encoded
  dsimp only at encoded
  generalize c.val.toNat = v at *
  have byte (k : Nat) : (UInt8.ofNat k).toNat = k % 256 := UInt8.toNat_ofNat'
  have later (k : Nat) : (UInt8.ofNat (k % 64 + 128)).toNat = k % 64 + 128 := by
    rw [byte]
    omega
  have above (k : Nat) : 0x80 ≤ (UInt8.ofNat (k % 64 + 128)).toNat := by
    rw [later]
    omega
  have below (k : Nat) : (UInt8.ofNat (k % 64 + 128)).toNat ≤ 0xbf := by
    rw [later]
    omega
  have low_later (k : Nat) : low (UInt8.ofNat (k % 64 + 128)) = k % 64 := by
    rw [low, later]
    omega
  -- The bytes are the digits of the code point in base 64, each with a mark of its place.
  split_ifs at encoded with one two three
  · obtain ⟨rfl, rfl⟩ := List.cons.inj encoded
    have first : (UInt8.ofNat v).toNat = v := by
      rw [byte]
      omega
    rw [next, lead_one (by omega), first]
    simp only [same, List.length_nil]
  · obtain ⟨rfl, rfl⟩ := List.cons.inj encoded
    have first : (UInt8.ofNat (v / 64 % 32 + 192)).toNat = v / 64 + 192 := by
      rw [byte]
      omega
    have all : (v / 64 + 192 - 192) * 64 + v % 64 = v := by omega
    rw [List.cons_append,
      next_of_within (lead_two (by omega) (by omega)) (above v) (below v), first, low_later, all]
    simp [continuation, same]
  · obtain ⟨rfl, rfl⟩ := List.cons.inj encoded
    have first : (UInt8.ofNat (v / 4096 % 16 + 224)).toNat = v / 4096 + 224 := by
      rw [byte]
      omega
    have all : ((v / 4096 + 224 - 224) * 64 + v / 64 % 64) * 64 + v % 64 = v := by omega
    rw [List.cons_append, next_of_within (lead_three (by omega) (by omega))
        (by simp only [first, later]; split <;> simp only [UInt8.reduceToNat] <;> omega)
        (by simp only [first, later]; split <;> simp only [UInt8.reduceToNat] <;> omega),
      List.cons_append, continuation_of_within (above v) (below v), first, low_later, low_later,
      all]
    simp [continuation, same]
  · obtain ⟨rfl, rfl⟩ := List.cons.inj encoded
    have first : (UInt8.ofNat (v / 262144 % 8 + 240)).toNat = v / 262144 + 240 := by
      rw [byte]
      omega
    have all : (((v / 262144 + 240 - 240) * 64 + v / 4096 % 64) * 64 + v / 64 % 64) * 64 + v % 64
        = v := by omega
    rw [List.cons_append, next_of_within (lead_four (by omega) (by omega))
        (by simp only [first, later]; split <;> simp only [UInt8.reduceToNat] <;> omega)
        (by simp only [first, later]; split <;> simp only [UInt8.reduceToNat] <;> omega),
      List.cons_append, continuation_of_within (above _) (below _),
      List.cons_append, continuation_of_within (above v) (below v), first,
      low_later, low_later, low_later, all]
    simp [continuation, same]

/-- The code point that is read behind some bits of it has these bits in front. -/
lemma exists_of_continuation {acc taken n length : Nat} {c : Char}
    (read : continuation acc taken n bs = .scalar c length) :
    ∃ v, acc * 64 ^ n ≤ v ∧ c = Char.ofNat v := by
  induction n generalizing acc taken bs with
  | zero =>
    cases read
    exact ⟨acc, by simp, rfl⟩
  | succ n ih =>
    cases bs with
    | nil => cases read
    | cons b bs =>
      rw [continuation] at read
      split at read
      · obtain ⟨v, most, rfl⟩ := ih read
        refine ⟨v, Nat.le_trans ?_ most, rfl⟩
        rw [Nat.pow_succ', ← Nat.mul_assoc]
        exact Nat.mul_le_mul_right _ (Nat.le_add_right _ _)
      · cases read

lemma toNat_ofNat_of_lt {v : Nat} (small : v < 0x80) : (Char.ofNat v).toNat = v := by
  have valid : v.isValidChar := .inl (by omega)
  rw [Char.ofNat, dif_pos valid]
  rfl

/-- A number that is the code point of no character gives the character NUL. -/
lemma toNat_ofNat_cases (v : Nat) : (Char.ofNat v).toNat = v ∨ (Char.ofNat v).toNat = 0 := by
  by_cases valid : v.isValidChar
  · rw [Char.ofNat, dif_pos valid]
    exact .inl rfl
  · rw [Char.ofNat, dif_neg valid]
    exact .inr rfl

/-- What is read behind a byte that leads further ones. -/
lemma exists_of_next {n bits length : Nat} {lo hi : UInt8} {c : Char}
    (led : lead b = some (n + 2, bits, lo, hi)) (read : next b bs = .scalar c length) :
    ∃ d v, lo ≤ d ∧ d ≤ hi ∧ (bits * 64 + low d) * 64 ^ n ≤ v ∧ c = Char.ofNat v := by
  cases bs with
  | nil => simp [next, led] at read
  | cons d bs =>
    by_cases within : lo ≤ d ∧ d ≤ hi
    · simp only [next, led, within, decide_true, Bool.and_self, if_true] at read
      obtain ⟨v, most, rfl⟩ := exists_of_continuation read
      exact ⟨d, v, within.1, within.2, most, rfl⟩
    · simp [next, led, within] at read

/-- A character below 128, other than NUL, is read from its own byte only. -/
lemma toNat_eq_of_next {c : Char} {length : Nat} (read : next b bs = .scalar c length)
    (small : c.toNat < 0x80) (positive : 0 < c.toNat) : b.toNat = c.toNat := by
  by_cases single : b.toNat < 0x80
  · rw [next, lead_one single] at read
    cases read
    exact (toNat_ofNat_of_lt single).symm
  -- Behind any other lead byte the code point is too large.
  exfalso
  suffices large : ∃ v, 0x80 ≤ v ∧ c = Char.ofNat v by
    obtain ⟨v, most, rfl⟩ := large
    rcases toNat_ofNat_cases v with same | zero <;> omega
  by_cases two : 0xc2 ≤ b.toNat ∧ b.toNat < 0xe0
  · obtain ⟨d, v, above, below, most, rfl⟩ := exists_of_next (lead_two two.1 two.2) read
    exact ⟨v, by omega, rfl⟩
  by_cases three : 0xe0 ≤ b.toNat ∧ b.toNat < 0xf0
  · obtain ⟨d, v, above, below, most, rfl⟩ := exists_of_next (lead_three three.1 three.2) read
    refine ⟨v, ?_, rfl⟩
    rw [UInt8.le_iff_toNat_le] at above below
    rw [low] at most
    split at above <;> split at below <;> simp only [UInt8.reduceToNat] at above below <;> omega
  by_cases four : 0xf0 ≤ b.toNat ∧ b.toNat < 0xf5
  · obtain ⟨d, v, above, below, most, rfl⟩ := exists_of_next (lead_four four.1 four.2) read
    refine ⟨v, ?_, rfl⟩
    rw [UInt8.le_iff_toNat_le] at above below
    rw [low] at most
    split at above <;> split at below <;> simp only [UInt8.reduceToNat] at above below <;> omega
  · rw [next, lead_none (by omega) (by omega)] at read
    cases read

end Next

/-! ## Whole texts -/

/-- What was encoded is decoded, in front of whatever follows. -/
lemma decodeLossyFrom_encode_append (acc cs : List Char) (rest : List UInt8) :
    decodeLossyFrom acc (cs.flatMap String.utf8EncodeChar ++ rest)
      = decodeLossyFrom (cs.reverse ++ acc) rest := by
  induction cs generalizing acc with
  | nil => rfl
  | cons c cs ih =>
    obtain ⟨b, bs, encoded⟩ := List.exists_cons_of_ne_nil (@String.utf8EncodeChar_ne_nil c)
    rw [List.flatMap_cons, encoded, List.append_assoc, List.cons_append, decodeLossyFrom,
      next_encode_append encoded]
    simp [ih]

/-- A text is what its bytes are read as. -/
theorem lossyText_bytes (s : String) : lossyText (bytes s) = s := by
  have whole := decodeLossyFrom_encode_append [] s.toList []
  rw [List.append_nil, List.append_nil, decodeLossyFrom, List.reverse_reverse] at whole
  rw [lossyText, bytes_eq_flatMap, whole, String.ofList_toList]

/-- What was encoded is decoded without a fault. -/
lemma decodeFrom_encode (start : Nat) (acc cs : List Char) :
    decodeFrom start acc (cs.flatMap String.utf8EncodeChar) = .ok (acc.reverse ++ cs) := by
  induction cs generalizing start acc with
  | nil => simp [decodeFrom]
  | cons c cs ih =>
    obtain ⟨b, bs, encoded⟩ := List.exists_cons_of_ne_nil (@String.utf8EncodeChar_ne_nil c)
    rw [List.flatMap_cons, encoded, List.cons_append, decodeFrom, next_encode_append encoded]
    simp [ih]

/-- Going through an array lists its elements. -/
lemma toList_loop (array : ByteArray) (i : Nat) (read : List UInt8) :
    ByteArray.toList.loop array i read = read.reverse ++ array.data.toList.drop i := by
  fun_induction ByteArray.toList.loop array i read with
  | case1 i read more ih =>
    have here : array.data.toList.drop i = array.get! i :: array.data.toList.drop (i + 1) := by
      rw [List.drop_eq_getElem_cons more, Array.getElem_toList, ← getElem!_pos array.data i more]
      rfl
    rw [ih, here, List.reverse_cons, List.append_assoc, List.singleton_append]
  | case2 i read done =>
    rw [List.drop_eq_nil_of_le (Nat.le_of_not_lt done), List.append_nil]

lemma toList_toUTF8 (s : String) : s.toUTF8.toList = bytes s :=
  toList_loop s.toUTF8 0 []

/-- A text is decoded from its bytes. -/
theorem decode_toUTF8 (s : String) : decode s.toUTF8 = .ok s := by
  rw [decode, toList_toUTF8, bytes_eq_flatMap, decodeFrom_encode]
  simp [Except.map]

/-- A slash is read only where there is one. -/
lemma slash_mem_of_mem_decodeLossyFrom {acc : List Char} {bytes : List UInt8}
    (mem : '/' ∈ decodeLossyFrom acc bytes) : '/' ∈ acc ∨ 47 ∈ bytes := by
  fun_induction decodeLossyFrom acc bytes with
  | case1 acc => exact .inl (List.mem_reverse.1 mem)
  | case2 acc b bs c n read ih =>
    rcases ih mem with before | later
    · rcases List.mem_cons.1 before with rfl | before
      · have here := toNat_eq_of_next read (by decide) (by decide)
        exact .inr (List.mem_cons.2 (.inl (UInt8.toNat_inj.1 here.symm)))
      · exact .inl before
    · exact .inr (List.mem_cons_of_mem b (List.mem_of_mem_drop later))
  | case3 acc b bs n read ih =>
    rcases ih mem with before | later
    · exact .inl (List.mem_of_ne_of_mem (by decide) before)
    · exact .inr (List.mem_cons_of_mem b (List.mem_of_mem_drop later))
  | case4 acc b bs read =>
    exact .inl (List.mem_of_ne_of_mem (by decide) (List.mem_reverse.1 mem))

/-- Bytes without a slash are read as a text without a slash. -/
theorem slash_notMem_lossyText {bytes : List UInt8} (free : 47 ∉ bytes) :
    '/' ∉ (lossyText bytes).toList := by
  rw [lossyText, String.toList_ofList]
  intro mem
  rcases slash_mem_of_mem_decodeLossyFrom mem with before | there
  · cases before
  · exact free there

end RouteAtlas.Text.Utf8
