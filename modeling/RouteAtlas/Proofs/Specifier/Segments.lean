import Mathlib.Tactic.Lemma
import RouteAtlas.Specifier

/-!
# Specifiers by their segments

Steps up are counted as occurrences of `../`, and cut off as segments. A segment makes such an
occurrence with the slash behind it exactly if it ends in two dots, so the count is one of segments
(`climbs_eq_ascents`), and a specifier that climbs loses as many of its segments
(`resolveChars_of_climbing`).
-/

namespace RouteAtlas.Specifier

/-- What stands between the slashes of a path. -/
def segments (path : List Char) : List (List Char) := path.splitOn '/'

/-- Segments with slashes between them. -/
def join (ss : List (List Char)) : List Char := ['/'].intercalate ss

/-- The segment of the directory itself. -/
def dot : List Char := ['.']

/-- The segment of the directory above. -/
def dotDot : List Char := ['.', '.']

/-! ## Cutting and joining -/

section Join
variable {s : List Char} {ss ts : List (List Char)}

lemma segments_ne_nil (path : List Char) : segments path ≠ [] := List.splitOn_ne_nil '/' path

/-- Joining gives back what was cut. -/
lemma join_segments (path : List Char) : join (segments path) = path := List.intercalate_splitOn '/'

/-- Cutting gives back what was joined. -/
lemma segments_join (free : ∀ s ∈ ss, '/' ∉ s) (more : ss ≠ []) : segments (join ss) = ss :=
  List.splitOn_intercalate '/' free more

lemma join_singleton (s : List Char) : join [s] = s := List.intercalate_singleton

lemma join_cons (s : List Char) (more : ss ≠ []) : join (s :: ss) = s ++ '/' :: join ss := by
  rw [join, List.intercalate_cons_of_ne_nil more, List.append_assoc]
  rfl

lemma join_append (more : ss ≠ []) (more' : ts ≠ []) :
    join (ss ++ ts) = join ss ++ '/' :: join ts := by
  induction ss with
  | nil => exact absurd rfl more
  | cons s ss ih =>
    cases ss with
    | nil =>
      rw [List.singleton_append, join_cons s more', join_singleton]
    | cons s' ss =>
      rw [List.cons_append, join_cons s (by simp), ih (by simp), join_cons s (by simp),
        List.append_assoc]
      rfl

/-- A text without a slash is followed by the segments behind the slash after it. -/
lemma segments_cons_slash (free : '/' ∉ s) (path : List Char) :
    segments (s ++ '/' :: path) = s :: segments path :=
  List.splitOn_append_cons_self_of_not_mem free path

/-- There is no slash in a segment. -/
lemma slash_notMem_of_mem_segments (path : List Char) : ∀ s ∈ segments path, '/' ∉ s := by
  induction path with
  | nil => simp [segments]
  | cons c path ih =>
    rw [segments, List.splitOn_cons_eq_if_modifyHead]
    by_cases slash : c = '/'
    · subst slash
      intro s mem
      rw [if_pos (beq_self_eq_true '/'), List.mem_cons] at mem
      rcases mem with rfl | mem
      · exact List.not_mem_nil
      · exact ih s mem
    · rw [if_neg (by simpa using slash)]
      cases split : List.splitOn '/' path with
      | nil => exact absurd split (segments_ne_nil path)
      | cons s ss =>
        rw [segments, split] at ih
        intro t mem
        rw [List.modifyHead_cons, List.mem_cons] at mem
        rcases mem with rfl | mem
        · simpa [Ne.symm slash] using ih s List.mem_cons_self
        · exact ih t (List.mem_cons_of_mem s mem)

end Join

/-! ## Counting -/

/-- Whether a segment ends in two dots. -/
def EndsInDots (s : List Char) : Prop := dotDot <:+ s

instance : DecidablePred EndsInDots := fun s => inferInstanceAs (Decidable (dotDot <:+ s))

lemma endsInDots_dotDot : EndsInDots dotDot := List.suffix_rfl

/-- How many segments that have a slash behind them end in two dots. -/
def ascents (ss : List (List Char)) : Nat := ss.dropLast.countP (EndsInDots ·)

section Ascents
variable {s : List Char} {ss ts : List (List Char)}

lemma ascents_cons (s : List Char) (more : ss ≠ []) :
    ascents (s :: ss) = ascents ss + if EndsInDots s then 1 else 0 := by
  rw [ascents, List.dropLast_cons_of_ne_nil more, List.countP_cons, ascents]
  simp only [decide_eq_true_eq]

/-- A character before a segment makes it end in two dots only if they are all of it. -/
lemma endsInDots_cons {c : Char} (other : c :: s ≠ dotDot) :
    EndsInDots (c :: s) ↔ EndsInDots s := by
  rw [EndsInDots, List.suffix_cons_iff]
  exact or_iff_right (Ne.symm other)

/-- Steps up are the segments that end in two dots, the last one apart. -/
lemma climbs_eq_ascents (path : List Char) : climbs path = ascents (segments path) := by
  fun_induction climbs path with
  | case1 rest ih =>
    have cut : segments (dotDot ++ '/' :: rest) = dotDot :: segments rest :=
      segments_cons_slash (by decide) rest
    have counted := ascents_cons dotDot (segments_ne_nil rest)
    rw [if_pos endsInDots_dotDot, ← cut, ← ih] at counted
    exact counted.symm
  | case2 c rest other ih =>
    rw [ih, segments, segments, List.splitOn_cons_eq_if_modifyHead]
    by_cases slash : c = '/'
    · subst slash
      have counted := ascents_cons [] (segments_ne_nil rest)
      rw [if_neg (by decide), Nat.add_zero, segments] at counted
      rw [if_pos (beq_self_eq_true '/'), counted]
    · rw [if_neg (by simpa using slash)]
      cases split : List.splitOn '/' rest with
      | nil => exact absurd split (segments_ne_nil rest)
      | cons s ss =>
        cases ss with
        | nil => rfl
        | cons s' ss =>
          -- Otherwise there would be an occurrence of `../` here.
          have apart : c :: s ≠ dotDot := by
            intro e
            obtain ⟨rfl, rfl⟩ := List.cons.inj e
            have joined := join_segments rest
            rw [segments, split, join_cons _ (by simp)] at joined
            exact other _ rfl joined.symm
          rw [List.modifyHead_cons, ascents_cons s (by simp), ascents_cons (c :: s) (by simp)]
          simp only [endsInDots_cons apart]
  | case3 => rfl

/-- There are fewer steps up than segments. -/
lemma ascents_lt (more : ss ≠ []) : ascents ss < ss.length := by
  have most : ascents ss ≤ ss.dropLast.length := List.countP_le_length
  have positive := List.length_pos_iff.2 more
  rw [List.length_dropLast] at most
  omega

/-- Behind as many segments as climb there are others. -/
lemma drop_ascents_ne_nil (more : ss ≠ []) : ss.drop (ascents ss) ≠ [] := by
  have fewer := ascents_lt more
  rw [ne_eq, List.drop_eq_nil_iff]
  omega

lemma ascents_dot_cons (more : ss ≠ []) : ascents (dot :: ss) = ascents ss := by
  rw [ascents_cons dot more, if_neg (by decide), Nat.add_zero]

lemma ascents_eq_zero (none : ∀ s ∈ ss, ¬EndsInDots s) : ascents ss = 0 := by
  rw [ascents, List.countP_eq_zero]
  intro s mem
  simpa using none s (List.dropLast_subset ss mem)

/-- Segments that climb count, in front of others that do not. -/
lemma ascents_replicate_append (n : Nat) (more : ss ≠ []) (none : ∀ s ∈ ss, ¬EndsInDots s) :
    ascents (List.replicate n dotDot ++ ss) = n := by
  induction n with
  | zero => exact ascents_eq_zero none
  | succ n ih =>
    rw [List.replicate_succ, List.cons_append, ascents_cons dotDot (by simp [more]), ih,
      if_pos endsInDots_dotDot]

end Ascents

/-! ## Resolving -/

section Resolve
variable {specifier : List Char} (importing : List Char)

/-- A specifier that climbs loses as many segments as it climbs. -/
lemma resolveChars_of_climbing (climbing : ascents (segments specifier) ≠ 0) :
    resolveChars specifier importing
      = join (dot :: (segments specifier).drop (ascents (segments specifier))) := by
  have left := drop_ascents_ne_nil (segments_ne_nil specifier)
  rw [← climbs_eq_ascents] at climbing left ⊢
  rw [join_cons dot left]
  obtain ⟨n, some⟩ := Nat.exists_eq_succ_of_ne_zero climbing
  unfold resolveChars
  rw [some]
  rfl

/-- A specifier that stays in its directory is put behind the directory of the importing file. -/
lemma resolveChars_of_staying {rest : List Char} (none : ascents (segments rest) = 0) :
    resolveChars ('.' :: '/' :: rest) importing = directory importing ++ rest := by
  have cut : segments (dot ++ '/' :: rest) = dot :: segments rest :=
    segments_cons_slash (by decide) rest
  have counted : climbs ('.' :: '/' :: rest) = 0 := by
    rw [climbs_eq_ascents]
    exact (congrArg ascents cut).trans ((ascents_dot_cons (segments_ne_nil rest)).trans none)
  unfold resolveChars
  rw [counted]
  rfl

section Dot
variable {rest : List (List Char)} (free : ∀ s ∈ rest, '/' ∉ s) (more : rest ≠ [])
include free more

/-- Segments below the directory itself are put behind the directory of the importing file, if none
of them climbs. -/
lemma resolveChars_dot_join_of_staying (none : ascents rest = 0) :
    resolveChars (join (dot :: rest)) importing = directory importing ++ join rest := by
  have none' : ascents (segments (join rest)) = 0 := by rw [segments_join free more, none]
  rw [join_cons dot more]
  exact resolveChars_of_staying importing none'

/-- If some of them climb, they lose all but one of as many. -/
lemma resolveChars_dot_join_of_climbing {n : Nat} (count : ascents rest = n + 1) :
    resolveChars (join (dot :: rest)) importing = join (dot :: rest.drop n) := by
  have free' : ∀ s ∈ dot :: rest, '/' ∉ s := List.forall_mem_cons.2 ⟨by decide, free⟩
  have cut : segments (join (dot :: rest)) = dot :: rest := segments_join free' (by simp)
  have count' : ascents (dot :: rest) = n + 1 := (ascents_dot_cons more).trans count
  rw [resolveChars_of_climbing importing (by simp [cut, count']), cut, count', List.drop_succ_cons]

end Dot

/-- Any other specifier stays as it is. -/
lemma resolveChars_of_other (none : ascents (segments specifier) = 0)
    (other : ∀ rest, specifier ≠ '.' :: '/' :: rest) :
    resolveChars specifier importing = specifier := by
  unfold resolveChars
  rw [climbs_eq_ascents, none]
  dsimp only
  split
  next rest => exact absurd rfl (other rest)
  next => rfl

end Resolve

end RouteAtlas.Specifier
