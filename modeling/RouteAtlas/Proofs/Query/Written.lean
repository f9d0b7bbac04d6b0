import RouteAtlas.Proofs.Query.Reading

/-!
# Written patterns

`Written` is the written form of patterns whose nodes have a kind, maybe a field, nodes below them
and names, and of the condition that a captured text is a given one. What is read from such a text
is the pattern it was written for, if the grammar knows the kinds and fields, and a fault otherwise
(`readClauses_chars`).
-/

namespace RouteAtlas.Query

open Read

/-- A written pattern or condition, with the blanks before it. -/
inductive Written where
  /-- A node: its field, its kind, what is written below it, and the names it is given. -/
  | node (gap : String) (field : Option String) (kind : String) (below : List Written)
      (given : List String)
  /-- The condition that the text of a capture is the given one. -/
  | equal (gap capture value : String)

namespace Written

/-- The blanks before it. -/
def gap : Written → String
  | node gap .. => gap
  | equal gap .. => gap

/-- Whether the word cannot be taken for the sign of any node. -/
def isFieldName (s : String) : Bool := isWord s && s.toList.head? ≠ some '_'

/-- The beginning of a node that is held under a field. -/
def fieldChars : Option String → List Char
  | none => []
  | some field => field.toList ++ [':', ' ']

mutual

/-- The characters behind the blanks. -/
def chars : Written → List Char
  | .node _ field kind below given =>
    fieldChars field ++ '(' :: (kind.toList ++ (charsAll below ++ ')' :: marks given))
  | .equal _ capture value => '(' :: '#' :: equation capture value

/-- The characters of several, one behind the other. -/
def charsAll : List Written → List Char
  | [] => []
  | w :: ws => w.gap.toList ++ (chars w ++ charsAll ws)

end

mutual

/-- The pattern that is written before so many characters; none if it is a condition. -/
def pattern? (behind : Nat) : Written → Option Pattern
  | .node gap field kind below given =>
    some <| .node
      { test := .kind kind true, field, captures := given
        place := (chars (.node gap field kind below given)).length + behind }
      (patterns ((marks given).length + behind + 1) below)
  | .equal .. => none

/-- The patterns among several. -/
def patterns (behind : Nat) : List Written → List Pattern
  | [] => []
  | w :: ws =>
    (pattern? ((charsAll ws).length + behind) w).toList ++ patterns behind ws

end

/-- What a reader takes it for. -/
def part (behind : Nat) (w : Written) : Part :=
  match w.pattern? behind with
  | some p => .pattern p
  | none => .condition

mutual

/-- The captures that are known behind it. -/
def captures (known : List String) : Written → List String
  | .node _ _ _ below given => given.foldl addName (capturesAll known below)
  | .equal .. => known

/-- The captures that are known behind several. -/
def capturesAll (known : List String) : List Written → List String
  | [] => known
  | w :: ws => capturesAll (captures known w) ws

end

mutual

/-- The conditions in it. -/
def conditions : Written → List Condition
  | .node _ _ _ below _ => conditionsAll below
  | .equal _ capture value => [⟨"eq?", [.capture capture, .text value]⟩]

/-- The conditions in several. -/
def conditionsAll : List Written → List Condition
  | [] => []
  | w :: ws => conditions w ++ conditionsAll ws

end

mutual

/-- Whether the grammar knows the kinds and the fields. -/
def Known (names : Names) : Written → Prop
  | .node _ field kind below _ =>
    (names.kinds.contains kind = true ∧ KnownAll names below) ∧
      ∀ name ∈ field, names.fields.contains name = true
  | .equal .. => True

/-- Whether the grammar knows the kinds and the fields of several. -/
def KnownAll (names : Names) : List Written → Prop
  | [] => True
  | w :: ws => Known names w ∧ KnownAll names ws

end

mutual

/-- Whether it is written as it should be, where some captures are known: words are words, no kind
is abstract, and a condition is about a known capture and a text that needs no escape. -/
def isSound (abstract : String → Bool) (known : List String) : Written → Bool
  | .node _ field kind below given =>
    field.all isFieldName && isWord kind && isPlainKind kind && !abstract kind
      && areSound abstract known below && given.all isWord
  | .equal _ capture value => isWord capture && known.contains capture
      && isPlainText value

/-- Whether several are written as they should be, with blanks before each. -/
def areSound (abstract : String → Bool) (known : List String) : List Written → Bool
  | [] => true
  | w :: ws => !w.gap.isEmpty && w.gap.toList.all isBlank && isSound abstract known w
      && areSound abstract (captures known w) ws

end

/-! ## Reading -/

section Reading
variable {names : Names} {known : List String} {noted : List Condition}

/-- Names behind a node are given to it. -/
lemma foldl_capture (given : List String) (shape : Shape) (below : List Pattern) :
    given.foldl (fun p name => p.capture name) (Pattern.node shape below)
      = Pattern.node { shape with captures := shape.captures ++ given } below := by
  induction given generalizing shape with
  | nil => rw [List.append_nil]; rfl
  | cons name given ih =>
    rw [List.foldl_cons, Pattern.capture, Pattern.modifyFirst, ih, List.append_assoc]
    rfl

/-- Behind a pattern, the names of its node are read. -/
lemma finish_marks {given : List String} (words : ∀ name ∈ given, isWord name) {fuel : Nat}
    (enough : given.length ≤ fuel) (p : Pattern) (start : List Char) {rest : List Char}
    (behind : isBehind rest) :
    finish names fuel p start ⟨marks given ++ rest, known, noted⟩
      = .ok ((given.foldl (fun p name => p.capture name) p).atPlace start.length)
        ⟨afterBlanks false rest, given.foldl addName known, noted⟩ := by
  rw [finish, bind_of_ok (blanks_run ..),
    bind_of_ok (suffixes_marks known noted words enough p behind)]
  rfl

/-- Behind a pattern without names nothing is read. -/
lemma finish_none (fuel : Nat) (p : Pattern) (start : List Char) {rest : List Char}
    (behind : isBehind rest) :
    finish names fuel p start ⟨afterBlanks false rest, known, noted⟩
      = .ok (p.atPlace start.length) ⟨afterBlanks false rest, known, noted⟩ := by
  simp only [isBehind, Bool.and_eq_true, Bool.not_eq_true'] at behind
  rw [finish, bind_of_ok (blanks_run ..), afterBlanks_afterBlanks,
    bind_of_ok (suffixes_none known noted fuel p behind.2)]
  rfl

/-- The bracket that ends the surrounding pattern is left to it. -/
lemma part_closing (fuel : Nat) (rest : List Char) :
    Read.part names (fuel + 1) ⟨')' :: rest, known, noted⟩
      = .ok .closing ⟨')' :: rest, known, noted⟩ := by
  rw [Read.part]
  rfl

/-- A condition is kept. -/
lemma part_equation {capture value : String} (word : isWord capture)
    (mem : known.contains capture) (plain : isPlainText value) (fuel : Nat) (rest : List Char) :
    Read.part names (fuel + 4) ⟨'(' :: '#' :: (equation capture value ++ rest), known, noted⟩
      = .ok .condition ⟨afterBlanks false rest, known,
        noted ++ [⟨"eq?", [.capture capture, .text value]⟩]⟩ := by
  rw [Read.part, bind_of_ok (get_run _), bind_of_ok (peek_run ..), if_neg (by decide),
    if_neg (by decide), if_pos rfl, bind_of_ok (skip_run ..), bind_of_ok (blanks_run ..),
    afterBlanks_cons rfl (by decide), bind_of_ok (peek_run ..), if_neg (by decide),
    if_pos (by decide), bind_of_ok (skip_run ..),
    bind_of_ok (condition_equation known noted word mem plain fuel rest)]
  rfl

/-- What stands behind an opening bracket and begins with a name is a node. -/
lemma part_open (fuel : Nat) {c : Char} (starts : startsName c) (cs : List Char) :
    Read.part names (fuel + 1) ⟨'(' :: c :: cs, known, noted⟩
      = (do
        let test ← nodeTest names
        blanks
        let (below, absent) ← belowOf names fuel [] []
        return .pattern (← finish names fuel (.node { test, absent } below) ('(' :: c :: cs))
          : Read Part) ⟨c :: cs, known, noted⟩ := by
  have visible := visible_of_startsName starts
  have ne (d : Char) : startsName d = false → c ≠ d := ne_of_startsName starts
  have noGroup : (decide (c = '(') || decide (c = '"') || decide (c = '[')) ≠ true := by
    simp [ne '(' (by decide), ne '"' (by decide), ne '[' (by decide)]
  have noCondition : (decide (c = '.') || decide (c = '#')) ≠ true := by
    simp [ne '.' (by decide), ne '#' (by decide)]
  rw [Read.part, bind_of_ok (get_run _), bind_of_ok (peek_run ..), if_neg (by decide),
    if_neg (by decide), if_pos rfl, bind_of_ok (skip_run ..), bind_of_ok (blanks_run ..),
    afterBlanks_cons visible.1 visible.2, bind_of_ok (peek_run ..), if_neg noGroup,
    if_neg noCondition]

/-- A node is read with the nodes below it and its names. -/
lemma part_node {kind : String} (word : isWord kind) (plain : isPlainKind kind)
    (concrete : names.abstract.contains kind = false) {given : List String}
    (words : ∀ name ∈ given, isWord name) {fuel : Nat} (enough : given.length ≤ fuel)
    {inner rest : List Char} (ended : isOver inner) (more : inner ≠ []) (behind : isBehind rest)
    {knownBelow : Prop} {below : List Pattern} {known' : List String} {noted' : List Condition}
    (read : Gives knownBelow (belowOf names fuel [] [] ⟨afterBlanks false inner, known, noted⟩)
      (below, []) ⟨marks given ++ rest, known', noted'⟩) :
    Gives (names.kinds.contains kind = true ∧ knownBelow)
      (Read.part names (fuel + 1) ⟨'(' :: (kind.toList ++ inner), known, noted⟩)
      (.pattern (.node
        { test := .kind kind true, captures := given
          place := ('(' :: (kind.toList ++ inner)).length } below))
      ⟨afterBlanks false rest, given.foldl addName known', noted'⟩ := by
  obtain ⟨c, cs, e, starts, -⟩ := exists_of_isWord word
  obtain ⟨d, ds, rfl⟩ := List.exists_cons_of_ne_nil more
  have opened : Read.part names (fuel + 1) ⟨'(' :: (kind.toList ++ d :: ds), known, noted⟩
      = (do
        let test ← nodeTest names
        blanks
        let (below, absent) ← belowOf names fuel [] []
        return .pattern (← finish names fuel (.node { test, absent } below)
          ('(' :: (kind.toList ++ d :: ds))) : Read Part)
        ⟨kind.toList ++ d :: ds, known, noted⟩ := by
    rw [e]
    exact part_open fuel starts (cs ++ d :: ds)
  rw [opened]
  -- The grammar has its say about the kind first, and then about what is below.
  refine (nodeTest_kind known noted word plain concrete ended).bind ?_
  rw [bind_of_ok (blanks_run ..)]
  refine ((read.bind (Gives.of_ok ?_)).congr (and_true _).to_iff)
  dsimp only
  rw [bind_of_ok (finish_marks words enough _ _ behind), foldl_capture]
  rfl

/-- A node that is written behind a field is held under it, if the grammar knows the field. -/
lemma part_field {field : String} (word : isFieldName field) {fuel : Nat}
    {inner rest : List Char} (behind : isBehind rest) {knownInner : Prop} {shape : Shape}
    {below : List Pattern} {known' : List String} {noted' : List Condition}
    (read : Gives knownInner (Read.part names fuel ⟨'(' :: inner, known, noted⟩)
      (.pattern (.node shape below)) ⟨afterBlanks false rest, known', noted'⟩) :
    Gives (knownInner ∧ names.fields.contains field = true)
      (Read.part names (fuel + 1) ⟨field.toList ++ ':' :: ' ' :: '(' :: inner, known, noted⟩)
      (.pattern (.node
        { shape with field, place := (field.toList ++ ':' :: ' ' :: '(' :: inner).length } below))
      ⟨afterBlanks false rest, known', noted'⟩ := by
  simp only [isFieldName, Bool.and_eq_true, decide_eq_true_eq] at word
  obtain ⟨word, noSign⟩ := word
  obtain ⟨c, cs, e, starts, -⟩ := exists_of_isWord word
  have ne (d : Char) : startsName d = false → c ≠ d := ne_of_startsName starts
  have noClosing : (decide (c = ')') || decide (c = ']')) ≠ true := by
    simp [ne ')' (by decide), ne ']' (by decide)]
  have sign : c ≠ '_' := fun same => noSign (by rw [e, same]; rfl)
  have named : name ⟨field.toList ++ ':' :: ' ' :: '(' :: inner, known, noted⟩
      = .ok field ⟨':' :: ' ' :: '(' :: inner, known, noted⟩ := name_word word rfl known noted
  have peeked : peek ⟨field.toList ++ ':' :: ' ' :: '(' :: inner, known, noted⟩
      = .ok c ⟨field.toList ++ ':' :: ' ' :: '(' :: inner, known, noted⟩ := by
    rw [e]
    rfl
  have blank : blanks ⟨' ' :: '(' :: inner, known, noted⟩
      = .ok () ⟨'(' :: inner, known, noted⟩ := by
    rw [blanks_run, afterBlanks_space, afterBlanks_cons rfl (by decide)]
  -- Behind the field and its colon there is a pattern to be read; only then is the field looked up.
  obtain ⟨next, step, onPattern⟩ : ∃ next : Part → Read Part,
      Read.part names (fuel + 1) ⟨field.toList ++ ':' :: ' ' :: '(' :: inner, known, noted⟩
        = (Read.part names fuel >>= next) ⟨'(' :: inner, known, noted⟩ ∧
      ∀ p, next (.pattern p) = if names.fields.contains field then
          return .pattern (← finish names fuel (p.underField field)
            (field.toList ++ ':' :: ' ' :: '(' :: inner))
        else failAt (field.toList ++ ':' :: ' ' :: '(' :: inner) .field := by
    apply Exists.intro
    constructor
    · rw [Read.part, bind_of_ok (get_run _), bind_of_ok peeked, if_neg noClosing,
        if_neg (ne '[' (by decide)), if_neg (ne '(' (by decide)), if_neg sign,
        if_neg (ne '"' (by decide)), if_pos starts, bind_of_ok named, bind_of_ok (blanks_run ..),
        afterBlanks_cons rfl (by decide), bind_of_ok (peek_run ..), if_neg (by decide)]
      beta_reduce
      rw [bind_of_ok (skip_run ..)]
      exact bind_of_ok blank
    · exact fun p => rfl
  rw [step]
  refine read.bind ?_
  rw [onPattern]
  constructor
  · intro fieldKnown
    rw [if_pos fieldKnown, bind_of_ok (finish_none fuel _ _ behind)]
    rfl
  · intro unknown
    rw [if_neg unknown]
    exact ⟨_, _, rfl⟩

/-! ## The whole text -/

/-- The first character is a bracket or begins a word. -/
lemma exists_chars {abstract : String → Bool} {w : Written} (sound : w.isSound abstract known) :
    ∃ c cs, w.chars = c :: cs ∧ (c = '(' ∨ startsName c = true) := by
  cases w with
  | node gap field kind below given =>
    cases field with
    | none => exact ⟨'(', _, rfl, .inl rfl⟩
    | some field =>
      simp only [isSound, Option.all_some, isFieldName, Bool.and_eq_true] at sound
      obtain ⟨c, cs, e, starts, -⟩ := exists_of_isWord sound.1.1.1.1.1.1
      exact ⟨c, _, by rw [chars, fieldChars, e]; rfl, .inr starts⟩
  | equal gap capture value => exact ⟨'(', _, rfl, .inl rfl⟩

/-- There are no blanks before what is written. -/
lemma afterBlanks_chars {abstract : String → Bool} {w : Written}
    (sound : w.isSound abstract known) (rest : List Char) :
    afterBlanks false (w.chars ++ rest) = w.chars ++ rest := by
  obtain ⟨c, cs, e, bracket | starts⟩ := exists_chars sound
  · rw [e, bracket]
    exact afterBlanks_cons rfl (by decide) _
  · have visible := visible_of_startsName starts
    rw [e]
    exact afterBlanks_cons visible.1 visible.2 _

/-- What begins with a bracket or a word is no mark that goes with the pattern before it. -/
lemma isSuffix_of_chars {c : Char} (first : c = '(' ∨ startsName c = true) :
    isSuffix c = false ∧ c ≠ '!' ∧ c ≠ '.' := by
  rcases first with rfl | starts
  · decide
  · have ne (d : Char) : startsName d = false → c ≠ d := ne_of_startsName starts
    simp [isSuffix, ne '+' (by decide), ne '*' (by decide), ne '?' (by decide),
      ne '@' (by decide), ne '!' (by decide), ne '.' (by decide)]

/-- A text that begins with a blank is over. -/
lemma isOver_gap {gap : List Char} (more : gap ≠ []) (blank : gap.all isBlank)
    (rest : List Char) : isOver (gap ++ rest) := by
  obtain ⟨c, cs, rfl⟩ := List.exists_cons_of_ne_nil more
  simp only [List.all_cons, Bool.and_eq_true] at blank
  simp [isOver, blank.1]

/-- What is written before a closing bracket ends the pattern before it. -/
lemma isBehind_charsAll {abstract : String → Bool} {ws : List Written}
    (sound : areSound abstract known ws) (rest : List Char) :
    isBehind (charsAll ws ++ ')' :: rest) := by
  cases ws with
  | nil =>
    rw [charsAll, List.nil_append, isBehind, afterBlanks_cons rfl (by decide)]
    rfl
  | cons w ws =>
    simp only [areSound, Bool.and_eq_true, Bool.not_eq_true'] at sound
    obtain ⟨⟨⟨more, blank⟩, sound⟩, -⟩ := sound
    have gap : w.gap.toList ≠ [] := by
      intro none
      rw [String.toList_eq_nil_iff.1 none] at more
      cases more
    obtain ⟨c, cs, e, first⟩ := exists_chars sound
    rw [charsAll, List.append_assoc, isBehind, isOver_gap gap blank, afterBlanks_append blank,
      List.append_assoc, afterBlanks_chars sound, e, List.cons_append, List.headD_cons,
      (isSuffix_of_chars first).1]
    rfl

lemma isOver_of_isBehind {rest : List Char} (behind : isBehind rest) : isOver rest := by
  rw [isBehind, Bool.and_eq_true] at behind
  exact behind.1

lemma length_pos_of_isWord {s : String} (word : isWord s) : 0 < s.toList.length := by
  obtain ⟨c, cs, e, -, -⟩ := exists_of_isWord word
  rw [e]
  exact Nat.succ_pos _

lemma length_le_marks (given : List String) : given.length ≤ (marks given).length := by
  induction given with
  | nil => exact Nat.le_refl 0
  | cons name given ih =>
    simp only [marks, List.flatMap_cons, List.length_append, List.length_cons] at ih ⊢
    omega

/-- No point is read where there is none. -/
lemma anchor_run {c : Char} (noPoint : c ≠ '.') (cs : List Char) :
    anchor ⟨c :: cs, known, noted⟩ = .ok false ⟨c :: cs, known, noted⟩ := by
  rw [anchor, bind_of_ok (peek_run ..), if_neg noPoint]
  rfl

mutual

/-- What was written is read as what it was written for. -/
theorem part_chars {known : List String} (noted : List Condition) : (w : Written) →
    w.isSound names.abstract.contains known → {fuel : Nat} → w.chars.length ≤ fuel →
    {rest : List Char} → isBehind rest →
    Gives (w.Known names) (Read.part names fuel ⟨w.chars ++ rest, known, noted⟩)
      (w.part rest.length) ⟨afterBlanks false rest, w.captures known, noted ++ w.conditions⟩
  | .node gap field kind below given, sound, fuel, enough, rest, behind => by
    simp only [isSound, Bool.and_eq_true, Bool.not_eq_true'] at sound
    obtain ⟨⟨⟨⟨⟨fieldWord, kindWord⟩, plain⟩, concrete⟩, sound⟩, words⟩ := sound
    have words : ∀ name ∈ given, isWord name := List.all_eq_true.1 words
    have more := length_pos_of_isWord kindWord
    have marked := length_le_marks given
    -- Without its field, the node is read in one step more than what is below it.
    have inner (fuel : Nat) (enough : (charsAll below).length + given.length + 2 ≤ fuel) :=
      part_node kindWord plain concrete words (Nat.le_trans (by omega) enough)
        (isOver_of_isBehind (isBehind_charsAll sound (marks given ++ rest))) (by simp) behind
        (belowOf_chars noted below sound (Nat.le_trans (by omega) enough) []
          (marks given ++ rest))
    cases field with
    | none =>
      have text : chars (.node gap none kind below given) ++ rest
          = '(' :: (kind.toList ++ (charsAll below ++ ')' :: (marks given ++ rest))) := by
        simp [chars, fieldChars]
      have length := congrArg List.length text
      simp only [List.length_append, List.length_cons] at length
      obtain ⟨fuel, rfl⟩ : ∃ n, fuel = n + 1 := ⟨fuel - 1, by omega⟩
      have read := (inner fuel (by omega)).congr
        (show _ ↔ Known names (.node gap none kind below given) by simp [Known])
      rw [← text] at read
      simpa [Written.part, pattern?, captures, conditions] using read
    | some field =>
      have text : chars (.node gap (some field) kind below given) ++ rest
          = field.toList ++ ':' :: ' ' ::
            '(' :: (kind.toList ++ (charsAll below ++ ')' :: (marks given ++ rest))) := by
        simp [chars, fieldChars]
      have length := congrArg List.length text
      simp only [List.length_append, List.length_cons] at length
      obtain ⟨fuel, rfl⟩ : ∃ n, fuel = n + 2 := ⟨fuel - 2, by omega⟩
      have read := (part_field fieldWord behind (inner fuel (by omega))).congr
        (show _ ↔ Known names (.node gap (some field) kind below given) by simp [Known])
      rw [← text] at read
      simpa [Written.part, pattern?, captures, conditions] using read
  | .equal gap capture value, sound, fuel, enough, rest, behind => by
    simp only [isSound, Bool.and_eq_true] at sound
    obtain ⟨⟨word, mem⟩, plain⟩ := sound
    obtain ⟨fuel, rfl⟩ : ∃ n, fuel = n + 4 := by
      refine ⟨fuel - 4, ?_⟩
      simp only [chars, equation, List.length_cons] at enough
      omega
    exact Gives.of_ok (part_equation word mem plain fuel rest)

/-- What was written below a node is read as what it was written for. -/
theorem belowOf_chars {known : List String} (noted : List Condition) : (ws : List Written) →
    areSound names.abstract.contains known ws → {fuel : Nat} → (charsAll ws).length + 2 ≤ fuel →
    (acc : List Pattern) → (rest : List Char) →
    Gives (KnownAll names ws)
      (belowOf names fuel acc [] ⟨afterBlanks false (charsAll ws ++ ')' :: rest), known, noted⟩)
      (acc.reverse ++ patterns (rest.length + 1) ws, [])
      ⟨rest, capturesAll known ws, noted ++ conditionsAll ws⟩
  | [], sound, fuel, enough, acc, rest => by
    -- One step finds the closing bracket, and one more reads it.
    obtain ⟨fuel, rfl⟩ : ∃ n, fuel = n + 2 := ⟨fuel - 2, by omega⟩
    refine Gives.of_ok ?_
    rw [charsAll, List.nil_append, afterBlanks_cons rfl (by decide), belowOf,
      bind_of_ok (peek_run ..), if_neg (by decide), bind_of_ok (anchor_run (by decide) rest),
      bind_of_ok (part_closing fuel rest)]
    dsimp only
    rw [bind_of_ok (peek_run ..), patterns, conditionsAll, List.append_nil, List.append_nil]
    rfl
  | w :: ws, sound, fuel, enough, acc, rest => by
    simp only [areSound, Bool.and_eq_true, Bool.not_eq_true'] at sound
    obtain ⟨⟨⟨more, blank⟩, sound⟩, sounds⟩ := sound
    obtain ⟨c, cs, e, first⟩ := exists_chars sound
    obtain ⟨-, noMark, noPoint⟩ := isSuffix_of_chars first
    obtain ⟨fuel, rfl⟩ : ∃ n, fuel = n + 1 := ⟨fuel - 1, by omega⟩
    have begins : w.chars ++ (charsAll ws ++ ')' :: rest)
        = c :: (cs ++ (charsAll ws ++ ')' :: rest)) := by
      rw [e, List.cons_append]
    rw [charsAll, List.append_assoc, afterBlanks_append blank, List.append_assoc,
      afterBlanks_chars sound, begins, belowOf,
      bind_of_ok (peek_run ..), if_neg noMark, bind_of_ok (anchor_run noPoint _), ← begins]
    rw [charsAll, List.length_append, List.length_append] at enough
    have gap : 0 < w.gap.toList.length := by
      rw [List.length_pos_iff, ne_eq, String.toList_eq_nil_iff]
      rintro none
      rw [none] at more
      cases more
    have enoughBehind : (charsAll ws).length + 2 ≤ fuel := by omega
    -- What is read of the first leaves the others behind it, with its captures and conditions.
    refine (part_chars noted w sound (by omega) (isBehind_charsAll sounds rest)).bind ?_
    have length : (charsAll ws ++ ')' :: rest).length
        = (charsAll ws).length + (rest.length + 1) := by
      simp
    rw [patterns, capturesAll, conditionsAll, Written.part, length, ← List.append_assoc noted]
    cases w.pattern? ((charsAll ws).length + (rest.length + 1)) with
    | none => exact belowOf_chars (noted ++ w.conditions) ws sounds enoughBehind acc rest
    | some p =>
      have tail := belowOf_chars (noted ++ w.conditions) ws sounds enoughBehind (p :: acc) rest
      rw [List.reverse_cons, List.append_assoc] at tail
      exact tail

end

/-- A text that holds one written node and blanks is read as one clause, if the grammar knows the
kinds and the fields, and is at fault otherwise. -/
theorem readClauses_chars {w : Written} (sound : w.isSound names.abstract.contains [])
    {before after : List Char} (blankBefore : before.all isBlank) (blankAfter : after.all isBlank)
    {p : Pattern} (isNode : w.pattern? after.length = some p) :
    (w.Known names → readClauses names (before ++ (w.chars ++ after))
      = .ok [⟨[p], w.conditions, (w.chars ++ after).length⟩])
    ∧ (¬w.Known names → ∃ e, readClauses names (before ++ (w.chars ++ after)) = .error e) := by
  have rest : afterBlanks false after = [] := by
    rw [← List.append_nil after, afterBlanks_append blankAfter, afterBlanks_nil]
  have behind : isBehind after := by
    rw [isBehind, rest]
    cases after with
    | nil => rfl
    | cons c cs =>
      rw [← List.append_nil (c :: cs), isOver_gap (List.cons_ne_nil c cs) blankAfter]
      rfl
  have shape : ∃ shape below, p = .node shape below := by
    cases w with
    | node gap field kind below given =>
      simp only [pattern?, Option.some.injEq] at isNode
      exact ⟨_, _, isNode.symm⟩
    | equal => cases isNode
  obtain ⟨shape, below, rfl⟩ := shape
  have more : (w.chars ++ after).isEmpty = false := by
    obtain ⟨c, cs, e, -⟩ := exists_chars sound
    rw [e]
    rfl
  have enough : w.chars.length ≤ 2 * (before ++ (w.chars ++ after)).length + 1 := by
    simp only [List.length_append]
    omega
  have read := part_chars [] w sound enough behind
  rw [rest, Written.part, isNode] at read
  have nothing (fuel : Nat) (acc : List Clause) (known : List String) (noted : List Condition) :
      clauses names fuel acc ⟨[], known, noted⟩ = .ok acc.reverse ⟨[], known, noted⟩ := by
    cases fuel with
    | zero => rfl
    | succ fuel =>
      rw [clauses, bind_of_ok (blanks_run ..), afterBlanks_nil]
      rfl
  have whole : Gives (w.Known names)
      (clauses names (2 * (before ++ (w.chars ++ after)).length + 2) []
        ⟨before ++ (w.chars ++ after), [], []⟩)
      [⟨[.node shape below], w.conditions, (w.chars ++ after).length⟩]
      ⟨[], w.captures [], w.conditions⟩ := by
    rw [clauses, bind_of_ok (blanks_run ..), afterBlanks_append blankBefore,
      afterBlanks_chars sound, bind_of_ok (get_run _)]
    dsimp only
    rw [more, if_neg Bool.false_ne_true, bind_of_ok (modify_run ..)]
    refine (read.bind (Gives.of_ok ?_)).congr (and_true _).to_iff
    exact nothing ..
  constructor
  · intro known
    rw [readClauses, EStateM.run, whole.1 known]
  · intro unknown
    obtain ⟨fault, t, e⟩ := whole.2 unknown
    refine ⟨(fault, t.rest.length), ?_⟩
    rw [readClauses, EStateM.run, e]

end Reading

end Written

end RouteAtlas.Query
