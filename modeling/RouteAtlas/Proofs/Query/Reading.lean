import Mathlib.Tactic.FinCases
import Mathlib.Tactic.IntervalCases
import Mathlib.Tactic.Lemma
import RouteAtlas.Query.Basic

/-!
# Reading what was written

A reader *gives* a value if it does so whenever the names of the grammar allow it, and reports a
fault otherwise (`Gives`). The small readers give the words, names and texts that stand at the
beginning of the rest.
-/

namespace RouteAtlas.Query.Read

/-- The result is the value and the state if `known`, and a fault otherwise. -/
def Gives {α : Type} (known : Prop) (result : EStateM.Result Fault ReaderState α) (a : α)
    (s : ReaderState) : Prop :=
  (known → result = .ok a s) ∧ (¬known → ∃ fault t, result = .error fault t)

section Steps
variable {α β : Type} {m : Read α} {f : α → Read β} {s t : ReaderState} {a : α}

lemma bind_of_ok (e : m s = .ok a t) : (m >>= f) s = f a t := by
  show EStateM.bind m f s = f a t
  rw [EStateM.bind, e]

lemma bind_of_error {fault : Fault} (e : m s = .error fault t) :
    (m >>= f) s = .error fault t := by
  show EStateM.bind m f s = .error fault t
  rw [EStateM.bind, e]

lemma get_run (s : ReaderState) : (get : Read ReaderState) s = .ok s s := rfl

lemma modify_run (g : ReaderState → ReaderState) (s : ReaderState) :
    (modify g : Read Unit) s = .ok () (g s) := rfl

lemma peek_run (c : Char) (cs : List Char) (captures : List String)
    (conditions : List Condition) :
    peek ⟨c :: cs, captures, conditions⟩ = .ok c ⟨c :: cs, captures, conditions⟩ := rfl

lemma skip_run (c : Char) (cs : List Char) (captures : List String)
    (conditions : List Condition) :
    skip ⟨c :: cs, captures, conditions⟩ = .ok () ⟨cs, captures, conditions⟩ := rfl

lemma blanks_run (cs : List Char) (captures : List String) (conditions : List Condition) :
    blanks ⟨cs, captures, conditions⟩ = .ok () ⟨afterBlanks false cs, captures, conditions⟩ := rfl

lemma Gives.of_ok {r : EStateM.Result Fault ReaderState α} (e : r = .ok a s) : Gives True r a s :=
  ⟨fun _ => e, fun h => absurd trivial h⟩

/-- What is read in two steps. -/
lemma Gives.bind {known known' : Prop} {b : β} {u : ReaderState} (first : Gives known (m s) a t)
    (second : Gives known' (f a t) b u) : Gives (known ∧ known') ((m >>= f) s) b u := by
  constructor
  · rintro ⟨k, k'⟩
    rw [bind_of_ok (first.1 k)]
    exact second.1 k'
  · intro unknown
    by_cases k : known
    · obtain ⟨fault, v, e⟩ := second.2 fun k' => unknown ⟨k, k'⟩
      exact ⟨fault, v, by rw [bind_of_ok (first.1 k), e]⟩
    · obtain ⟨fault, v, e⟩ := first.2 k
      exact ⟨fault, v, bind_of_error e⟩

lemma Gives.congr {known known' : Prop} {r : EStateM.Result Fault ReaderState α}
    (g : Gives known r a s) (same : known ↔ known') : Gives known' r a s := by
  rw [Gives, ← same]
  exact g

end Steps

/-! ## Blanks and words -/

@[simp] lemma afterBlanks_nil (inComment : Bool) : afterBlanks inComment [] = [] := by
  rw [afterBlanks]

/-- Blanks are passed over. -/
lemma afterBlanks_append {gap : List Char} (blank : gap.all isBlank) (rest : List Char) :
    afterBlanks false (gap ++ rest) = afterBlanks false rest := by
  induction gap with
  | nil => rfl
  | cons c gap ih =>
    simp only [List.all_cons, Bool.and_eq_true] at blank
    rw [List.cons_append, afterBlanks]
    simp [blank.1, ih blank.2]

/-- Blanks end before any other character that begins no comment. -/
lemma afterBlanks_cons {c : Char} (visible : isBlank c = false) (noComment : c ≠ ';')
    (rest : List Char) : afterBlanks false (c :: rest) = c :: rest := by
  rw [afterBlanks]
  simp [visible, noComment]

/-- There are no blanks behind blanks. -/
lemma afterBlanks_afterBlanks (inComment : Bool) (cs : List Char) :
    afterBlanks false (afterBlanks inComment cs) = afterBlanks inComment cs := by
  fun_induction afterBlanks inComment cs <;> simp_all [afterBlanks]

lemma afterBlanks_space (rest : List Char) :
    afterBlanks false (' ' :: rest) = afterBlanks false rest :=
  afterBlanks_append (by decide : [' '].all isBlank) rest

/-- Whether a text is a word: the name of a kind, a field or a capture. -/
def isWord (s : String) : Bool :=
  match s.toList with
  | [] => false
  | c :: cs => startsName c && cs.all continuesName

lemma exists_of_isWord {s : String} (word : isWord s) :
    ∃ c cs, s.toList = c :: cs ∧ startsName c = true ∧ cs.all continuesName = true := by
  unfold isWord at word
  split at word
  · cases word
  · rename_i c cs e
    exact ⟨c, cs, e, by simpa using word⟩

/-- The blanks are the space and the control characters that move on. -/
lemma mem_of_isBlank {c : Char} (blank : isBlank c) :
    c ∈ [' ', '\t', '\n', '\x0b', '\x0c', '\r'] := by
  simp only [isBlank, Bool.or_eq_true, decide_eq_true_eq, Bool.and_eq_true] at blank
  rcases blank with rfl | ⟨least, most⟩
  · decide
  · have e : c = Char.ofNat c.toNat := (Char.ofNat_toNat c).symm
    rw [e]
    interval_cases c.toNat <;> decide

/-- A name begins with no blank and no comment. -/
lemma visible_of_startsName {c : Char} (starts : startsName c) : isBlank c = false ∧ c ≠ ';' := by
  constructor
  · rw [← Bool.not_eq_true]
    intro blank
    have mem := mem_of_isBlank blank
    revert starts
    fin_cases mem <;> decide
  · rintro rfl
    exact absurd starts (by decide)

lemma ne_of_startsName {c d : Char} (starts : startsName c) (other : startsName d = false) :
    c ≠ d := by
  rintro rfl
  rw [starts] at other
  cases other

/-- Whether a text is over, or goes on with a blank or a closing bracket. -/
def isOver (rest : List Char) : Bool := rest.head?.all fun c => isBlank c || c = ')'

/-- A text that is over goes on with no name. -/
lemma head_of_isOver {rest : List Char} (ended : isOver rest) :
    continuesName (rest.headD '\x00') = false ∧ rest.headD '\x00' ≠ '/' := by
  cases rest with
  | nil => decide
  | cons c cs =>
    simp only [isOver, List.head?_cons, Option.all_some, Bool.or_eq_true,
      decide_eq_true_eq] at ended
    rw [List.headD_cons]
    rcases ended with blank | rfl
    · have mem := mem_of_isBlank blank
      fin_cases mem <;> decide
    · decide

/-- The word that a text begins with is read. -/
lemma name_word {word : String} (isWord : isWord word) {rest : List Char}
    (ends : continuesName (rest.headD '\x00') = false) (captures : List String)
    (conditions : List Condition) :
    name ⟨word.toList ++ rest, captures, conditions⟩ = .ok word ⟨rest, captures, conditions⟩ := by
  obtain ⟨c, cs, e, -, continues⟩ := exists_of_isWord isWord
  have stop : rest.takeWhile continuesName = [] := by
    cases rest with
    | nil => rfl
    | cons d ds =>
      rw [List.takeWhile_cons_of_neg]
      simpa using ends
  have taken : (cs ++ rest).takeWhile continuesName = cs := by
    rw [List.takeWhile_append_of_pos (by simpa using continues), stop, List.append_nil]
  have whole : String.ofList (c :: cs) = word := by rw [← e, String.ofList_toList]
  have step : name ⟨word.toList ++ rest, captures, conditions⟩
      = .ok (String.ofList (c :: (cs ++ rest).takeWhile continuesName))
        ⟨(c :: (cs ++ rest)).drop (c :: (cs ++ rest).takeWhile continuesName).length, captures,
          conditions⟩ := by
    rw [e]
    rfl
  rw [step, taken, whole, ← List.cons_append, List.drop_left]

/-- What is read of a word is its first character, and then the word. -/
lemma peek_word {word : String} (isWord : isWord word) (rest : List Char) (captures : List String)
    (conditions : List Condition) :
    ∃ c, startsName c = true ∧ peek ⟨word.toList ++ rest, captures, conditions⟩
      = .ok c ⟨word.toList ++ rest, captures, conditions⟩ := by
  obtain ⟨c, cs, e, starts, -⟩ := exists_of_isWord isWord
  rw [e]
  exact ⟨c, starts, rfl⟩

/-- Whether a text needs no escape between quotation marks. -/
def isPlainText (s : String) : Bool := s.toList.all fun c => c ≠ '"' && c ≠ '\\' && c ≠ '\n'

/-- A text between quotation marks that needs no escape is read as it is. -/
lemma quotedTail_plain {text : List Char}
    (plain : text.all fun c => c ≠ '"' && c ≠ '\\' && c ≠ '\n') (rest : List Char) :
    quotedTail (text ++ '"' :: rest) = some (text, rest) := by
  induction text with
  | nil => rfl
  | cons c text ih =>
    simp only [List.all_cons, Bool.and_eq_true, ne_eq, decide_not, Bool.not_eq_eq_eq_not,
      Bool.not_true, decide_eq_false_iff_not] at plain
    obtain ⟨⟨⟨quote, escape⟩, line⟩, plain⟩ := plain
    rw [List.cons_append, quotedTail]
    · rw [ih (by simpa using plain)]
      rfl
    · exact fun h => quote h
    · exact fun h => line h
    · rintro _ _ h -
      exact escape h
    · rintro h -
      exact escape h

/-! ## Kinds, captures and conditions -/

section Marks
variable (captures : List String) (conditions : List Condition)

/-- Whether a word is a kind of its own: no wildcard, and no beginning of a word with a meaning. -/
def isPlainKind (kind : String) : Bool :=
  kind ≠ "_" && !isBeginningOf "MISSING" kind && !isBeginningOf "ERROR" kind

/-- A plain kind is read if the grammar knows it. -/
lemma nodeTest_kind {names : Names} {kind : String} (word : isWord kind) (plain : isPlainKind kind)
    (concrete : names.abstract.contains kind = false) {c : Char} {rest : List Char}
    (ended : isOver (c :: rest)) :
    Gives (names.kinds.contains kind = true)
      (nodeTest names ⟨kind.toList ++ c :: rest, captures, conditions⟩) (.kind kind true)
      ⟨c :: rest, captures, conditions⟩ := by
  simp only [isPlainKind, Bool.and_eq_true, decide_eq_true_eq, Bool.not_eq_true'] at plain
  obtain ⟨⟨wild, missing⟩, error⟩ := plain
  obtain ⟨d, starts, peeked⟩ := peek_word word (c :: rest) captures conditions
  have named := name_word word (head_of_isOver ended).1 captures conditions
  have slash : c ≠ '/' := (head_of_isOver ended).2
  rw [nodeTest, bind_of_ok (get_run _), bind_of_ok peeked, starts, if_neg (by decide)]
  beta_reduce
  rw [bind_of_ok named, if_neg wild, missing, if_neg (by decide), kindTest?, error, concrete]
  constructor
  · intro known
    simp only [known, Bool.false_eq_true, if_false, if_true]
    exact congrFun (if_neg slash) _
  · intro unknown
    simp only [unknown, Bool.false_eq_true, if_false]
    exact ⟨_, _, rfl⟩

/-- Whether the character says how often the pattern before it occurs, or names its node. -/
def isSuffix (c : Char) : Bool := c = '+' || c = '*' || c = '?' || c = '@'

/-- Whether a text is over, and no suffix follows its blanks. -/
def isBehind (rest : List Char) : Bool :=
  isOver rest && !isSuffix ((afterBlanks false rest).headD '\x00')

/-- The written form of names that are given to a node. -/
def marks (given : List String) : List Char := given.flatMap fun name => ' ' :: '@' :: name.toList

/-- Names with a further one, unless it is among them. -/
def addName (names : List String) (name : String) : List String :=
  if names.contains name then names else names ++ [name]

lemma isOver_marks {given : List String} {rest : List Char} (ended : isOver rest) :
    isOver (marks given ++ rest) := by
  cases given with
  | nil => exact ended
  | cons name given => rfl

/-- A pattern without suffixes is read as it is. -/
lemma suffixes_none (fuel : Nat) (p : Pattern) {rest : List Char}
    (behind : isSuffix (rest.headD '\x00') = false) :
    suffixes fuel p ⟨rest, captures, conditions⟩ = .ok p ⟨rest, captures, conditions⟩ := by
  cases fuel with
  | zero => rfl
  | succ fuel =>
    simp only [isSuffix, Bool.or_eq_false_iff, decide_eq_false_iff_not] at behind
    obtain ⟨⟨⟨plus, star⟩, question⟩, mark⟩ := behind
    have peeked : peek ⟨rest, captures, conditions⟩
        = .ok (rest.headD '\x00') ⟨rest, captures, conditions⟩ := rfl
    rw [suffixes, bind_of_ok peeked, if_neg plus, if_neg star, if_neg question, if_neg mark]
    rfl

/-- A name behind a pattern is given to its node. -/
lemma suffixes_mark {name : String} (word : isWord name) (fuel : Nat) (p : Pattern)
    {rest : List Char} (ended : isOver rest) :
    suffixes (fuel + 1) p ⟨'@' :: (name.toList ++ rest), captures, conditions⟩
      = suffixes fuel (p.capture name)
        ⟨afterBlanks false rest, addName captures name, conditions⟩ := by
  obtain ⟨c, starts, peeked⟩ := peek_word word rest captures conditions
  have named := name_word word (head_of_isOver ended).1 captures conditions
  rw [suffixes, bind_of_ok (peek_run ..), if_neg (by decide), if_neg (by decide),
    if_neg (by decide), if_pos rfl, bind_of_ok (skip_run ..), bind_of_ok peeked, starts,
    if_neg (by decide)]
  beta_reduce
  rw [bind_of_ok named, bind_of_ok (blanks_run ..), bind_of_ok (modify_run ..)]
  rfl

/-- The names behind a pattern are given to its node. -/
lemma suffixes_marks {given : List String} (words : ∀ name ∈ given, isWord name) {fuel : Nat}
    (enough : given.length ≤ fuel) (p : Pattern) {rest : List Char} (behind : isBehind rest) :
    suffixes fuel p ⟨afterBlanks false (marks given ++ rest), captures, conditions⟩
      = .ok (given.foldl (fun p name => p.capture name) p)
        ⟨afterBlanks false rest, given.foldl addName captures, conditions⟩ := by
  simp only [isBehind, Bool.and_eq_true, Bool.not_eq_true'] at behind
  -- Each name is read with the blanks behind it, and uses up one step.
  induction given generalizing fuel p captures with
  | nil => exact suffixes_none captures conditions fuel p behind.2
  | cons name given ih =>
    cases fuel with
    | zero => cases enough
    | succ fuel =>
      have text : afterBlanks false (marks (name :: given) ++ rest)
          = '@' :: (name.toList ++ (marks given ++ rest)) := by
        simp only [marks, List.flatMap_cons, List.cons_append, List.append_assoc]
        exact (afterBlanks_space _).trans (afterBlanks_cons rfl (by decide) _)
      rw [text, suffixes_mark captures conditions (words name List.mem_cons_self) fuel p
        (isOver_marks behind.1)]
      exact ih _ (fun x mem => words x (List.mem_cons_of_mem name mem))
        (Nat.le_of_succ_le_succ enough) _

/-- The written form of the condition that a captured text is the given one. -/
def equation (capture value : String) : List Char :=
  'e' :: 'q' :: '?' :: ' ' :: '@' ::
    (capture.toList ++ ' ' :: '"' :: (value.toList ++ ['"', ')']))

/-- A capture among the arguments of a condition is read. -/
lemma arguments_capture {capture : String} (word : isWord capture)
    (known : captures.contains capture) (fuel : Nat) (acc : List Argument) {rest : List Char}
    (ended : isOver rest) :
    arguments (fuel + 1) acc ⟨'@' :: (capture.toList ++ rest), captures, conditions⟩
      = arguments fuel (.capture capture :: acc)
        ⟨afterBlanks false rest, captures, conditions⟩ := by
  obtain ⟨c, starts, peeked⟩ := peek_word word rest captures conditions
  have named := name_word word (head_of_isOver ended).1 captures conditions
  rw [arguments, bind_of_ok (peek_run ..), if_neg (by decide), if_pos rfl,
    bind_of_ok (skip_run ..), bind_of_ok peeked, starts, if_neg (by decide)]
  beta_reduce
  rw [bind_of_ok (get_run _), bind_of_ok named, bind_of_ok (get_run _), if_pos known]
  rfl

/-- A text among the arguments of a condition is read. -/
lemma arguments_text {value : String} (plain : isPlainText value) (fuel : Nat)
    (acc : List Argument) (rest : List Char) :
    arguments (fuel + 1) acc ⟨'"' :: (value.toList ++ '"' :: rest), captures, conditions⟩
      = arguments fuel (.text value :: acc) ⟨afterBlanks false rest, captures, conditions⟩ := by
  have text : quoted ⟨'"' :: (value.toList ++ '"' :: rest), captures, conditions⟩
      = .ok value ⟨rest, captures, conditions⟩ := by
    rw [quoted, bind_of_ok (get_run _), List.tail_cons, quotedTail_plain plain]
    simp only [String.ofList_toList]
    rfl
  rw [arguments, bind_of_ok (peek_run ..), if_neg (by decide), if_neg (by decide), if_pos rfl,
    bind_of_ok text]
  rfl

/-- The condition that a captured text is the given one is read. -/
lemma condition_equation {capture value : String} (word : isWord capture)
    (known : captures.contains capture) (plain : isPlainText value) (fuel : Nat)
    (rest : List Char) :
    condition (fuel + 3) ⟨equation capture value ++ rest, captures, conditions⟩
      = .ok () ⟨afterBlanks false rest, captures,
        conditions ++ [⟨"eq?", [.capture capture, .text value]⟩]⟩ := by
  have read : arguments (fuel + 3) [] ⟨'@' :: (capture.toList ++
        ' ' :: '"' :: (value.toList ++ '"' :: ')' :: rest)), captures, conditions⟩
      = .ok [.capture capture, .text value] ⟨afterBlanks false rest, captures, conditions⟩ := by
    rw [arguments_capture captures conditions word known (fuel + 2) [] rfl, afterBlanks_space,
      afterBlanks_cons rfl (by decide), arguments_text captures conditions plain (fuel + 1),
      afterBlanks_cons rfl (by decide), arguments, bind_of_ok (peek_run ..), if_pos rfl]
    rfl
  have step (cs : List Char) :
      condition (fuel + 3) ⟨'e' :: 'q' :: '?' :: cs, captures, conditions⟩
      = (do
        let arguments ← arguments (fuel + 3) []
        modify fun s => { s with conditions := s.conditions ++ [⟨"eq?", arguments⟩] } : Read Unit)
        ⟨afterBlanks false cs, captures, conditions⟩ := rfl
  have text : equation capture value ++ rest = 'e' :: 'q' :: '?' :: ' ' :: '@' ::
      (capture.toList ++ ' ' :: '"' :: (value.toList ++ '"' :: ')' :: rest)) := by
    simp [equation]
  rw [text, step, afterBlanks_space, afterBlanks_cons rfl (by decide), bind_of_ok read]
  rfl

end Marks

end RouteAtlas.Query.Read
