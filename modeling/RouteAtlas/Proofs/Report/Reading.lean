import Mathlib.Tactic.Lemma
import Mathlib.Tactic.SplitIfs
import RouteAtlas.Proofs.Text.Literals
import RouteAtlas.Report.Json

/-!
# Reading JSON

`Json.read?` reads the JSON texts of structured values, whatever their layout, and refuses all other
texts. A lexer takes the characters one after another and a parser the tokens that they form. There
is no structured value for null, nor for a number below zero, with a fraction or with an exponent,
so the texts of these are refused as well.

The text that is written for a value is read back as the value (`Json.read?_render`).
-/

namespace RouteAtlas.Report.Json

open Text.Literal (hexDigit? hexNumber?)

/-! ## Tokens -/

/-- The pieces of a text. -/
inductive Token where
  | openList
  | closeList
  | openRecord
  | closeRecord
  | comma
  | colon
  | bool (b : Bool)
  | nat (n : Nat)
  | text (s : String)
deriving DecidableEq, Repr

/-- The token of a single character. -/
def Token.ofMark? : Char → Option Token
  | '[' => some .openList
  | ']' => some .closeList
  | '\x7b' => some .openRecord
  | '\x7d' => some .closeRecord
  | ',' => some .comma
  | ':' => some .colon
  | _ => none

/-- The token of letters and digits. No zero stands in front of other digits. -/
def Token.ofPlain? (chars : List Char) : Option Token :=
  if chars.all Char.isDigit then
    if chars.head? = some '0' ∧ chars ≠ ['0'] then none
    else some (.nat (Nat.ofDigitChars 10 chars 0))
  else if chars = ['t', 'r', 'u', 'e'] then some (.bool true)
  else if chars = ['f', 'a', 'l', 's', 'e'] then some (.bool false)
  else none

/-- The blank characters. -/
def blanks : List Char := [' ', '\t', '\n', '\r']

/-- The character that another one stands for behind a backslash. -/
def shortEscape? : Char → Option Char
  | '"' => some '"'
  | '\\' => some '\\'
  | '/' => some '/'
  | 'b' => some '\x08'
  | 'f' => some '\x0c'
  | 'n' => some '\n'
  | 'r' => some '\r'
  | 't' => some '\t'
  | _ => none

/-- What a lexer is in the middle of. Inside a string it knows the characters so far, and the first
half of a character that is written as two 16-bit units. -/
inductive Lexer.Place where
  | between
  /-- Letters and digits. -/
  | plain (chars : List Char)
  | string (chars : List Char) (half : Option Nat)
  | escape (chars : List Char) (half : Option Nat)
  | unit (chars : List Char) (half : Option Nat) (digits : List Char)
deriving DecidableEq, Repr

/-- How far a lexer has come. -/
structure Lexer where
  tokens : List Token := []
  place : Lexer.Place := .between
deriving DecidableEq, Repr

namespace Lexer

/-- Reads a character that stands between tokens. -/
def begin (tokens : List Token) (c : Char) : Option Lexer :=
  if c.isAlphanum then some ⟨tokens, .plain [c]⟩
  else if c ∈ blanks then some ⟨tokens, .between⟩
  else if c = '"' then some ⟨tokens, .string [] none⟩
  else (Token.ofMark? c).map fun token => ⟨tokens ++ [token], .between⟩

/-- The tokens, if the last one ends here. -/
def complete (l : Lexer) : Option (List Token) :=
  match l.place with
  | .between => some l.tokens
  | .plain chars => (Token.ofPlain? chars).map (l.tokens ++ [·])
  | _ => none

/-- The place behind a unit of a string. A unit is a character or half of one. -/
def Place.ofUnit? (chars : List Char) (half : Option Nat) (n : Nat) : Option Place :=
  match half with
  | none =>
    if 0xD800 ≤ n ∧ n < 0xDC00 then some (.string chars (some n))
    else if 0xDC00 ≤ n ∧ n < 0xE000 then none
    else some (.string (chars ++ [Char.ofNat n]) none)
  | some first =>
    if 0xDC00 ≤ n ∧ n < 0xE000 then
      let char := Char.ofNat (0x10000 + 0x400 * (first - 0xD800) + (n - 0xDC00))
      some (.string (chars ++ [char]) none)
    else none

/-- Reads a character. Control characters do not stand in a string, and no half of a character
stands alone. -/
def step (l : Lexer) (c : Char) : Option Lexer :=
  match l.place with
  | .between => begin l.tokens c
  | .plain chars =>
    if c.isAlphanum then some ⟨l.tokens, .plain (chars ++ [c])⟩ else l.complete.bind (begin · c)
  | .string chars half =>
    if c = '\\' then some ⟨l.tokens, .escape chars half⟩
    else if half.isSome ∨ c.toNat < 0x20 then none
    else if c = '"' then some ⟨l.tokens ++ [.text (.ofList chars)], .between⟩
    else some ⟨l.tokens, .string (chars ++ [c]) none⟩
  | .escape chars half =>
    if c = 'u' then some ⟨l.tokens, .unit chars half []⟩
    else if half.isSome then none
    else (shortEscape? c).map fun d => ⟨l.tokens, .string (chars ++ [d]) none⟩
  | .unit chars half digits =>
    if digits.length < 3 then some ⟨l.tokens, .unit chars half (digits ++ [c])⟩
    else ((hexNumber? (digits ++ [c])).bind (Place.ofUnit? chars half)).map (⟨l.tokens, ·⟩)

/-- Reads characters. -/
def run (l : Lexer) (cs : List Char) : Option Lexer := cs.foldlM step l

end Lexer

/-- The tokens of a text. -/
def tokens? (text : String) : Option (List Token) :=
  (Lexer.run {} text.toList).bind Lexer.complete

/-! ## Values -/

/-- What lies around a value that is being read: what stands before it in a list, or in a record
that holds it under a name. -/
inductive Frame where
  | item (before : List Value)
  | field (before : List (String × Value)) (name : String)

/-- What a parser waits for. -/
inductive Parser.Stage where
  /-- A value. -/
  | value
  /-- The first item of a list, or its end. -/
  | itemOrEnd
  /-- The first name of a record, or its end. -/
  | nameOrEnd
  /-- The name of a further field. -/
  | name (before : List (String × Value))
  /-- The colon behind a name. -/
  | colon (before : List (String × Value)) (name : String)
  /-- What follows a value. -/
  | behind (v : Value)

/-- How far a parser has come. -/
structure Parser where
  /-- What lies around, from the inside. -/
  frames : List Frame := []
  stage : Parser.Stage := .value

namespace Parser

/-- Reads the first token of a value. -/
def begin (frames : List Frame) : Token → Option Parser
  | .bool b => some ⟨frames, .behind (.bool b)⟩
  | .nat n => some ⟨frames, .behind (.nat n)⟩
  | .text s => some ⟨frames, .behind (.text s)⟩
  | .openList => some ⟨frames, .itemOrEnd⟩
  | .openRecord => some ⟨frames, .nameOrEnd⟩
  | _ => none

/-- Reads the token behind a value. -/
def resume (frames : List Frame) (v : Value) (token : Token) : Option Parser :=
  match frames, token with
  | .item before :: outer, .comma => some ⟨.item (before ++ [v]) :: outer, .value⟩
  | .item before :: outer, .closeList => some ⟨outer, .behind (.list (before ++ [v]))⟩
  | .field before name :: outer, .comma => some ⟨outer, .name (before ++ [(name, v)])⟩
  | .field before name :: outer, .closeRecord =>
    some ⟨outer, .behind (.record (before ++ [(name, v)]))⟩
  | _, _ => none

/-- Reads a token. -/
def step (p : Parser) (token : Token) : Option Parser :=
  match p.stage, token with
  | .value, token => begin p.frames token
  | .itemOrEnd, .closeList => some ⟨p.frames, .behind (.list [])⟩
  | .itemOrEnd, token => begin (.item [] :: p.frames) token
  | .nameOrEnd, .closeRecord => some ⟨p.frames, .behind (.record [])⟩
  | .nameOrEnd, .text name => some ⟨p.frames, .colon [] name⟩
  | .name before, .text name => some ⟨p.frames, .colon before name⟩
  | .colon before name, .colon => some ⟨.field before name :: p.frames, .value⟩
  | .behind v, token => resume p.frames v token
  | _, _ => none

/-- Reads tokens. -/
def run (p : Parser) (tokens : List Token) : Option Parser := tokens.foldlM step p

/-- The value that was read, if it ends here. -/
def complete : Parser → Option Value
  | ⟨[], .behind v⟩ => some v
  | _ => none

end Parser

/-- The value of a JSON text. -/
def read? (text : String) : Option Value :=
  (tokens? text).bind fun tokens => (Parser.run {} tokens).bind Parser.complete

example : read? " [1,\t\x7b\"a\\u0041\":\"\\ud83d\\ude00\"\x7d ]\n"
    = some (.list [.nat 1, .record [("aA", .text "😀")]]) := by
  rfl

example : ["[1,]", "[01]", "[1] 2", "[\"a\" \"b\"]", "\"\n\"", "\"\\ud800\"",
    "\x7b\"a\": 1,\x7d"].all fun text => (read? text).isNone := by
  decide +kernel

/-! ## The tokens of what is written -/

mutual

/-- The tokens that a value is written with. -/
def tokensOf : Value → List Token
  | .bool b => [.bool b]
  | .nat n => [.nat n]
  | .text s => [.text s]
  | .list [] => [.openList, .closeList]
  | .list (v :: vs) => .openList :: tokensOf v ++ tokensOfItems vs ++ [.closeList]
  | .record [] => [.openRecord, .closeRecord]
  | .record ((k, v) :: fs) =>
    .openRecord :: .text k :: .colon :: tokensOf v ++ tokensOfFields fs ++ [.closeRecord]

/-- The tokens of the items behind the first of a list. -/
def tokensOfItems : List Value → List Token
  | [] => []
  | v :: vs => .comma :: tokensOf v ++ tokensOfItems vs

/-- The tokens of the fields behind the first of a record. -/
def tokensOfFields : List (String × Value) → List Token
  | [] => []
  | (k, v) :: fs => .comma :: .text k :: .colon :: tokensOf v ++ tokensOfFields fs

end

/-! ## Reading the tokens -/

namespace Lexer
variable {tokens : List Token}

lemma run_cons (l : Lexer) (c : Char) (cs : List Char) :
    l.run (c :: cs) = (l.step c).bind (·.run cs) := List.foldlM_cons

lemma run_append (l : Lexer) (cs ds : List Char) :
    l.run (cs ++ ds) = (l.run cs).bind (·.run ds) := List.foldlM_append

/-- Digits that are those of a character are the character, if it is one of the first. -/
lemma hexNumber?_control {n : Nat} (control : n < 0x20) :
    hexNumber? ['0', '0', hexDigit (n / 16), hexDigit (n % 16)] = some n := by
  revert n
  decide

/-- What is written for a character inside a string is read as the character. -/
lemma run_escape (chars : List Char) (c : Char) :
    (⟨tokens, .string chars none⟩ : Lexer).run (escape c)
      = some ⟨tokens, .string (chars ++ [c]) none⟩ := by
  unfold escape
  split_ifs with quote backslash feed ret tab back form control
  · rw [quote]; rfl
  · rw [backslash]; rfl
  · rw [feed]; rfl
  · rw [ret]; rfl
  · rw [tab]; rfl
  · rw [back]; rfl
  · rw [form]; rfl
  · have unit : Place.ofUnit? chars none c.toNat = some (.string (chars ++ [c]) none) := by
      rw [Place.ofUnit?, if_neg (by omega), if_neg (by omega), Char.ofNat_toNat]
    have digits := hexNumber?_control control
    simp [run, step, digits, unit]
  · have char : step ⟨tokens, .string chars none⟩ c
        = some ⟨tokens, .string (chars ++ [c]) none⟩ := by
      simp [step, quote, backslash, control]
    rw [run_cons, char]
    rfl

/-- What is written between the quotes of a text is read as the text. -/
lemma run_flatMap_escape (chars cs : List Char) :
    (⟨tokens, .string chars none⟩ : Lexer).run (cs.flatMap escape)
      = some ⟨tokens, .string (chars ++ cs) none⟩ := by
  induction cs generalizing chars with
  | nil => rw [List.append_nil]; rfl
  | cons c cs ih =>
    rw [List.flatMap_cons, run_append, run_escape, Option.bind_some, ih, List.append_assoc]
    rfl

lemma run_plain (chars more : List Char) (all : ∀ c ∈ more, c.isAlphanum = true) :
    (⟨tokens, .plain chars⟩ : Lexer).run more = some ⟨tokens, .plain (chars ++ more)⟩ := by
  induction more generalizing chars with
  | nil => rw [List.append_nil]; rfl
  | cons c more ih =>
    have next : step ⟨tokens, .plain chars⟩ c = some ⟨tokens, .plain (chars ++ [c])⟩ := by
      simp [step, all c List.mem_cons_self]
    rw [run_cons, next, Option.bind_some, ih _ fun d mem => all d (List.mem_cons_of_mem _ mem),
      List.append_assoc]
    rfl

/-- Whether a lexer has read some tokens, so that what follows is read as if it stood between
tokens, unless it is a letter or a digit. -/
structure IsBehind (tokens : List Token) (l : Lexer) : Prop where
  complete : l.complete = some tokens
  step : ∀ c, c.isAlphanum = false → l.step c = begin tokens c

lemma isBehind_plain {chars : List Char} {token : Token}
    (valid : Token.ofPlain? chars = some token) :
    IsBehind (tokens ++ [token]) ⟨tokens, .plain chars⟩ := by
  have complete : complete ⟨tokens, .plain chars⟩ = some (tokens ++ [token]) := by
    simp [Lexer.complete, valid]
  refine ⟨complete, fun c foreign => ?_⟩
  simp [Lexer.step, foreign, complete]

end Lexer

/-- Whether characters are read as tokens, up to where no token goes on. -/
def Encloses (cs : List Char) (ts : List Token) : Prop :=
  ∀ tokens, (⟨tokens, .between⟩ : Lexer).run cs = some ⟨tokens ++ ts, .between⟩

/-- Whether characters are read as tokens, the last of which may go on. -/
def Spells (cs : List Char) (ts : List Token) : Prop :=
  ∀ tokens, ∃ l, (⟨tokens, .between⟩ : Lexer).run cs = some l ∧ l.IsBehind (tokens ++ ts)

/-- Whether characters cannot belong to a token before them. -/
def IsForeign (cs : List Char) : Prop := ∃ c rest, cs = c :: rest ∧ c.isAlphanum = false

section
variable {cs ds : List Char} {ts us : List Token}

lemma Encloses.append (first : Encloses cs ts) (next : Encloses ds us) :
    Encloses (cs ++ ds) (ts ++ us) := by
  intro tokens
  rw [Lexer.run_append, first, Option.bind_some, next, List.append_assoc]

lemma Encloses.spells (closed : Encloses cs ts) : Spells cs ts :=
  fun tokens => ⟨_, closed tokens, rfl, fun _ _ => rfl⟩

/-- A token ends where something follows that cannot belong to it. -/
lemma Spells.append (first : Spells cs ts) (next : Encloses ds us) (foreign : IsForeign ds) :
    Encloses (cs ++ ds) (ts ++ us) := by
  intro tokens
  obtain ⟨c, rest, rfl, foreign⟩ := foreign
  obtain ⟨l, read, behind⟩ := first tokens
  have followed := next (tokens ++ ts)
  rw [Lexer.run_cons] at followed
  rw [Lexer.run_append, read, Option.bind_some, Lexer.run_cons, behind.step c foreign,
    ← List.append_assoc]
  exact followed

end

lemma encloses_mark {c : Char} {token : Token}
    (marks : ∀ tokens, Lexer.begin tokens c = some ⟨tokens ++ [token], .between⟩) :
    Encloses [c] [token] := by
  intro tokens
  rw [Lexer.run_cons, Lexer.step, marks]
  rfl

/-- The beginning of a line is passed over. -/
lemma encloses_newline (level : Nat) : Encloses (newline level) [] := by
  intro tokens
  rw [newline, Lexer.run_cons, List.append_nil]
  change (⟨tokens, .between⟩ : Lexer).run (.replicate (2 * level) ' ') = _
  induction 2 * level with
  | zero => rfl
  | succ count ih =>
    rw [List.replicate_succ, Lexer.run_cons]
    exact ih

lemma isForeign_newline (level : Nat) (cs : List Char) : IsForeign (newline level ++ cs) :=
  ⟨'\n', _, rfl, rfl⟩

/-- A text in quotes is read as the text. -/
lemma encloses_string (s : String) : Encloses (string s) [.text s] := by
  intro tokens
  have closed : Lexer.step ⟨tokens, .string s.toList none⟩ '"'
      = some ⟨tokens ++ [.text s], .between⟩ := by
    simp [Lexer.step]
  rw [string, List.cons_append, Lexer.run_cons]
  change (⟨tokens, .string [] none⟩ : Lexer).run _ = _
  rw [Lexer.run_append, Lexer.run_flatMap_escape, List.nil_append, Option.bind_some,
    Lexer.run_cons, closed]
  rfl

/-- A name with its colon. -/
lemma encloses_name (k : String) : Encloses (string k ++ [':', ' ']) [.text k, .colon] := by
  have colon : Encloses [':', ' '] [.colon] := fun _ => rfl
  exact (encloses_string k).append colon

/-- Letters and digits that are a token are read as it. -/
lemma spells_plain {chars : List Char} {token : Token} (all : ∀ c ∈ chars, c.isAlphanum = true)
    (nonempty : chars ≠ []) (valid : Token.ofPlain? chars = some token) :
    Spells chars [token] := by
  intro tokens
  refine ⟨⟨tokens, .plain chars⟩, ?_, Lexer.isBehind_plain valid⟩
  cases chars with
  | nil => exact absurd rfl nonempty
  | cons c more =>
    have first : Lexer.step ⟨tokens, .between⟩ c = some ⟨tokens, .plain [c]⟩ := by
      simp [Lexer.step, Lexer.begin, all c List.mem_cons_self]
    rw [Lexer.run_cons, first, Option.bind_some]
    exact Lexer.run_plain [c] more fun d mem => all d (List.mem_cons_of_mem _ mem)

/-- No zero stands in front of the digits of another number. -/
lemma head?_toDigits {n : Nat} (pos : 0 < n) : (Nat.toDigits 10 n).head? ≠ some '0' := by
  induction n using Nat.strongRecOn with
  | ind n ih =>
    rcases Nat.lt_or_ge n 10 with small | large
    · rw [Nat.toDigits_of_lt_base small]
      have digit : ∀ d < 10, 0 < d → [d.digitChar].head? ≠ some '0' := by decide
      exact digit n small pos
    · rw [Nat.toDigits_of_base_le (by decide) large, List.head?_append]
      have first := ih (n / 10) (by omega) (by omega)
      cases digits : Nat.toDigits 10 (n / 10) with
      | nil => exact absurd digits Nat.toDigits_ne_nil
      | cons c more =>
        rw [digits] at first
        exact first

/-- A number is read as its digits. -/
lemma spells_nat (n : Nat) : Spells (toString n).toList [.nat n] := by
  rw [Nat.toString_eq_repr, Nat.toList_repr]
  have digits : ∀ c ∈ Nat.toDigits 10 n, c.isDigit = true :=
    fun c mem => Nat.isDigit_of_mem_toDigits (by decide) (by decide) mem
  have canonical : ¬((Nat.toDigits 10 n).head? = some '0' ∧ Nat.toDigits 10 n ≠ ['0']) := by
    rintro ⟨zero, more⟩
    rcases Nat.eq_zero_or_pos n with rfl | pos
    · exact more (Nat.toDigits_zero 10)
    · exact head?_toDigits pos zero
  refine spells_plain (fun c mem => ?_) Nat.toDigits_ne_nil ?_
  · rw [Char.isAlphanum, digits c mem, Bool.or_true]
  · rw [Token.ofPlain?, if_pos (List.all_eq_true.mpr digits), if_neg canonical,
      Nat.ofDigitChars_ten_toDigits]

lemma spells_bool (b : Bool) : Spells (toString b).toList [.bool b] := by
  cases b with
  | true => exact spells_plain (List.all_eq_true.mp rfl) (List.cons_ne_nil 't' _) rfl
  | false => exact spells_plain (List.all_eq_true.mp rfl) (List.cons_ne_nil 'f' _) rfl

lemma isForeign_items (level : Nat) (vs : List Value) (outer : Nat) (cs : List Char) :
    IsForeign (items level vs ++ (newline outer ++ cs)) := by
  cases vs with
  | nil => exact isForeign_newline outer cs
  | cons v vs => exact ⟨',', _, rfl, rfl⟩

lemma isForeign_fields (level : Nat) (fs : List (String × Value)) (outer : Nat)
    (cs : List Char) : IsForeign (fields level fs ++ (newline outer ++ cs)) := by
  cases fs with
  | nil => exact isForeign_newline outer cs
  | cons f fs => exact ⟨',', _, rfl, rfl⟩

-- The induction follows the printer: over a value, and over what follows the first item or field.
mutual

/-- What is written for a value is read as its tokens. -/
theorem spells_value : (v : Value) → ∀ level, Spells (value level v) (tokensOf v)
  | .bool b, _ => spells_bool b
  | .nat n, _ => spells_nat n
  | .text s, _ => (encloses_string s).spells
  | .list [], _ => ((encloses_mark fun _ => rfl).append (encloses_mark fun _ => rfl)).spells
  | .list (v :: vs), level => by
    have rest := (spells_value v (level + 1)).append (encloses_items vs (level + 1) level)
      (isForeign_items ..)
    have opened := (encloses_mark (c := '[') fun _ => rfl).append (encloses_newline (level + 1))
    simpa [value, tokensOf] using (opened.append rest).spells
  | .record [], _ => ((encloses_mark fun _ => rfl).append (encloses_mark fun _ => rfl)).spells
  | .record ((k, v) :: fs), level => by
    have rest := (spells_value v (level + 1)).append (encloses_fields fs (level + 1) level)
      (isForeign_fields ..)
    have opened := (encloses_mark (c := '\x7b') fun _ => rfl).append (encloses_newline (level + 1))
    have named := opened.append (encloses_name k)
    simpa [value, tokensOf] using (named.append rest).spells

theorem encloses_items : (vs : List Value) → ∀ level outer,
    Encloses (items level vs ++ (newline outer ++ [']'])) (tokensOfItems vs ++ [.closeList])
  | [], _, outer => (encloses_newline outer).append (encloses_mark fun _ => rfl)
  | v :: vs, level, outer => by
    have rest := (spells_value v level).append (encloses_items vs level outer)
      (isForeign_items ..)
    have comma := (encloses_mark (c := ',') fun _ => rfl).append (encloses_newline level)
    simpa [items, tokensOfItems] using comma.append rest

theorem encloses_fields : (fs : List (String × Value)) → ∀ level outer,
    Encloses (fields level fs ++ (newline outer ++ ['\x7d'])) (tokensOfFields fs ++ [.closeRecord])
  | [], _, outer => (encloses_newline outer).append (encloses_mark fun _ => rfl)
  | (k, v) :: fs, level, outer => by
    have rest := (spells_value v level).append (encloses_fields fs level outer)
      (isForeign_fields ..)
    have comma := (encloses_mark (c := ',') fun _ => rfl).append (encloses_newline level)
    have named := comma.append (encloses_name k)
    simpa [fields, tokensOfFields] using named.append rest

end

/-! ## Reading the value -/

namespace Parser

lemma run_cons (p : Parser) (t : Token) (ts : List Token) :
    p.run (t :: ts) = (p.step t).bind (·.run ts) := List.foldlM_cons

lemma run_append (p : Parser) (ts us : List Token) :
    p.run (ts ++ us) = (p.run ts).bind (·.run us) := List.foldlM_append

/-- The tokens of a value do not end a list, so they are read as its first item. -/
lemma run_itemOrEnd (v : Value) (frames : List Frame) :
    (⟨frames, .itemOrEnd⟩ : Parser).run (tokensOf v)
      = (⟨.item [] :: frames, .value⟩ : Parser).run (tokensOf v) := by
  cases v with
  | bool | nat | text => rfl
  | list vs => cases vs <;> rfl
  | record fs => cases fs <;> rfl

mutual

/-- The tokens of a value are read as the value. -/
theorem run_tokensOf : (v : Value) → ∀ frames,
    (⟨frames, .value⟩ : Parser).run (tokensOf v) = some ⟨frames, .behind v⟩
  | .bool _, _ => rfl
  | .nat _, _ => rfl
  | .text _, _ => rfl
  | .list [], _ => rfl
  | .list (v :: vs), frames => by
    rw [tokensOf, List.cons_append, List.cons_append, run_cons, List.append_assoc]
    change (⟨frames, .itemOrEnd⟩ : Parser).run _ = _
    rw [run_append, run_itemOrEnd, run_tokensOf v, Option.bind_some, run_tokensOfItems vs]
    rfl
  | .record [], _ => rfl
  | .record ((k, v) :: fs), frames => by
    simp only [tokensOf, List.cons_append, List.append_assoc]
    rw [run_cons]
    change (⟨.field [] k :: frames, .value⟩ : Parser).run _ = _
    rw [run_append, run_tokensOf v, Option.bind_some, run_tokensOfFields fs]
    rfl

/-- The tokens of the items that follow one are read up to the end of the list. -/
theorem run_tokensOfItems : (vs : List Value) → ∀ frames before v,
    (⟨.item before :: frames, .behind v⟩ : Parser).run (tokensOfItems vs ++ [.closeList])
      = some ⟨frames, .behind (.list (before ++ v :: vs))⟩
  | [], _, _, _ => rfl
  | w :: vs, frames, before, v => by
    simp only [tokensOfItems, List.cons_append, List.append_assoc]
    rw [run_cons]
    change (⟨.item (before ++ [v]) :: frames, .value⟩ : Parser).run _ = _
    rw [run_append, run_tokensOf w, Option.bind_some, run_tokensOfItems vs]
    simp

/-- The tokens of the fields that follow one are read up to the end of the record. -/
theorem run_tokensOfFields : (fs : List (String × Value)) → ∀ frames before k v,
    (⟨.field before k :: frames, .behind v⟩ : Parser).run (tokensOfFields fs ++ [.closeRecord])
      = some ⟨frames, .behind (.record (before ++ (k, v) :: fs))⟩
  | [], _, _, _, _ => rfl
  | (l, w) :: fs, frames, before, k, v => by
    simp only [tokensOfFields, List.cons_append, List.append_assoc]
    rw [run_cons]
    change (⟨.field (before ++ [(k, v)]) l :: frames, .value⟩ : Parser).run _ = _
    rw [run_append, run_tokensOf w, Option.bind_some, run_tokensOfFields fs]
    simp

end

end Parser

/-- What is written for a value is read back as the value. -/
theorem read?_render (v : Value) : read? (render v) = some v := by
  obtain ⟨l, read, behind⟩ := spells_value v 0 []
  have tokens : tokens? (render v) = some (tokensOf v) := by
    rw [tokens?, render, String.toList_ofList]
    rw [read]
    exact behind.complete
  rw [read?, tokens, Option.bind_some]
  change ((⟨[], .value⟩ : Parser).run (tokensOf v)).bind Parser.complete = _
  rw [Parser.run_tokensOf]
  rfl

end RouteAtlas.Report.Json
