import RouteAtlas.Proofs.Extraction.Options
import RouteAtlas.Proofs.Query.Blueprints

/-!
# The patterns of extraction compile

The rules of TypeScript mention every node that the patterns ask for where they ask for it
(`isPossible_importForm`, `isPossible_routeCallForm`), so an extractor can be made for every
function whose name needs no escape (`Extractor.make_eq_ok`).
-/

namespace RouteAtlas.Extraction

open Grammar Query TypeScript

/-! ## What the rules of TypeScript mention -/

/-- A mention of a named rule, under a field or under none. -/
def plain (x : String) (field : Option String := none) : Mark := ⟨.ref x, none, field⟩

/-- What stands between the quotes of a string: fragments and escapes. -/
def stringContent : Mark :=
  ⟨.repeat1 (.choice [.shownAs "string_fragment" (.ref "unescaped_double_string_fragment"),
    .ref "escape_sequence"]), none, none⟩

/-- A fragment of a string. -/
def stringFragment : Mark :=
  ⟨.ref "unescaped_double_string_fragment", some ⟨"string_fragment", true⟩, none⟩

/-- A call that decorates. -/
def decoratorCall : Mark := ⟨.ref "decorator_call_expression", some ⟨"call_expression", true⟩, none⟩

/-- Rules with what they mention, in order; others may stand between. -/
def mentioned : List (String × List Mark) := [
  ("statement", [plain "import_statement"]),
  ("statement", [plain "export_statement"]),
  ("import_statement", [plain "import_clause", plain "_from_clause"]),
  ("import_clause", [plain "named_imports"]),
  ("named_imports", [plain "import_specifier"]),
  ("import_specifier", [plain "_import_identifier" "name"]),
  ("_import_identifier", [plain "identifier"]),
  ("_from_clause", [plain "string" "source"]),
  ("string", [stringContent]),
  ("export_statement", [plain "expression" "value"]),
  ("expression", [plain "primary_expression"]),
  ("primary_expression", [plain "call_expression"]),
  ("primary_expression", [plain "object"]),
  ("decorator", [decoratorCall]),
  ("decorator_call_expression", [plain "identifier" "function", plain "arguments" "arguments"]),
  ("arguments", [plain "expression"]),
  ("object", [plain "pair"])]

/-- The names of rules among them whose nodes a tree does not show. -/
def hiddenSymbols : List String :=
  ["statement", "_import_identifier", "_from_clause", "expression", "primary_expression"]

/-- The names of rules among them whose nodes a tree shows. -/
def shownSymbols : List String := [
  "import_statement", "import_clause", "named_imports", "import_specifier", "identifier", "string",
  "unescaped_double_string_fragment", "export_statement", "call_expression", "decorator",
  "decorator_call_expression", "arguments", "object", "pair"]

/-- What can be read off the rules, name by name. -/
structure IsReadOff : Prop where
  inlined : ∀ x ∈ grammar.inlined, ¬Grammar.Rule.IsRepetitionName x ∧ x ∉ grammar.tokenRules ∧
    ∃ r ∈ grammar.rules, r.1 = x ∧ r.2.alternatives ≠ []
  kept : ∀ x ∈ hiddenSymbols ++ shownSymbols, (x ∈ grammar.rules.map Prod.fst ∧
    ¬Grammar.Rule.IsRepetitionName x) ∧ ∀ y ∈ grammar.inlined, Grammar.Rule.ref x ≠ .ref y
  read : ∀ r ∈ mentioned, r.1 ∉ grammar.tokenRules ∧ ∃ s ∈ grammar.rules, s.1 = r.1 ∧
    ∃ a ∈ s.2.alternatives, r.2.Sublist (a.marks none none)
  known : ∀ r ∈ mentioned, r.1 ∈ hiddenSymbols ++ shownSymbols ∧
    ∀ m ∈ r.2, m = stringContent ∨ ∃ x ∈ hiddenSymbols ++ shownSymbols, m.target = .ref x
  hidden : ∀ x ∈ hiddenSymbols, grammar.isHidden x
  shown : ∀ x ∈ shownSymbols, grammar.isHidden x = false

lemma isReadOff : IsReadOff := by
  constructor <;> decide +kernel

/-- The rules that are inlined can be. -/
lemma canInline_grammar : grammar.CanInline := by
  intro x mem
  obtain ⟨plain, noToken, r, rule, name, more⟩ := isReadOff.inlined x mem
  obtain ⟨a, reading⟩ := List.exists_mem_of_ne_nil _ more
  exact ⟨plain, a, noToken, r, rule, name, reading⟩

lemma isKept_of_mem {x : String} (mem : x ∈ hiddenSymbols ++ shownSymbols) :
    grammar.IsKept (.ref x) := isReadOff.kept x mem

lemma exists_reading {r : String × List Mark} (mem : r ∈ mentioned) :
    ∃ a, grammar.IsReading (.ref r.1) a ∧ r.2.Sublist (a.marks none none) := by
  obtain ⟨noToken, s, rule, name, a, reading, sub⟩ := isReadOff.read r mem
  exact ⟨a, ⟨noToken, s, rule, name, reading⟩, sub⟩

lemma isKept_stringContent : grammar.IsKept stringContent.target := by
  have listed : ("string", [stringContent]) ∈ mentioned := by simp [mentioned]
  obtain ⟨a, reading, sub⟩ := exists_reading listed
  exact ⟨⟨"string", a, reading, _, List.singleton_sublist.1 sub, rfl⟩, nofun⟩

/-- The rules mention what they are said to. -/
lemma mentions_of_mem {r : String × List Mark} (mem : r ∈ mentioned) :
    grammar.Mentions (.ref r.1) r.2 := by
  obtain ⟨kept, known⟩ := isReadOff.known r mem
  refine ⟨isKept_of_mem kept, exists_reading mem, fun m among => ?_⟩
  rcases known m among with rfl | ⟨x, listed, target⟩
  · exact isKept_stringContent
  · exact target ▸ isKept_of_mem listed

/-- What the rules are said to mention occurs. -/
lemma occurs_of_mem {m : Mark} (mem : m ∈ mentioned.flatMap Prod.snd) : grammar.Occurs m := by
  obtain ⟨r, listed, among⟩ := List.mem_flatMap.1 mem
  exact ⟨_, _, mentions_of_mem listed, among⟩

/-- A fragment is one of what stands between the quotes. -/
lemma mentions_stringContent : grammar.Mentions stringContent.target [stringFragment] := by
  refine ⟨isKept_stringContent, ⟨_, List.mem_cons_self, List.Sublist.refl _⟩, fun m among => ?_⟩
  obtain rfl := List.mem_singleton.1 among
  exact isKept_of_mem (by simp [shownSymbols])

/-! ## The patterns are possible -/

section Shown
variable {x y kind : String} {field outer : Option String} {m : Mark} {k : Nat}

lemma appearance_shown (isShown : x ∈ shownSymbols) :
    grammar.appearance (plain x field) = some (x, true) :=
  if_neg (by simp [isReadOff.shown x isShown])

/-- What a rule mentions is shown there. -/
lemma shows_plain {held : Option String} (isShown : x ∈ shownSymbols) (k : Nat)
    (same : field = held.or outer) : grammar.Shows field x k outer (plain x held) :=
  .shown (appearance_shown isShown) (.inr same)

/-- What a hidden rule shows is shown wherever that rule is mentioned. -/
lemma shows_hidden {held : Option String} (mem : (y, [m]) ∈ mentioned)
    (isHidden : y ∈ hiddenSymbols) (shows : grammar.Shows field kind k (held.or outer) m) :
    grammar.Shows field kind (k + 1) outer (plain y held) :=
  .hidden (if_pos (isReadOff.hidden y isHidden)) (mentions_of_mem mem) List.mem_cons_self shows

/-- A value can be whatever a primary expression can be. -/
lemma shows_expression (mem : ("primary_expression", [plain x]) ∈ mentioned)
    (isShown : x ∈ shownSymbols) : grammar.Shows field x 2 none (plain "expression" field) := by
  have shows : grammar.Shows field x 0 field (plain x) := shows_plain isShown 0 rfl
  have chain : ("expression", [plain "primary_expression"]) ∈ mentioned := by simp [mentioned]
  refine shows_hidden chain (by simp [hiddenSymbols])
    (shows_hidden mem (by simp [hiddenSymbols]) ?_)
  rwa [Option.or_none, Option.none_or]

/-- What a rule mentions alone is what its nodes have below them. -/
lemma hasBelow_of_shows (mem : (x, [m]) ∈ mentioned) (levels : k ≤ 2)
    (shows : grammar.Shows field kind k none m) :
    Written.HasBelow grammar (.ref x) [(field, kind)] :=
  ⟨[m], k, levels, mentions_of_mem mem, .cons shows .nil⟩

variable {gap : String} {below : List Written} {given : List String}

/-- A node is possible if what rules mention appears as it and shows what is below it. -/
lemma isPossible_node (occurs : grammar.Occurs m)
    (appears : grammar.appearance m = some (kind, true))
    (has : below = [] ∨ Written.HasBelow grammar m.target (Written.nodesOf below))
    (more : Written.ArePossible grammar below)
    (fields : ∀ name ∈ field, name ∈ (mentioned.flatMap Prod.snd).filterMap Mark.field) :
    (Written.node gap field kind below given).IsPossible grammar := by
  refine ⟨⟨⟨m, occurs, appears, has.imp_left fun nothing => by rw [nothing]; rfl⟩, more⟩,
    fun name mem => ?_⟩
  obtain ⟨n, among, held⟩ := List.mem_filterMap.1 (fields name mem)
  exact ⟨n, occurs_of_mem among, held⟩

/-- A node is possible if a rule of its kind is mentioned and shows what is below it. -/
lemma isPossible_plain (outer : Option String)
    (occurs : plain kind outer ∈ mentioned.flatMap Prod.snd) (isShown : kind ∈ shownSymbols)
    (has : below = [] ∨ Written.HasBelow grammar (.ref kind) (Written.nodesOf below))
    (more : Written.ArePossible grammar below)
    (fields : ∀ name ∈ field, name ∈ (mentioned.flatMap Prod.snd).filterMap Mark.field) :
    (Written.node gap field kind below given).IsPossible grammar :=
  isPossible_node (occurs_of_mem occurs) (appearance_shown isShown) has more fields

end Shown

/-- Names are possible nodes. -/
lemma isPossible_identifier {gap : String} {field : Option String} {given : List String}
    (fields : ∀ name ∈ field, name ∈ (mentioned.flatMap Prod.snd).filterMap Mark.field) :
    (Written.node gap field "identifier" [] given).IsPossible grammar :=
  isPossible_plain none (by simp [mentioned]) (by simp [shownSymbols]) (.inl rfl) trivial fields

lemma isPossible_identifierForm : identifierForm.IsPossible grammar := isPossible_identifier nofun

/-- Named imports are possible. -/
lemma isPossible_importForm : importForm.IsPossible grammar := by
  have name : grammar.Shows (some "name") "identifier" 1 none (plain "_import_identifier" "name") :=
    shows_hidden (m := plain "identifier") (by simp [mentioned]) (by simp [hiddenSymbols])
      (shows_plain (by simp [shownSymbols]) 0 rfl)
  have source : grammar.Shows (some "source") "string" 1 none (plain "_from_clause") :=
    shows_hidden (m := plain "string" "source") (by simp [mentioned]) (by simp [hiddenSymbols])
      (shows_plain (by simp [shownSymbols]) 0 rfl)
  have content : grammar.Shows none "string_fragment" 1 none stringContent :=
    .hidden rfl mentions_stringContent List.mem_cons_self (.shown rfl (.inl rfl))
  refine isPossible_plain none (by simp [mentioned]) (by simp [shownSymbols]) (.inr ?_)
    ⟨?_, ?_, trivial⟩ nofun
  · exact ⟨[plain "import_clause", plain "_from_clause"], 1, by decide,
      mentions_of_mem (r := ("import_statement", _)) (by simp [mentioned]),
      .cons (shows_plain (by simp [shownSymbols]) 1 rfl) (.cons source .nil)⟩
  · refine isPossible_plain none (by simp [mentioned]) (by simp [shownSymbols]) (.inr ?_)
      ⟨?_, trivial⟩ nofun
    · exact hasBelow_of_shows (m := plain "named_imports") (by simp [mentioned]) (Nat.zero_le 2)
        (shows_plain (by simp [shownSymbols]) 0 rfl)
    · refine isPossible_plain none (by simp [mentioned]) (by simp [shownSymbols]) (.inr ?_)
        ⟨?_, trivial⟩ nofun
      · exact hasBelow_of_shows (m := plain "import_specifier") (by simp [mentioned])
          (Nat.zero_le 2) (shows_plain (by simp [shownSymbols]) 0 rfl)
      · exact isPossible_plain none (by simp [mentioned]) (by simp [shownSymbols])
          (.inr (hasBelow_of_shows (by simp [mentioned]) (Nat.le_succ 1) name))
          ⟨isPossible_identifier (by simp [mentioned, plain]), trivial⟩ nofun
  · refine isPossible_plain "source" (by simp [mentioned]) (by simp [shownSymbols])
      (.inr (hasBelow_of_shows (by simp [mentioned]) (Nat.le_succ 1) content)) ⟨?_, trivial⟩
      (by simp [mentioned, plain])
    exact isPossible_node (m := stringFragment)
      ⟨_, _, mentions_stringContent, List.mem_cons_self⟩ rfl (.inl rfl) trivial nofun

/-- The pairs of an exported call are possible. -/
lemma isPossible_routeCallForm (function : String) :
    (routeCallForm function).IsPossible grammar := by
  refine isPossible_plain none (by simp [mentioned]) (by simp [shownSymbols]) (.inr ?_)
    ⟨?_, trivial⟩ nofun
  · exact hasBelow_of_shows (m := plain "expression" "value") (by simp [mentioned]) (Nat.le_refl 2)
      (shows_expression (by simp [mentioned]) (by simp [shownSymbols]))
  · -- A name and arguments are what a call that decorates consists of.
    refine isPossible_node (m := decoratorCall) (occurs_of_mem (by simp [mentioned])) rfl (.inr ?_)
      ⟨isPossible_identifier (by simp [mentioned, plain]), trivial, ?_, trivial⟩
      (by simp [mentioned, plain])
    · exact ⟨[plain "identifier" "function", plain "arguments" "arguments"], 0, Nat.zero_le _,
        mentions_of_mem (r := ("decorator_call_expression", _)) (by simp [mentioned]),
        .cons (shows_plain (by simp [shownSymbols]) 0 rfl)
          (.cons (shows_plain (by simp [shownSymbols]) 0 rfl) .nil)⟩
    · refine isPossible_plain "arguments" (by simp [mentioned]) (by simp [shownSymbols]) (.inr ?_)
        ⟨?_, trivial⟩ (by simp [mentioned, plain])
      · exact hasBelow_of_shows (m := plain "expression") (by simp [mentioned]) (Nat.le_refl 2)
          (shows_expression (by simp [mentioned]) (by simp [shownSymbols]))
      · refine isPossible_plain none (by simp [mentioned]) (by simp [shownSymbols]) (.inr ?_)
          ⟨?_, trivial⟩ nofun
        · exact hasBelow_of_shows (m := plain "pair") (by simp [mentioned]) (Nat.zero_le 2)
            (shows_plain (by simp [shownSymbols]) 0 rfl)
        · exact isPossible_plain none (by simp [mentioned]) (by simp [shownSymbols]) (.inl rfl)
            trivial nofun

/-! ## Extractors -/

/-- A pattern that is possible is compiled. -/
lemma exists_compilePattern {w : Written} (possible : w.IsPossible grammar)
    (sound : w.isSound blueprint.names.abstract.contains []) {before after : List Char}
    (blankBefore : before.all Read.isBlank) (blankAfter : after.all Read.isBlank)
    (isNode : (w.pattern? after.length).isSome) {filters : List (Option Filter)}
    (understood : w.conditions.mapM understand = .ok filters) {pattern : String}
    (written : pattern.toList = before ++ (w.chars ++ after)) :
    ∃ c, compilePattern pattern = .ok c := by
  obtain ⟨p, isNode⟩ := Option.isSome_iff_exists.1 isNode
  obtain ⟨c, compiled⟩ := Written.compile_of_isPossible canInline_grammar possible sound
    blankBefore blankAfter isNode understood written
  refine ⟨c, ?_⟩
  rw [compilePattern, show compile blueprint pattern = .ok c from compiled]
  rfl

/-- An extractor can be made for every function whose name needs no escape. -/
theorem Extractor.make_eq_ok {function : String} (plain : Read.isPlainText function)
    (extension : String) :
    Extractor.make function extension = .ok (.standard extension (routeCalls function)) := by
  obtain ⟨imports, compiled⟩ := exists_compilePattern isPossible_importForm isSound_importForm rfl
    rfl rfl rfl importPattern_eq
  obtain ⟨calls, compiled'⟩ := exists_compilePattern (isPossible_routeCallForm function)
    (isSound_routeCallForm plain) rfl rfl rfl rfl (routeCallPattern_eq function)
  obtain ⟨names, compiled''⟩ := exists_compilePattern isPossible_identifierForm
    isSound_identifierForm rfl rfl rfl rfl identifierPattern_eq
  have made : Extractor.make function extension = .ok ⟨extension, imports, calls, names⟩ := by
    rw [Extractor.make, compiled, compiled', compiled'']
    rfl
  obtain ⟨standard, found⟩ := Extractor.eq_standard made
  rw [made, standard, found plain]

end RouteAtlas.Extraction
