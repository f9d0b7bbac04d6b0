import RouteAtlas.Proofs.Specifier.Segments
import RouteAtlas.Text.Affix

/-!
# What a specifier leads to

A relative specifier leads from the directory of the importing file, one segment after another, to
the location of a module. The manifest stands at the logical root, so a resolved specifier is right
if it leads from there to where the specifier leads from the importing file. For specifiers that
first climb and then go down, it is right exactly if they do not climb, or climb to the root
(`resolve_target_iff`).
-/

namespace RouteAtlas.Specifier

/-- A place among directories, without a look at what is there: how far above the logical root it
is, and the names that lead down from that height. -/
structure Location where
  above : Nat
  names : List (List Char)
deriving DecidableEq, Repr

namespace Location

/-- The logical root. -/
def root : Location := ⟨0, []⟩

/-- The location behind one segment. -/
def next (l : Location) (s : List Char) : Location :=
  if s = [] ∨ s = dot then l
  else if s ≠ dotDot then ⟨l.above, l.names ++ [s]⟩
  else if l.names = [] then ⟨l.above + 1, []⟩
  else ⟨l.above, l.names.dropLast⟩

/-- The location at the end of a path. -/
def follow (l : Location) (path : String) : Location := (segments path.toList).foldl next l

/-- The directory that an entry at a location is in. -/
def directory (l : Location) : Location := ⟨l.above, l.names.dropLast⟩

end Location

/-- What a specifier stands for. -/
inductive Target where
  /-- A file of the project. -/
  | file (l : Location)
  /-- A package with its own name. -/
  | package (name : String)
deriving DecidableEq, Repr

/-- Whether a specifier is relative to the module that it stands in. -/
def isRelative (specifier : String) : Bool :=
  Text.startsWith "./" specifier || Text.startsWith "../" specifier

/-- What a specifier in a module of the directory `here` stands for. -/
def target (here : Location) (specifier : String) : Target :=
  if isRelative specifier then .file (here.follow specifier) else .package specifier

/-- Whether a segment is the name of an entry. -/
structure IsName (s : List Char) : Prop where
  nonempty : s ≠ []
  whole : '/' ∉ s
  ne_dot : s ≠ dot
  ne_dotDot : s ≠ dotDot

instance : DecidablePred IsName := fun s =>
  decidable_of_iff (s ≠ [] ∧ '/' ∉ s ∧ s ≠ dot ∧ s ≠ dotDot)
    ⟨fun ⟨more, whole, other, other'⟩ => ⟨more, whole, other, other'⟩,
      fun is => ⟨is.nonempty, is.whole, is.ne_dot, is.ne_dotDot⟩⟩

/-- The path of a file in nested directories below the root. -/
def filePath (directories : List String) (file : String) : String :=
  "./" ++ "/".intercalate (directories ++ [file])

/-- The specifier that climbs a number of directories, and then goes down along some segments. -/
def climbing (n : Nat) (rest : List String) : String :=
  (if n = 0 then "./" else String.join (List.replicate n "../")) ++ "/".intercalate rest

/-! ## Following segments -/

section Follow
variable {l : Location} {names rest : List (List Char)}

lemma Location.next_dot (l : Location) : l.next dot = l := if_pos (.inr rfl)

lemma Location.next_name {s : List Char} (name : IsName s) :
    l.next s = ⟨l.above, l.names ++ [s]⟩ := by
  rw [next, if_neg (not_or.2 ⟨name.nonempty, name.ne_dot⟩), if_pos name.ne_dotDot]

lemma Location.next_dotDot_above (none : l.names = []) : l.next dotDot = ⟨l.above + 1, []⟩ := by
  rw [next, if_neg (by decide), if_neg (by decide), if_pos none]

lemma Location.next_dotDot_below (some : l.names ≠ []) :
    l.next dotDot = ⟨l.above, l.names.dropLast⟩ := by
  rw [next, if_neg (by decide), if_neg (by decide), if_neg some]

/-- Names lead down. -/
lemma Location.foldl_names (are : ∀ s ∈ names, IsName s) :
    names.foldl next l = ⟨l.above, l.names ++ names⟩ := by
  induction names generalizing l with
  | nil => simp
  | cons s names ih =>
    rw [List.foldl_cons, next_name (are s List.mem_cons_self),
      ih fun t mem => are t (List.mem_cons_of_mem s mem), List.append_assoc, List.singleton_append]

/-- Climbing takes the last names away, and goes above the root when there are none left. -/
lemma Location.foldl_dotDot (n : Nat) (l : Location) :
    (List.replicate n dotDot).foldl next l
      = ⟨l.above + (n - l.names.length), l.names.take (l.names.length - n)⟩ := by
  induction n generalizing l with
  | zero => simp
  | succ n ih =>
    rw [List.replicate_succ, List.foldl_cons, ih]
    by_cases none : l.names = []
    · rw [next_dotDot_above none, none]
      simp only [List.length_nil, List.take_nil, Location.mk.injEq, and_true]
      omega
    · have some : 0 < l.names.length := List.length_pos_iff.2 none
      rw [next_dotDot_below none]
      simp only [List.dropLast_eq_take, List.take_take, List.length_take, Location.mk.injEq]
      constructor
      · omega
      · congr 1
        omega

/-- A path from the directory itself down along names. -/
lemma Location.follow_dot_join (are : ∀ s ∈ names, IsName s) :
    l.follow (String.ofList (join (dot :: names))) = ⟨l.above, l.names ++ names⟩ := by
  have whole : ∀ s ∈ dot :: names, '/' ∉ s := by
    rw [List.forall_mem_cons]
    exact ⟨by decide, fun s mem => (are s mem).whole⟩
  rw [follow, String.toList_ofList, segments_join whole (by simp), List.foldl_cons, next_dot,
    foldl_names are]

/-- A path that first climbs and then goes down along names. -/
lemma Location.follow_climb_join (n : Nat) (are : ∀ s ∈ names, IsName s) (more : names ≠ []) :
    l.follow (String.ofList (join (List.replicate n dotDot ++ names)))
      = ⟨l.above + (n - l.names.length), l.names.take (l.names.length - n) ++ names⟩ := by
  have whole : ∀ s ∈ List.replicate n dotDot ++ names, '/' ∉ s := by
    rw [List.forall_mem_append]
    refine ⟨fun s mem => ?_, fun s mem => (are s mem).whole⟩
    rw [List.eq_of_mem_replicate mem]
    decide
  rw [follow, String.toList_ofList, segments_join whole (by simp [more]), List.foldl_append,
    foldl_dotDot, foldl_names are]

end Follow

/-! ## Texts and their segments -/

section Texts
variable {directories rest : List String} {file : String}

lemma toList_filePath (directories : List String) (file : String) :
    (filePath directories file).toList
      = join (dot :: directories.map String.toList) ++ '/' :: file.toList := by
  rw [filePath, String.toList_append, String.toList_intercalate, List.map_append]
  have e : join ((dot :: directories.map String.toList) ++ [file.toList]) = _ :=
    join_append (by simp) (by simp)
  rw [join_singleton, List.cons_append, join_cons dot (by simp)] at e
  exact e

/-- The directory of a path ends at its last slash. -/
lemma directory_append {s : List Char} (free : '/' ∉ s) (path : List Char) :
    directory (path ++ '/' :: s) = path ++ ['/'] := by
  have none : ∀ c ∈ s.reverse, decide (c ≠ '/') = true := by
    intro c mem
    rw [decide_eq_true_eq]
    rintro rfl
    exact free (List.mem_reverse.1 mem)
  rw [directory, List.reverse_append, List.reverse_cons, List.append_assoc,
    List.dropWhile_append_of_pos none]
  simp

lemma flatMap_replicate_append (n : Nat) {ss : List (List Char)} (more : ss ≠ []) :
    (List.replicate n "../").flatMap String.toList ++ join ss
      = join (List.replicate n dotDot ++ ss) := by
  induction n with
  | zero => rfl
  | succ n ih =>
    rw [List.replicate_succ, List.replicate_succ, List.flatMap_cons, List.cons_append,
      join_cons dotDot (by simp [more]), ← ih]
    rfl

lemma climbing_zero (more : rest ≠ []) :
    climbing 0 rest = String.ofList (join (dot :: rest.map String.toList)) := by
  have chars : (climbing 0 rest).toList = join (dot :: rest.map String.toList) := by
    rw [climbing, if_pos rfl, String.toList_append, String.toList_intercalate,
      join_cons dot (by simpa using more)]
    rfl
  rw [← chars, String.ofList_toList]

lemma climbing_of_ne_zero {n : Nat} (some : n ≠ 0) (more : rest ≠ []) :
    climbing n rest
      = String.ofList (join (List.replicate n dotDot ++ rest.map String.toList)) := by
  have chars : (climbing n rest).toList
      = join (List.replicate n dotDot ++ rest.map String.toList) := by
    rw [climbing, if_neg some, String.toList_append, String.toList_join,
      String.toList_intercalate, ← flatMap_replicate_append n (by simpa using more)]
    rfl
  rw [← chars, String.ofList_toList]

end Texts

/-! ## Specifiers that climb and go down -/

section Targets
variable {directories rest : List String} {file : String}

/-- Resolved, a specifier that does not climb names its module below the directory of the importing
file. -/
lemma resolve_climbing_zero (whole : '/' ∉ file.toList) (more : rest ≠ [])
    (flat : ∀ s ∈ rest, IsName s.toList ∧ ¬EndsInDots s.toList) :
    resolve (climbing 0 rest) (filePath directories file)
      = String.ofList (join (dot :: (directories ++ rest).map String.toList)) := by
  have more' : rest.map String.toList ≠ [] := by simpa using more
  have free : ∀ s ∈ rest.map String.toList, '/' ∉ s := by
    simpa using fun s mem => (flat s mem).1.whole
  have none : ascents (rest.map String.toList) = 0 :=
    ascents_eq_zero (by simpa using fun s mem => (flat s mem).2)
  rw [resolve, climbing_zero more, String.toList_ofList,
    resolveChars_dot_join_of_staying _ free more' none, toList_filePath, directory_append whole,
    List.append_assoc, List.map_append, ← List.cons_append, join_append (by simp) more']
  rfl

/-- Resolved, a specifier that climbs names its module below the root. -/
lemma resolve_climbing_of_ne_zero {n : Nat} (some : n ≠ 0) (more : rest ≠ [])
    (flat : ∀ s ∈ rest, IsName s.toList ∧ ¬EndsInDots s.toList) (importing : String) :
    resolve (climbing n rest) importing
      = String.ofList (join (dot :: rest.map String.toList)) := by
  have more' : rest.map String.toList ≠ [] := by simpa using more
  have free : ∀ s ∈ List.replicate n dotDot ++ rest.map String.toList, '/' ∉ s := by
    rw [List.forall_mem_append]
    refine ⟨fun s mem => ?_, by simpa using fun s mem => (flat s mem).1.whole⟩
    rw [List.eq_of_mem_replicate mem]
    decide
  have cut : segments (join (List.replicate n dotDot ++ rest.map String.toList))
      = List.replicate n dotDot ++ rest.map String.toList := segments_join free (by simp [more])
  have count : ascents (List.replicate n dotDot ++ rest.map String.toList) = n :=
    ascents_replicate_append n more' (by simpa using fun s mem => (flat s mem).2)
  rw [resolve, climbing_of_ne_zero some more, String.toList_ofList,
    resolveChars_of_climbing _ (by rw [cut, count]; exact some), cut, count]
  simp

lemma isRelative_dot_join {names : List (List Char)} (more : names ≠ []) :
    isRelative (String.ofList (join (dot :: names))) = true := by
  rw [isRelative, Bool.or_eq_true, Text.startsWith_iff, join_cons dot more]
  refine .inl ⟨String.ofList (join names), ?_⟩
  rw [← String.toList_inj]
  simp [dot]

lemma isRelative_climbing (n : Nat) (rest : List String) : isRelative (climbing n rest) = true := by
  rw [isRelative, Bool.or_eq_true, Text.startsWith_iff, Text.startsWith_iff, climbing]
  cases n with
  | zero => exact .inl ⟨_, rfl⟩
  | succ n =>
    refine .inr ⟨String.join (List.replicate n "../") ++ "/".intercalate rest, ?_⟩
    rw [if_neg n.succ_ne_zero, List.replicate_succ, String.join_cons, String.append_assoc]

/-- The directory of a file is where its path leads without its last name. -/
lemma directory_follow_filePath (names : ∀ d ∈ directories, IsName d.toList)
    (name : IsName file.toList) :
    (Location.root.follow (filePath directories file)).directory
      = ⟨0, directories.map String.toList⟩ := by
  have e : filePath directories file
      = String.ofList (join (dot :: (directories ++ [file]).map String.toList)) := by
    rw [← String.toList_inj, String.toList_ofList, toList_filePath, List.map_append,
      ← List.cons_append, join_append (by simp) (by simp), List.map_singleton, join_singleton]
  have all : ∀ s ∈ (directories ++ [file]).map String.toList, IsName s := by
    simpa [or_imp, forall_and] using ⟨names, name⟩
  rw [e, Location.follow_dot_join all]
  simp [Location.root, Location.directory]

/-- Resolving a specifier that climbs a number of directories and then goes down is right, in that
it leads from the root to where the specifier leads from the importing file, exactly if it does not
climb or climbs to the root. -/
theorem resolve_target_iff (n : Nat) (names : ∀ d ∈ directories, IsName d.toList)
    (name : IsName file.toList) (more : rest ≠ [])
    (flat : ∀ s ∈ rest, IsName s.toList ∧ ¬EndsInDots s.toList) :
    let importing := filePath directories file
    let specifier := climbing n rest
    target .root (resolve specifier importing)
        = target (Location.root.follow importing).directory specifier ↔
      n = 0 ∨ n = directories.length := by
  intro importing specifier
  have more' : rest.map String.toList ≠ [] := by simpa using more
  have down : ∀ s ∈ rest.map String.toList, IsName s := by
    simpa using fun s mem => (flat s mem).1
  have here := directory_follow_filePath names name
  rw [here, target, target, if_pos (isRelative_climbing n rest)]
  by_cases none : n = 0
  · have all : ∀ s ∈ (directories ++ rest).map String.toList, IsName s := by
      simpa [or_imp, forall_and] using ⟨names, fun s mem => (flat s mem).1⟩
    have resolved : resolve (climbing 0 rest) importing = _ :=
      resolve_climbing_zero name.whole more flat
    rw [← none] at resolved
    have text : specifier = _ := none ▸ climbing_zero more
    rw [resolved, if_pos (isRelative_dot_join (by simp [more])), text,
      Location.follow_dot_join all, Location.follow_dot_join down]
    simp [Location.root, none]
  · have text : specifier = _ := climbing_of_ne_zero none more
    rw [resolve_climbing_of_ne_zero none more flat, if_pos (isRelative_dot_join more'), text,
      Location.follow_dot_join down, Location.follow_climb_join n down more']
    simp only [Location.root, Target.file.injEq, Location.mk.injEq, List.length_map, none,
      false_or, List.nil_append, Nat.zero_add]
    -- What climbing leaves of the directory would have to be nothing.
    rw [eq_comm (a := rest.map String.toList), List.append_left_eq_self, List.take_eq_nil_iff,
      List.map_eq_nil_iff, ← List.length_eq_zero_iff]
    omega

/-- From a directory two levels below the root, climbing two levels or none is right, and climbing
one level or three is not. -/
theorem resolve_target_nested :
    let directories := ["api", "v1"]
    let importing := filePath directories "get.ts"
    let specifier := fun n => climbing n ["models", ".old", "item"]
    let isRight := fun n => target .root (resolve (specifier n) importing)
      = target (Location.root.follow importing).directory (specifier n)
    (∀ d ∈ directories, IsName d.toList) ∧ isRight 0 ∧ ¬isRight 1 ∧ isRight 2 ∧ ¬isRight 3 := by
  intro directories importing specifier isRight
  have names : ∀ d ∈ directories, IsName d.toList := by decide
  have iff (n : Nat) : isRight n ↔ n = 0 ∨ n = 2 :=
    resolve_target_iff n names (by decide) (by decide) (by decide)
  exact ⟨names, (iff 0).2 (by decide), mt (iff 1).1 (by decide), (iff 2).2 (by decide),
    mt (iff 3).1 (by decide)⟩

end Targets

end RouteAtlas.Specifier
