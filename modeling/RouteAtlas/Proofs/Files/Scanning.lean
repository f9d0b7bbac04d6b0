import Mathlib.Data.List.Nodup
import Mathlib.Tactic.Lemma
import RouteAtlas.Files.Scan
import RouteAtlas.Proofs.Files.Placing

/-!
# What a scan finds

Two accounts of a tree come together here. One goes down into it, as a scan does, and leaves out
what it must not enter; the other tells for an address what is there. A scan finds each regular file
that its criteria want once, and nothing else (`Scan.ofRoot_finds_wanted_once`).
-/

namespace RouteAtlas

/-- Whether an entry can have the name. -/
structure Name.IsValid (n : Name) : Prop where
  nonempty : n ≠ []
  slashFree : FilePath.slash ∉ n

instance (n : Name) : Decidable n.IsValid :=
  decidable_of_iff (n ≠ [] ∧ FilePath.slash ∉ n)
    ⟨fun ⟨nonempty, free⟩ => ⟨nonempty, free⟩, fun ⟨nonempty, free⟩ => ⟨nonempty, free⟩⟩

namespace Entry

/-! ## The regular files of a tree -/

/-- The trees in which the entries of each directory have names of their own. -/
inductive IsTree : Entry → Prop where
  | file (content : ByteArray) : IsTree (.file content)
  | link (target : FilePath) : IsTree (.link target)
  | device : IsTree .device
  | directory {entries : List (Name × Entry)} (different : (entries.map Prod.fst).Nodup)
      (valid : ∀ b ∈ entries, b.1.IsValid) (below : ∀ b ∈ entries, IsTree b.2) :
      IsTree (.directory entries)

/-- Where names are different, an entry is found under its name. -/
lemma lookup_eq_some_iff_mem {entries : List (Name × Entry)}
    (different : (entries.map Prod.fst).Nodup) {n : Name} {e : Entry} :
    entries.lookup n = some e ↔ (n, e) ∈ entries := by
  induction entries with
  | nil => simp
  | cons b rest ih =>
    obtain ⟨k, old⟩ := b
    obtain ⟨fresh, different⟩ := List.nodup_cons.1 different
    rw [List.lookup_cons, List.mem_cons]
    by_cases same : n = k
    · subst same
      have only : (n, e) ∉ rest := fun mem => fresh (List.mem_map.2 ⟨_, mem, rfl⟩)
      simp [only, eq_comm]
    · simp [same, beq_false_of_ne same, ih different]

/-- The files of a directory are those of its entries. -/
lemma mem_filesOf_iff {entries : List (Name × Entry)} {f : Address × ByteArray} :
    f ∈ filesOf entries ↔
      ∃ n e a content, (n, e) ∈ entries ∧ (a, content) ∈ files e ∧ f = (n :: a, content) := by
  induction entries with
  | nil => simp [filesOf]
  | cons b rest ih =>
    obtain ⟨k, e⟩ := b
    rw [filesOf, List.mem_append, ih, List.mem_map]
    constructor
    · rintro (⟨⟨a, content⟩, mem, rfl⟩ | ⟨n, e', a, content, held, mem, rfl⟩)
      · exact ⟨k, e, a, content, List.mem_cons_self, mem, rfl⟩
      · exact ⟨n, e', a, content, List.mem_cons_of_mem _ held, mem, rfl⟩
    · rintro ⟨n, e', a, content, held, mem, rfl⟩
      rcases List.mem_cons.1 held with same | held
      · cases same
        exact .inl ⟨(a, content), mem, rfl⟩
      · exact .inr ⟨n, e', a, content, held, mem, rfl⟩

/-- No file of a directory is the directory. -/
lemma ne_nil_of_mem_filesOf {entries : List (Name × Entry)} {f : Address × ByteArray}
    (mem : f ∈ filesOf entries) : f.1 ≠ [] := by
  obtain ⟨n, e, a, content, -, -, rfl⟩ := mem_filesOf_iff.1 mem
  exact List.cons_ne_nil n a

/-- The files of a tree are what is at their addresses. -/
lemma mem_files_iff {e : Entry} (isTree : e.IsTree) {a : Address} {content : ByteArray} :
    (a, content) ∈ files e ↔ e.at? a = some (.file content) := by
  induction a generalizing e with
  | nil =>
    cases e with
    | file held => simp [files, at?, eq_comm]
    | link _ | device => simp [files, at?]
    | directory entries =>
      simp only [files, at?, Option.some.injEq, reduceCtorEq, iff_false]
      exact fun mem => ne_nil_of_mem_filesOf mem rfl
  | cons n a ih =>
    cases isTree with
    | file _ | link _ | device => simp [files, at?]
    | @directory entries different valid below =>
      rw [files, mem_filesOf_iff, at?, Option.bind_eq_some_iff]
      constructor
      · rintro ⟨n', e, a', content', held, mem, same⟩
        cases same
        exact ⟨e, (lookup_eq_some_iff_mem different).2 held, (ih (below _ held)).1 mem⟩
      · rintro ⟨e, known, there⟩
        have held := (lookup_eq_some_iff_mem different).1 known
        exact ⟨n, e, a, content, held, (ih (below _ held)).2 there, rfl⟩

/-- Entries with names of their own hold no file at one address twice. -/
lemma nodup_filesOf {entries : List (Name × Entry)} (different : (entries.map Prod.fst).Nodup)
    (each : ∀ b ∈ entries, ((files b.2).map Prod.fst).Nodup) :
    ((filesOf entries).map Prod.fst).Nodup := by
  induction entries with
  | nil => exact List.nodup_nil
  | cons b rest ih =>
    obtain ⟨k, e⟩ := b
    obtain ⟨fresh, different⟩ := List.nodup_cons.1 different
    have first : ((files e).map fun f => k :: f.1) = ((files e).map Prod.fst).map (k :: ·) := by
      rw [List.map_map]
      rfl
    rw [filesOf, List.map_append, List.map_map]
    refine List.nodup_append.2 ⟨?_, ih different fun b mem => each b (.tail _ mem), ?_⟩
    · exact first ▸ (each _ (.head rest)).map (List.cons_injective (a := k))
    · -- The addresses of files in different entries differ in their first names.
      rintro _ own _ other rfl
      obtain ⟨f, -, rfl⟩ := List.mem_map.1 own
      obtain ⟨g, mem, same⟩ := List.mem_map.1 other
      obtain ⟨n, e', a, content, held, -, rfl⟩ := mem_filesOf_iff.1 mem
      obtain ⟨rfl, -⟩ := List.cons.inj same
      exact fresh (List.mem_map.2 ⟨_, held, rfl⟩)

/-- No two files of a tree have the same address. -/
lemma nodup_files {e : Entry} (isTree : e.IsTree) : ((files e).map Prod.fst).Nodup := by
  induction isTree with
  | file content => exact List.nodup_singleton []
  | link _ | device => exact List.nodup_nil
  | directory different valid below ih => exact nodup_filesOf different ih

/-- The names on the way to an entry of a tree are valid. -/
lemma IsTree.valid_of_at? {e new : Entry} (isTree : e.IsTree) {a : Address}
    (there : e.at? a = some new) : ∀ n ∈ a, n.IsValid := by
  induction a generalizing e with
  | nil => exact nofun
  | cons n a ih =>
    cases isTree with
    | file _ | link _ | device => cases there
    | @directory entries different valid below =>
      obtain ⟨e, known, there⟩ := Option.bind_eq_some_iff.1 there
      have held := (lookup_eq_some_iff_mem different).1 known
      exact List.forall_mem_cons.2 ⟨valid _ held, ih (below _ held) there⟩

end Entry

namespace FilePath

/-! ## Paths below a directory -/

/-- The path of what is at an address below the directory at a path. -/
def extend (p : FilePath) (a : Address) : FilePath := a.foldl join p

/-- The bytes before the name of an entry of the directory at a path. -/
def front (p : FilePath) : List UInt8 :=
  if p.bytes.isEmpty || p.endsWithSlash then p.bytes else p.bytes ++ [slash]

lemma bytes_join (p : FilePath) (n : Name) : (p.join n).bytes = p.front ++ n := by
  rw [join, front]
  split
  · rfl
  · rw [List.append_assoc, List.singleton_append]

/-- A slash follows the name of a directory. -/
lemma front_join (p : FilePath) {n : Name} (valid : n.IsValid) :
    (p.join n).front = p.front ++ n ++ [slash] := by
  obtain ⟨start, last, rfl⟩ := (List.eq_nil_or_concat' n).resolve_left valid.nonempty
  have other : last ≠ slash := fun same => valid.slashFree (by simp [same])
  rw [front, endsWithSlash, bytes_join]
  simp [other]

/-- Below a path stand the names of an address, with slashes between them. -/
lemma bytes_extend (p : FilePath) {n : Name} {a : Address} (valid : ∀ m ∈ n :: a, m.IsValid) :
    (p.extend (n :: a)).bytes = p.front ++ [slash].intercalate (n :: a) := by
  induction a generalizing p n with
  | nil => rw [List.intercalate_singleton, ← bytes_join]; rfl
  | cons m a ih =>
    obtain ⟨first, behind⟩ := List.forall_mem_cons.1 valid
    have next : p.extend (n :: m :: a) = (p.join n).extend (m :: a) := rfl
    rw [next, ih _ behind, front_join p first, List.intercalate_cons_cons]
    simp only [List.append_assoc]

/-- Different addresses below a path have different paths. -/
lemma extend_inj (p : FilePath) {a b : Address} (there : a ≠ []) (there' : b ≠ [])
    (valid : ∀ n ∈ a, n.IsValid) (valid' : ∀ n ∈ b, n.IsValid) (same : p.extend a = p.extend b) :
    a = b := by
  obtain ⟨n, a, rfl⟩ := List.exists_cons_of_ne_nil there
  obtain ⟨m, b, rfl⟩ := List.exists_cons_of_ne_nil there'
  have bytes := congrArg FilePath.bytes same
  rw [bytes_extend p valid, bytes_extend p valid', List.append_cancel_left_eq] at bytes
  have pieces := congrArg (List.splitOn slash) bytes
  rwa [List.splitOn_intercalate slash (fun n mem => (valid n mem).slashFree) there,
    List.splitOn_intercalate slash (fun n mem => (valid' n mem).slashFree) there'] at pieces

end FilePath

namespace Criteria

variable (c : Criteria)

/-! ## The files that are wanted -/

/-- Whether a file is wanted that has the name `n` and lies below directories of the given names. -/
structure IsWanted (directories : Address) (n : Name) : Prop where
  ending : ∃ stem, n.text = stem ++ "." ++ c.extension
  entered : ∀ d ∈ directories, d.text ∉ c.ignoredDirectories

/-- Whether the criteria say so of the names of an address. -/
def selects (a : Address) : Bool :=
  a.getLast?.any c.accepts && a.dropLast.all fun d => !c.ignores d

/-- A directory is asked for its own name before what it holds. -/
lemma selects_cons (n : Name) {a : Address} (below : a ≠ []) :
    c.selects (n :: a) = (!c.ignores n && c.selects a) := by
  obtain ⟨m, a, rfl⟩ := List.exists_cons_of_ne_nil below
  rw [selects, selects, List.getLast?_cons_cons, List.dropLast_cons_cons, List.all_cons,
    Bool.and_left_comm]

/-- What is selected is what is wanted. -/
lemma selects_concat_iff (directories : Address) (n : Name) :
    c.selects (directories ++ [n]) = true ↔ c.IsWanted directories n := by
  rw [selects, List.getLast?_concat, List.dropLast_concat, Option.any_some, accepts,
    Bool.and_eq_true, Text.endsWith_iff, List.all_eq_true]
  simp only [ignores, Bool.not_eq_true', List.contains_eq_mem, decide_eq_false_iff_not,
    ← String.append_assoc]
  exact ⟨fun ⟨ending, entered⟩ => ⟨ending, entered⟩, fun ⟨ending, entered⟩ => ⟨ending, entered⟩⟩

end Criteria

namespace Entry

variable (c : Criteria)

mutual

/-- Going down into an entry gives the paths of those of its files that are selected. -/
lemma routeFiles_eq (p : FilePath) (n : Name) : ∀ e : Entry,
    routeFiles c p n e
      = ((files e).filter fun f => c.selects (n :: f.1)).map fun f => p.extend f.1
  | .file content => by
    have own : c.selects [n] = c.accepts n := by simp [Criteria.selects]
    rw [routeFiles, files, List.filter_cons, own]
    split <;> rfl
  | .link _ | .device => rfl
  | .directory entries => by
    -- The directory is the first one on the way to each of its files.
    have first : ∀ f ∈ filesOf entries,
        c.selects (n :: f.1) = (!c.ignores n && c.selects f.1) :=
      fun f mem => c.selects_cons n (ne_nil_of_mem_filesOf mem)
    rw [routeFiles, files, List.filter_congr first, routeFilesOf_eq p entries]
    cases c.ignores n <;> simp

/-- Going down into a directory gives the paths of those of its files that are selected. -/
lemma routeFilesOf_eq (p : FilePath) : ∀ entries : List (Name × Entry),
    routeFilesOf c p entries
      = ((filesOf entries).filter fun f => c.selects f.1).map fun f => p.extend f.1
  | [] => rfl
  | (n, e) :: rest => by
    rw [routeFilesOf, filesOf, routeFiles_eq (p.join n) n e, routeFilesOf_eq p rest,
      List.filter_append, List.map_append, List.filter_map, List.map_map]
    rfl

end

end Entry

namespace FileSystem

variable {fs : FileSystem}

/-- Whether a way leads to a place, or to a link in front of it. -/
def LeadsTowards (way : Way) (place : Place) : Prop :=
  way = .ok place ∨ ∃ a target, way = .ok (.occupied a (.link target))

/-- A way leads to the same place when a link at its end is not followed, or to that link. -/
lemma walkWith_unfollowed
    {onLink onLink' : Address → FilePath → List FilePath.Step → Way}
    (behindLinks : ∀ here target rest place, onLink here target rest = .ok place →
      LeadsTowards (onLink' here target rest) place)
    {here : Address} {steps : List FilePath.Step} {place : Place}
    (leads : fs.walkWith true onLink here steps = .ok place) :
    LeadsTowards (fs.walkWith false onLink' here steps) place := by
  induction steps generalizing here with
  | nil => exact .inl leads
  | cons step rest ih =>
    cases step with
    | stay => exact ih leads
    | up => exact ih leads
    | enter n =>
      rw [walkWith] at leads ⊢
      split at leads
      next => cases leads
      next short =>
        rw [if_neg short]
        cases there : fs.at? (here ++ [n]) with
        | none =>
          rw [there] at leads
          exact .inl leads
        | some e =>
          rw [there] at leads
          cases e with
          | directory entries => exact ih leads
          | file _ | device => exact .inl leads
          | link target =>
            -- Only a link behind which there are no steps is treated differently.
            by_cases last : rest.isEmpty
            · exact .inr ⟨_, _, if_pos (by simp [last])⟩
            · simp only [last, Bool.false_and, Bool.false_eq_true, if_false] at leads ⊢
              exact behindLinks _ _ _ _ leads

/-- The same through however many links. -/
lemma walk_unfollowed {links : Nat} {here : Address} {steps : List FilePath.Step} {place : Place}
    (leads : fs.walk true links here steps = .ok place) :
    LeadsTowards (fs.walk false links here steps) place := by
  induction links generalizing here steps place with
  | zero => exact walkWith_unfollowed (by simp) leads
  | succ links ih =>
    refine walkWith_unfollowed (fun here target rest place leads => ?_) leads
    split at leads
    next => cases leads
    next target => exact if_neg target ▸ ih leads

/-- An entry that a path leads to is found without following a link at the end too, if there is
none. -/
lemma entry_unfollowed {p : FilePath} {e : Entry} (leads : fs.entry true p = .ok e) :
    fs.entry false p = .ok e ∨ ∃ target, fs.entry false p = .ok (.link target) := by
  have found : ∃ a, fs.find true p = .ok (.occupied a e) := by
    rw [entry] at leads
    split at leads <;> cases leads
    exact ⟨_, ‹_›⟩
  obtain ⟨a, found⟩ := found
  have usable : pathFault p = none := by
    rw [find] at found
    split at found
    · cases found
    · assumption
  rw [entry, find, usable]
  rcases walk_unfollowed (walk_of_find found) with same | ⟨a, target, link⟩
  · rw [same]
    exact .inl rfl
  · rw [link]
    exact .inr ⟨target, rfl⟩

end FileSystem

namespace Scan

/-! ## The scan -/

variable {entries : List (Name × Entry)}

/-- The addresses of the files of a directory that are selected. -/
def found (c : Criteria) (entries : List (Name × Entry)) : List Address :=
  ((Entry.filesOf entries).filter fun f => c.selects f.1).map Prod.fst

/-- What is found in a directory are the wanted ones among its files. -/
lemma mem_found_iff (c : Criteria) (isTree : (Entry.directory entries).IsTree) (a : Address) :
    a ∈ found c entries ↔ ∃ directories n content, a = directories ++ [n] ∧
      (Entry.directory entries).at? a = some (.file content) ∧ c.IsWanted directories n := by
  rw [found, List.mem_map]
  constructor
  · rintro ⟨⟨a, content⟩, mem, rfl⟩
    obtain ⟨mem, selected⟩ := List.mem_filter.1 mem
    obtain ⟨directories, n, rfl⟩ :=
      (List.eq_nil_or_concat' a).resolve_left (Entry.ne_nil_of_mem_filesOf mem)
    exact ⟨directories, n, content, rfl, (Entry.mem_files_iff isTree).1 mem,
      (c.selects_concat_iff directories n).1 selected⟩
  · rintro ⟨directories, n, content, rfl, there, wanted⟩
    have mem := (Entry.mem_files_iff isTree).2 there
    have selected := (c.selects_concat_iff directories n).2 wanted
    exact ⟨(_, content), List.mem_filter.2 ⟨mem, selected⟩, rfl⟩

lemma nodup_found (c : Criteria) (isTree : (Entry.directory entries).IsTree) :
    (found c entries).Nodup :=
  (Entry.nodup_files isTree).sublist (List.filter_sublist.map Prod.fst)

/-- No path is found twice. -/
lemma nodup_map_extend_found (c : Criteria) (isTree : (Entry.directory entries).IsTree)
    (root : FilePath) : ((found c entries).map root.extend).Nodup := by
  have place : ∀ a ∈ found c entries, a ≠ [] ∧ ∀ n ∈ a, n.IsValid := by
    intro a mem
    obtain ⟨directories, n, content, rfl, there, -⟩ := (mem_found_iff c isTree a).1 mem
    exact ⟨by simp, isTree.valid_of_at? there⟩
  refine (nodup_found c isTree).map_on fun a mem b mem' same => ?_
  obtain ⟨below, valid⟩ := place a mem
  obtain ⟨below', valid'⟩ := place b mem'
  exact root.extend_inj below below' valid valid' same

variable {fs : FileSystem} {root : FilePath}

/-- A root that leads to a directory is gone down into, whether it is a link or not. -/
lemma ofRoot_of_directory (c : Criteria) (leads : fs.entry true root = .ok (.directory entries)) :
    ofRoot fs c root = ⟨(found c entries).map root.extend, []⟩ := by
  have files : Entry.routeFilesOf c root entries = (found c entries).map root.extend := by
    rw [Entry.routeFilesOf_eq, found, List.map_map]
    rfl
  rw [ofRoot, ← files]
  rcases FileSystem.entry_unfollowed leads with same | ⟨target, link⟩
  · rw [same]
  · rw [link, leads]

/-- A scan of a root that leads to a directory finds each regular file below it once whose name has
the extension and that lies below no directory with an ignored name, and it finds nothing else. The
root is entered whatever its name. Nothing is found behind a link below it, since no address leads
through one. -/
theorem ofRoot_finds_wanted_once (c : Criteria)
    (leads : fs.entry true root = .ok (.directory entries))
    (isTree : (Entry.directory entries).IsTree) :
    (ofRoot fs c root).warnings = [] ∧
    ∃ addresses : List Address,
      (ofRoot fs c root).files = addresses.map root.extend ∧
      addresses.Nodup ∧ (ofRoot fs c root).files.Nodup ∧
      ∀ a, a ∈ addresses ↔ ∃ directories n content, a = directories ++ [n] ∧
        (Entry.directory entries).at? a = some (.file content) ∧ c.IsWanted directories n := by
  rw [ofRoot_of_directory c leads]
  exact ⟨rfl, found c entries, rfl, nodup_found c isTree, nodup_map_extend_found c isTree root,
    mem_found_iff c isTree⟩

namespace Sample

/-- Looks for `.ts` in directories other than `lib` and `get.ts`. -/
def criteria : Criteria := ⟨"ts", ["lib", "get.ts"]⟩

/-- What is below the root: a file, a link to it, a directory that is left out, and one that is
entered although its name has the extension. -/
def below : List (Name × Entry) :=
  [(.ofText "get.ts", .file .empty),
    (.ofText "put.ts", .link (.ofText "get.ts")),
    (.ofText "lib", .directory [(.ofText "get.ts", .file .empty)]),
    (.ofText "pet.ts", .directory [(.ofText "get.ts", .file .empty)])]

/-- A directory, and a link to it whose name is one of those left out. -/
def files : FileSystem :=
  ⟨.directory [(.ofText "api", .directory below), (.ofText "lib", .link (.ofText "api"))], []⟩

end Sample

example : (ofRoot Sample.files Sample.criteria (.ofText "lib")).files
    = [.ofText "lib/get.ts", .ofText "lib/pet.ts/get.ts"] := by decide +kernel

lemma leads_sample :
    Sample.files.entry true (.ofText "lib") = .ok (.directory Sample.below) := by
  with_unfolding_all rfl

lemma isTree_sample : (Entry.directory Sample.below).IsTree := by
  have single : (Entry.directory [(.ofText "get.ts", .file .empty)]).IsTree :=
    .directory (List.nodup_singleton _) (by decide +kernel) (by simp [Entry.IsTree.file])
  refine .directory (by decide +kernel) (by decide +kernel) ?_
  simp [Sample.below, single, Entry.IsTree.file, Entry.IsTree.link]

/-- The link is scanned as a root, and is not left out. -/
theorem ofRoot_finds_wanted_once_sample :
    Sample.files.entry true (.ofText "lib") = .ok (.directory Sample.below) ∧
    (Entry.directory Sample.below).IsTree ∧
    (ofRoot Sample.files Sample.criteria (.ofText "lib")).warnings = [] ∧
    ∃ addresses : List Address,
      (ofRoot Sample.files Sample.criteria (.ofText "lib")).files
        = addresses.map (FilePath.ofText "lib").extend ∧
      addresses.Nodup ∧ (ofRoot Sample.files Sample.criteria (.ofText "lib")).files.Nodup ∧
      ∀ a, a ∈ addresses ↔ ∃ directories n content, a = directories ++ [n] ∧
        (Entry.directory Sample.below).at? a = some (.file content) ∧
        Sample.criteria.IsWanted directories n :=
  ⟨leads_sample, isTree_sample,
    ofRoot_finds_wanted_once Sample.criteria leads_sample isTree_sample⟩

end Scan

end RouteAtlas
