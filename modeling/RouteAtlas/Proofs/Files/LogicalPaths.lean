import Mathlib.Data.List.TakeWhile
import RouteAtlas.Proofs.Files.Scanning
import RouteAtlas.Proofs.Text.Decoding

/-!
# What logical paths tell apart

Below a root, the components of a path are the names on the way (`FilePath.below_extend`), so a
logical path is these names as texts, with slashes between them, behind what stands for the root
(`logicalPath_extend`). No text of a name has a slash, so the logical path determines the texts, and
nothing more: files have the same logical path exactly if their names read the same
(`Scan.logicalPath_eq_iff`). Names in UTF-8 read the same only if they are the same; others may not
(`Scan.logicalPath_garbled_eq`).
-/

namespace RouteAtlas

/-- Whether an entry of a directory can have the name. The directory itself and the one above are
not among its entries. -/
structure Name.IsProper (n : Name) : Prop extends n.IsValid where
  ne_dot : n ≠ .dot
  ne_dotDot : n ≠ .dotDot

instance (n : Name) : Decidable n.IsProper :=
  decidable_of_iff (n.IsValid ∧ n ≠ .dot ∧ n ≠ .dotDot)
    ⟨fun ⟨valid, one, two⟩ => ⟨valid, one, two⟩, fun ⟨valid, one, two⟩ => ⟨valid, one, two⟩⟩

namespace Name

/-- No slash is read in the name of an entry. -/
lemma IsValid.slash_notMem_text {n : Name} (valid : n.IsValid) : '/' ∉ n.text.toList :=
  Text.Utf8.slash_notMem_lossyText valid.slashFree

/-- A name in UTF-8 is read as what it was made of. -/
lemma text_ofText (s : String) : (ofText s).text = s := by
  rw [text, ofText, Text.Utf8.toList_toUTF8, Text.Utf8.lossyText_bytes]

end Name

namespace FilePath

/-! ## Components -/

/-- The pieces are what stands between the slashes. -/
lemma piecesOf_eq_splitOn (bs : List UInt8) : piecesOf bs = bs.splitOn slash := by
  induction bs with
  | nil => rfl
  | cons b bs ih =>
    rw [piecesOf, List.splitOn_cons_eq_if_modifyHead, ih]
    by_cases same : b = slash
    · simp [same]
    · rw [if_neg same, if_neg (by simpa using same)]
      cases split : bs.splitOn slash with
      | nil => exact absurd split (List.splitOn_ne_nil slash bs)
      | cons piece rest => rfl

/-- What the front of a path says. -/
def leading (p : FilePath) : List Component :=
  if p.isAbsolute then [.top] else if p.pieces.head? = some Name.dot then [.here] else []

lemma components_eq (p : FilePath) :
    p.components = p.leading ++ (p.bytes.splitOn slash).filterMap componentOf? := by
  rw [components, leading, pieces, piecesOf_eq_splitOn]

/-- An empty piece is no component. -/
lemma filterMap_empty : [[]].filterMap componentOf? = [] := rfl

/-- The name of an entry is a component. -/
lemma filterMap_name {n : Name} (proper : n.IsProper) :
    (n.splitOn slash).filterMap componentOf? = [.name n] := by
  rw [List.splitOn_eq_singleton proper.slashFree]
  simp [componentOf?, proper.nonempty, proper.ne_dot, proper.ne_dotDot]

/-- What stands behind a slash has no part in what the front of a path says. -/
lemma leading_append_slash (r x y : List UInt8) :
    (FilePath.mk (r ++ slash :: x)).leading = (FilePath.mk (r ++ slash :: y)).leading := by
  have first (x : List UInt8) : (r ++ slash :: x).head? = (r ++ [slash]).head? := by
    cases r <;> rfl
  have piece (x : List UInt8) :
      ((r ++ slash :: x).splitOn slash).head? = (r.splitOn slash).head? := by
    rw [List.splitOn_append_cons_self, List.head?_append_of_ne_nil _ (List.splitOn_ne_nil slash r)]
  simp only [leading, isAbsolute, pieces, piecesOf_eq_splitOn, first x, first y, piece x, piece y]

/-- A slash at the end of a path that is not empty says nothing. -/
lemma components_append_slash {r : List UInt8} (more : r ≠ []) :
    (FilePath.mk (r ++ [slash])).components = (FilePath.mk r).components := by
  have first : (r ++ [slash]).head? = r.head? := List.head?_append_of_ne_nil r more
  have split : (r ++ [slash]).splitOn slash = r.splitOn slash ++ [[]] :=
    List.splitOn_append_cons_self r []
  have piece : ((r ++ [slash]).splitOn slash).head? = (r.splitOn slash).head? := by
    rw [split, List.head?_append_of_ne_nil _ (List.splitOn_ne_nil slash r)]
  have leading : (FilePath.mk (r ++ [slash])).leading = (FilePath.mk r).leading := by
    simp only [leading, isAbsolute, pieces, piecesOf_eq_splitOn, first, piece]
  rw [components_eq, components_eq, leading, split, List.filterMap_append, filterMap_empty,
    List.append_nil]

/-- Behind a slash a piece of its own begins. -/
lemma components_append_name (r : List UInt8) {n : Name} (proper : n.IsProper) :
    (FilePath.mk (r ++ slash :: n)).components
      = (FilePath.mk (r ++ [slash])).components ++ [.name n] := by
  rw [components_eq, components_eq, leading_append_slash r n [], List.splitOn_append_cons_self,
    List.splitOn_append_cons_self, List.filterMap_append, List.filterMap_append,
    filterMap_name proper, List.splitOn_nil, filterMap_empty, List.append_nil, List.append_assoc]

/-- A name alone is a path of one component. -/
lemma components_name {n : Name} (proper : n.IsProper) :
    (FilePath.mk n).components = [.name n] := by
  have notAbsolute : n.head? ≠ some slash := fun first =>
    proper.slashFree (List.mem_of_mem_head? first)
  have leading : (FilePath.mk n).leading = [] := by
    simp [leading, isAbsolute, pieces, piecesOf_eq_splitOn, notAbsolute,
      List.splitOn_eq_singleton proper.slashFree, proper.ne_dot]
  rw [components_eq, leading, filterMap_name proper, List.nil_append]

/-- An entry of a directory has one more component. -/
lemma components_join (p : FilePath) {n : Name} (proper : n.IsProper) :
    (p.join n).components = p.components ++ [.name n] := by
  obtain ⟨bs⟩ := p
  by_cases none : bs = []
  · subst none
    exact components_name proper
  · by_cases ended : bs.getLast? = some slash
    · obtain ⟨r, rfl⟩ := List.getLast?_eq_some_iff.1 ended
      have joined : (FilePath.mk (r ++ [slash])).join n = ⟨r ++ slash :: n⟩ := by
        simp [join, endsWithSlash]
      rw [joined, components_append_name r proper]
    · have joined : (FilePath.mk bs).join n = ⟨bs ++ slash :: n⟩ := by
        simp [join, endsWithSlash, none, ended]
      rw [joined, components_append_name bs proper, components_append_slash none]

/-- Below a directory the names of an address are components. -/
lemma components_extend (p : FilePath) {a : Address} (proper : ∀ n ∈ a, n.IsProper) :
    (p.extend a).components = p.components ++ a.map .name := by
  induction a generalizing p with
  | nil => rw [List.map_nil, List.append_nil]; rfl
  | cons n a ih =>
    obtain ⟨first, behind⟩ := List.forall_mem_cons.1 proper
    have next : p.extend (n :: a) = (p.join n).extend a := rfl
    rw [next, ih _ behind, components_join p first, List.append_assoc]
    rfl

/-- The components below a directory are the names of the address. -/
lemma below_extend (root : FilePath) {a : Address} (proper : ∀ n ∈ a, n.IsProper) :
    root.below (root.extend a) = a.map .name := by
  have front : root.components.isPrefixOf (root.components ++ a.map .name) := by simp
  rw [below, components_extend root proper, if_pos front, List.drop_left]

end FilePath

/-! ## Logical paths -/

/-- A logical path is the names below the root, behind what stands for the root. -/
lemma logicalPath_extend (logicalPrefix : String) (root : FilePath) {a : Address}
    (proper : ∀ n ∈ a, n.IsProper) :
    logicalPath logicalPrefix root (root.extend a)
      = (if Text.trimTrailing '/' logicalPrefix = "" then ""
          else Text.trimTrailing '/' logicalPrefix ++ "/")
        ++ "/".intercalate (a.map Name.text) := by
  rw [logicalPath, FilePath.below_extend root proper, List.map_map]
  have texts : Component.text ∘ .name = Name.text := rfl
  rw [texts]
  by_cases none : Text.trimTrailing '/' logicalPrefix = ""
  · simp [none]
  · simp [none]

/-- Texts without slashes can be told from what they are joined to by slashes. -/
lemma intercalate_slash_inj {ss ts : List String} (more : ss ≠ []) (more' : ts ≠ [])
    (free : ∀ s ∈ ss, '/' ∉ s.toList) (free' : ∀ s ∈ ts, '/' ∉ s.toList)
    (same : "/".intercalate ss = "/".intercalate ts) : ss = ts := by
  have slash : "/".toList = ['/'] := rfl
  have chars := congrArg String.toList same
  rw [String.toList_intercalate, String.toList_intercalate, slash] at chars
  have texts := congrArg (List.splitOn '/') chars
  rw [List.splitOn_intercalate '/' (by simpa using free) (by simpa using more),
    List.splitOn_intercalate '/' (by simpa using free') (by simpa using more')] at texts
  exact List.map_injective_iff.2 (fun _ _ => String.toList_inj.1) texts

/-- Two files below a root have the same logical path exactly if the names on the way read the same.
-/
lemma logicalPath_extend_eq_iff (logicalPrefix : String) (root : FilePath) {a b : Address}
    (more : a ≠ []) (more' : b ≠ []) (proper : ∀ n ∈ a, n.IsProper)
    (proper' : ∀ n ∈ b, n.IsProper) :
    logicalPath logicalPrefix root (root.extend a) = logicalPath logicalPrefix root (root.extend b)
      ↔ a.map Name.text = b.map Name.text := by
  have free {a : Address} (proper : ∀ n ∈ a, n.IsProper) :
      ∀ s ∈ a.map Name.text, '/' ∉ s.toList := by
    intro s mem
    obtain ⟨n, held, rfl⟩ := List.mem_map.1 mem
    exact (proper n held).slash_notMem_text
  rw [logicalPath_extend logicalPrefix root proper, logicalPath_extend logicalPrefix root proper',
    String.append_right_inj]
  exact ⟨intercalate_slash_inj (by simpa using more) (by simpa using more') (free proper)
    (free proper'), congrArg _⟩

/-- Names in UTF-8 that read the same are the same. -/
lemma eq_of_map_text_eq {a b : Address} (encoded : ∀ n ∈ a ++ b, ∃ s, n = .ofText s)
    (same : a.map Name.text = b.map Name.text) : a = b := by
  have back {a : Address} (encoded : ∀ n ∈ a, ∃ s, n = .ofText s) :
      (a.map Name.text).map Name.ofText = a := by
    have each : ∀ n ∈ a, (Name.ofText ∘ Name.text) n = n := by
      intro n mem
      obtain ⟨s, rfl⟩ := encoded n mem
      exact congrArg Name.ofText (Name.text_ofText s)
    rw [List.map_map, List.map_congr_left each, List.map_id']
  rw [List.forall_mem_append] at encoded
  rw [← back encoded.1, same, back encoded.2]

/-- Trimming takes off a character at the end of a text, however often it is there. -/
lemma exists_trimTrailing (c : Char) (s : String) :
    ∃ count, s.toList = (Text.trimTrailing c s).toList ++ List.replicate count c ∧
      (Text.trimTrailing c s).toList.getLast? ≠ some c := by
  have trimmed :
      (Text.trimTrailing c s).toList = (s.toList.reverse.dropWhile (· == c)).reverse := by
    rw [Text.trimTrailing, String.toList_ofList]
  have tail : s.toList.reverse.takeWhile (· == c)
      = List.replicate (s.toList.reverse.takeWhile (· == c)).length c :=
    List.eq_replicate_of_mem fun d mem => by simpa using List.mem_takeWhile_imp mem
  have whole := congrArg List.reverse (List.takeWhile_append_dropWhile (p := (· == c))
    (l := s.toList.reverse))
  rw [List.reverse_append, List.reverse_reverse, tail, List.reverse_replicate] at whole
  rw [← trimmed] at whole
  refine ⟨_, whole.symm, fun last => ?_⟩
  have kept := List.head?_dropWhile_not (· == c) s.toList.reverse
  rw [trimmed, List.getLast?_reverse] at last
  simp [last] at kept

/-- Different addresses below a path have different paths. -/
lemma FilePath.extend_eq_iff (p : FilePath) {a b : Address} (proper : ∀ n ∈ a, n.IsProper)
    (proper' : ∀ n ∈ b, n.IsProper) : p.extend a = p.extend b ↔ a = b := by
  refine ⟨fun same => ?_, congrArg _⟩
  have components := congrArg FilePath.components same
  rw [components_extend p proper, components_extend p proper', List.append_right_inj] at components
  exact List.map_injective_iff.2 (fun _ _ => Component.name.inj) components

/-! ## Proper trees -/

namespace Entry

/-- The trees in which the entries of each directory have proper names of their own. -/
inductive IsProper : Entry → Prop where
  | file (content : ByteArray) : IsProper (.file content)
  | link (target : FilePath) : IsProper (.link target)
  | device : IsProper .device
  | directory {entries : List (Name × Entry)} (different : (entries.map Prod.fst).Nodup)
      (named : ∀ b ∈ entries, b.1.IsProper) (below : ∀ b ∈ entries, IsProper b.2) :
      IsProper (.directory entries)

lemma IsProper.isTree {e : Entry} (isProper : e.IsProper) : e.IsTree := by
  induction isProper with
  | file content => exact .file content
  | link target => exact .link target
  | device => exact .device
  | directory different named below ih =>
    exact .directory different (fun b mem => (named b mem).toIsValid) ih

/-- What is in a proper tree is one, and the names on the way to it are proper. -/
lemma IsProper.of_at? {e new : Entry} (isProper : e.IsProper) {a : Address}
    (there : e.at? a = some new) : new.IsProper ∧ ∀ n ∈ a, n.IsProper := by
  induction a generalizing e with
  | nil =>
    cases there
    exact ⟨isProper, List.forall_mem_nil _⟩
  | cons n a ih =>
    cases isProper with
    | file _ | link _ | device => cases there
    | @directory entries different named below =>
      obtain ⟨e, known, there⟩ := Option.bind_eq_some_iff.1 there
      have held := (lookup_eq_some_iff_mem different).1 known
      obtain ⟨proper, way⟩ := ih (below _ held) there
      exact ⟨proper, List.forall_mem_cons.2 ⟨named _ held, way⟩⟩

end Entry

/-- The file systems that are proper trees in which the working directory is there. -/
structure FileSystem.IsProper (fs : FileSystem) : Prop where
  top : fs.top.IsProper
  grounded : fs.IsGrounded

namespace Scan

variable {fs : FileSystem} {c : Criteria} {root : FilePath}

/-- What a path leads to is proper. -/
lemma isProper_of_entry (isProper : fs.IsProper) {followLast : Bool} {e : Entry}
    (leads : fs.entry followLast root = .ok e) : e.IsProper := by
  rw [FileSystem.entry] at leads
  split at leads
  next => cases leads
  next => cases leads
  next a e' found =>
    cases leads
    exact (isProper.top.of_at? (FileSystem.Holds.of_find isProper.grounded found)).1

/-- What is found in a directory is below it, on a way of proper names. -/
lemma proper_of_mem_found {entries : List (Name × Entry)}
    (isProper : (Entry.directory entries).IsProper) {a : Address} (mem : a ∈ found c entries) :
    a ≠ [] ∧ ∀ n ∈ a, n.IsProper := by
  obtain ⟨directories, n, content, rfl, there, -⟩ := (mem_found_iff c isProper.isTree a).1 mem
  exact ⟨by simp, (isProper.of_at? there).2⟩

/-- Whether files are at addresses of proper names below a root: each of them below it, or each of
them the root. -/
def AreBelow (root : FilePath) (files : List FilePath) : Prop :=
  ∃ addresses : List Address, files = addresses.map root.extend ∧
    (∀ a ∈ addresses, ∀ n ∈ a, n.IsProper) ∧
    ((∀ a ∈ addresses, a ≠ []) ∨ ∀ a ∈ addresses, a = [])

lemma areBelow_nil (root : FilePath) : AreBelow root [] :=
  ⟨[], rfl, List.forall_mem_nil _, .inl (List.forall_mem_nil _)⟩

lemma areBelow_self (root : FilePath) : AreBelow root [root] :=
  ⟨[[]], rfl, by simp, .inr (by simp)⟩

/-- What is found in a directory is below the root. -/
lemma areBelow_of_directory {entries : List (Name × Entry)}
    (isProper : (Entry.directory entries).IsProper) :
    AreBelow root (Entry.routeFilesOf c root entries) := by
  refine ⟨found c entries, ?_, fun a mem => (proper_of_mem_found isProper mem).2,
    .inl fun a mem => (proper_of_mem_found isProper mem).1⟩
  rw [Entry.routeFilesOf_eq, found, List.map_map]
  rfl

/-- What a scan finds is below its root, or is its root. -/
lemma areBelow_ofRoot (isProper : fs.IsProper) : AreBelow root (ofRoot fs c root).files := by
  rw [ofRoot]
  split
  next => exact areBelow_nil root
  next =>
    dsimp only
    split
    · exact areBelow_self root
    · exact areBelow_nil root
  next entries leads => exact areBelow_of_directory (isProper_of_entry isProper leads)
  next => exact areBelow_nil root
  next =>
    split
    next => exact areBelow_nil root
    next entries leads => exact areBelow_of_directory (isProper_of_entry isProper leads)
    next => exact areBelow_nil root

/-- Of any two files that a scan finds, the logical path is the names below the root, read as texts
and joined by slashes, behind the prefix without the slashes at its end and one slash, if anything
of it is left. The two logical paths are the same exactly if the names read the same. So files whose
names are in UTF-8 have logical paths of their own. -/
theorem logicalPath_eq_iff (isProper : fs.IsProper) (logicalPrefix : String) {f g : FilePath}
    (mem : f ∈ (ofRoot fs c root).files) (mem' : g ∈ (ofRoot fs c root).files) :
    ∃ (front : String) (slashes : Nat) (a b : Address),
      logicalPrefix.toList = front.toList ++ List.replicate slashes '/' ∧
      front.toList.getLast? ≠ some '/' ∧
      (∀ n ∈ a ++ b, n.IsProper) ∧ f = root.extend a ∧ g = root.extend b ∧
      logicalPath logicalPrefix root f
        = (if front = "" then "" else front ++ "/") ++ "/".intercalate (a.map Name.text) ∧
      (logicalPath logicalPrefix root f = logicalPath logicalPrefix root g
        ↔ a.map Name.text = b.map Name.text) ∧
      ((∀ n ∈ a ++ b, ∃ s, n = .ofText s) →
        (logicalPath logicalPrefix root f = logicalPath logicalPrefix root g ↔ f = g)) := by
  obtain ⟨addresses, files, proper, depth⟩ := areBelow_ofRoot isProper
  rw [files] at mem mem'
  obtain ⟨a, held, rfl⟩ := List.mem_map.1 mem
  obtain ⟨b, held', rfl⟩ := List.mem_map.1 mem'
  obtain ⟨slashes, trimmed, last⟩ := exists_trimTrailing '/' logicalPrefix
  have same : logicalPath logicalPrefix root (root.extend a)
      = logicalPath logicalPrefix root (root.extend b) ↔ a.map Name.text = b.map Name.text := by
    rcases depth with below | itself
    · exact logicalPath_extend_eq_iff logicalPrefix root (below a held) (below b held')
        (proper a held) (proper b held')
    · rw [itself a held, itself b held']
      exact ⟨fun _ => rfl, fun _ => rfl⟩
  refine ⟨Text.trimTrailing '/' logicalPrefix, slashes, a, b, trimmed, last,
    List.forall_mem_append.2 ⟨proper a held, proper b held'⟩, rfl, rfl,
    logicalPath_extend logicalPrefix root (proper a held), same, fun encoded => ?_⟩
  rw [same, root.extend_eq_iff (proper a held) (proper b held')]
  exact ⟨eq_of_map_text_eq encoded, congrArg _⟩

namespace Sample

/-- The path of a directory. -/
def base : FilePath := .ofText "./routes/"

/-- A file whose name is no text, since it begins with the byte `b`. -/
def garbled (b : UInt8) : FilePath := ⟨base.bytes ++ [b, 46, 116, 115]⟩

/-- A file in a directory below. -/
def nested : FilePath := .ofText "./routes/item/get.ts"

/-- What the directory holds. -/
def entries : List (Name × Entry) :=
  [([0xff, 46, 116, 115], .file .empty), ([0xfe, 46, 116, 115], .file .empty),
    (.ofText "item", .directory [(.ofText "get.ts", .file .empty)])]

/-- The files that a scan of the directory is about. -/
def tree : FileSystem := ⟨.directory [(.ofText "routes", .directory entries)], []⟩

end Sample

lemma isProper_tree : Sample.tree.IsProper := by
  have inner : (Entry.directory [(.ofText "get.ts", .file .empty)]).IsProper :=
    .directory (List.nodup_singleton _) (by decide +kernel) (by simp [Entry.IsProper.file])
  have middle : (Entry.directory Sample.entries).IsProper :=
    .directory (by decide +kernel) (by decide +kernel)
      (by simp [Sample.entries, inner, Entry.IsProper.file])
  exact ⟨.directory (List.nodup_singleton _) (by decide +kernel) (by simpa using middle), _, rfl⟩

lemma files_tree : (ofRoot Sample.tree ⟨"ts", []⟩ Sample.base).files
    = [Sample.garbled 0xff, Sample.garbled 0xfe, Sample.nested] := by
  decide +kernel

/-- A file in a directory, and one whose name is no text. -/
theorem logicalPath_eq_iff_nested :
    Sample.tree.IsProper ∧
    Sample.nested ∈ (ofRoot Sample.tree ⟨"ts", []⟩ Sample.base).files ∧
    Sample.garbled 0xff ∈ (ofRoot Sample.tree ⟨"ts", []⟩ Sample.base).files ∧
    ∃ (front : String) (slashes : Nat) (a b : Address),
      "app//".toList = front.toList ++ List.replicate slashes '/' ∧
      front.toList.getLast? ≠ some '/' ∧
      (∀ n ∈ a ++ b, n.IsProper) ∧
      Sample.nested = Sample.base.extend a ∧ Sample.garbled 0xff = Sample.base.extend b ∧
      logicalPath "app//" Sample.base Sample.nested
        = (if front = "" then "" else front ++ "/") ++ "/".intercalate (a.map Name.text) ∧
      (logicalPath "app//" Sample.base Sample.nested
          = logicalPath "app//" Sample.base (Sample.garbled 0xff)
        ↔ a.map Name.text = b.map Name.text) ∧
      ((∀ n ∈ a ++ b, ∃ s, n = .ofText s) →
        (logicalPath "app//" Sample.base Sample.nested
            = logicalPath "app//" Sample.base (Sample.garbled 0xff)
          ↔ Sample.nested = Sample.garbled 0xff)) := by
  have mem : Sample.nested ∈ (ofRoot Sample.tree ⟨"ts", []⟩ Sample.base).files := by
    simp [files_tree]
  have mem' : Sample.garbled 0xff ∈ (ofRoot Sample.tree ⟨"ts", []⟩ Sample.base).files := by
    simp [files_tree]
  exact ⟨isProper_tree, mem, mem', logicalPath_eq_iff isProper_tree "app//" mem mem'⟩

/-- Names that are no texts may read the same. Then different files of one scan have the same
logical path. -/
theorem logicalPath_garbled_eq :
    Sample.garbled 0xff ∈ (ofRoot Sample.tree ⟨"ts", []⟩ Sample.base).files ∧
    Sample.garbled 0xfe ∈ (ofRoot Sample.tree ⟨"ts", []⟩ Sample.base).files ∧
    Sample.garbled 0xff ≠ Sample.garbled 0xfe ∧
    logicalPath "." Sample.base (Sample.garbled 0xff)
      = logicalPath "." Sample.base (Sample.garbled 0xfe) := by
  refine ⟨?_, ?_, ?_, ?_⟩
  · simp [files_tree]
  · simp [files_tree]
  · decide +kernel
  · decide +kernel

end Scan

end RouteAtlas
