import RouteAtlas.Proofs.Files.Placing

/-!
# What writing changes

Whatever becomes of the making of directories, it makes directories and nothing else
(`FileSystem.grown_makeDirectoriesTo`). The writing of a text to a path without links comes to one
of three ends (`FileSystem.writeEnd_writeText`): all of the text is stored in the file that the path
names, or no file changes, or the write was interrupted and the file holds the beginning of the
text. No other file changes.
-/

namespace RouteAtlas

/-- Whether an entry is a regular file or a directory. -/
def Entry.isPlain : Entry → Bool
  | .file _ | .directory _ => true
  | .link _ | .device => false

namespace FileSystem

variable {fs fs' fs'' : FileSystem} {d : Address} {n : Name} {p : FilePath}

/-- Whether a file system comes from another one by making directories, and by writing regular files
at some addresses. -/
structure Grown (written : Address → Prop) (fs fs' : FileSystem) : Prop where
  workingDirectory : fs'.workingDirectory = fs.workingDirectory
  directories : ∀ a, fs.IsDirectoryAt a → fs'.IsDirectoryAt a
  others : ∀ a e, e.isPlain = false → fs'.at? a = some e → fs.at? a = some e
  files : ∀ a, ¬ written a → fs'.fileAt a = fs.fileAt a

section Grown
variable {written written' : Address → Prop}

/-- A file system may stay as it is. -/
lemma Grown.refl (written : Address → Prop) (fs : FileSystem) : Grown written fs fs :=
  ⟨rfl, fun _ directory => directory, fun _ _ _ there => there, fun _ _ => rfl⟩

/-- One change after another is a change. -/
lemma Grown.trans (first : Grown written fs fs') (second : Grown written fs' fs'') :
    Grown written fs fs'' where
  workingDirectory := second.workingDirectory.trans first.workingDirectory
  directories a directory := second.directories a (first.directories a directory)
  others a e special there := first.others a e special (second.others a e special there)
  files a other := (second.files a other).trans (first.files a other)

/-- More addresses may be written at than are. -/
lemma Grown.mono (grown : Grown written fs fs') (more : ∀ a, written a → written' a) :
    Grown written' fs fs' :=
  { grown with files := fun a other => grown.files a fun is => other (more a is) }

/-- The working directory stays. -/
lemma Grown.isGrounded (grown : Grown written fs fs') (grounded : fs.IsGrounded) :
    fs'.IsGrounded := by
  rw [IsGrounded, grown.workingDirectory]
  exact grown.directories _ grounded

/-- A path begins where it began. -/
lemma Grown.start_eq (grown : Grown written fs fs') (p : FilePath) : fs'.start p = fs.start p := by
  rw [start, start, grown.workingDirectory]

/-- A path names the address that it named. -/
lemma Grown.addressOf_eq (grown : Grown written fs fs') (p : FilePath) :
    fs'.addressOf p = fs.addressOf p := by
  rw [addressOf, addressOf, grown.start_eq]

/-- No link comes into the way of a path. -/
lemma Grown.isDirect (grown : Grown written fs fs') (direct : fs.IsDirect p) : fs'.IsDirect p := by
  rw [IsDirect, grown.start_eq]
  exact fun front before target there => direct front before target (grown.others _ _ rfl there)

end Grown

/-! ## Single changes -/

/-- Putting an entry that holds nothing in the place of one that holds nothing changes no other
address. -/
lemma at?_put_leaf {e : Entry} (directory : fs.IsDirectoryAt d)
    (other : ¬ fs.IsDirectoryAt (d ++ [n])) (leaf : ∀ m c, e.at? (m :: c) = none) (b : Address) :
    (b = d ++ [n] ∧ (fs.put (d ++ [n]) e).at? b = some e) ∨
    (fs.IsDirectoryAt b ∧ (fs.put (d ++ [n]) e).IsDirectoryAt b) ∨
    (fs.put (d ++ [n]) e).at? b = fs.at? b := by
  rcases at?_put_cases directory n e b with ⟨c, rfl, new⟩ | both | same
  · cases c with
    | nil => exact .inl ⟨rfl, new⟩
    | cons m c =>
      have nothing : fs.at? (d ++ n :: m :: c) = none := by
        cases there : fs.at? (d ++ n :: m :: c) with
        | none => rfl
        | some e' =>
          rw [← List.singleton_append, ← List.append_assoc] at there
          exact absurd (Entry.directory_of_below there) other
      exact .inr (.inr (by rw [new, leaf, nothing]))
  · exact .inr (.inl both)
  · exact .inr (.inr same)

/-- What is put in a directory in the place of no directory is all that changes. -/
lemma grown_put {e : Entry} (directory : fs.IsDirectoryAt d)
    (other : ¬ fs.IsDirectoryAt (d ++ [n])) (leaf : ∀ m c, e.at? (m :: c) = none)
    (plain : e.isPlain = true) :
    Grown (· = d ++ [n]) fs (fs.put (d ++ [n]) e) := by
  refine ⟨rfl, fun a there => ?_, fun a e' special there => ?_, fun a elsewhere => ?_⟩
  · rcases at?_put_leaf directory other leaf a with ⟨rfl, -⟩ | ⟨-, new⟩ | same
    · exact absurd there other
    · exact new
    · obtain ⟨entries, there⟩ := there
      exact ⟨entries, same.trans there⟩
  · rcases at?_put_leaf directory other leaf a with ⟨-, new⟩ | ⟨-, entries, new⟩ | same
    · rw [there] at new
      cases new
      rw [plain] at special
      cases special
    · rw [there] at new
      cases new
      cases special
    · exact same.symm.trans there
  · rcases at?_put_leaf directory other leaf a with ⟨here, -⟩ | ⟨⟨held, old⟩, entries, new⟩ | same
    · exact absurd here elsewhere
    · rw [fileAt, fileAt, old, new]
    · rw [fileAt, fileAt, same]

/-- A directory that is made under a vacant name changes no file. -/
lemma grown_put_directory (directory : fs.IsDirectoryAt d) (vacant : fs.at? (d ++ [n]) = none) :
    Grown (fun _ => False) fs (fs.put (d ++ [n]) (.directory [])) := by
  have other : ¬ fs.IsDirectoryAt (d ++ [n]) := by
    rintro ⟨entries, there⟩
    rw [vacant] at there
    cases there
  have grown :=
    grown_put directory other (e := .directory []) (fun m c => rfl) rfl
  refine { grown with files := fun a _ => ?_ }
  rcases at?_put_leaf directory other (e := .directory []) (fun m c => rfl) a
    with ⟨rfl, new⟩ | ⟨⟨held, old⟩, entries, new⟩ | same
  · rw [fileAt, fileAt, new, vacant]
  · rw [fileAt, fileAt, old, new]
  · rw [fileAt, fileAt, same]

/-! ## Making directories -/

/-- Making a directory changes no file. -/
lemma grown_makeDirectory (grounded : fs.IsGrounded) (made : fs.makeDirectory p = .ok fs') :
    Grown (fun _ => False) fs fs' := by
  rw [makeDirectory, make] at made
  split at made
  next => cases made
  next => cases made
  next d n found =>
    cases made
    obtain ⟨directory, vacant⟩ := Holds.of_find grounded found
    exact grown_put_directory directory vacant

/-- Making sure that a directory is there changes no file. -/
lemma grown_ensureDirectory (grounded : fs.IsGrounded) (ensured : fs.ensureDirectory p = .ok fs') :
    Grown (fun _ => False) fs fs' := by
  rw [ensureDirectory] at ensured
  split at ensured
  next after made =>
    cases ensured
    exact grown_makeDirectory grounded made
  next =>
    split at ensured
    · cases ensured
      exact .refl _ fs
    · cases ensured

/-- Making a directory and those above it changes no file, even if it fails on the way. -/
lemma grown_makeDirectoriesTo (grounded : fs.IsGrounded) (depth : Nat) (p : FilePath) :
    Grown (fun _ => False) fs (fs.makeDirectoriesTo depth p).after := by
  fun_induction fs.makeDirectoriesTo depth p with
  | case1 => exact .refl _ fs
  | case2 depth p nonempty after ensured => exact grown_ensureDirectory grounded ensured
  | case3 p nonempty depth above isAbove change fault failed missing ih => exact ih
  | case4 p nonempty depth above isAbove change done after ensured missing ih =>
    exact ih.trans (grown_ensureDirectory (ih.isGrounded grounded) ensured)
  | case5 p nonempty depth above isAbove change done fault failed missing ih => exact ih
  | case6 => exact .refl _ fs
  | case7 => exact .refl _ fs

/-! ## Writing files -/

/-- A file is written in the directory that it is looked up in, and nowhere else. -/
lemma grown_put_file (directory : fs.IsDirectoryAt d) (other : ¬ fs.IsDirectoryAt (d ++ [n]))
    (content : ByteArray) : Grown (· = d ++ [n]) fs (fs.put (d ++ [n]) (.file content)) ∧
      (fs.put (d ++ [n]) (.file content)).fileAt (d ++ [n]) = some content := by
  refine ⟨grown_put directory other (fun m c => rfl) rfl, ?_⟩
  obtain ⟨entries, there⟩ := directory
  have new : (fs.put (d ++ [n]) (.file content)).at? (d ++ [n]) = some (.file content) :=
    Entry.at?_put_below there []
  rw [fileAt, new]

/-- Whether a content that was written to a path is there afterwards: in the file that the path
names, unless this is a device, which holds nothing. -/
def Received (fs after : FileSystem) (p : FilePath) (content : ByteArray) : Prop :=
  after.fileAt (fs.addressOf p) = some content ∨
    fs.at? (fs.addressOf p) = some .device ∧ after.fileAt (fs.addressOf p) = none

/-- What is received after other changes is received all the same. -/
lemma Received.of_grown {written : Address → Prop} {content : ByteArray}
    (grown : Grown written fs fs') (received : Received fs' fs'' p content) :
    Received fs fs'' p content := by
  rw [Received, grown.addressOf_eq] at received
  exact received.imp_right fun ⟨device, nothing⟩ => ⟨grown.others _ _ rfl device, nothing⟩

/-- What was received stays if the file is not written to any more. -/
lemma Received.of_unwritten {written : Address → Prop} {content : ByteArray}
    (received : Received fs fs' p content) (grown : Grown written fs' fs'')
    (other : ¬ written (fs.addressOf p)) : Received fs fs'' p content := by
  rwa [Received, grown.files _ other]

/-- Whether a content was written to the path, and nothing else was. -/
structure Wrote (fs after : FileSystem) (p : FilePath) (content : ByteArray) : Prop where
  grown : Grown (· = fs.addressOf p) fs after
  received : Received fs after p content

/-- What a file is given at a path without links is received, and nothing else changes. -/
lemma wrote_writeFile {content : ByteArray} (grounded : fs.IsGrounded) (direct : fs.IsDirect p)
    (given : fs.writeFile content p = .ok fs') : Wrote fs fs' p content := by
  have named {place : Place} (found : fs.find true p = .ok place) :
      placeAddress place = fs.addressOf p := placeAddress_of_find direct found
  rw [writeFile] at given
  split at given
  next => cases given
  next =>
    split at given
    next => cases given
    next d n found =>
      cases given
      obtain ⟨directory, vacant⟩ := Holds.of_find grounded found
      have other : ¬ fs.IsDirectoryAt (d ++ [n]) := by
        rintro ⟨entries, there⟩
        rw [vacant] at there
        cases there
      obtain ⟨grown, new⟩ := grown_put_file directory other content
      exact ⟨named found ▸ grown, .inl (named found ▸ new)⟩
    next a old found =>
      cases given
      have there : fs.at? a = some (.file old) := Holds.of_find grounded found
      have other : ¬ fs.IsDirectoryAt a := by
        rintro ⟨entries, there'⟩
        rw [there] at there'
        cases there'
      have named := named found
      -- The file is not at the top, which is a directory.
      rcases List.eq_nil_or_concat a with rfl | ⟨d, n, rfl⟩
      · exact absurd (grounded.of_prefix List.nil_prefix) other
      · rw [List.concat_eq_append] at there other named ⊢
        obtain ⟨grown, new⟩ := grown_put_file (Entry.directory_of_below there) other content
        exact ⟨named ▸ grown, .inl (named ▸ new)⟩
    next a found =>
      cases given
      have there : fs.at? a = some .device := Holds.of_find grounded found
      rw [show a = fs.addressOf p from named found] at there
      exact ⟨.refl _ fs, .inr ⟨there, by rw [fileAt, there]⟩⟩
    next => cases given

/-- The ends that the writing of a content to a path can come to. -/
inductive WriteEnd (fs : FileSystem) (p : FilePath) (content : ByteArray)
    (interruption : Option Interruption) (change : Change) : Prop
  /-- All of the content was written. -/
  | written (done : change.fault = none) (wrote : Wrote fs change.after p content)
  /-- Nothing was written. -/
  | refused (failed : change.fault ≠ none) (grown : Grown (fun _ => False) fs change.after)
  /-- The beginning of the content was written. -/
  | interrupted {i : Interruption} (is : interruption = some i) (early : i.stored < content.size)
      (failed : change.fault = some i.fault)
      (wrote : Wrote fs change.after p (content.extract 0 i.stored))

variable {interruption : Option Interruption}

/-- The writing of a content to a path without links comes to one of these ends. -/
lemma writeEnd_write (grounded : fs.IsGrounded) (direct : fs.IsDirect p) (content : ByteArray) :
    WriteEnd fs p content interruption (fs.write content p interruption) := by
  cases early : interruption.filter fun i => i.stored < content.size with
  | none =>
    rw [write, early]
    cases given : fs.writeFile content p with
    | error fault => exact .refused nofun (.refl _ fs)
    | ok after => exact .written rfl (wrote_writeFile grounded direct given)
  | some i =>
    rw [write, early]
    obtain ⟨is, early⟩ := Option.filter_eq_some_iff.1 early
    cases given : fs.writeFile (content.extract 0 i.stored) p with
    | error fault => exact .refused nofun (.refl _ fs)
    | ok after =>
      exact .interrupted is (of_decide_eq_true early) rfl (wrote_writeFile grounded direct given)

/-- The directories that are made for a file to be written. -/
def makeParent (fs : FileSystem) (p : FilePath) : Change :=
  match p.parent? with
  | none => ⟨fs, none⟩
  | some above => fs.makeDirectories above

/-- Making the directories for a file changes no file, even if it fails on the way. -/
lemma grown_makeParent (grounded : fs.IsGrounded) (p : FilePath) :
    Grown (fun _ => False) fs (fs.makeParent p).after := by
  rw [makeParent]
  split
  · exact .refl _ fs
  · exact grown_makeDirectoriesTo grounded _ _

/-- A text is written when the directories for it have been made. -/
lemma writeText_eq (fs : FileSystem) (text : String) (p : FilePath) :
    fs.writeText text p interruption =
      match (fs.makeParent p).fault with
      | some _ => fs.makeParent p
      | none => (fs.makeParent p).after.write text.toUTF8 p interruption := rfl

/-- What is written after directories were made is written all the same. -/
lemma Wrote.of_made {content : ByteArray} (made : Grown (fun _ => False) fs fs')
    (wrote : Wrote fs' fs'' p content) : Wrote fs fs'' p content := by
  have grown := wrote.grown
  rw [made.addressOf_eq] at grown
  exact ⟨(made.mono nofun).trans grown, wrote.received.of_grown made⟩

/-- The writing of a text to a path without links comes to one of the three ends. -/
lemma writeEnd_writeText (grounded : fs.IsGrounded) (direct : fs.IsDirect p) (text : String) :
    WriteEnd fs p text.toUTF8 interruption (fs.writeText text p interruption) := by
  have made := grown_makeParent grounded p
  rw [writeText_eq]
  split
  next fault failed => exact .refused (by simp [failed]) made
  next =>
    have ended : WriteEnd (fs.makeParent p).after p text.toUTF8 interruption _ :=
      writeEnd_write (made.isGrounded grounded) (made.isDirect direct) text.toUTF8
    cases ended with
    | written done wrote => exact .written done (wrote.of_made made)
    | refused failed grown => exact .refused failed (made.trans grown)
    | interrupted is early failed wrote => exact .interrupted is early failed (wrote.of_made made)

end FileSystem

end RouteAtlas
