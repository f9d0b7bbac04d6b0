import Mathlib.Tactic.Lemma
import RouteAtlas.Files.Change

/-!
# Places in a tree

An entry that is put at an address is found there, and leaves what is neither above nor below it as
it was (`FileSystem.at?_put_cases`). What a path leads to is there (`FileSystem.Holds.of_find`), and
at the address that the path names if there is no link on the way (`FileSystem.address_of_find`).
-/

namespace RouteAtlas

namespace Entry

/-! ## Entries at addresses -/

/-- The entry of a name is the one that it was bound to last. -/
lemma lookup_bind (n m : Name) (e : Entry) (entries : List (Name × Entry)) :
    (bind n e entries).lookup m = if m = n then some e else entries.lookup m := by
  induction entries with
  | nil => by_cases same : m = n <;> simp [bind, List.lookup_cons, same, beq_false_of_ne]
  | cons b rest ih =>
    obtain ⟨k, old⟩ := b
    rw [bind]
    by_cases known : k = n
    · subst known
      by_cases same : m = k <;> simp [List.lookup_cons, same, beq_false_of_ne]
    · rw [if_neg known, List.lookup_cons, List.lookup_cons, ih]
      by_cases same : m = k
      · simp [same, known]
      · simp [beq_false_of_ne same]

variable {e new : Entry} {a b d : Address} {n : Name}

/-- The way to an entry leads through those above it. -/
lemma at?_append (a b : Address) (e : Entry) : e.at? (a ++ b) = (e.at? a).bind (at? b) := by
  induction a generalizing e with
  | nil => rfl
  | cons n a ih =>
    cases e with
    | directory entries =>
      rw [List.cons_append, at?, at?]
      cases entries.lookup n with
      | none => rfl
      | some e => exact ih e
    | file _ | link _ | device => rfl

/-- What is above an entry is a directory. -/
lemma directory_of_below (there : e.at? (a ++ n :: b) = some new) :
    ∃ entries, e.at? a = some (.directory entries) := by
  rw [at?_append] at there
  cases above : e.at? a with
  | none =>
    rw [above] at there
    cases there
  | some e' =>
    rw [above] at there
    cases e' with
    | directory entries => exact ⟨entries, rfl⟩
    | file _ | link _ | device => cases there

/-- Below a directory there is one of the entries that it holds. -/
lemma exists_of_directory {entries : List (Name × Entry)}
    (there : e.at? (n :: a) = some (.directory entries)) :
    ∃ held e', e = .directory held ∧ held.lookup n = some e' ∧
      e'.at? a = some (.directory entries) := by
  cases e with
  | directory held =>
    rw [at?] at there
    obtain ⟨e', known, there⟩ := Option.bind_eq_some_iff.1 there
    exact ⟨held, e', rfl, known, there⟩
  | file _ | link _ | device => cases there

/-- What was put in a directory is there, with all that is below it. -/
lemma at?_put_below {entries : List (Name × Entry)} (there : e.at? d = some (.directory entries))
    (b : Address) : (put new (d ++ [n]) e).at? (d ++ n :: b) = new.at? b := by
  induction d generalizing e with
  | nil =>
    cases there
    rw [List.nil_append, List.nil_append, put, at?, lookup_bind, if_pos rfl]
    rfl
  | cons m d ih =>
    obtain ⟨held, e', rfl, known, there⟩ := exists_of_directory there
    rw [List.cons_append, List.cons_append, put, at?, lookup_bind, if_pos rfl, known]
    exact ih there

/-- What is above an entry that was put in a directory is a directory still. -/
lemma directory_put_above {entries : List (Name × Entry)}
    (there : e.at? d = some (.directory entries)) (above : b <+: d) :
    ∃ held, (put new (d ++ [n]) e).at? b = some (.directory held) := by
  induction d generalizing e b with
  | nil =>
    cases there
    rw [List.prefix_nil.1 above]
    exact ⟨_, rfl⟩
  | cons m d ih =>
    obtain ⟨held, e', rfl, known, there'⟩ := exists_of_directory there
    cases b with
    | nil => exact ⟨_, rfl⟩
    | cons k b =>
      obtain ⟨rfl, above'⟩ := List.cons_prefix_cons.1 above
      rw [List.cons_append, put, at?, lookup_bind, if_pos rfl, known]
      exact ih there' above'

/-- What is neither above nor below an entry that was put is as it was. -/
lemma at?_put_apart (apart : ¬ a <+: b) (apart' : ¬ b <+: a) :
    (put new a e).at? b = e.at? b := by
  induction a generalizing e b with
  | nil => exact absurd List.nil_prefix apart
  | cons n a ih =>
    cases b with
    | nil => exact absurd List.nil_prefix apart'
    | cons m b =>
      cases e with
      | file _ | link _ | device => rfl
      | directory entries =>
        rw [put, at?, at?, lookup_bind]
        by_cases same : m = n
        · subst same
          rw [List.prefix_cons_inj] at apart apart'
          rw [if_pos rfl, Option.bind_some, ih apart apart']
          cases entries.lookup m with
          | some e => rfl
          | none =>
            -- The directory that is made on the way holds nothing else.
            cases b with
            | nil => exact absurd List.nil_prefix apart'
            | cons k b => rfl
        · rw [if_neg same]

end Entry

namespace FileSystem

variable {fs : FileSystem} {a b d : Address} {n : Name}

/-- Whether there is a directory at an address. -/
def IsDirectoryAt (fs : FileSystem) (a : Address) : Prop :=
  ∃ entries, fs.at? a = some (.directory entries)

/-- What is above a directory is one. -/
lemma IsDirectoryAt.of_prefix (directory : fs.IsDirectoryAt a) (above : b <+: a) :
    fs.IsDirectoryAt b := by
  obtain ⟨entries, there⟩ := directory
  obtain ⟨rest, rfl⟩ := above
  cases rest with
  | nil => exact ⟨entries, by rwa [List.append_nil] at there⟩
  | cons n rest => exact Entry.directory_of_below there

/-- Putting an entry in a directory: at addresses below it there is what it holds, above it there
are directories, and elsewhere nothing changes. -/
lemma at?_put_cases (directory : fs.IsDirectoryAt d) (n : Name) (e : Entry) (b : Address) :
    (∃ c, b = d ++ n :: c ∧ (fs.put (d ++ [n]) e).at? b = e.at? c) ∨
    (fs.IsDirectoryAt b ∧ (fs.put (d ++ [n]) e).IsDirectoryAt b) ∨
    (fs.put (d ++ [n]) e).at? b = fs.at? b := by
  obtain ⟨entries, there⟩ := directory
  by_cases below : d ++ [n] <+: b
  · obtain ⟨c, rfl⟩ := below
    rw [List.append_assoc]
    exact .inl ⟨c, rfl, Entry.at?_put_below there c⟩
  · by_cases above : b <+: d
    · exact .inr (.inl ⟨IsDirectoryAt.of_prefix ⟨entries, there⟩ above,
        Entry.directory_put_above there above⟩)
    · refine .inr (.inr (Entry.at?_put_apart below fun atOrAbove => ?_))
      rcases List.prefix_concat_iff.1 atOrAbove with rfl | above'
      · exact below List.prefix_rfl
      · exact above above'

/-! ## Following a path -/

/-- Whether a place is in the tree: what is said to be there is, and a vacant name is one that an
existing directory does not have. -/
def Holds (fs : FileSystem) : Place → Prop
  | .occupied a e => fs.at? a = some e
  | .vacant d n => fs.IsDirectoryAt d ∧ fs.at? (d ++ [n]) = none

/-- The address of a place. -/
def placeAddress : Place → Address
  | .occupied a _ => a
  | .vacant d n => d ++ [n]

section Walk
variable {followLast : Bool} {onLink : Address → FilePath → List FilePath.Step → Way}
  {here : Address} {steps : List FilePath.Step} {place : Place}

/-- The directory above one is a directory. -/
lemma IsDirectoryAt.dropLast (directory : fs.IsDirectoryAt here) :
    fs.IsDirectoryAt here.dropLast :=
  directory.of_prefix (List.dropLast_prefix here)

/-- A way leads to a place in the tree if all that goes on behind links does. -/
lemma Holds.of_walkWith (behindLinks : ∀ here target rest place, fs.IsDirectoryAt here →
      onLink here target rest = .ok place → fs.Holds place) (directory : fs.IsDirectoryAt here)
    (leads : fs.walkWith followLast onLink here steps = .ok place) : fs.Holds place := by
  induction steps generalizing here with
  | nil =>
    rw [walkWith] at leads
    cases there : fs.at? here with
    | none =>
      rw [there] at leads
      cases leads
    | some e =>
      rw [there] at leads
      cases leads
      exact there
  | cons step rest ih =>
    cases step with
    | stay => exact ih directory leads
    | up => exact ih directory.dropLast leads
    | enter n =>
      rw [walkWith] at leads
      split at leads
      next => cases leads
      next =>
        cases there : fs.at? (here ++ [n]) with
        | none =>
          simp only [there] at leads
          split at leads
          · cases leads
            exact ⟨directory, there⟩
          · cases leads
        | some e =>
          cases e with
          | directory entries =>
            simp only [there] at leads
            exact ih ⟨entries, there⟩ leads
          | file _ | device =>
            simp only [there] at leads
            split at leads
            · cases leads
              exact there
            · cases leads
          | link target =>
            simp only [there] at leads
            split at leads
            · cases leads
              exact there
            · exact behindLinks _ _ _ _ directory leads

/-- Whether steps from a directory lead along no link. -/
def AvoidsLinks (fs : FileSystem) (here : Address) (steps : List FilePath.Step) : Prop :=
  ∀ front, front <+: steps → ∀ target,
    fs.at? (front.foldl FilePath.Step.next here) ≠ some (.link target)

/-- The steps behind the first one avoid links too. -/
lemma AvoidsLinks.tail {step : FilePath.Step} (avoids : fs.AvoidsLinks here (step :: steps)) :
    fs.AvoidsLinks (step.next here) steps := by
  intro front before
  exact avoids (step :: front) (List.cons_prefix_cons.2 ⟨rfl, before⟩)

/-- A way without links leads to the address that its steps name. -/
lemma placeAddress_of_walkWith (avoids : fs.AvoidsLinks here steps)
    (leads : fs.walkWith followLast onLink here steps = .ok place) :
    placeAddress place = steps.foldl FilePath.Step.next here := by
  induction steps generalizing here with
  | nil =>
    rw [walkWith] at leads
    split at leads <;> cases leads
    rfl
  | cons step rest ih =>
    have behind := avoids.tail
    cases step with
    | stay => exact ih behind leads
    | up => exact ih behind leads
    | enter n =>
      rw [walkWith] at leads
      split at leads
      next => cases leads
      next =>
        cases there : fs.at? (here ++ [n]) with
        | none =>
          simp only [there] at leads
          split at leads
          next last =>
            cases leads
            rw [List.isEmpty_iff.1 last]
            rfl
          next => cases leads
        | some e =>
          cases e with
          | directory entries =>
            simp only [there] at leads
            exact ih behind leads
          | file _ | device =>
            simp only [there] at leads
            split at leads
            next last =>
              cases leads
              rw [List.isEmpty_iff.1 last]
              rfl
            next => cases leads
          | link target => exact absurd there (behind [] List.nil_prefix target)

end Walk

/-- A way leads to a place in the tree, through however many links. -/
lemma Holds.of_walk {followLast : Bool} (top : fs.IsDirectoryAt []) {links : Nat} {here : Address}
    {steps : List FilePath.Step} {place : Place} (directory : fs.IsDirectoryAt here)
    (leads : fs.walk followLast links here steps = .ok place) : fs.Holds place := by
  induction links generalizing here steps place with
  | zero => exact .of_walkWith (by simp) directory leads
  | succ links ih =>
    refine .of_walkWith (fun here target rest place directory leads => ?_) directory leads
    split at leads
    · cases leads
    · refine ih ?_ leads
      split
      · exact top
      · exact directory

/-- Whether the working directory is there. -/
def IsGrounded (fs : FileSystem) : Prop := fs.IsDirectoryAt fs.workingDirectory

/-- A path begins at a directory. -/
lemma IsGrounded.start (grounded : fs.IsGrounded) (p : FilePath) :
    fs.IsDirectoryAt (fs.start p) := by
  rw [FileSystem.start]
  split
  · exact grounded.of_prefix List.nil_prefix
  · exact grounded

/-- Whether there is no link on the way along a path, nor at its end. -/
def IsDirect (fs : FileSystem) (p : FilePath) : Prop := fs.AvoidsLinks (fs.start p) p.steps

section Find
variable {followLast : Bool} {p : FilePath} {place : Place}

/-- What is found is a place that the way along the path leads to. -/
lemma walk_of_find (found : fs.find followLast p = .ok place) :
    fs.walk followLast linkLimit (fs.start p) p.steps = .ok place := by
  rw [find] at found
  split at found
  · cases found
  · cases led : fs.walk followLast linkLimit (fs.start p) p.steps with
    | error fault =>
      rw [led] at found
      cases found
    | ok place' =>
      rw [led] at found
      cases found
      rfl

/-- What a path leads to is in the tree. -/
lemma Holds.of_find (grounded : fs.IsGrounded) (found : fs.find followLast p = .ok place) :
    fs.Holds place :=
  .of_walk (grounded.of_prefix List.nil_prefix) (grounded.start p) (walk_of_find found)

/-- What a path without links leads to is at the address that it names. -/
lemma placeAddress_of_find (direct : fs.IsDirect p) (found : fs.find followLast p = .ok place) :
    placeAddress place = fs.addressOf p :=
  placeAddress_of_walkWith direct (walk_of_find found)

end Find

end FileSystem

end RouteAtlas
