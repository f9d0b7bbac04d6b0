import RouteAtlas.Proofs.Run.Progress

/-!
# Accounting for every file

The ledger of a run holds the outcomes that have arrived and those that may still arrive. It begins
with one outcome for each file of the scan. Nothing is ever added to it, and nothing is taken away
before the deadline (`Move.ledger`). So what has arrived is part of what was expected
(`Reaches.arrived_subperm`), and all of it if the run has finished before the deadline
(`Reaches.arrived_perm`). If routes carry the paths of their files, the same holds of the paths that
the scan found (`Reaches.paths_subperm`).
-/

namespace RouteAtlas.Interleaving

/-- The outcomes that may still arrive. -/
def upcoming (w : Workload) (r : Interleaving) : Multiset Outcome :=
  (r.reading.upcoming w.read + ↑r.item.toList).map (ReadPool.Item.outcome w.attempt)
    + r.extracting.upcoming w.attempt + ↑r.outcome.toList

/-- The outcomes that have arrived and those that may still. -/
def ledger (w : Workload) (r : Interleaving) : Multiset Outcome := ↑r.arrived + r.upcoming w

/-- The ledger begins with one outcome for each file. -/
lemma ledger_start (w : Workload) (c : Config) (s : Scan) :
    (start c s).ledger w = ↑(s.files.map w.outcome) := by
  have files : (start c s).reading.upcoming w.read = ↑(s.files.map w.read) :=
    ReadPool.upcoming_start ..
  have idle : (start c s).extracting.upcoming w.attempt = 0 := ExtractPool.upcoming_start ..
  rw [ledger, upcoming, files, idle]
  have outcomes : (s.files.map w.read).map (ReadPool.Item.outcome w.attempt)
      = s.files.map w.outcome := List.map_map ..
  simp [start, ← outcomes]

/-- Before the deadline, somebody takes items as long as readers move. -/
lemma IsSound.isDeaf_eq_false {c : Config} {r : Interleaving} {read : FilePath → ReadPool.Item}
    {deaf : Bool} {shown : Option ReadPool.Item} {reading : ReadPool} (sound : r.IsSound c)
    (step : ReadPool.Step read r.expired deaf r.reading shown reading) (live : r.expired = false) :
    r.isDeaf = false := by
  have taking := sound.not_isShut step live
  unfold isDeaf
  split
  · exact absurd (.inr ‹_›) taking
  · rfl

/-- A move adds nothing to the ledger, and takes nothing from it before the deadline. -/
lemma Move.ledger {w : Workload} {c : Config} {r s : Interleaving} (move : Move w r s)
    (sound : r.IsSound c) :
    ∃ lost, r.ledger w = s.ledger w + lost ∧ (r.expired = false → lost = 0) := by
  cases move with
  | read step =>
    obtain ⟨lost, same, lossless⟩ := step.upcoming
    refine ⟨lost.map (ReadPool.Item.outcome w.attempt), ?_, fun live => ?_⟩
    · simp [Interleaving.ledger, Interleaving.upcoming, same]
      abel
    · simp [lossless live (sound.isDeaf_eq_false step live)]
  | handItem empty step =>
    obtain ⟨lost, same, lossless⟩ := step.upcoming
    refine ⟨lost.map (ReadPool.Item.outcome w.attempt), ?_, fun live => ?_⟩
    · simp [Interleaving.ledger, Interleaving.upcoming, same, empty, -Multiset.singleton_add]
      abel
    · simp [lossless live (sound.isDeaf_eq_false step live)]
  | work step =>
    obtain ⟨lost, same, lossless⟩ := step.upcoming
    refine ⟨lost, ?_, lossless⟩
    simp at same
    simp [Interleaving.ledger, Interleaving.upcoming, same]
    abel
  | @take extracting item full step =>
    obtain ⟨lost, same, lossless⟩ := step.upcoming
    refine ⟨lost, ?_, lossless⟩
    simp only [ExtractPool.Event.taken, ExtractPool.Event.handed, zero_add] at same
    simp only [Interleaving.ledger, Interleaving.upcoming, full, Option.toList_some,
      Option.toList_none, Multiset.coe_singleton, Multiset.coe_nil, Multiset.map_add,
      Multiset.map_singleton, add_zero]
    calc
      _ = ↑r.arrived + (r.reading.upcoming w.read).map (ReadPool.Item.outcome w.attempt)
          + (r.extracting.upcoming w.attempt + {item.outcome w.attempt}) + ↑r.outcome.toList := by
        abel
      _ = _ := by
        rw [same]
        abel
  | close _ _ step =>
    obtain ⟨lost, same, lossless⟩ := step.upcoming
    refine ⟨lost, ?_, lossless⟩
    simp at same
    simp [Interleaving.ledger, Interleaving.upcoming, same]
    abel
  | handOutcome empty step =>
    obtain ⟨lost, same, lossless⟩ := step.upcoming
    refine ⟨lost, ?_, lossless⟩
    simp [-Multiset.singleton_add] at same
    simp [Interleaving.ledger, Interleaving.upcoming, same, empty, -Multiset.singleton_add]
    abel
  | collect _ full =>
    refine ⟨0, ?_, fun _ => rfl⟩
    simp [Interleaving.ledger, Interleaving.upcoming, full, ← Multiset.coe_add]
    abel
  | finish => exact ⟨0, by simp [Interleaving.ledger, Interleaving.upcoming], fun _ => rfl⟩

/-- All that happens in a run takes from the ledger, and nothing does before the deadline. -/
lemma Reaches.exists_ledger {w : Workload} {c : Config} {s : Scan} {r : Interleaving}
    (reach : Reaches (Step w) (start c s) r) :
    ∃ lost, ↑(s.files.map w.outcome) = r.ledger w + lost ∧ (r.expired = false → lost = 0) := by
  induction reach with
  | refl => exact ⟨0, by simp [ledger_start], fun _ => rfl⟩
  | tail reach step ih =>
    obtain ⟨before, same, lossless⟩ := ih
    cases step with
    | move move =>
      obtain ⟨now, same', lossless'⟩ := move.ledger reach.isSound
      refine ⟨now + before, by rw [same, same', add_assoc], fun live => ?_⟩
      rw [move.expired_eq] at live
      rw [lossless live, lossless' live, add_zero]
    | expire => exact ⟨before, same, nofun⟩

/-- Nothing more may arrive once a run has finished before the deadline. -/
lemma IsSound.upcoming_eq_zero {c : Config} {r : Interleaving} (sound : r.IsSound c)
    (finished : r.IsFinished) (live : r.expired = false) (w : Workload) : r.upcoming w = 0 := by
  obtain ⟨collected, read, extracted⟩ := finished
  have reading := sound.reading
  rw [live] at reading
  have empty := (sound.closed live (.inr extracted)).2
  simp [upcoming, reading.upcoming_eq_zero read, sound.extracting.upcoming_eq_zero extracted, empty,
    (sound.collected collected).2]

/-- No outcome arrives that was not expected, and none arrives twice. -/
theorem Reaches.arrived_subperm {w : Workload} {c : Config} {s : Scan} {r : Interleaving}
    (reach : Reaches (Step w) (start c s) r) : r.arrived.Subperm (s.files.map w.outcome) := by
  obtain ⟨lost, same, _⟩ := reach.exists_ledger
  rw [ledger, add_assoc] at same
  exact Multiset.coe_le.mp (same ▸ Multiset.le_add_right ..)

/-- Every expected outcome arrives in a run that finishes before the deadline. -/
theorem Reaches.arrived_perm {w : Workload} {c : Config} {s : Scan} {r : Interleaving}
    (reach : Reaches (Step w) (start c s) r) (finished : r.IsFinished) (live : r.expired = false) :
    r.arrived.Perm (s.files.map w.outcome) := by
  obtain ⟨lost, same, lossless⟩ := reach.exists_ledger
  have empty := reach.isSound.upcoming_eq_zero finished live w
  rw [lossless live, ledger, empty, add_zero, add_zero] at same
  exact (Multiset.coe_eq_coe.mp same).symm

/-- The deadline does not pass in a run of moves. -/
lemma Reaches.expired_eq_false {w : Workload} {c : Config} {s : Scan} {r : Interleaving}
    (reach : Reaches (Move w) (start c s) r) : r.expired = false := by
  induction reach with
  | refl => rfl
  | tail _ move ih => exact move.expired_eq.trans ih

end RouteAtlas.Interleaving

namespace RouteAtlas

/-- Every route carries the path of the file that it was extracted from. -/
def CarriesPath (attempt : SourceFile → Attempt) : Prop :=
  ∀ file r, attempt file = .route r → r.path = file.path

/-- What was read speaks of the file. -/
lemma SourceFile.path_ofAnswer (logicalPrefix : String) (root location : FilePath)
    (answer : Except IoFault ByteArray) :
    ReadPool.Item.path (ofAnswer logicalPrefix root location answer)
      = logicalPath logicalPrefix root location := by
  cases answer with
  | ok content => simp only [ofAnswer, ReadPool.Item.path]
  | error fault => simp only [ofAnswer, ReadPool.Item.path]

section Paths
variable {c : Config} {answer : FilePath → Except IoFault ByteArray}
  {attempt : SourceFile → Attempt} (carries : CarriesPath attempt)
include carries

/-- What becomes of a file speaks of the file. -/
lemma ReadPool.Item.path_outcome (item : ReadPool.Item) :
    (item.outcome attempt).path = item.path := by
  cases item with
  | error d => rfl
  | ok file =>
    rw [ReadPool.Item.outcome]
    cases tried : attempt file with
    | route r => exact carries file r tried
    | failure f => rfl
    | crash text => rfl

/-- The outcome of the file at a location has its logical path. -/
lemma Workload.path_outcome (location : FilePath) :
    ((Workload.ofAnswers c answer attempt).outcome location).path
      = logicalPath c.logicalPrefix c.root location := by
  rw [outcome, ofAnswers, ReadPool.Item.path_outcome carries]
  exact SourceFile.path_ofAnswer ..

/-- The outcomes of the files of a scan speak of these files in turn. -/
lemma Workload.paths_outcomes (s : Scan) :
    (s.files.map (Workload.ofAnswers c answer attempt).outcome).map Outcome.path
      = Generation.expected c s := by
  rw [List.map_map, Generation.expected]
  exact List.map_congr_left fun location _ => path_outcome carries location

/-- No path arrives that was not found, and none arrives twice. -/
lemma Interleaving.Reaches.paths_subperm {s : Scan} {r : Interleaving}
    (reach : Reaches (Step (.ofAnswers c answer attempt)) (start c s) r) :
    (r.arrived.map Outcome.path).Subperm (Generation.expected c s) := by
  rw [← Workload.paths_outcomes carries]
  obtain ⟨l, perm, part⟩ := reach.arrived_subperm
  exact ⟨l.map Outcome.path, perm.map Outcome.path, part.map Outcome.path⟩

end Paths

/-- The extractor that looks at nothing but the name of a file. -/
def bareAttempt (extension : String) (file : SourceFile) : Attempt :=
  match Method.ofPath? extension file.path with
  | some method => .route { method, path := file.path }
  | none => .failure (.unrecognizedMethod file.path)

/-- Routes that come from names alone carry the paths of their files. -/
lemma carriesPath_bareAttempt (extension : String) : CarriesPath (bareAttempt extension) := by
  intro file r tried
  unfold bareAttempt at tried
  split at tried
  · cases tried
    rfl
  · cases tried

namespace Sample

/-- One file at a time is read, and one parsed. -/
def config : Config := { root := .ofText "app", logicalPrefix := "./routes", concurrency := 1 }

/-- Two route files and a file without a method. -/
def scan : Scan where
  files := [.ofText "app/item/get.ts", .ofText "app/notes.ts", .ofText "app/user/put.ts"]

/-- All files can be read. -/
abbrev workload : Workload := .ofAnswers config (fun _ => .ok .empty) (bareAttempt "ts")

end Sample

end RouteAtlas
