import RouteAtlas.Proofs.Run.Completeness

/-!
# Fatal diagnostics without a route

A fatal diagnostic is to say that the manifest lacks a route. An extractor turns a file without a
method away by a harmless diagnostic, but a file that cannot be read, or is late, has a fatal one
whatever its name is. Those are the only exceptions: every other fatal diagnostic speaks of a file
that was found and has a method (`Reaches.fatal_iff_lost`). So one file that is no route file can
make a run incomplete (`fatal_without_method`).
-/

namespace RouteAtlas

/-- A file without a method is turned away. -/
def TurnsAway (extension : String) (attempt : SourceFile → Attempt) : Prop :=
  ∀ file, Method.ofPath? extension file.path = none →
    attempt file = .failure (.unrecognizedMethod file.path)

lemma turnsAway_bareAttempt (extension : String) : TurnsAway extension (bareAttempt extension) := by
  intro file unnamed
  rw [bareAttempt, unnamed]

/-- The extractor of TypeScript files turns files away, whatever they contain. -/
theorem Extraction.Extractor.turnsAway_attempt (e : Extractor) :
    TurnsAway e.extension e.attempt := by
  intro file unnamed
  rw [attempt, extract, extractWithEvents, unnamed]

/-- A file without a method that was read comes to a harmless diagnostic. -/
lemma TurnsAway.harmless {extension : String} {attempt : SourceFile → Attempt}
    (turns : TurnsAway extension attempt) (file : SourceFile)
    (unnamed : Method.ofPath? extension file.path = none) :
    (attempt file).outcome file.path
      = .error (.ofFailure file.path (.unrecognizedMethod file.path)) := by
  rw [turns file unnamed]
  rfl

/-- Whether the file at a path is late, or could not be read and this has been reported. -/
def Generation.IsLost (c : Config) (s : Scan) (answer : FilePath → Except IoFault ByteArray)
    (outcomes : List Outcome) (path : String) : Prop :=
  path ∈ unseen c s outcomes ∨
    ∃ location ∈ s.files, logicalPath c.logicalPrefix c.root location = path ∧
      ∃ fault, answer location = .error fault ∧
        .error ⟨path, .readFailure, fault.message⟩ ∈ outcomes

section Reading
variable {c : Config} {answer : FilePath → Except IoFault ByteArray}
  {attempt : SourceFile → Attempt} {location : FilePath}

lemma Workload.outcome_of_fault {fault : IoFault} (refused : answer location = .error fault) :
    (Workload.ofAnswers c answer attempt).outcome location
      = .error ⟨logicalPath c.logicalPrefix c.root location, .readFailure, fault.message⟩ := by
  simp only [outcome, ofAnswers, SourceFile.ofAnswer, refused, ReadPool.Item.outcome]

/-- A file without a method comes to a fatal diagnostic only if it cannot be read. -/
lemma TurnsAway.exists_fault (turns : TurnsAway c.extension attempt) {d : Diagnostic}
    (e : (Workload.ofAnswers c answer attempt).outcome location = .error d)
    (fatal : d.isFatal = true)
    (unnamed : Method.ofPath? c.extension (logicalPath c.logicalPrefix c.root location) = none) :
    ∃ fault, answer location = .error fault ∧
      d = ⟨logicalPath c.logicalPrefix c.root location, .readFailure, fault.message⟩ := by
  cases answered : answer location with
  | error fault =>
    rw [Workload.outcome_of_fault answered] at e
    exact ⟨fault, rfl, (Except.error.inj e).symm⟩
  | ok content =>
    obtain ⟨path, named⟩ : ∃ path, logicalPath c.logicalPrefix c.root location = path := ⟨_, rfl⟩
    rw [named] at unnamed
    have away := turns.harmless ⟨path, location, content⟩ unnamed
    simp only [Workload.outcome, Workload.ofAnswers, SourceFile.ofAnswer, answered,
      ReadPool.Item.outcome, named] at e
    rw [← Except.error.inj (away.symm.trans e)] at fatal
    cases fatal

end Reading

namespace Generation
variable {c : Config} {s : Scan} {answer : FilePath → Except IoFault ByteArray}
  {outcomes : List Outcome}

/-- A fatal diagnostic arrived, or is that of a late file. -/
lemma mem_fatal {d : Diagnostic} :
    d ∈ (ofOutcomes c s outcomes).fatal ↔
      .error d ∈ outcomes ∧ d.isFatal = true ∨ d ∈ lateOnes c s outcomes := by
  rw [fatal, List.mem_filter, (perm_diagnostics c s outcomes).mem_iff, List.mem_append,
    Outcome.mem_diagnostics, or_and_right, and_iff_left_of_imp (a := d ∈ lateOnes c s outcomes)]
  intro mem
  obtain ⟨path, _, rfl⟩ := List.mem_map.mp mem
  rfl

/-- A file that is lost has a fatal diagnostic, whatever its name is. -/
lemma IsLost.exists_fatal {path : String} (lost : IsLost c s answer outcomes path) :
    ∃ d ∈ (ofOutcomes c s outcomes).fatal, d.path = path := by
  obtain late | ⟨_, _, _, fault, _, arrived⟩ := lost
  · exact ⟨Generation.late c path, mem_fatal.mpr (.inr (List.mem_map_of_mem late)), rfl⟩
  · exact ⟨_, mem_fatal.mpr (.inl ⟨arrived, rfl⟩), rfl⟩

lemma isComplete_iff_fatal (g : Generation) : g.isComplete = true ↔ ∀ d, d ∉ g.fatal := by
  simp [isComplete, fatal]

/-- A lost file without a method makes a generation incomplete. -/
lemma IsLost.incomplete {path : String} (lost : IsLost c s answer outcomes path)
    (unnamed : Method.ofPath? c.extension path = none) :
    (ofOutcomes c s outcomes).isComplete = false ∧
      ∃ d ∈ (ofOutcomes c s outcomes).fatal, Method.ofPath? c.extension d.path = none := by
  obtain ⟨d, mem, named⟩ := lost.exists_fatal
  refine ⟨Bool.eq_false_iff.mpr fun complete => ?_, d, mem, named ▸ unnamed⟩
  exact (isComplete_iff_fatal _).mp complete d mem

end Generation

namespace Interleaving

open Generation (expected unseen lateOnes IsLost)

section Fatal
variable {c : Config} {s : Scan} {answer : FilePath → Except IoFault ByteArray}
  {attempt : SourceFile → Attempt} {r : Interleaving}

/-- A fatal diagnostic speaks of a file that was found. If this has no method, it is lost. -/
lemma Reaches.lost_of_fatal (carries : CarriesPath attempt)
    (reach : Reaches (Step (.ofAnswers c answer attempt)) (start c s) r) {d : Diagnostic}
    (mem : d ∈ (r.generation c s).fatal) :
    d.path ∈ expected c s ∧ (TurnsAway c.extension attempt →
      Method.ofPath? c.extension d.path = none → IsLost c s answer r.arrived d.path) := by
  obtain ⟨arrived, fatal⟩ | late := Generation.mem_fatal.mp mem
  · obtain ⟨location, found, e⟩ := List.mem_map.mp (reach.arrived_subperm.subset arrived)
    have path : ((Workload.ofAnswers c answer attempt).outcome location).path
        = logicalPath c.logicalPrefix c.root location := Workload.path_outcome carries location
    rw [e] at path
    change d.path = _ at path
    rw [path]
    refine ⟨List.mem_map_of_mem found, fun turns unnamed => ?_⟩
    obtain ⟨fault, refused, rfl⟩ := turns.exists_fault e fatal unnamed
    exact .inr ⟨location, found, rfl, fault, refused, arrived⟩
  · obtain ⟨path, unseen, rfl⟩ := List.mem_map.mp late
    exact ⟨List.mem_of_mem_filter unseen, fun _ _ => .inl unseen⟩

/-- In a run that finishes before the deadline, the files that cannot be read are lost. -/
lemma Reaches.lost_iff_refused (carries : CarriesPath attempt)
    (reach : Reaches (Step (.ofAnswers c answer attempt)) (start c s) r) (finished : r.IsFinished)
    (live : r.expired = false) (path : String) :
    IsLost c s answer r.arrived path ↔
      ∃ location ∈ s.files, logicalPath c.logicalPrefix c.root location = path ∧
        ∃ fault, answer location = .error fault := by
  have empty : unseen c s r.arrived = [] := by
    rw [← Generation.paths_lateOnes, reach.lateOnes_eq_nil carries finished live, List.map_nil]
  constructor
  · rintro (late | ⟨location, found, named, fault, refused, _⟩)
    · rw [empty] at late
      cases late
    · exact ⟨location, found, named, fault, refused⟩
  · rintro ⟨location, found, rfl, fault, refused⟩
    refine .inr ⟨location, found, rfl, fault, refused, ?_⟩
    rw [← Workload.outcome_of_fault refused]
    exact (reach.arrived_perm finished live).mem_iff.mpr (List.mem_map_of_mem found)

/-- Fatal diagnostics speak of files that were found, and among those without a method exactly of
the lost ones: late files and files that could not be read. So all fatal diagnostics speak of files
with a method exactly if every lost file has one, and where all speak of files without a method, the
run is complete exactly if nothing is lost. Before the deadline, only files that cannot be read
are. -/
theorem Reaches.fatal_iff_lost (carries : CarriesPath attempt)
    (turns : TurnsAway c.extension attempt)
    (reach : Reaches (Step (.ofAnswers c answer attempt)) (start c s) r) :
    let g := r.generation c s
    let lost := IsLost c s answer r.arrived
    (∀ d ∈ g.fatal, d.path ∈ expected c s) ∧
      (∀ path, Method.ofPath? c.extension path = none →
        ((∃ d ∈ g.fatal, d.path = path) ↔ lost path)) ∧
      ((∀ d ∈ g.fatal, (Method.ofPath? c.extension d.path).isSome) ↔
        ∀ path, lost path → (Method.ofPath? c.extension path).isSome) ∧
      ((∀ d ∈ g.fatal, Method.ofPath? c.extension d.path = none) →
        (g.isComplete = true ↔ ∀ path, ¬ lost path)) ∧
      (r.IsFinished → r.expired = false → ∀ path, lost path ↔
        ∃ location ∈ s.files, logicalPath c.logicalPrefix c.root location = path ∧
          ∃ fault, answer location = .error fault) := by
  intro g lost
  have lost_of_fatal : ∀ d ∈ g.fatal, Method.ofPath? c.extension d.path = none → lost d.path :=
    fun d mem => (reach.lost_of_fatal carries mem).2 turns
  refine ⟨fun d mem => (reach.lost_of_fatal carries mem).1, ?_, ?_, ?_,
    reach.lost_iff_refused carries⟩
  · intro path unnamed
    constructor
    · rintro ⟨d, mem, rfl⟩
      exact lost_of_fatal d mem unnamed
    · exact IsLost.exists_fatal
  · constructor
    · intro named path isLost
      obtain ⟨d, mem, rfl⟩ := isLost.exists_fatal
      exact named d mem
    · intro named d mem
      cases e : Method.ofPath? c.extension d.path with
      | some method => rfl
      | none =>
        have isSome := named d.path (lost_of_fatal d mem e)
        rwa [e] at isSome
  · intro unnamed
    rw [Generation.isComplete_iff_fatal]
    constructor
    · intro empty path isLost
      obtain ⟨d, mem, _⟩ := isLost.exists_fatal
      exact empty d mem
    · intro kept d mem
      exact kept d.path (lost_of_fatal d mem (unnamed d mem))

end Fatal

section Sample
open RouteAtlas.Sample

/-- Of two late files, the one without a method has a fatal diagnostic too. -/
theorem fatal_iff_lost_cutShort :
    ∃ d ∈ (cutShort.generation config scan).fatal,
      d.path = "./routes/notes.ts" ∧ Method.ofPath? config.extension d.path = none := by
  have turns : TurnsAway config.extension (bareAttempt "ts") := turnsAway_bareAttempt "ts"
  obtain ⟨_, fatal, _⟩ := Reaches.fatal_iff_lost (carriesPath_bareAttempt "ts") turns
    reaches_cutShort
  have unnamed : Method.ofPath? config.extension "./routes/notes.ts" = none := by decide +kernel
  have late : "./routes/notes.ts" ∈ unseen config scan cutShort.arrived := by decide +kernel
  obtain ⟨d, mem, path⟩ := (fatal _ unnamed).mpr (.inl late)
  exact ⟨d, mem, path, path ▸ unnamed⟩

/-- A file without a method, and nothing else. -/
def stray : Scan where
  files := [.ofText "app/notes.ts"]

/-- The deadline has struck before the file was read. -/
def strayLate : Interleaving where
  expired := true
  reading := ⟨.returned, stray.files, 1, []⟩
  extracting := ⟨.returned, 1, [], []⟩
  isCollected := true

lemma reaches_strayLate : Reaches (Step workload) (start config stray) strayLate := by
  have begun := @Reaches.refl (Step workload) (start config stray)
  have expired := begun.tail (.expire rfl)
  have gaveUp := expired.tail (.move (.read (.giveUp rfl)))
  have drained := gaveUp.tail (.move (.read .finish))
  have stopped := drained.tail (.move (.work (.stopReceiving rfl)))
  have returned := stopped.tail (.move (.work .finish))
  exact returned.tail (.move (.finish rfl rfl rfl))

/-- The workload of a run that can read no file, since their names are too long. -/
abbrev refusing : Workload :=
  .ofAnswers config (fun _ => .error (.system .nameTooLong)) (bareAttempt "ts")

/-- A file without a method makes a run incomplete that does not read it before the deadline, and
one that cannot read it. -/
theorem fatal_without_method :
    (Reaches (Step workload) (start config stray) strayLate ∧ strayLate.IsFinished ∧
      (strayLate.generation config stray).isComplete = false ∧
      ∃ d ∈ (strayLate.generation config stray).fatal,
        Method.ofPath? config.extension d.path = none) ∧
      ∃ r, Reaches (Step refusing) (start config stray) r ∧ r.IsFinished ∧ r.expired = false ∧
        (r.generation config stray).isComplete = false ∧
        ∃ d ∈ (r.generation config stray).fatal,
          Method.ofPath? config.extension d.path = none := by
  have unnamed : Method.ofPath? config.extension "./routes/notes.ts" = none := by decide +kernel
  have late : "./routes/notes.ts" ∈ unseen config stray strayLate.arrived := by decide +kernel
  have lost : IsLost config stray (fun _ => .ok .empty) strayLate.arrived "./routes/notes.ts" :=
    .inl late
  obtain ⟨r, reach, finished⟩ := (isSound_start config stray).exists_finished refusing
  have live := reach.expired_eq_false
  have carries := carriesPath_bareAttempt "ts"
  have refused := (reach.toSteps.lost_iff_refused carries finished live "./routes/notes.ts").mpr
    ⟨_, List.mem_cons_self, by decide +kernel, _, rfl⟩
  exact ⟨⟨reaches_strayLate, ⟨rfl, rfl, rfl⟩, lost.incomplete unnamed⟩,
    r, reach.toSteps, finished, live, refused.incomplete unnamed⟩

end Sample

end Interleaving

end RouteAtlas
