import RouteAtlas.Proofs.Extraction.Patterns
import RouteAtlas.Proofs.Run.Isolation
import RouteAtlas.Proofs.Run.Precision
import RouteAtlas.Proofs.Run.Sequential

/-!
# Runs on TypeScript files

What holds of runs with any answers and any extractor is said here of those that read the files of a
file system and extract routes from TypeScript. Such a run comes to what `generate` computes, if it
finishes before the deadline (`Reaches.agrees_generate`). If it is complete, every route file has an
entry of its own exactly if no two share a key (`Reaches.hasOwnEntries_iff`). A file without a
method has a fatal diagnostic exactly if it cannot be read (`Reaches.fatal_iff_unreadable`). And two
such runs come to the same for all files but the one in which the file systems differ
(`Reaches.others_alike`).
-/

namespace RouteAtlas

section Made
variable {fs : FileSystem} {c : Config} {e : Extraction.Extractor}
  (made : Extraction.Extractor.make c.routeFunction c.extension = .ok e)
include made

/-- The extractor of a run has the extension of its route files. -/
lemma Extraction.Extractor.extension_of_make : e.extension = c.extension :=
  congrArg Extractor.extension (Extractor.eq_standard made).1

/-- The extractor of a run reads methods. -/
lemma Extraction.Extractor.readsMethod_of_make : ReadsMethod c.extension e.attempt :=
  extension_of_make made ▸ e.readsMethod_attempt

/-- The extractor of a run turns away files without a method. -/
lemma Extraction.Extractor.turnsAway_of_make : TurnsAway c.extension e.attempt :=
  extension_of_make made ▸ e.turnsAway_attempt

/-- What `generate` computes is the run that treats one file after another. -/
lemma generate_eq_sequential :
    generate fs c = .ok (.sequential c (c.scan fs) (.ofFiles fs c e.attempt)) := by
  rw [generate, made, ← generateWith_eq_sequential]
  rfl

namespace Interleaving

open Generation (expected builderOf)

variable {r : Interleaving}

/-- A run that finishes before the deadline comes to what `generate` computes, if no two files share
a key. -/
theorem Reaches.agrees_generate (different : ((expected c (c.scan fs)).map c.key).Nodup)
    (reach : Reaches (Move (.ofFiles fs c e.attempt)) (start c (c.scan fs)) r)
    (finished : r.IsFinished) :
    ∃ g, generate fs c = .ok g ∧ (r.generation c (c.scan fs)).Agrees c g :=
  ⟨_, generate_eq_sequential made,
    reach.agrees_sequential e.readsMethod_attempt.carries different finished⟩

section Step
variable (reach : Reaches (Step (.ofFiles fs c e.attempt)) (start c (c.scan fs)) r)
include reach

/-- In a complete run, every route file has an entry of its own exactly if no two share a key, and
then there are as many entries as route files. -/
theorem Reaches.hasOwnEntries_iff (complete : (r.generation c (c.scan fs)).isComplete = true) :
    let keys := (c.routeFiles (c.scan fs)).map c.keyAt
    (HasOwnEntries c (c.scan fs) (.ofFiles fs c e.attempt)
        (builderOf c (Outcome.routes r.arrived)).entries ↔ keys.Nodup) ∧
      ((r.generation c (c.scan fs)).routes = keys.length ↔ keys.Nodup) := by
  intro keys
  have reads := Extraction.Extractor.readsMethod_of_make made
  refine ⟨⟨HasOwnEntries.nodup_keys reads, hasOwnEntries reads reach complete⟩, ?_⟩
  rw [List.length_map]
  exact size_eq_iff reads reach complete

/-- In a run that finishes before the deadline, the manifest is said to lack a file without a method
exactly if the file cannot be read. -/
theorem Reaches.fatal_iff_unreadable (finished : r.IsFinished) (live : r.expired = false)
    {path : String} (unnamed : Method.ofPath? c.extension path = none) :
    (∃ d ∈ (r.generation c (c.scan fs)).fatal, d.path = path) ↔
      ∃ location ∈ (c.scan fs).files, logicalPath c.logicalPrefix c.root location = path ∧
        ∃ fault, fs.read location = .error fault := by
  have carries := e.readsMethod_attempt.carries
  rw [← reach.lost_iff_refused carries finished live path]
  constructor
  · rintro ⟨d, mem, rfl⟩
    exact (reach.lost_of_fatal carries mem).2 (Extraction.Extractor.turnsAway_of_make made) unnamed
  · exact Generation.IsLost.exists_fatal

end Step

end Interleaving

end Made

namespace Interleaving

open Generation (expected builderOf Shows)

/-- Two runs on file systems in which the scan finds the same files and that differ in one of them
only, whatever they hold there, show the same of every other file. Its entry and the lines that this
needs stand in both manifests, or its diagnostic in both lists; and the entries and diagnostics of
the other files are in the same order. -/
theorem Reaches.others_alike {fs fs' : FileSystem} {c : Config} {f : FilePath} {r r' : Interleaving}
    (e : Extraction.Extractor) (different : ((expected c (c.scan fs)).map c.key).Nodup)
    (sorted : c.preserveOrder = false) (files : (c.scan fs).files.Perm (c.scan fs').files)
    (mem : f ∈ (c.scan fs).files) (agree : AgreeExcept (c.scan fs).files f fs.read fs'.read)
    (reach : Reaches (Move (.ofFiles fs c e.attempt)) (start c (c.scan fs)) r)
    (finished : r.IsFinished)
    (reach' : Reaches (Move (.ofFiles fs' c e.attempt)) (start c (c.scan fs')) r')
    (finished' : r'.IsFinished) :
    (∀ location ∈ (c.scan fs).files, location ≠ f →
      let outcome := (Workload.ofFiles fs c e.attempt).outcome location
      Shows c (c.scan fs) r.arrived outcome ∧ Shows c (c.scan fs') r'.arrived outcome) ∧
      ((builderOf c (Outcome.routes r.arrived)).orderedEntries.filter fun e => e.key ≠ c.keyAt f)
        = ((builderOf c (Outcome.routes r'.arrived)).orderedEntries.filter
            fun e => e.key ≠ c.keyAt f) ∧
      ((r.generation c (c.scan fs)).diagnostics.filter
          fun d => d.path ≠ logicalPath c.logicalPrefix c.root f)
        = (r'.generation c (c.scan fs')).diagnostics.filter
            fun d => d.path ≠ logicalPath c.logicalPrefix c.root f := by
  have twins : Twins c e.attempt f (c.scan fs) (c.scan fs') fs.read fs'.read r r' :=
    ⟨e.readsMethod_attempt.carries, different, files, mem, agree, reach, finished, reach',
      finished'⟩
  exact ⟨fun location listed other => twins.shows_other listed other, twins.otherEntries_eq sorted,
    twins.otherDiagnostics_eq⟩

end Interleaving

end RouteAtlas
