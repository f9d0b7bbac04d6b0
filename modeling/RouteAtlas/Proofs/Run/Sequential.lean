import RouteAtlas.Proofs.Run.Accounting
import RouteAtlas.Proofs.Run.Arrival

/-!
# Runs before the deadline

A run that the deadline does not cut short comes to the same generation as the run that treats one
file after another, whatever moves first (`Reaches.generation_eq_sequential`). The latter is what
`generateWith` computes (`generateWith_eq_sequential`).
-/

namespace RouteAtlas

/-- The run that treats one file after another reads and extracts the files that the scan found. -/
theorem generateWith_eq_sequential (fs : FileSystem) (c : Config)
    (attempt : SourceFile → Attempt) :
    generateWith fs c attempt (fun _ => false)
      = .sequential c (c.scan fs) (.ofFiles fs c attempt) := by
  have punctual (item : ReadPool.Item) : item.isLate (fun _ => false) = false := by
    cases item <;> rfl
  simp only [generateWith, punctual, Bool.not_false, List.filter_true]
  rfl

/-- Whether two generations are the same, but for entries that stay in the order of arrival. -/
structure Generation.Agrees (c : Config) (g g' : Generation) : Prop where
  routes : g.routes = g'.routes
  discovered : g.discovered = g'.discovered
  diagnostics : g.diagnostics = g'.diagnostics
  warnings : g.warnings = g'.warnings
  document : c.preserveOrder = false → g.document = g'.document

namespace Interleaving

section Sequential
variable {c : Config} {s : Scan} {answer : FilePath → Except IoFault ByteArray}
  {attempt : SourceFile → Attempt} {r : Interleaving}

/-- A run that finishes before the deadline agrees with the one that treats one file after another.
-/
lemma Reaches.agrees_sequential (carries : CarriesPath attempt)
    (different : ((Generation.expected c s).map c.key).Nodup)
    (reach : Reaches (Move (.ofAnswers c answer attempt)) (start c s) r) (finished : r.IsFinished) :
    (r.generation c s).Agrees c (.sequential c s (.ofAnswers c answer attempt)) := by
  have perm := reach.toSteps.arrived_perm finished reach.expired_eq_false
  have part := reach.toSteps.paths_subperm carries
  have keys := Generation.nodup_keys_routes different part
  have routes := Outcome.perm_routes perm
  exact ⟨Generation.size_eq keys routes, rfl, Generation.diagnostics_eq different.of_map part perm,
    rfl, fun sorted => Generation.document_eq keys sorted routes⟩

/-- Before the deadline, a run that is not over can move, and one that is over comes to what the run
comes to that treats one file after another. Only entries that stay in the order of their arrival
may stand in another order. Files with different keys have different paths. -/
theorem Reaches.generation_eq_sequential (carries : CarriesPath attempt)
    (different : ((Generation.expected c s).map c.key).Nodup)
    (reach : Reaches (Move (.ofAnswers c answer attempt)) (start c s) r) :
    (¬ r.IsFinished → ∃ t, Move (.ofAnswers c answer attempt) r t) ∧
      (r.IsFinished →
        let g := r.generation c s
        let sequential := Generation.sequential c s (.ofAnswers c answer attempt)
        g.routes = sequential.routes ∧ g.discovered = sequential.discovered ∧
          g.diagnostics = sequential.diagnostics ∧ g.warnings = sequential.warnings ∧
          (c.preserveOrder = false → g.document = sequential.document) ∧
          ∃ routes : List Route,
            routes.Perm (Outcome.routes
              (s.files.map (Workload.ofAnswers c answer attempt).outcome)) ∧
            g.document = (Generation.builderOf c routes).build) := by
  refine ⟨fun unfinished => reach.toSteps.isSound.progress unfinished _, fun finished => ?_⟩
  obtain ⟨routes, discovered, diagnostics, warnings, document⟩ :=
    reach.agrees_sequential carries different finished
  have perm := reach.toSteps.arrived_perm finished reach.expired_eq_false
  exact ⟨routes, discovered, diagnostics, warnings, document, _, Outcome.perm_routes perm, rfl⟩

end Sequential

/-- A run on three files. -/
theorem generation_eq_sequential_sample :
    ∃ r, Reaches (Move Sample.workload) (start Sample.config Sample.scan) r ∧ r.IsFinished ∧
      (r.generation Sample.config Sample.scan).routes = 2 ∧
      (r.generation Sample.config Sample.scan).discovered = 3 ∧
      (r.generation Sample.config Sample.scan).document
        = (Generation.sequential Sample.config Sample.scan Sample.workload).document := by
  obtain ⟨r, reach, finished⟩ :=
    (isSound_start Sample.config Sample.scan).exists_finished Sample.workload
  have different : ((Generation.expected Sample.config Sample.scan).map Sample.config.key).Nodup :=
    by decide +kernel
  obtain ⟨routes, discovered, _, _, document, _⟩ :=
    (Reaches.generation_eq_sequential (carriesPath_bareAttempt "ts") different reach).2 finished
  have two : (Generation.sequential Sample.config Sample.scan Sample.workload).routes = 2 := by
    decide +kernel
  exact ⟨r, reach, finished, routes.trans two, discovered, document rfl⟩

end Interleaving

end RouteAtlas
