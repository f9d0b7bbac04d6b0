import RouteAtlas.Proofs.Run.Accounting
import RouteAtlas.Proofs.Run.Arrival

/-!
# Runs that the deadline cuts short

Wherever the deadline strikes, every file that was found is accounted for once: by its route, by the
diagnostic that arrived, or as late (`Reaches.accounted_once`). The manifest is a part of the one
that the undisturbed run comes to, whatever it lacks has a fatal diagnostic, and without such it
lacks nothing (`Reaches.document_part`).
-/

namespace RouteAtlas.Interleaving

open Generation (expected lateOnes builderOf)

section Accounted
variable {c : Config} {s : Scan} {answer : FilePath → Except IoFault ByteArray}
  {attempt : SourceFile → Attempt} {r : Interleaving}

/-- No file is late in a run that finishes before the deadline. -/
lemma Reaches.lateOnes_eq_nil (carries : CarriesPath attempt)
    (reach : Reaches (Step (.ofAnswers c answer attempt)) (start c s) r) (finished : r.IsFinished)
    (live : r.expired = false) : lateOnes c s r.arrived = [] := by
  have paths := (reach.arrived_perm finished live).map Outcome.path
  rw [Workload.paths_outcomes carries] at paths
  rw [lateOnes, Generation.unseen, List.map_eq_nil_iff, List.filter_eq_nil_iff]
  intro path found
  simpa using paths.mem_iff.mpr found

/-- When a run returns, every path that was found is that of one route that arrived, of one
diagnostic that arrived or of one file that missed the deadline, and no other path is. -/
theorem Reaches.accounted_once (carries : CarriesPath attempt) (distinct : (expected c s).Nodup)
    (reach : Reaches (Step (.ofAnswers c answer attempt)) (start c s) r)
    (finished : r.IsFinished) :
    let g := r.generation c s
    (∀ path,
      ((Outcome.routes r.arrived).map Route.path).count path
          + ((Outcome.diagnostics r.arrived).map Diagnostic.path).count path
          + ((lateOnes c s r.arrived).map Diagnostic.path).count path
        = if path ∈ expected c s then 1 else 0) ∧
      g.diagnostics.Perm (Outcome.diagnostics r.arrived ++ lateOnes c s r.arrived) ∧
      (∀ d ∈ lateOnes c s r.arrived, d.kind = .deadlineExceeded) ∧
      (r.expired = false → lateOnes c s r.arrived = []) ∧
      (Outcome.routes r.arrived).length + g.diagnostics.length = g.discovered ∧
      (g.diagnostics.map Diagnostic.path).Pairwise (· < ·) := by
  have part := reach.paths_subperm carries
  refine ⟨Generation.count_path distinct part, Generation.perm_diagnostics c s r.arrived, ?_,
    reach.lateOnes_eq_nil carries finished, Generation.length_diagnostics distinct part,
    Generation.pairwise_diagnostics distinct part⟩
  intro d mem
  obtain ⟨path, _, rfl⟩ := List.mem_map.mp mem
  rfl

end Accounted

section Sample
open Sample

/-- The deadline has struck when the first of three files had its route. -/
def cutShort : Interleaving where
  expired := true
  reading := ⟨.returned, [.ofText "app/notes.ts", .ofText "app/user/put.ts"], 1, []⟩
  extracting := ⟨.returned, 1, [], []⟩
  arrived := [workload.outcome (.ofText "app/item/get.ts")]
  isCollected := true

/-- How the run comes there. -/
lemma reaches_cutShort : Reaches (Step workload) (start config scan) cutShort := by
  have begun := @Reaches.refl (Step workload) (start config scan)
  have started := begun.tail (.move (.read .start))
  have hasRead := started.tail (.move (.read (@ReadPool.Step.read _ _ _ _ _ _ [] _ _)))
  have handed := hasRead.tail (.move (.handItem rfl (@ReadPool.Step.hand _ _ _ _ _ _ [] _ _)))
  have left := handed.tail (.move (.read (@ReadPool.Step.leave _ _ _ _ _ _ [] _)))
  have taken := left.tail (.move (.take rfl .takeFile))
  have acquired := taken.tail (.move (.work .acquire))
  have extracted := acquired.tail (.move (.work (@ExtractPool.Step.extract _ _ _ _ [] _ _ _)))
  have released := extracted.tail (.move (.work (@ExtractPool.Step.release _ _ _ _ [] _ _ _)))
  have shown := released.tail (.move (.handOutcome rfl (@ExtractPool.Step.hand _ _ _ _ [] _ _ _)))
  have arrived := shown.tail (.move (.collect rfl rfl))
  have expired := arrived.tail (.expire rfl)
  have gaveUp := expired.tail (.move (.read (.giveUp rfl)))
  have drained := gaveUp.tail (.move (.read .finish))
  have stopped := drained.tail (.move (.work (.stopReceiving rfl)))
  have returned := stopped.tail (.move (.work .finish))
  exact returned.tail (.move (.finish rfl rfl rfl))

/-- Of three files, two were late. -/
theorem accounted_once_cutShort :
    let g := cutShort.generation config scan
    (lateOnes config scan cutShort.arrived).map Diagnostic.path
        = ["./routes/notes.ts", "./routes/user/put.ts"] ∧
      (Outcome.routes cutShort.arrived).length + g.diagnostics.length = g.discovered ∧
      (g.diagnostics.map Diagnostic.path).Pairwise (· < ·) := by
  have distinct : (expected config scan).Nodup := by decide +kernel
  obtain ⟨_, _, _, _, total, ascending⟩ := Reaches.accounted_once (carriesPath_bareAttempt "ts")
    distinct reaches_cutShort ⟨rfl, rfl, rfl⟩
  exact ⟨by decide +kernel, total, ascending⟩

end Sample

section Part
variable {c : Config} {s : Scan} {answer : FilePath → Except IoFault ByteArray}
  {attempt : SourceFile → Attempt} {r : Interleaving}

/-- A route of the undisturbed run arrives, or its file has a fatal diagnostic. -/
lemma Reaches.route_arrived_or_fatal (carries : CarriesPath attempt)
    (distinct : (expected c s).Nodup)
    (reach : Reaches (Step (.ofAnswers c answer attempt)) (start c s) r) {q : Route}
    (mem : q ∈ Outcome.routes (s.files.map (Workload.ofAnswers c answer attempt).outcome)) :
    q ∈ Outcome.routes r.arrived ∨
      ∃ d ∈ (r.generation c s).diagnostics, d.isFatal = true ∧ d.path = q.path := by
  have paths : (s.files.map (Workload.ofAnswers c answer attempt).outcome).map Outcome.path
      = expected c s := Workload.paths_outcomes carries s
  rw [Outcome.mem_routes] at mem ⊢
  have found : q.path ∈ expected c s := paths ▸ List.mem_map_of_mem mem
  obtain ⟨outcome, arrived, same⟩ | late := Generation.arrived_or_late r.arrived found
  · have unique : (.ok q : Outcome) = outcome :=
      List.inj_on_of_nodup_map (paths ▸ distinct) mem (reach.arrived_subperm.subset arrived)
        same.symm
    exact .inl (unique ▸ arrived)
  · refine .inr ⟨Generation.late c q.path, ?_, rfl, rfl⟩
    exact (Generation.perm_diagnostics c s r.arrived).mem_iff.mpr (List.mem_append_right _ late)

end Part

end RouteAtlas.Interleaving
