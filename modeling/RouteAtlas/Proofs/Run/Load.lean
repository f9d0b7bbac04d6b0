import Mathlib.Order.Bounds.Defs
import RouteAtlas.Proofs.Run.Accounting

/-!
# How many calls run at once

Before the deadline, the calls that run are those of workers with a permit, so that the limit holds
for them. A worker that leaves its call behind at the deadline gives its permit back while the call
goes on, and a receiver that has not stopped yet may start another one with it. So every call that
is started after the deadline may run in addition to as many as the limit allows, and no more than
these do (`most_running`): the limit is exceeded already by the first of them (`limit_exceeded`).
-/

namespace RouteAtlas

namespace ExtractPool

/-- The number of calls that a move starts after the deadline. -/
def lateStarts (expired : Bool) (p q : ExtractPool) : Nat :=
  match expired, p.phase, q.phase with
  | true, .acquiring _, .receiving => 1
  | _, _, _ => 0

/-- What a pool can come to whatever items it is given, and whenever the deadline passes. The number
is that of the calls that were started after the deadline. -/
inductive Run (attempt : SourceFile → Attempt) (limit : Nat) : Bool → Nat → ExtractPool → Prop where
  | start : Run attempt limit false 0 (start limit)
  | move {expired late p event q} :
    Run attempt limit expired late p →
    Step attempt expired p event q →
    Run attempt limit expired (late + lateStarts expired p q) q
  | expire {late p} :
    Run attempt limit false late p →
    Run attempt limit true late p

/-- What holds of the calls of a pool at all times. -/
structure IsBounded (limit : Nat) (expired : Bool) (late : Nat) (p : ExtractPool) : Prop where
  sound : p.IsSound limit
  /-- A call is left behind only at the deadline. -/
  detached : expired = false → p.detached = []
  running : p.running ≤ max limit 1 + late
  late : expired = false → late = 0

lemma countP_isExtracting_le (workers : List Worker) :
    workers.countP isExtracting ≤ workers.countP Worker.holdsPermit := by
  refine List.countP_mono_left fun worker _ extracting => ?_
  cases worker with
  | extracting file => rfl
  | extracted file => rfl
  | handing outcome => cases extracting

/-- No more workers wait for a call than there are permits. -/
lemma IsSound.countP_isExtracting_le {limit : Nat} {p : ExtractPool} (sound : p.IsSound limit) :
    p.workers.countP isExtracting ≤ max limit 1 := by
  have held := ExtractPool.countP_isExtracting_le p.workers
  have total := sound.permits_add
  omega

/-- Before the deadline, no call is left behind. -/
lemma Step.detached_eq_nil {attempt : SourceFile → Attempt} {p q : ExtractPool} {event : Event}
    (step : Step attempt false p event q) (none : p.detached = []) : q.detached = [] := by
  cases step with
  | vanish => simp at none
  | detach late => cases late
  | _ => exact none

/-- After the deadline, no more calls run than before a move, but for the one that it starts. A call
that is left behind goes on. -/
lemma Step.running_le {attempt : SourceFile → Attempt} {p q : ExtractPool} {event : Event}
    (step : Step attempt true p event q) : q.running ≤ p.running + lateStarts true p q := by
  -- A call that is left behind counts as detached from then on; no other move but the start of a
  -- call changes the number of those that run, except that one returns.
  cases step with
  | acquire =>
    simp [running, isExtracting, lateStarts]
    omega
  | extract =>
    simp [running, isExtracting, List.countP_cons]
    omega
  | release => simp [running, isExtracting]
  | detach =>
    simp [running, isExtracting, List.countP_cons]
    omega
  | drop => simp [running, isExtracting]
  | hand => simp [running, isExtracting]
  | abandon => simp [running, isExtracting]
  | vanish =>
    simp [running]
    omega
  | _ => exact Nat.le_add_right _ _

/-- A pool keeps within its bounds. -/
lemma Run.isBounded {attempt : SourceFile → Attempt} {limit late : Nat} {expired : Bool}
    {p : ExtractPool} (run : Run attempt limit expired late p) :
    p.IsBounded limit expired late := by
  induction run with
  | start =>
    refine ⟨isSound_start limit, fun _ => rfl, ?_, fun _ => rfl⟩
    simp [running, ExtractPool.start]
  | @move expired late p event q _ step ih =>
    have sound := step.isSound ih.sound
    -- After the deadline the moves are counted; before it the permits, since no call is detached.
    cases expired with
    | true =>
      have more := step.running_le
      have before := ih.running
      exact ⟨sound, Bool.noConfusion, by omega, Bool.noConfusion⟩
    | false =>
      have empty := step.detached_eq_nil (ih.detached rfl)
      have held := sound.countP_isExtracting_le
      refine ⟨sound, fun _ => empty, ?_, fun _ => ih.late rfl⟩
      rw [running, empty, List.length_nil]
      omega
  | expire _ ih => exact ⟨ih.sound, Bool.noConfusion, ih.running, Bool.noConfusion⟩

section Attained
variable {attempt : SourceFile → Attempt} {limit : Nat}

/-- A receiver that waits for items can start a call with a free permit. -/
lemma Run.startCall {expired : Bool} {late permits : Nat} {workers : List Worker}
    {detached : List SourceFile}
    (run : Run attempt limit expired late ⟨.receiving, permits + 1, workers, detached⟩)
    (file : SourceFile) :
    Run attempt limit expired (late + expired.toNat)
      ⟨.receiving, permits, workers ++ [.extracting file], detached⟩ := by
  have taken := run.move (@Step.takeFile attempt expired file _ _ _)
  have started := taken.move .acquire
  cases expired with
  | true => exact started
  | false => exact started

/-- Before the deadline, a pool can start as many calls as it has permits. -/
lemma run_crowded (file : SourceFile) (calls permits : Nat) (all : permits + calls = max limit 1) :
    Run attempt limit false 0 ⟨.receiving, permits, .replicate calls (.extracting file), []⟩ := by
  induction calls generalizing permits with
  | zero =>
    obtain rfl : permits = max limit 1 := all
    exact .start
  | succ calls ih =>
    have next := (ih (permits + 1) (by omega)).startCall file
    rwa [← List.replicate_succ'] at next

/-- After the deadline, it can leave calls behind and start as many others. -/
lemma run_overtime (file : SourceFile) {most : Nat} (all : max limit 1 = most + 1) (late : Nat) :
    Run attempt limit true late
      ⟨.receiving, 0, .replicate (most + 1) (.extracting file), .replicate late file⟩ := by
  induction late with
  | zero => exact (run_crowded file (most + 1) 0 (by omega)).expire
  | succ late ih =>
    have left := ih.move (@Step.detach attempt true .receiving 0 [] file
      (.replicate most (.extracting file)) (.replicate late file) rfl)
    have next := left.startCall file
    rwa [List.nil_append, ← List.replicate_succ'] at next

lemma running_replicate (phase : Phase) (permits calls late : Nat) (file : SourceFile) :
    running ⟨phase, permits, .replicate calls (.extracting file), .replicate late file⟩
      = calls + late := by
  simp [running, isExtracting, List.countP_replicate]

end Attained

/-- As many calls as the limit allows may run at once before the deadline, and no more. After it,
every call that was started late may run besides, and no more do, though never more of those that a
worker waits for than the limit allows. -/
theorem most_running (attempt : SourceFile → Attempt) (limit : Nat) :
    IsGreatest {n | ∃ late p, Run attempt limit false late p ∧ p.running = n} (max limit 1) ∧
      (∀ late, IsGreatest {n | ∃ p, Run attempt limit true late p ∧ p.running = n}
        (max limit 1 + late)) ∧
      max limit 1 ∈ upperBounds {n | ∃ expired late p, Run attempt limit expired late p ∧
        p.workers.countP isExtracting = n} := by
  obtain ⟨most, all⟩ : ∃ most, max limit 1 = most + 1 := ⟨max limit 1 - 1, by omega⟩
  refine ⟨⟨?_, ?_⟩, fun late => ⟨?_, ?_⟩, ?_⟩
  · refine ⟨0, _, run_crowded default (max limit 1) 0 (Nat.zero_add _), ?_⟩
    exact running_replicate .receiving 0 (max limit 1) 0 default
  · rintro _ ⟨late, p, run, rfl⟩
    have bounded := run.isBounded
    have most := bounded.running
    rwa [bounded.late rfl] at most
  · refine ⟨_, run_overtime default all late, ?_⟩
    rw [running_replicate, all]
  · rintro _ ⟨p, run, rfl⟩
    exact run.isBounded.running
  · rintro _ ⟨expired, late, p, run, rfl⟩
    exact run.isBounded.sound.countP_isExtracting_le

end ExtractPool

namespace Interleaving

/-- In a run, the extractions come to what they can come to on their own. -/
lemma Reaches.exists_run {w : Workload} {c : Config} {s : Scan} {r : Interleaving}
    (reach : Reaches (Step w) (start c s) r) :
    ∃ late, ExtractPool.Run w.attempt c.concurrency r.expired late r.extracting := by
  induction reach with
  | refl => exact ⟨0, .start⟩
  | tail _ step ih =>
    obtain ⟨late, run⟩ := ih
    cases step with
    | expire live =>
      rw [live] at run
      exact ⟨late, run.expire⟩
    | move move =>
      cases move with
      | read _ => exact ⟨late, run⟩
      | handItem _ _ => exact ⟨late, run⟩
      | work step => exact ⟨_, run.move step⟩
      | take _ step => exact ⟨_, run.move step⟩
      | close _ _ step => exact ⟨_, run.move step⟩
      | handOutcome _ step => exact ⟨_, run.move step⟩
      | collect _ _ => exact ⟨late, run⟩
      | finish _ _ _ => exact ⟨late, run⟩

/-- The next file is read and handed to the extractions, which wait for a permit then. -/
lemma Reaches.fetch {w : Workload} {r : Interleaving} {expired : Bool} {location : FilePath}
    {file : SourceFile} {pending : List FilePath} {permits free : Nat}
    {workers : List ExtractPool.Worker} {detached : List SourceFile}
    (read : w.read location = .ok file)
    (reach : Reaches (Step w) r {
      expired
      reading := ⟨.scheduling, location :: pending, permits + 1, []⟩
      extracting := ⟨.receiving, free, workers, detached⟩ }) :
    Reaches (Step w) r {
      expired
      reading := ⟨.scheduling, pending, permits + 1, []⟩
      extracting := ⟨.acquiring file, free, workers, detached⟩ } := by
  have started := reach.tail (.move (.read .start))
  have hasRead := started.tail (.move (.read (@ReadPool.Step.read _ _ _ _ _ _ [] _ _)))
  have handed := hasRead.tail (.move (.handItem rfl (@ReadPool.Step.hand _ _ _ _ _ _ [] _ _)))
  have left := handed.tail (.move (.read (@ReadPool.Step.leave _ _ _ _ _ _ [] _)))
  rw [read] at left
  exact left.tail (.move (.take rfl .takeFile))

end Interleaving

namespace Sample

/-- What comes of reading the file at a location. -/
def fileAt (location : FilePath) : SourceFile :=
  ⟨logicalPath config.logicalPrefix config.root location, location, .empty⟩

end Sample

namespace Interleaving

section Sample
open RouteAtlas.Sample

/-- The call on the first of three files goes on after the deadline, and that on the second one has
been started with its permit. -/
def overrun : Interleaving where
  expired := true
  reading := ⟨.scheduling, [.ofText "app/user/put.ts"], 1, []⟩
  extracting := ⟨.receiving, 0, [.extracting (fileAt (.ofText "app/notes.ts"))],
    [fileAt (.ofText "app/item/get.ts")]⟩

lemma reaches_overrun : Reaches (Step workload) (start config scan) overrun := by
  have begun : Reaches (Step workload) (start config scan) {
      reading := ⟨.scheduling, scan.files, 1, []⟩
      extracting := ⟨.receiving, 1, [], []⟩ } := .refl
  have fetched := Reaches.fetch rfl begun
  have acquired := fetched.tail (.move (.work .acquire))
  have fetched' := Reaches.fetch rfl acquired
  have expired := fetched'.tail (.expire rfl)
  have detached := expired.tail (.move (.work (@ExtractPool.Step.detach _ _ _ _ [] _ _ _ rfl)))
  exact detached.tail (.move (.work .acquire))

/-- Two calls run although one file at a time is to be parsed. -/
theorem limit_exceeded :
    Reaches (Step workload) (start config scan) overrun ∧
      (∃ late, ExtractPool.Run workload.attempt config.concurrency true late overrun.extracting) ∧
      config.concurrency = 1 ∧ overrun.extracting.running = 2 := by
  have run : ∃ late, ExtractPool.Run workload.attempt config.concurrency true late
      overrun.extracting := reaches_overrun.exists_run
  exact ⟨reaches_overrun, run, rfl, rfl⟩

end Sample

end Interleaving

end RouteAtlas
