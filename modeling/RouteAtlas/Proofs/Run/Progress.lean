import RouteAtlas.Proofs.Run.Extracting
import RouteAtlas.Proofs.Run.Reading
import RouteAtlas.Run.Interleaving

/-!
# Progress of a run

Both pools stay sound in a run, the extractions close after the readers, and the collector returns
last (`IsSound`). From this follows that a run that is not over can always move, before the deadline
and after it (`IsSound.progress`). Since every move brings the run closer to its end (`Move.rank`),
every run can be brought to its end, without the deadline (`IsSound.exists_finished`).
-/

namespace RouteAtlas.Interleaving

/-- One part of a run after the other. -/
lemma Reaches.trans {next : Interleaving → Interleaving → Prop} {r s t : Interleaving}
    (first : Reaches next r s) (second : Reaches next s t) : Reaches next r t := by
  induction second with
  | refl => exact first
  | tail _ last ih => exact ih.tail last

/-- A run without the deadline is a run. -/
lemma Reaches.toSteps {w : Workload} {r s : Interleaving} (reach : Reaches (Move w) r s) :
    Reaches (Step w) r s := by
  induction reach with
  | refl => exact .refl
  | tail _ last ih => exact ih.tail (.move last)

/-- A move does not let the deadline pass. -/
lemma Move.expired_eq {w : Workload} {r s : Interleaving} (move : Move w r s) :
    s.expired = r.expired := by
  cases move <;> rfl

/-- What holds of a run at all times. -/
structure IsSound (c : Config) (r : Interleaving) : Prop where
  reading : r.reading.IsSound c.concurrency r.expired
  extracting : r.extracting.IsSound c.concurrency
  /-- Before the deadline, the extractions take items until none will come any more. -/
  closed : r.expired = false → r.extracting.IsShut → r.reading.phase = .returned ∧ r.item = none
  /-- The collector returns last. -/
  collected : r.isCollected = true → r.extracting.phase = .returned ∧ r.outcome = none

/-- A run is sound when it begins. -/
lemma isSound_start (c : Config) (s : Scan) : (start c s).IsSound c where
  reading := ReadPool.isSound_start ..
  extracting := ExtractPool.isSound_start ..
  closed := by simp [start, ExtractPool.start, ExtractPool.IsShut]
  collected := by simp [start]

/-- Readers that move have not returned, so that the extractions still take items before the
deadline. -/
lemma IsSound.not_isShut {c : Config} {r : Interleaving} {read : FilePath → ReadPool.Item}
    {deaf : Bool} {shown : Option ReadPool.Item} {reading : ReadPool} (sound : r.IsSound c)
    (step : ReadPool.Step read r.expired deaf r.reading shown reading) (live : r.expired = false) :
    ¬ r.extracting.IsShut := by
  intro shut
  exact step.phase_ne_returned sound.reading (sound.closed live shut).1

/-- The extractions of a collected run show nothing when they move. -/
lemma IsSound.event_eq_nothing {c : Config} {r : Interleaving} {attempt : SourceFile → Attempt}
    {event : ExtractPool.Event} {extracting : ExtractPool} (sound : r.IsSound c)
    (step : ExtractPool.Step attempt r.expired r.extracting event extracting)
    (collected : r.isCollected = true) : event = .nothing ∧ extracting.phase = .returned :=
  step.of_returned sound.extracting (sound.collected collected).1

/-- A move keeps a run sound. -/
lemma Move.isSound {w : Workload} {c : Config} {r s : Interleaving} (move : Move w r s)
    (sound : r.IsSound c) : s.IsSound c := by
  cases move with
  | read step =>
    refine ⟨step.isSound sound.reading, sound.extracting, fun live shut => ?_, sound.collected⟩
    exact absurd shut (sound.not_isShut step live)
  | handItem _ step =>
    refine ⟨step.isSound sound.reading, sound.extracting, fun live shut => ?_, sound.collected⟩
    exact absurd shut (sound.not_isShut step live)
  | work step =>
    refine ⟨sound.reading, step.isSound sound.extracting, fun live shut => ?_, fun collected => ?_⟩
    · rw [live] at step
      obtain close | shut := step.eq_close_or_isShut shut
      · cases close
      · exact sound.closed live shut
    · exact ⟨(sound.event_eq_nothing step collected).2, (sound.collected collected).2⟩
  | take full step =>
    refine ⟨sound.reading, step.isSound sound.extracting, fun live shut => ?_, fun collected => ?_⟩
    · rw [live] at step
      obtain close | shut := step.eq_close_or_isShut shut
      · cases close
      · simp [(sound.closed live shut).2] at full
    · cases (sound.event_eq_nothing step collected).1
  | close empty returned step =>
    refine ⟨sound.reading, step.isSound sound.extracting, fun _ _ => ⟨returned, empty⟩,
      fun collected => ?_⟩
    cases (sound.event_eq_nothing step collected).1
  | handOutcome _ step =>
    refine ⟨sound.reading, step.isSound sound.extracting, fun live shut => ?_, fun collected => ?_⟩
    · rw [live] at step
      obtain close | shut := step.eq_close_or_isShut shut
      · cases close
      · exact sound.closed live shut
    · cases (sound.event_eq_nothing step collected).1
  | collect open' _ =>
    refine ⟨sound.reading, sound.extracting, sound.closed, fun collected => ?_⟩
    simp [open'] at collected
  | finish _ empty returned =>
    exact ⟨sound.reading, sound.extracting, sound.closed, fun _ => ⟨returned, empty⟩⟩

/-- Whatever happens keeps a run sound. -/
lemma Step.isSound {w : Workload} {c : Config} {r s : Interleaving} (step : Step w r s)
    (sound : r.IsSound c) : s.IsSound c := by
  cases step with
  | move move => exact move.isSound sound
  | expire => exact ⟨sound.reading.expire, sound.extracting, nofun, sound.collected⟩

/-- A run is sound at all times. -/
lemma Reaches.isSound {w : Workload} {c : Config} {s : Scan} {r : Interleaving}
    (reach : Reaches (Step w) (start c s) r) : r.IsSound c := by
  induction reach with
  | refl => exact isSound_start c s
  | tail _ step ih => exact step.isSound ih

/-- Readers that have not returned can move, if there is room for an item or nobody takes items. -/
lemma IsSound.progress_reading {c : Config} {r : Interleaving} (sound : r.IsSound c)
    (active : r.reading.phase ≠ .returned) (room : r.item = none ∨ r.isDeaf = true) (w : Workload) :
    ∃ s, Move w r s := by
  obtain ⟨shown, reading, step, silent⟩ := sound.reading.progress active w.read r.isDeaf
  cases shown with
  | none => exact ⟨_, .read step⟩
  | some item =>
    obtain empty | deaf := room
    · exact ⟨_, .handItem empty step⟩
    · cases silent deaf

/-- Extractions that have not returned let the run move, if there is room for an outcome. -/
lemma IsSound.progress_extracting {c : Config} {r : Interleaving} (sound : r.IsSound c)
    (active : r.extracting.phase ≠ .returned) (room : r.outcome = none) (w : Workload) :
    ∃ s, Move w r s := by
  obtain ⟨event, extracting, step, silent⟩ | waiting :=
    sound.extracting.progress active w.attempt r.expired
  · obtain rfl | ⟨outcome, rfl⟩ := silent
    · exact ⟨_, .work step⟩
    · exact ⟨_, .handOutcome room step⟩
  · cases full : r.item with
    | some item =>
      obtain ⟨_, step⟩ := ExtractPool.exists_step_take waiting w.attempt r.expired item
      exact ⟨_, .take full step⟩
    | none =>
      by_cases returned : r.reading.phase = .returned
      · obtain ⟨_, step⟩ := ExtractPool.exists_step_close waiting w.attempt r.expired
        exact ⟨_, .close full returned step⟩
      · exact sound.progress_reading returned (.inl full) w

/-- A run that is not over can move. -/
lemma IsSound.progress {c : Config} {r : Interleaving} (sound : r.IsSound c)
    (unfinished : ¬ r.IsFinished) (w : Workload) : ∃ s, Move w r s := by
  cases full : r.outcome with
  | some outcome =>
    cases collected : r.isCollected with
    | true => simp [(sound.collected collected).2] at full
    | false => exact ⟨_, .collect collected full⟩
  | none =>
    by_cases returned : r.extracting.phase = .returned
    · cases collected : r.isCollected with
      | false => exact ⟨_, .finish collected full returned⟩
      | true =>
        have active : r.reading.phase ≠ .returned := fun h => unfinished ⟨collected, h, returned⟩
        exact sound.progress_reading active (.inr (by simp [isDeaf, returned])) w
    · exact sound.progress_extracting returned full w

/-- How far a run is from its end. -/
def rank (r : Interleaving) : Nat :=
  r.reading.rank + 6 * r.item.toList.length + r.extracting.rank + r.outcome.toList.length
    + (!r.isCollected).toNat

/-- A move brings a run closer to its end. -/
lemma Move.rank {w : Workload} {r s : Interleaving} (move : Move w r s) : s.rank < r.rank := by
  cases move with
  | read step =>
    have := step.rank
    simp [Interleaving.rank] at this ⊢
    omega
  | handItem empty step =>
    have := step.rank
    simp [Interleaving.rank, empty] at this ⊢
    omega
  | work step =>
    have := step.rank
    simp [Interleaving.rank] at this ⊢
    omega
  | take full step =>
    have := step.rank
    simp [Interleaving.rank, full] at this ⊢
    omega
  | close _ _ step =>
    have := step.rank
    simp [Interleaving.rank] at this ⊢
    omega
  | handOutcome empty step =>
    have := step.rank
    simp [Interleaving.rank, empty] at this ⊢
    omega
  | collect _ full => simp [Interleaving.rank, full]
  | finish uncollected => simp [Interleaving.rank, uncollected]

/-- A run can be brought to its end without the deadline, wherever it has come. -/
theorem IsSound.exists_finished {c : Config} {r : Interleaving} (sound : r.IsSound c)
    (w : Workload) : ∃ s, Reaches (Move w) r s ∧ s.IsFinished := by
  generalize e : r.rank = n
  induction n using Nat.strong_induction_on generalizing r with
  | _ n ih =>
    by_cases finished : r.IsFinished
    · exact ⟨r, .refl, finished⟩
    · obtain ⟨t, move⟩ := sound.progress finished w
      obtain ⟨s, rest, done⟩ := ih t.rank (e ▸ move.rank) (move.isSound sound) rfl
      exact ⟨s, (Reaches.refl.tail move).trans rest, done⟩

end RouteAtlas.Interleaving
