import Mathlib.Algebra.BigOperators.Group.Multiset.Basic
import Mathlib.Tactic.Abel
import RouteAtlas.Run.ReadPool

/-!
# Reading without loss

The items that a pool of readers may still hand over are accounted for: a move hands one of them
over, or keeps them all, or loses some, and it loses none before the deadline as long as somebody
takes items (`Step.upcoming`). The permits that are held and those that are free make up the limit
(`IsSound`). A pool that has not returned can always move (`IsSound.progress`), and every move
brings it closer to its end (`Step.rank`).
-/

namespace RouteAtlas.ReadPool

/-- What a reader may still hand over. -/
def Reader.upcoming (read : FilePath → Item) : Reader → Multiset Item
  | .reading location => {read location}
  | .handing item => {item}
  | .leaving => 0

/-- What a pool may still hand over. -/
def upcoming (read : FilePath → Item) (p : ReadPool) : Multiset Item :=
  ↑(p.pending.map read) + (p.readers.map (Reader.upcoming read)).sum

/-- A pool that begins may hand over what comes of reading its files. -/
lemma upcoming_start (read : FilePath → Item) (limit : Nat) (files : List FilePath) :
    (start limit files).upcoming read = ↑(files.map read) := by
  simp [upcoming, start]

/-- A move keeps what may still be handed over, but for what it hands over and what it loses. It
loses nothing before the deadline, as long as somebody takes items. -/
lemma Step.upcoming {read : FilePath → Item} {expired deaf : Bool} {p q : ReadPool}
    {shown : Option Item} (step : Step read expired deaf p shown q) :
    ∃ lost : Multiset Item, p.upcoming read = ↑shown.toList + q.upcoming read + lost ∧
      (expired = false → deaf = false → lost = 0) := by
  cases step with
  | start =>
    refine ⟨0, ?_, fun _ _ => rfl⟩
    simp [ReadPool.upcoming, Reader.upcoming, ← Multiset.cons_coe, ← Multiset.singleton_add]
    abel
  | exhaust => exact ⟨0, by simp [ReadPool.upcoming], fun _ _ => rfl⟩
  | giveUp => exact ⟨0, by simp [ReadPool.upcoming], fun _ _ => rfl⟩
  | read => exact ⟨0, by simp [ReadPool.upcoming, Reader.upcoming], fun _ _ => rfl⟩
  | hand =>
    refine ⟨0, ?_, fun _ _ => rfl⟩
    simp [ReadPool.upcoming, Reader.upcoming]
  | @abandon phase pending permits before item after cut =>
    refine ⟨{item}, ?_, fun live heard => ?_⟩
    · simp [ReadPool.upcoming, Reader.upcoming, -Multiset.singleton_add]
      abel
    · simp [live, heard] at cut
  | leave => exact ⟨0, by simp [ReadPool.upcoming, Reader.upcoming], fun _ _ => rfl⟩
  | finish => exact ⟨0, by simp [ReadPool.upcoming], fun _ _ => rfl⟩

/-- What holds of a pool at all times. `expired` says whether the deadline has passed. -/
structure IsSound (limit : Nat) (expired : Bool) (p : ReadPool) : Prop where
  /-- A permit is free or held by one reader. -/
  permits_add : p.permits + p.readers.length = max limit 1
  /-- No reader outlives the pool. -/
  readers_eq_nil : p.phase = .returned → p.readers = []
  /-- Files are left only for the deadline's sake. -/
  pending_eq_nil : expired = false → p.phase ≠ .scheduling → p.pending = []

/-- A pool is sound when it begins. -/
lemma isSound_start (limit : Nat) (files : List FilePath) :
    (start limit files).IsSound limit false where
  permits_add := by simp [start]
  readers_eq_nil := by simp [start]
  pending_eq_nil := by simp [start]

/-- A sound pool is sound after the deadline. -/
lemma IsSound.expire {limit : Nat} {expired : Bool} {p : ReadPool}
    (sound : p.IsSound limit expired) : p.IsSound limit true :=
  ⟨sound.permits_add, sound.readers_eq_nil, nofun⟩

/-- A move keeps a pool sound. -/
lemma Step.isSound {read : FilePath → Item} {limit : Nat} {expired deaf : Bool} {p q : ReadPool}
    {shown : Option Item} (step : Step read expired deaf p shown q)
    (sound : p.IsSound limit expired) : q.IsSound limit expired := by
  obtain ⟨permits, left, pending⟩ := sound
  cases step with
  | start => exact ⟨by simp at permits ⊢; omega, nofun, fun _ => nofun⟩
  | exhaust => exact ⟨permits, nofun, fun _ _ => rfl⟩
  | giveUp late => exact ⟨permits, nofun, fun live => by simp [live] at late⟩
  | read => exact ⟨by simpa using permits, fun e => by simpa using left e, pending⟩
  | hand => exact ⟨by simpa using permits, fun e => by simpa using left e, pending⟩
  | abandon => exact ⟨by simpa using permits, fun e => by simpa using left e, pending⟩
  | leave => exact ⟨by simp at permits ⊢; omega, fun e => by simpa using left e, pending⟩
  | finish => exact ⟨permits, fun _ => rfl, fun live _ => pending live nofun⟩

/-- A pool that has returned does not move. -/
lemma Step.phase_ne_returned {read : FilePath → Item} {limit : Nat} {expired deaf : Bool}
    {p q : ReadPool} {shown : Option Item} (step : Step read expired deaf p shown q)
    (sound : p.IsSound limit expired) : p.phase ≠ .returned := by
  intro returned
  have left := sound.readers_eq_nil returned
  cases step with
  | start => cases returned
  | exhaust => cases returned
  | giveUp => cases returned
  | read => simp at left
  | hand => simp at left
  | abandon => simp at left
  | leave => simp at left
  | finish => cases returned

/-- A pool that has returned before the deadline has nothing left to hand over. -/
lemma IsSound.upcoming_eq_zero {limit : Nat} {p : ReadPool} (sound : p.IsSound limit false)
    (returned : p.phase = .returned) (read : FilePath → Item) : p.upcoming read = 0 := by
  have pending := sound.pending_eq_nil rfl (by simp [returned])
  simp [upcoming, pending, sound.readers_eq_nil returned]

/-- A reader in flight can move, and without handing over if nobody takes items. -/
lemma exists_step_reader (read : FilePath → Item) (expired deaf : Bool) (phase : Phase)
    (pending : List FilePath) (permits : Nat) (reader : Reader) (readers : List Reader) :
    ∃ shown q, Step read expired deaf ⟨phase, pending, permits, reader :: readers⟩ shown q ∧
      (deaf = true → shown = none) := by
  cases reader with
  | reading location =>
    exact ⟨none, _, @Step.read read expired deaf phase pending permits [] _ _, fun _ => rfl⟩
  | handing item =>
    cases deaf with
    | false =>
      exact ⟨some item, _, @Step.hand read expired false phase pending permits [] _ _, nofun⟩
    | true =>
      exact ⟨none, _, @Step.abandon read expired true phase pending permits [] _ _ (.inr rfl),
        fun _ => rfl⟩
  | leaving =>
    exact ⟨none, _, @Step.leave read expired deaf phase pending permits [] _, fun _ => rfl⟩

/-- A pool that has not returned can move, and without handing over if nobody takes items. -/
lemma IsSound.progress {limit : Nat} {expired : Bool} {p : ReadPool}
    (sound : p.IsSound limit expired) (active : p.phase ≠ .returned) (read : FilePath → Item)
    (deaf : Bool) :
    ∃ shown q, Step read expired deaf p shown q ∧ (deaf = true → shown = none) := by
  obtain ⟨phase, pending, permits, readers⟩ := p
  cases readers with
  | cons reader readers => exact exists_step_reader ..
  | nil =>
    cases phase with
    | scheduling =>
      cases pending with
      | nil => exact ⟨none, _, .exhaust, fun _ => rfl⟩
      | cons location pending =>
        -- No reader holds a permit, so one is free.
        have free := sound.permits_add
        cases permits with
        | zero => simp at free; omega
        | succ permits => exact ⟨none, _, .start, fun _ => rfl⟩
    | draining => exact ⟨none, _, .finish, fun _ => rfl⟩
    | returned => exact absurd rfl active

/-- How far a reader is from having left. -/
def Reader.rank : Reader → Nat
  | .reading _ => 9
  | .handing _ => 8
  | .leaving => 1

/-- How far a scheduler is from having returned. -/
def Phase.rank : Phase → Nat
  | .scheduling => 2
  | .draining => 1
  | .returned => 0

/-- How far a pool is from having returned. -/
def rank (p : ReadPool) : Nat :=
  p.phase.rank + 10 * p.pending.length + (p.readers.map Reader.rank).sum

/-- A move brings a pool closer to its end, by more if it hands an item over. -/
lemma Step.rank {read : FilePath → Item} {expired deaf : Bool} {p q : ReadPool}
    {shown : Option Item} (step : Step read expired deaf p shown q) :
    q.rank + 6 * shown.toList.length < p.rank := by
  cases step <;> simp [ReadPool.rank, Phase.rank, Reader.rank] <;> omega

end RouteAtlas.ReadPool
