import Mathlib.Algebra.BigOperators.Group.Multiset.Basic
import Mathlib.Algebra.Ring.Nat
import RouteAtlas.Run.ExtractPool

/-!
# Extracting without loss

The outcomes that a pool of extractions may still hand over are accounted for: what a move takes in
is added, what it hands over is gone, and what it loses it loses to the deadline (`Step.upcoming`).
The permits that workers hold and those that are free make up the limit (`IsSound`). A pool that has
not returned can move, unless its receiver waits for an item and no worker is left
(`IsSound.progress`), and every move brings it closer to its end (`Step.rank`).
-/

namespace RouteAtlas.ExtractPool

section Accounting
variable (attempt : SourceFile → Attempt)

/-- What a worker may still hand over. -/
@[simp]
def Worker.upcoming : Worker → Outcome
  | .extracting file => (attempt file).outcome file.path
  | .extracted file => (attempt file).outcome file.path
  | .handing outcome => outcome

/-- What the receiver may still pass on, or the worker that it waits to start hand over. -/
@[simp]
def Phase.upcoming : Phase → Multiset Outcome
  | .forwarding d => {.error d}
  | .acquiring file => {(attempt file).outcome file.path}
  | _ => 0

/-- What a pool may still hand over. -/
def upcoming (p : ExtractPool) : Multiset Outcome :=
  p.phase.upcoming attempt + ↑(p.workers.map (Worker.upcoming attempt))

/-- What becomes of an item that a move takes in. -/
@[simp]
def Event.taken : Event → Multiset Outcome
  | .take item => {item.outcome attempt}
  | _ => 0

/-- What a move hands over. -/
@[simp]
def Event.handed : Event → Multiset Outcome
  | .hand outcome => {outcome}
  | _ => 0

/-- A pool that begins has nothing to hand over. -/
lemma upcoming_start (limit : Nat) : (start limit).upcoming attempt = 0 := by
  simp [upcoming, start]

/-- A worker's share in what a pool may still hand over. -/
lemma upcoming_split (phase : Phase) (permits : Nat) (before after : List Worker) (worker : Worker)
    (detached : List SourceFile) :
    upcoming attempt ⟨phase, permits, before ++ worker :: after, detached⟩ =
      {worker.upcoming attempt} + upcoming attempt ⟨phase, permits, before ++ after, detached⟩ := by
  have front : (before ++ worker :: after).Perm (worker :: (before ++ after)) :=
    List.perm_middle
  have same := Multiset.coe_eq_coe.mpr (front.map (Worker.upcoming attempt))
  simp only [upcoming, same, List.map_cons, ← Multiset.cons_coe, ← Multiset.singleton_add]
  exact add_left_comm _ _ _

end Accounting

/-- A move keeps what may still be handed over, but for what it takes in, hands over and loses. It
loses nothing before the deadline. -/
lemma Step.upcoming {attempt : SourceFile → Attempt} {expired : Bool} {p q : ExtractPool}
    {event : Event} (step : Step attempt expired p event q) :
    ∃ lost : Multiset Outcome,
      p.upcoming attempt + event.taken attempt = event.handed + q.upcoming attempt + lost ∧
      (expired = false → lost = 0) := by
  cases step with
  | takeFile =>
    exact ⟨0, by simp [ExtractPool.upcoming, ReadPool.Item.outcome, add_comm], fun _ => rfl⟩
  | takeDiagnostic =>
    exact ⟨0, by simp [ExtractPool.upcoming, ReadPool.Item.outcome, add_comm], fun _ => rfl⟩
  | close => exact ⟨0, by simp [ExtractPool.upcoming], fun _ => rfl⟩
  | stopReceiving => exact ⟨0, by simp [ExtractPool.upcoming], fun _ => rfl⟩
  | forward => exact ⟨0, by simp [ExtractPool.upcoming], fun _ => rfl⟩
  | @stopForwarding d _ _ _ late =>
    refine ⟨{.error d}, ?_, fun live => by simp [live] at late⟩
    simp [ExtractPool.upcoming, add_comm]
  | acquire =>
    refine ⟨0, ?_, fun _ => rfl⟩
    rw [upcoming_split]
    simp [ExtractPool.upcoming]
  | @stopAcquiring file _ _ _ late =>
    refine ⟨{(attempt file).outcome file.path}, ?_, fun live => by simp [live] at late⟩
    simp [ExtractPool.upcoming, add_comm]
  | extract => exact ⟨0, by simp [upcoming_split], fun _ => rfl⟩
  | release => exact ⟨0, by simp [ExtractPool.upcoming], fun _ => rfl⟩
  | @detach _ _ _ file _ _ late =>
    refine ⟨{(attempt file).outcome file.path}, ?_, fun live => by simp [live] at late⟩
    rw [upcoming_split]
    simp [ExtractPool.upcoming, add_comm]
  | @drop _ _ _ file _ _ late =>
    refine ⟨{(attempt file).outcome file.path}, ?_, fun live => by simp [live] at late⟩
    rw [upcoming_split]
    simp [ExtractPool.upcoming, add_comm]
  | hand => exact ⟨0, by simp [upcoming_split], fun _ => rfl⟩
  | @abandon _ _ _ outcome _ _ late =>
    refine ⟨{outcome}, ?_, fun live => by simp [live] at late⟩
    rw [upcoming_split]
    simp [ExtractPool.upcoming, add_comm]
  | vanish => exact ⟨0, by simp [ExtractPool.upcoming], fun _ => rfl⟩
  | finish => exact ⟨0, by simp [ExtractPool.upcoming], fun _ => rfl⟩

/-- Whether a worker holds a permit. -/
@[simp]
def Worker.holdsPermit : Worker → Bool
  | .handing _ => false
  | _ => true

/-- What holds of a pool at all times. -/
structure IsSound (limit : Nat) (p : ExtractPool) : Prop where
  /-- A permit is free or held by one worker. -/
  permits_add : p.permits + p.workers.countP Worker.holdsPermit = max limit 1
  /-- No worker outlives the pool. -/
  workers_eq_nil : p.phase = .returned → p.workers = []

/-- A pool is sound when it begins. -/
lemma isSound_start (limit : Nat) : (start limit).IsSound limit where
  permits_add := by simp [start]
  workers_eq_nil := by simp [start]

/-- A move keeps a pool sound. -/
lemma Step.isSound {attempt : SourceFile → Attempt} {limit : Nat} {expired : Bool}
    {p q : ExtractPool} {event : Event} (step : Step attempt expired p event q)
    (sound : p.IsSound limit) : q.IsSound limit := by
  obtain ⟨permits, left⟩ := sound
  cases step with
  | takeFile => exact ⟨permits, nofun⟩
  | takeDiagnostic => exact ⟨permits, nofun⟩
  | close => exact ⟨permits, nofun⟩
  | stopReceiving => exact ⟨permits, nofun⟩
  | forward => exact ⟨permits, nofun⟩
  | stopForwarding => exact ⟨permits, nofun⟩
  | acquire => exact ⟨by simp at permits ⊢; omega, nofun⟩
  | stopAcquiring => exact ⟨permits, nofun⟩
  | extract =>
    exact ⟨by simpa [List.countP_cons] using permits, fun e => by simpa using left e⟩
  | release =>
    exact ⟨by simp [List.countP_cons] at permits ⊢; omega, fun e => by simpa using left e⟩
  | detach =>
    exact ⟨by simp [List.countP_cons] at permits ⊢; omega, fun e => by simpa using left e⟩
  | drop =>
    exact ⟨by simp [List.countP_cons] at permits ⊢; omega, fun e => by simpa using left e⟩
  | hand => exact ⟨by simpa using permits, fun e => by simpa using left e⟩
  | abandon => exact ⟨by simpa using permits, fun e => by simpa using left e⟩
  | vanish => exact ⟨permits, left⟩
  | finish => exact ⟨permits, fun _ => rfl⟩

/-- A pool that has returned shows nothing more, and stays so. -/
lemma Step.of_returned {attempt : SourceFile → Attempt} {limit : Nat} {expired : Bool}
    {p q : ExtractPool} {event : Event} (step : Step attempt expired p event q)
    (sound : p.IsSound limit) (returned : p.phase = .returned) :
    event = .nothing ∧ q.phase = .returned := by
  have left := sound.workers_eq_nil returned
  cases step with
  | extract => simp at left
  | release => simp at left
  | detach => simp at left
  | drop => simp at left
  | hand => simp at left
  | abandon => simp at left
  | vanish => exact ⟨rfl, returned⟩
  | _ => cases returned

/-- A pool that has returned has nothing left to hand over. -/
lemma IsSound.upcoming_eq_zero {limit : Nat} {p : ExtractPool} (sound : p.IsSound limit)
    (returned : p.phase = .returned) (attempt : SourceFile → Attempt) : p.upcoming attempt = 0 := by
  simp [upcoming, sound.workers_eq_nil returned, returned]

/-- Whether the receiver takes no items any more. -/
def IsShut (p : ExtractPool) : Prop := p.phase = .draining ∨ p.phase = .returned

/-- Before the deadline, the receiver stops taking items only when it sees that none will come. -/
lemma Step.eq_close_or_isShut {attempt : SourceFile → Attempt} {p q : ExtractPool} {event : Event}
    (step : Step attempt false p event q) (shut : q.IsShut) : event = .close ∨ p.IsShut := by
  cases step with
  | close => exact .inl rfl
  | extract => exact .inr shut
  | release => exact .inr shut
  | hand => exact .inr shut
  | vanish => exact .inr shut
  | finish => exact .inr (.inl rfl)
  | takeFile => simp [IsShut] at shut
  | takeDiagnostic => simp [IsShut] at shut
  | forward => simp [IsShut] at shut
  | acquire => simp [IsShut] at shut
  | _ => contradiction

/-- A worker can move, if what it hands over is taken. -/
lemma exists_step_worker (attempt : SourceFile → Attempt) (expired : Bool) (phase : Phase)
    (permits : Nat) (worker : Worker) (workers : List Worker) (detached : List SourceFile) :
    ∃ event q, Step attempt expired ⟨phase, permits, worker :: workers, detached⟩ event q ∧
      (event = .nothing ∨ ∃ outcome, event = .hand outcome) := by
  cases worker with
  | extracting file =>
    exact ⟨.nothing, _, @Step.extract attempt expired phase permits [] _ _ _, .inl rfl⟩
  | extracted file =>
    exact ⟨.nothing, _, @Step.release attempt expired phase permits [] _ _ _, .inl rfl⟩
  | handing outcome =>
    exact ⟨.hand outcome, _, @Step.hand attempt expired phase permits [] _ _ _,
      .inr ⟨outcome, rfl⟩⟩

/-- A pool that has not returned can move, if what it hands over is taken, or its receiver waits for
an item. -/
lemma IsSound.progress {limit : Nat} {p : ExtractPool} (sound : p.IsSound limit)
    (active : p.phase ≠ .returned) (attempt : SourceFile → Attempt) (expired : Bool) :
    (∃ event q, Step attempt expired p event q ∧
      (event = .nothing ∨ ∃ outcome, event = .hand outcome)) ∨ p.phase = .receiving := by
  obtain ⟨phase, permits, workers, detached⟩ := p
  cases workers with
  | cons worker workers => exact .inl (exists_step_worker ..)
  | nil =>
    cases phase with
    | receiving => exact .inr rfl
    | forwarding d => exact .inl ⟨.hand (.error d), _, .forward, .inr ⟨_, rfl⟩⟩
    | acquiring file =>
      -- No worker holds a permit, so one is free.
      have free := sound.permits_add
      cases permits with
      | zero => simp at free; omega
      | succ permits => exact .inl ⟨.nothing, _, .acquire, .inl rfl⟩
    | draining => exact .inl ⟨.nothing, _, .finish, .inl rfl⟩
    | returned => exact absurd rfl active

/-- A receiver that waits can take any item. -/
lemma exists_step_take {p : ExtractPool} (waiting : p.phase = .receiving)
    (attempt : SourceFile → Attempt) (expired : Bool) (item : ReadPool.Item) :
    ∃ q, Step attempt expired p (.take item) q := by
  obtain ⟨phase, permits, workers, detached⟩ := p
  cases waiting
  cases item with
  | ok file => exact ⟨_, .takeFile⟩
  | error d => exact ⟨_, .takeDiagnostic⟩

/-- A receiver that waits can see that no item will come any more. -/
lemma exists_step_close {p : ExtractPool} (waiting : p.phase = .receiving)
    (attempt : SourceFile → Attempt) (expired : Bool) : ∃ q, Step attempt expired p .close q := by
  obtain ⟨phase, permits, workers, detached⟩ := p
  cases waiting
  exact ⟨_, .close⟩

/-- How far a worker is from having left, and its call from having returned. -/
@[simp]
def Worker.rank : Worker → Nat
  | .extracting _ => 4
  | .extracted _ => 3
  | .handing _ => 2

/-- How far a receiver is from having returned. -/
@[simp]
def Phase.rank : Phase → Nat
  | .receiving => 2
  | .forwarding _ => 4
  | .acquiring _ => 7
  | .draining => 1
  | .returned => 0

/-- What a move adds to the way that is left. -/
@[simp]
def Event.gain : Event → Nat
  | .take _ => 6
  | _ => 0

/-- What a move leaves to the collector. -/
@[simp]
def Event.debt : Event → Nat
  | .hand _ => 1
  | _ => 0

/-- How far a pool is from having returned, and its detached calls with it. -/
def rank (p : ExtractPool) : Nat :=
  p.phase.rank + (p.workers.map Worker.rank).sum + p.detached.length

/-- A move brings a pool closer to its end, unless it takes an item in. -/
lemma Step.rank {attempt : SourceFile → Attempt} {expired : Bool} {p q : ExtractPool}
    {event : Event} (step : Step attempt expired p event q) :
    q.rank + event.debt < p.rank + event.gain := by
  cases step <;> simp [ExtractPool.rank] <;> omega

end RouteAtlas.ExtractPool
