import Mathlib.Logic.Relation
import Mathlib.Order.Bounds.Basic
import RouteAtlas.Proofs.Run.Accounting

/-!
# How many files are read at once

A pool of readers sends its items through a channel. A reader in flight holds a permit, so that the
limit holds for them at all times, also for those that outlive the deadline. Each reader holds a
sender as well, and the scheduler holds one until it has returned, which it does after its readers.
So the receiver sees the channel closed when nothing can be sent any more, and no sooner
(`Feed.bounded_and_closed_last`).
-/

namespace RouteAtlas.ReadPool

/-- Whether a reader reads or waits to hand over. -/
def Reader.isInFlight : Reader → Bool
  | .reading _ => true
  | .handing _ => true
  | .leaving => false

/-- The number of readers that read or wait to hand over. -/
def inFlight (p : ReadPool) : Nat := p.readers.countP Reader.isInFlight

/-- The number of senders: one for each reader, and one of the scheduler until it has returned. -/
def senders (p : ReadPool) : Nat :=
  p.readers.length + match p.phase with
    | .returned => 0
    | _ => 1

/-- A pool of readers with the channel that it sends its items through. -/
structure Feed where
  /-- Whether the deadline has passed. -/
  expired : Bool := false
  pool : ReadPool
  /-- Whether the receiver is gone. -/
  isDeaf : Bool := false
  /-- What lies in the channel, in order. -/
  buffer : List Item := []
  /-- All that was ever sent, in order. -/
  sent : List Item := []

namespace Feed

/-- A pool that begins to read files, at a channel with nothing in it. -/
def start (limit : Nat) (files : List FilePath) : Feed where
  pool := .start limit files

/-- What can happen next: a move of the pool, which sends no more than the channel can hold, or
something that the pool has no part in. -/
inductive Step (read : FilePath → Item) (capacity : Nat) : Feed → Feed → Prop where
  /-- The pool makes a move of its own. -/
  | move {f pool} :
    ReadPool.Step read f.expired f.isDeaf f.pool none pool →
    Step read capacity f { f with pool }
  /-- A reader sends its item. -/
  | send {f pool item} :
    f.isDeaf = false →
    f.buffer.length < capacity →
    ReadPool.Step read f.expired f.isDeaf f.pool (some item) pool →
    Step read capacity f { f with pool, buffer := f.buffer ++ [item], sent := f.sent ++ [item] }
  /-- The receiver takes an item. -/
  | receive {f item buffer} :
    f.isDeaf = false →
    f.buffer = item :: buffer →
    Step read capacity f { f with buffer }
  /-- The receiver goes, and what lies in the channel is lost. -/
  | hangUp {f} :
    f.isDeaf = false →
    Step read capacity f { f with isDeaf := true, buffer := [] }
  /-- The deadline passes. -/
  | expire {f} :
    f.expired = false →
    Step read capacity f { f with expired := true }

/-- What a feed can come to, one thing happening after another. -/
abbrev Reaches (read : FilePath → Item) (capacity : Nat) : Feed → Feed → Prop :=
  Relation.ReflTransGen (Step read capacity)

/-- Whether the receiver can see that the channel is closed: it has taken everything, and no sender
is left. -/
def SeesClosed (f : Feed) : Prop := f.isDeaf = false ∧ f.buffer = [] ∧ f.pool.senders = 0

end Feed

/-- A reader in flight has one item to hand over. -/
lemma card_upcoming (read : FilePath → Item) (p : ReadPool) :
    (p.upcoming read).card = p.pending.length + p.inFlight := by
  have readers : (p.readers.map (Reader.upcoming read)).sum.card = p.inFlight := by
    rw [inFlight]
    induction p.readers with
    | nil => rfl
    | cons reader readers ih =>
      rw [List.map_cons, List.sum_cons, Multiset.card_add, ih, List.countP_cons, Nat.add_comm]
      cases reader <;> rfl
  rw [upcoming, Multiset.card_add, readers, Multiset.coe_card, List.length_map]

lemma inFlight_reading (phase : Phase) (pending locations : List FilePath) (permits : Nat) :
    inFlight ⟨phase, pending, permits, locations.map .reading⟩ = locations.length := by
  rw [inFlight, List.countP_map]
  exact List.countP_eq_length.mpr fun _ _ => rfl

/-- Every reader in flight holds a permit. -/
lemma IsSound.inFlight_le {limit : Nat} {expired : Bool} {p : ReadPool}
    (sound : p.IsSound limit expired) : p.inFlight ≤ max limit 1 := by
  have total := sound.permits_add
  have part : p.inFlight ≤ p.readers.length := List.countP_le_length
  omega

/-- The last sender goes when the pool returns. -/
lemma IsSound.senders_eq_zero_iff {limit : Nat} {expired : Bool} {p : ReadPool}
    (sound : p.IsSound limit expired) : p.senders = 0 ↔ p.phase = .returned := by
  have left := sound.readers_eq_nil
  rw [senders]
  cases phase : p.phase with
  | returned => simpa using left phase
  | _ => simp

/-- A pool without senders has no reader in flight. -/
lemma inFlight_eq_zero {p : ReadPool} (gone : p.senders = 0) : p.inFlight = 0 := by
  have part : p.inFlight ≤ p.readers.length := List.countP_le_length
  rw [senders] at gone
  omega

namespace Feed
variable {read : FilePath → Item} {limit capacity : Nat} {files : List FilePath} {f g : Feed}

/-- What holds of a feed at all times. -/
structure IsSound (read : FilePath → Item) (limit : Nat) (files : List FilePath) (f : Feed) :
    Prop where
  pool : f.pool.IsSound limit f.expired
  /-- Each file's item was sent, or may still be, or is lost. -/
  accounted : ∃ lost : Multiset Item, ↑f.sent + f.pool.upcoming read + lost = ↑(files.map read)

lemma isSound_start : (start limit files).IsSound read limit files where
  pool := ReadPool.isSound_start limit files
  accounted := ⟨0, by simp [start, upcoming_start]⟩

/-- Whatever happens keeps a feed sound. -/
lemma Step.isSound (step : Step read capacity f g) (sound : f.IsSound read limit files) :
    g.IsSound read limit files := by
  obtain ⟨lost, all⟩ := sound.accounted
  cases step with
  | move step =>
    obtain ⟨more, kept, _⟩ := step.upcoming
    refine ⟨step.isSound sound.pool, lost + more, ?_⟩
    rw [← all, kept]
    simp only [Option.toList_none, Multiset.coe_nil, zero_add]
    abel
  | send _ _ step =>
    obtain ⟨more, kept, _⟩ := step.upcoming
    refine ⟨step.isSound sound.pool, lost + more, ?_⟩
    rw [← all, kept, ← Multiset.coe_add]
    simp only [Option.toList_some]
    abel
  | receive _ _ => exact ⟨sound.pool, lost, all⟩
  | hangUp _ => exact ⟨sound.pool, lost, all⟩
  | expire _ => exact ⟨sound.pool.expire, lost, all⟩

/-- A feed keeps sound. -/
lemma Reaches.isSound (reach : Reaches read capacity f g) (sound : f.IsSound read limit files) :
    g.IsSound read limit files := by
  induction reach with
  | refl => exact sound
  | tail _ step ih => exact step.isSound ih

/-- What was sent are the items of some of the files, one of each. -/
lemma IsSound.exists_sublist (sound : f.IsSound read limit files) :
    ∃ served : List FilePath, served.Sublist files ∧ f.sent.Perm (served.map read) := by
  obtain ⟨lost, all⟩ := sound.accounted
  have part : (↑f.sent : Multiset Item) ≤ ↑(files.map read) := by
    rw [← all, add_assoc]
    exact Multiset.le_add_right _ _
  obtain ⟨_, perm, sublist⟩ := Multiset.coe_le.mp part
  obtain ⟨served, within, rfl⟩ := List.sublist_map_iff.mp sublist
  exact ⟨served, within, perm.symm⟩

/-- No more readers are in flight than there are files. -/
lemma IsSound.inFlight_le_length (sound : f.IsSound read limit files) :
    f.pool.inFlight ≤ files.length := by
  obtain ⟨lost, all⟩ := sound.accounted
  have total := congrArg Multiset.card all
  simp only [Multiset.card_add, card_upcoming, Multiset.coe_card, List.length_map] at total
  omega

/-- Once the pool has returned, nothing of it changes and nothing is sent. -/
lemma Reaches.eq_of_returned (reach : Reaches read capacity f g)
    (sound : f.IsSound read limit files) (returned : f.pool.phase = .returned) :
    g.pool = f.pool ∧ g.sent = f.sent := by
  induction reach with
  | refl => exact ⟨rfl, rfl⟩
  | @tail g h earlier step ih =>
    obtain ⟨samePool, sameSent⟩ := ih
    have stuck := (Reaches.isSound earlier sound).pool
    cases step with
    | move step => exact absurd (samePool ▸ returned) (step.phase_ne_returned stuck)
    | send _ _ step => exact absurd (samePool ▸ returned) (step.phase_ne_returned stuck)
    | receive _ _ => exact ⟨samePool, sameSent⟩
    | hangUp _ => exact ⟨samePool, sameSent⟩
    | expire _ => exact ⟨samePool, sameSent⟩

/-- A reader can be started for one file after another while permits are left. -/
lemma reaches_crowded (started pending : List FilePath) (permits : Nat)
    (all : permits + started.length = max limit 1) :
    Reaches read capacity (start limit (started ++ pending))
      { pool := ⟨.scheduling, pending, permits, started.map .reading⟩ } := by
  induction started using List.reverseRecOn generalizing pending permits with
  | nil =>
    obtain rfl : permits = max limit 1 := all
    exact .refl
  | append_singleton started location ih =>
    have before := ih (location :: pending) (permits + 1) (by simp at all; omega)
    rw [List.append_assoc, List.map_append]
    exact before.tail (.move .start)

/-- At most as many readers are in flight as the limit allows, which is at least one, and as there
are files; so many may be. Whatever has happened, each file's item was sent at most once. The
channel has no sender left when the pool has returned, and no sooner. When the receiver can see that
it is closed, no reader is in flight, none will be, and nothing will be sent any more. -/
theorem bounded_and_closed_last (read : FilePath → Item) (limit capacity : Nat)
    (files : List FilePath) :
    IsGreatest {n | ∃ f, Reaches read capacity (start limit files) f ∧ f.pool.inFlight = n}
        (min (max limit 1) files.length) ∧
      ∀ f, Reaches read capacity (start limit files) f →
        (∃ served : List FilePath, served.Sublist files ∧ f.sent.Perm (served.map read)) ∧
        (f.pool.senders = 0 ↔ f.pool.phase = .returned) ∧
        (f.SeesClosed → f.pool.inFlight = 0 ∧
          ∀ g, Reaches read capacity f g → g.pool.inFlight = 0 ∧ g.sent = f.sent) := by
  refine ⟨⟨?_, ?_⟩, fun f reach => ?_⟩
  · let most := min (max limit 1) files.length
    have crowded := @reaches_crowded read limit capacity (files.take most) (files.drop most)
      (max limit 1 - most) (by simp [most]; omega)
    rw [List.take_append_drop] at crowded
    refine ⟨_, crowded, ?_⟩
    rw [inFlight_reading, List.length_take]
    exact Nat.min_eq_left (Nat.min_le_right _ _)
  · rintro _ ⟨f, reach, rfl⟩
    have sound : f.IsSound read limit files := reach.isSound isSound_start
    exact Nat.le_min.mpr ⟨sound.pool.inFlight_le, sound.inFlight_le_length⟩
  · have sound : f.IsSound read limit files := reach.isSound isSound_start
    refine ⟨sound.exists_sublist, sound.pool.senders_eq_zero_iff, ?_⟩
    rintro ⟨_, _, gone⟩
    have returned := sound.pool.senders_eq_zero_iff.mp gone
    refine ⟨inFlight_eq_zero gone, fun g later => ?_⟩
    obtain ⟨same, silent⟩ := later.eq_of_returned sound returned
    exact ⟨same ▸ inFlight_eq_zero gone, silent⟩

section Sample
open RouteAtlas.Sample

/-- The first of three files was being read when the deadline passed, and its item was sent and
taken all the same. -/
def overstayed : Feed where
  expired := true
  pool := ⟨.returned, [.ofText "app/notes.ts", .ofText "app/user/put.ts"], 1, []⟩
  sent := [workload.read (.ofText "app/item/get.ts")]

lemma reaches_overstayed :
    Reaches workload.read 1 (start config.concurrency scan.files) overstayed := by
  have begun : Reaches workload.read 1 (start config.concurrency scan.files) {
      pool := ⟨.scheduling, scan.files, 1, []⟩ } := .refl
  have started := begun.tail (.move .start)
  have expired := started.tail (.expire rfl)
  have gaveUp := expired.tail (.move (.giveUp rfl))
  have hasRead := gaveUp.tail (.move (@ReadPool.Step.read _ _ _ _ _ _ [] _ _))
  have sent := hasRead.tail (.send rfl Nat.one_pos (@ReadPool.Step.hand _ _ _ _ _ _ [] _ _))
  have left := sent.tail (.move (@ReadPool.Step.leave _ _ _ _ _ _ [] _))
  have returned := left.tail (.move .finish)
  exact returned.tail (.receive rfl rfl)

/-- The receiver can see then that the channel is closed, and no reader is in flight any more. -/
theorem overstayed_closed :
    Reaches workload.read 1 (start config.concurrency scan.files) overstayed ∧
      overstayed.SeesClosed ∧ overstayed.pool.inFlight = 0 ∧
      ∀ g, Reaches workload.read 1 overstayed g →
        g.pool.inFlight = 0 ∧ g.sent = overstayed.sent := by
  have closed : overstayed.SeesClosed := ⟨rfl, rfl, rfl⟩
  have bounded := bounded_and_closed_last workload.read config.concurrency 1 scan.files
  exact ⟨reaches_overstayed, closed, (bounded.2 overstayed reaches_overstayed).2.2 closed⟩

end Sample

end Feed

end RouteAtlas.ReadPool
