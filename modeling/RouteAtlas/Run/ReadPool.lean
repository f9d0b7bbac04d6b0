import RouteAtlas.Run.Outcome

/-!
# The pool of readers

The files of a scan are read by readers that work side by side. A scheduler starts one reader after
another; each needs a permit and keeps it until it has left. A reader reads its file and hands over
what came of it. Once the deadline has passed, the scheduler may give up on the files that are left,
and a reader on handing over. The pool returns when the scheduler is through and no reader is left.

`ReadPool.Step` says what can happen next. Whatever can happen may: nothing is said about who moves
first.
-/

namespace RouteAtlas

/-- What the reading of a file comes to. -/
abbrev ReadPool.Item := Except Diagnostic SourceFile

/-- The logical path that an item speaks of. -/
def ReadPool.Item.path : Item → String
  | .ok file => file.path
  | .error d => d.path

/-- What becomes of the file that an item speaks of, once its extraction has been attempted. -/
def ReadPool.Item.outcome (attempt : SourceFile → Attempt) : Item → Outcome
  | .ok file => (attempt file).outcome file.path
  | .error d => .error d

/-- A reader in flight. -/
inductive ReadPool.Reader where
  /-- It reads the file at a location. -/
  | reading (location : FilePath)
  /-- It waits to hand over. -/
  | handing (item : Item)
  /-- It has handed over or given up, and still holds its permit. -/
  | leaving
deriving Inhabited

/-- What the scheduler of a pool does. -/
inductive ReadPool.Phase where
  /-- It starts readers. -/
  | scheduling
  /-- It waits for the readers to leave. -/
  | draining
  /-- It has returned. -/
  | returned
deriving DecidableEq, Repr, Inhabited

/-- A pool of readers. -/
structure ReadPool where
  phase : ReadPool.Phase := .scheduling
  /-- The files that no reader was started for. -/
  pending : List FilePath
  /-- The permits that nobody holds. -/
  permits : Nat
  readers : List ReadPool.Reader := []
deriving Inhabited

namespace ReadPool

/-- A pool that begins to read files, `limit` of them at once but at least one. -/
def start (limit : Nat) (files : List FilePath) : ReadPool :=
  { pending := files, permits := max limit 1 }

/-- One move of a pool. `read` says what reading a file comes to. `expired` says whether the
deadline has passed, `deaf` whether nobody takes items any more. The item that a move hands over is
shown. -/
inductive Step (read : FilePath → Item) (expired deaf : Bool) :
    ReadPool → Option Item → ReadPool → Prop where
  /-- A reader is started for the next file. -/
  | start {location pending permits readers} :
    Step read expired deaf ⟨.scheduling, location :: pending, permits + 1, readers⟩ none
      ⟨.scheduling, pending, permits, readers ++ [.reading location]⟩
  /-- No file is left. -/
  | exhaust {permits readers} :
    Step read expired deaf ⟨.scheduling, [], permits, readers⟩ none
      ⟨.draining, [], permits, readers⟩
  /-- The scheduler gives up on the files that are left. -/
  | giveUp {location pending permits readers} :
    expired = true →
    Step read expired deaf ⟨.scheduling, location :: pending, permits, readers⟩ none
      ⟨.draining, location :: pending, permits, readers⟩
  /-- A file is read. -/
  | read {phase pending permits before location after} :
    Step read expired deaf ⟨phase, pending, permits, before ++ .reading location :: after⟩ none
      ⟨phase, pending, permits, before ++ .handing (read location) :: after⟩
  /-- An item is handed over. -/
  | hand {phase pending permits before item after} :
    Step read expired deaf ⟨phase, pending, permits, before ++ .handing item :: after⟩ (some item)
      ⟨phase, pending, permits, before ++ .leaving :: after⟩
  /-- A reader gives up on handing over. -/
  | abandon {phase pending permits before item after} :
    expired = true ∨ deaf = true →
    Step read expired deaf ⟨phase, pending, permits, before ++ .handing item :: after⟩ none
      ⟨phase, pending, permits, before ++ .leaving :: after⟩
  /-- A reader leaves and gives its permit back. -/
  | leave {phase pending permits before after} :
    Step read expired deaf ⟨phase, pending, permits, before ++ .leaving :: after⟩ none
      ⟨phase, pending, permits + 1, before ++ after⟩
  /-- The pool returns. -/
  | finish {pending permits} :
    Step read expired deaf ⟨.draining, pending, permits, []⟩ none ⟨.returned, pending, permits, []⟩

end ReadPool

end RouteAtlas
