import RouteAtlas.Run.ReadPool

/-!
# The pool of extractions

A receiver takes the items that readers hand over. It passes diagnostics on itself, and starts a
worker for each file, which needs a permit. A worker calls the extractor, gives its permit back when
the call has returned, and hands over the outcome. Once the deadline has passed, the receiver may
stop wherever it waits, and a worker may leave: its permit is free then, but a call that it waited
for goes on, detached, until it returns. The pool returns when the receiver has stopped and no
worker is left.
-/

namespace RouteAtlas

/-- A worker. -/
inductive ExtractPool.Worker where
  /-- Its call runs on a file. -/
  | extracting (file : SourceFile)
  /-- Its call has returned, and it still holds its permit. -/
  | extracted (file : SourceFile)
  /-- It waits to hand over. -/
  | handing (outcome : Outcome)
deriving Inhabited

/-- What the receiver of a pool does. -/
inductive ExtractPool.Phase where
  /-- It waits for an item. -/
  | receiving
  /-- It waits to pass a diagnostic on. -/
  | forwarding (diagnostic : Diagnostic)
  /-- It waits for a permit. -/
  | acquiring (file : SourceFile)
  /-- It waits for the workers to leave. -/
  | draining
  /-- It has returned. -/
  | returned
deriving Inhabited

/-- A pool of extractions. -/
structure ExtractPool where
  phase : ExtractPool.Phase := .receiving
  /-- The permits that nobody holds. -/
  permits : Nat
  workers : List ExtractPool.Worker := []
  /-- The files of calls that nobody waits for. -/
  detached : List SourceFile := []
deriving Inhabited

/-- What a move of a pool of extractions shows. -/
inductive ExtractPool.Event where
  | nothing
  /-- It takes an item. -/
  | take (item : ReadPool.Item)
  /-- It sees that no item will come any more. -/
  | close
  /-- It hands an outcome over. -/
  | hand (outcome : Outcome)
deriving Inhabited

namespace ExtractPool

/-- A pool that begins with `limit` permits but at least one. -/
def start (limit : Nat) : ExtractPool := { permits := max limit 1 }

/-- Whether a worker's call runs. -/
def isExtracting : Worker → Bool
  | .extracting _ => true
  | _ => false

/-- The number of calls that run. -/
def running (p : ExtractPool) : Nat := p.workers.countP isExtracting + p.detached.length

/-- One move of a pool. `attempt` says what the call on a file comes to, `expired` whether the
deadline has passed. -/
inductive Step (attempt : SourceFile → Attempt) (expired : Bool) :
    ExtractPool → Event → ExtractPool → Prop where
  /-- A file is taken. -/
  | takeFile {file permits workers detached} :
    Step attempt expired ⟨.receiving, permits, workers, detached⟩ (.take (.ok file))
      ⟨.acquiring file, permits, workers, detached⟩
  /-- A diagnostic is taken. -/
  | takeDiagnostic {d permits workers detached} :
    Step attempt expired ⟨.receiving, permits, workers, detached⟩ (.take (.error d))
      ⟨.forwarding d, permits, workers, detached⟩
  /-- No item will come any more. -/
  | close {permits workers detached} :
    Step attempt expired ⟨.receiving, permits, workers, detached⟩ .close
      ⟨.draining, permits, workers, detached⟩
  /-- The receiver stops waiting for items. -/
  | stopReceiving {permits workers detached} :
    expired = true →
    Step attempt expired ⟨.receiving, permits, workers, detached⟩ .nothing
      ⟨.draining, permits, workers, detached⟩
  /-- A diagnostic is passed on. -/
  | forward {d permits workers detached} :
    Step attempt expired ⟨.forwarding d, permits, workers, detached⟩ (.hand (.error d))
      ⟨.receiving, permits, workers, detached⟩
  /-- The receiver stops waiting to pass a diagnostic on. -/
  | stopForwarding {d permits workers detached} :
    expired = true →
    Step attempt expired ⟨.forwarding d, permits, workers, detached⟩ .nothing
      ⟨.draining, permits, workers, detached⟩
  /-- A worker is started. -/
  | acquire {file permits workers detached} :
    Step attempt expired ⟨.acquiring file, permits + 1, workers, detached⟩ .nothing
      ⟨.receiving, permits, workers ++ [.extracting file], detached⟩
  /-- The receiver stops waiting for a permit. -/
  | stopAcquiring {file permits workers detached} :
    expired = true →
    Step attempt expired ⟨.acquiring file, permits, workers, detached⟩ .nothing
      ⟨.draining, permits, workers, detached⟩
  /-- A call returns. -/
  | extract {phase permits before file after detached} :
    Step attempt expired ⟨phase, permits, before ++ .extracting file :: after, detached⟩ .nothing
      ⟨phase, permits, before ++ .extracted file :: after, detached⟩
  /-- A worker gives its permit back and turns to what its call came to. -/
  | release {phase permits before file after detached} :
    Step attempt expired ⟨phase, permits, before ++ .extracted file :: after, detached⟩ .nothing
      ⟨phase, permits + 1, before ++ .handing ((attempt file).outcome file.path) :: after, detached⟩
  /-- A worker leaves its call behind. -/
  | detach {phase permits before file after detached} :
    expired = true →
    Step attempt expired ⟨phase, permits, before ++ .extracting file :: after, detached⟩ .nothing
      ⟨phase, permits + 1, before ++ after, file :: detached⟩
  /-- A worker leaves although its call has returned. -/
  | drop {phase permits before file after detached} :
    expired = true →
    Step attempt expired ⟨phase, permits, before ++ .extracted file :: after, detached⟩ .nothing
      ⟨phase, permits + 1, before ++ after, detached⟩
  /-- An outcome is handed over. -/
  | hand {phase permits before outcome after detached} :
    Step attempt expired ⟨phase, permits, before ++ .handing outcome :: after, detached⟩
      (.hand outcome) ⟨phase, permits, before ++ after, detached⟩
  /-- A worker gives up on handing over. -/
  | abandon {phase permits before outcome after detached} :
    expired = true →
    Step attempt expired ⟨phase, permits, before ++ .handing outcome :: after, detached⟩ .nothing
      ⟨phase, permits, before ++ after, detached⟩
  /-- A call that nobody waits for returns. -/
  | vanish {phase permits workers before file after} :
    Step attempt expired ⟨phase, permits, workers, before ++ file :: after⟩ .nothing
      ⟨phase, permits, workers, before ++ after⟩
  /-- The pool returns. -/
  | finish {permits detached} :
    Step attempt expired ⟨.draining, permits, [], detached⟩ .nothing
      ⟨.returned, permits, [], detached⟩

end ExtractPool

end RouteAtlas
