import RouteAtlas.Run.ExtractPool
import RouteAtlas.Run.Generation

/-!
# Interleavings of a run

A run joins the pool of readers, the pool of extractions and a collector by two slots, each of which
holds one thing at a time. `Interleaving.Move` says what one of them can do next, and
`Interleaving.Step` adds the passing of the deadline. A run that has finished comes to the
generation of the outcomes that arrived, in the order of their arrival.
-/

namespace RouteAtlas

/-- What the steps of a run come to for each file. -/
structure Workload where
  /-- What the reading of a file comes to. -/
  read : FilePath → ReadPool.Item
  /-- What the call of the extractor comes to. -/
  attempt : SourceFile → Attempt

namespace Workload

/-- The workload of a run whose requests to read are answered in a given way. -/
def ofAnswers (c : Config) (answer : FilePath → Except IoFault ByteArray)
    (attempt : SourceFile → Attempt) : Workload :=
  ⟨fun location => SourceFile.ofAnswer c.logicalPrefix c.root location (answer location), attempt⟩

/-- The workload of a run on the files of a file system. -/
def ofFiles (fs : FileSystem) (c : Config) (attempt : SourceFile → Attempt) : Workload :=
  ofAnswers c fs.read attempt

/-- What becomes of the file at a location, if nothing gets in the way. -/
def outcome (w : Workload) (location : FilePath) : Outcome := (w.read location).outcome w.attempt

end Workload

/-- What the run comes to that treats the files of a scan one after another. -/
def Generation.sequential (c : Config) (s : Scan) (w : Workload) : Generation :=
  .ofOutcomes c s (s.files.map w.outcome)

/-- How far a run has come. -/
structure Interleaving where
  /-- Whether the deadline has passed. -/
  expired : Bool := false
  reading : ReadPool
  /-- What lies between the pools. -/
  item : Option ReadPool.Item := none
  extracting : ExtractPool
  /-- What lies before the collector. -/
  outcome : Option Outcome := none
  /-- The outcomes that the collector took, in order. -/
  arrived : List Outcome := []
  /-- Whether the collector has returned. -/
  isCollected : Bool := false
deriving Inhabited

namespace Interleaving

/-- A run that begins on the files of a scan. -/
def start (c : Config) (s : Scan) : Interleaving where
  reading := .start c.concurrency s.files
  extracting := .start c.concurrency

/-- Whether the pool of extractions takes no items any more. -/
def isDeaf (r : Interleaving) : Bool :=
  match r.extracting.phase with
  | .returned => true
  | _ => false

/-- One move of a pool or the collector. -/
inductive Move (w : Workload) : Interleaving → Interleaving → Prop where
  /-- The readers make a move of their own. -/
  | read {r reading} :
    ReadPool.Step w.read r.expired r.isDeaf r.reading none reading →
    Move w r { r with reading }
  /-- A reader hands over. -/
  | handItem {r reading item} :
    r.item = none →
    ReadPool.Step w.read r.expired r.isDeaf r.reading (some item) reading →
    Move w r { r with reading, item := some item }
  /-- The extractions make a move of their own. -/
  | work {r extracting} :
    ExtractPool.Step w.attempt r.expired r.extracting .nothing extracting →
    Move w r { r with extracting }
  /-- The extractions take an item. -/
  | take {r extracting item} :
    r.item = some item →
    ExtractPool.Step w.attempt r.expired r.extracting (.take item) extracting →
    Move w r { r with extracting, item := none }
  /-- The extractions see that the readers have returned. -/
  | close {r extracting} :
    r.item = none →
    r.reading.phase = .returned →
    ExtractPool.Step w.attempt r.expired r.extracting .close extracting →
    Move w r { r with extracting }
  /-- A worker or the receiver hands over. -/
  | handOutcome {r extracting outcome} :
    r.outcome = none →
    ExtractPool.Step w.attempt r.expired r.extracting (.hand outcome) extracting →
    Move w r { r with extracting, outcome := some outcome }
  /-- The collector takes an outcome. -/
  | collect {r outcome} :
    r.isCollected = false →
    r.outcome = some outcome →
    Move w r { r with outcome := none, arrived := r.arrived ++ [outcome] }
  /-- The collector sees that the extractions have returned. -/
  | finish {r} :
    r.isCollected = false →
    r.outcome = none →
    r.extracting.phase = .returned →
    Move w r { r with isCollected := true }

/-- What can happen next: a move, or the passing of the deadline. -/
inductive Step (w : Workload) : Interleaving → Interleaving → Prop where
  | move {r s} : Move w r s → Step w r s
  | expire {r} : r.expired = false → Step w r { r with expired := true }

/-- What a run can come to, one thing happening after another. -/
inductive Reaches (next : Interleaving → Interleaving → Prop) (r : Interleaving) :
    Interleaving → Prop where
  | refl : Reaches next r r
  | tail {s t} : Reaches next r s → next s t → Reaches next r t

/-- Whether the run is over: the collector and both pools have returned. -/
def IsFinished (r : Interleaving) : Prop :=
  r.isCollected = true ∧ r.reading.phase = .returned ∧ r.extracting.phase = .returned

/-- What a finished run comes to. -/
def generation (c : Config) (s : Scan) (r : Interleaving) : Generation := .ofOutcomes c s r.arrived

end Interleaving

end RouteAtlas
