import RouteAtlas.Proofs.Extraction.Identity
import RouteAtlas.Proofs.Run.Deadline

/-!
# Complete runs

A run without fatal diagnostics is called complete. Its builder refuses a route whose key is taken,
and no diagnostic speaks of that: every route file has an entry of its own exactly if no two of them
share a key (`Reaches.own_entries_iff_distinct_keys`), and of two that do, one is lost
(`own_entry_lost`). This holds of all extractors that read methods off names, as the extractor of
TypeScript files does (`readsMethod_attempt`).
-/

namespace RouteAtlas

/-- What extractors do with the names of files. -/
structure ReadsMethod (extension : String) (attempt : SourceFile → Attempt) : Prop where
  carries : CarriesPath attempt
  /-- Routes come from files with a method. -/
  recognized : ∀ file r, attempt file = .route r → (Method.ofPath? extension file.path).isSome
  /-- Only a file without a method is reported as such. -/
  unrecognized : ∀ file path, attempt file = .failure (.unrecognizedMethod path) →
    Method.ofPath? extension file.path = none

/-- The extractor that looks at nothing but names reads methods. -/
lemma readsMethod_bareAttempt (extension : String) :
    ReadsMethod extension (bareAttempt extension) where
  carries := carriesPath_bareAttempt extension
  recognized file r tried := by
    unfold bareAttempt at tried
    split at tried
    · rename_i method found
      simp [found]
    · cases tried
  unrecognized file path tried := by
    unfold bareAttempt at tried
    split at tried
    · cases tried
    · assumption

namespace Extraction.Extractor
variable {e : Extractor} {file : SourceFile}

lemma extract_of_route {r : Route} (tried : e.attempt file = .route r) :
    e.extract file.path file.content = .ok r := by
  unfold attempt at tried
  split at tried
  · cases tried
    assumption
  · cases tried

lemma extract_of_failure {f : Failure} (tried : e.attempt file = .failure f) :
    e.extract file.path file.content = .error f := by
  unfold attempt at tried
  split at tried
  · cases tried
  · cases tried
    assumption

/-- The extractor of TypeScript files reads methods. -/
theorem readsMethod_attempt (e : Extractor) : ReadsMethod e.extension e.attempt where
  carries _ _ tried := (of_extract_ok (extract_of_route tried)).1
  recognized _ _ tried := Option.isSome_of_eq_some (of_extract_ok (extract_of_route tried)).2
  unrecognized _ _ tried := of_extract_unrecognized (extract_of_failure tried)

end Extraction.Extractor

namespace Config

/-- Whether the file at a location is named after a method. -/
def isRouteFile (c : Config) (location : FilePath) : Bool :=
  (Method.ofPath? c.extension (logicalPath c.logicalPrefix c.root location)).isSome

/-- The key that the file at a location has in the manifest. -/
def keyAt (c : Config) (location : FilePath) : String :=
  c.key (logicalPath c.logicalPrefix c.root location)

/-- The files of a scan that are named after a method. -/
def routeFiles (c : Config) (s : Scan) : List FilePath := s.files.filter c.isRouteFile

/-- The files of a scan that are not. -/
def otherFiles (c : Config) (s : Scan) : List FilePath :=
  s.files.filter fun location => !c.isRouteFile location

/-- A file of a scan is one or the other. -/
lemma length_files (c : Config) (s : Scan) :
    s.files.length = (c.routeFiles s).length + (c.otherFiles s).length := by
  simpa [routeFiles, otherFiles, List.countP_eq_length_filter] using
    s.files.length_eq_countP_add_countP c.isRouteFile

end Config

section Names
variable {c : Config} {answer : FilePath → Except IoFault ByteArray}
  {attempt : SourceFile → Attempt}

/-- A file is read in vain, or becomes what the attempt on it comes to. -/
lemma Workload.outcome_cases (location : FilePath) :
    (∃ d, d.isFatal = true ∧ (Workload.ofAnswers c answer attempt).outcome location = .error d) ∨
      ∃ file, file.path = logicalPath c.logicalPrefix c.root location ∧
        (Workload.ofAnswers c answer attempt).outcome location
          = (attempt file).outcome file.path := by
  obtain ⟨path, named⟩ : ∃ path, logicalPath c.logicalPrefix c.root location = path := ⟨_, rfl⟩
  cases answered : answer location with
  | error fault =>
    refine .inl ⟨⟨path, .readFailure, fault.message⟩, rfl, ?_⟩
    simp only [outcome, ofAnswers, SourceFile.ofAnswer, answered, ReadPool.Item.outcome, named]
  | ok content =>
    refine .inr ⟨⟨path, location, content⟩, named.symm, ?_⟩
    simp only [outcome, ofAnswers, SourceFile.ofAnswer, answered, ReadPool.Item.outcome, named]

namespace ReadsMethod
variable (reads : ReadsMethod c.extension attempt)
include reads

/-- A route comes from a file with a method. -/
lemma isSome_of_ok {file : SourceFile} {q : Route}
    (e : (attempt file).outcome file.path = .ok q) :
    (Method.ofPath? c.extension file.path).isSome := by
  cases tried : attempt file with
  | route r => exact reads.recognized file r tried
  | failure f =>
    rw [tried] at e
    cases e
  | crash text =>
    rw [tried] at e
    cases e

/-- A harmless diagnostic comes from a file without a method. -/
lemma eq_none_of_error {file : SourceFile} {d : Diagnostic}
    (e : (attempt file).outcome file.path = .error d) (harmless : d.isFatal = false) :
    Method.ofPath? c.extension file.path = none := by
  cases tried : attempt file with
  | route r =>
    rw [tried] at e
    cases e
  | failure f =>
    rw [tried] at e
    cases e
    cases f with
    | unrecognizedMethod path => exact reads.unrecognized file path tried
    | io fault => cases harmless
    | parse path text => cases harmless
    | query text => cases harmless
    | language text => cases harmless
    | serialization text => cases harmless
  | crash text =>
    rw [tried] at e
    cases e
    cases harmless

/-- A route comes from a route file. -/
lemma isRouteFile_of_ok {location : FilePath} {q : Route}
    (e : (Workload.ofAnswers c answer attempt).outcome location = .ok q) :
    c.isRouteFile location = true := by
  obtain ⟨d, _, vain⟩ | ⟨file, path, same⟩ := Workload.outcome_cases location
  · cases vain.symm.trans e
  · rw [Config.isRouteFile, ← path]
    exact reads.isSome_of_ok (same.symm.trans e)

/-- A harmless diagnostic comes from another file. -/
lemma isRouteFile_of_error {location : FilePath} {d : Diagnostic}
    (e : (Workload.ofAnswers c answer attempt).outcome location = .error d)
    (harmless : d.isFatal = false) : c.isRouteFile location = false := by
  obtain ⟨d', fatal, vain⟩ | ⟨file, path, same⟩ := Workload.outcome_cases location
  · cases vain.symm.trans e
    exact Bool.noConfusion (fatal.symm.trans harmless)
  · rw [Config.isRouteFile, ← path, reads.eq_none_of_error (same.symm.trans e) harmless]
    rfl

/-- A route has the key of its file. -/
lemma key_of_ok {location : FilePath} {q : Route}
    (e : (Workload.ofAnswers c answer attempt).outcome location = .ok q) :
    c.key q.path = c.keyAt location := by
  have path : ((Workload.ofAnswers c answer attempt).outcome location).path
      = logicalPath c.logicalPrefix c.root location := Workload.path_outcome reads.carries location
  rw [e] at path
  exact congrArg c.key path

/-- Routes have the keys of their route files, in the order of these. -/
lemma keys_routes_sublist (files : List FilePath) :
    ((Outcome.routes (files.map (Workload.ofAnswers c answer attempt).outcome)).map
        fun q => c.key q.path).Sublist ((files.filter c.isRouteFile).map c.keyAt) := by
  induction files with
  | nil => exact .slnil
  | cons location rest ih =>
    cases e : (Workload.ofAnswers c answer attempt).outcome location with
    | ok q =>
      have route := reads.isRouteFile_of_ok e
      rw [List.map_cons, e, Outcome.routes_cons_ok, List.filter_cons_of_pos route, List.map_cons,
        List.map_cons, reads.key_of_ok e]
      exact ih.cons_cons _
    | error d =>
      rw [List.map_cons, e, Outcome.routes_cons_error]
      exact ih.trans (((List.sublist_cons_self location rest).filter _).map _)

/-- There are no more harmless diagnostics than other files. -/
lemma length_harmless_le (files : List FilePath) :
    ((Outcome.diagnostics (files.map (Workload.ofAnswers c answer attempt).outcome)).filter
        fun d => !d.isFatal).length
      ≤ (files.filter fun location => !c.isRouteFile location).length := by
  induction files with
  | nil => exact Nat.le_refl 0
  | cons location rest ih =>
    have more := ((List.sublist_cons_self location rest).filter
      fun location => !c.isRouteFile location).length_le
    cases e : (Workload.ofAnswers c answer attempt).outcome location with
    | ok q =>
      rw [List.map_cons, e, Outcome.diagnostics_cons_ok]
      exact ih.trans more
    | error d =>
      rw [List.map_cons, e, Outcome.diagnostics_cons_error]
      cases harmless : d.isFatal with
      | true =>
        rw [List.filter_cons_of_neg (by simp [harmless])]
        exact ih.trans more
      | false =>
        have other := reads.isRouteFile_of_error e harmless
        rw [List.filter_cons_of_pos (by simp [harmless]), List.filter_cons_of_pos (by simp [other])]
        exact Nat.succ_le_succ ih

end ReadsMethod

end Names

/-- Whether an entry is that of the route of the file at a location. -/
def IsEntryOf (c : Config) (w : Workload) (location : FilePath) (e : Manifest.Entry) : Prop :=
  ∃ q, w.outcome location = .ok q ∧ c.entry q = e

/-- Whether every route file that was found has an entry of its own: that of its route. -/
def HasOwnEntries (c : Config) (s : Scan) (w : Workload) (entries : List Manifest.Entry) : Prop :=
  ∃ own : List Manifest.Entry, own.Subperm entries ∧
    List.Forall₂ (IsEntryOf c w) (c.routeFiles s) own

/-- Whatever is related to each element of a list makes up a list. -/
lemma exists_forall₂ {α β : Type} {R : α → β → Prop} {l : List α} {m : List β}
    (each : ∀ x ∈ l, ∃ y ∈ m, R x y) : ∃ l' ⊆ m, List.Forall₂ R l l' := by
  induction l with
  | nil => exact ⟨[], List.nil_subset m, .nil⟩
  | cons x rest ih =>
    obtain ⟨y, mem, related⟩ := each x List.mem_cons_self
    obtain ⟨l', part, rest'⟩ := ih fun z mem => each z (List.mem_cons_of_mem x mem)
    exact ⟨y :: l', List.cons_subset.mpr ⟨mem, part⟩, .cons related rest'⟩

/-- Entries of their own have the keys of their files. -/
lemma ReadsMethod.keys_own {c : Config} {answer : FilePath → Except IoFault ByteArray}
    {attempt : SourceFile → Attempt} (reads : ReadsMethod c.extension attempt)
    {files : List FilePath} {own : List Manifest.Entry}
    (matched : List.Forall₂ (IsEntryOf c (.ofAnswers c answer attempt)) files own) :
    own.map Manifest.Entry.key = files.map c.keyAt := by
  induction matched with
  | nil => rfl
  | cons related _ ih =>
    obtain ⟨q, e, rfl⟩ := related
    rw [List.map_cons, List.map_cons, ih, ← reads.key_of_ok e]
    rfl

/-- Route files with entries of their own have different keys. -/
lemma HasOwnEntries.nodup_keys {c : Config} {s : Scan}
    {answer : FilePath → Except IoFault ByteArray} {attempt : SourceFile → Attempt}
    (reads : ReadsMethod c.extension attempt) {routes : List Route}
    (own : HasOwnEntries c s (.ofAnswers c answer attempt)
      (Generation.builderOf c routes).entries) :
    ((c.routeFiles s).map c.keyAt).Nodup := by
  obtain ⟨own, ⟨l, perm, part⟩, matched⟩ := own
  have different := Generation.nodup_keys_builderOf c routes
  rw [← reads.keys_own matched]
  exact (perm.map _).nodup (different.sublist (part.map _))

namespace Interleaving.Reaches

open Generation (expected lateOnes builderOf)

section Complete
variable {c : Config} {s : Scan} {answer : FilePath → Except IoFault ByteArray}
  {attempt : SourceFile → Attempt} {r : Interleaving} (reads : ReadsMethod c.extension attempt)
  (reach : Reaches (Step (.ofAnswers c answer attempt)) (start c s) r)
include reads reach

/-- A route that arrived is that of a route file. -/
lemma exists_routeFile {q : Route} (mem : q ∈ Outcome.routes r.arrived) :
    ∃ location ∈ c.routeFiles s,
      (Workload.ofAnswers c answer attempt).outcome location = .ok q := by
  have outcome := reach.arrived_subperm.subset (Outcome.mem_routes.mp mem)
  obtain ⟨location, found, e⟩ := List.mem_map.mp outcome
  exact ⟨location, List.mem_filter.mpr ⟨found, reads.isRouteFile_of_ok e⟩, e⟩

/-- The keys of the manifest are keys of route files. -/
lemma subperm_keys :
    ((builderOf c (Outcome.routes r.arrived)).entries.map Manifest.Entry.key).Subperm
      ((c.routeFiles s).map c.keyAt) := by
  refine List.subperm_of_subset (Generation.nodup_keys_builderOf c _) fun key mem => ?_
  obtain ⟨e, listed, rfl⟩ := List.mem_map.mp mem
  obtain ⟨q, arrived, rfl⟩ := Generation.mem_entries_builderOf listed
  obtain ⟨location, found, e⟩ := exists_routeFile reads reach arrived
  have key : (c.entry q).key = c.keyAt location := reads.key_of_ok e
  exact key ▸ List.mem_map_of_mem found

/-- Routes that arrived are no more than the route files, and have different keys if these have. -/
lemma subperm_routeKeys :
    ((Outcome.routes r.arrived).map fun q => c.key q.path).Subperm
      ((c.routeFiles s).map c.keyAt) := by
  obtain ⟨l, perm, part⟩ := Outcome.subperm_routes reach.arrived_subperm
  exact ⟨_, perm.map _, (part.map _).trans (reads.keys_routes_sublist s.files)⟩

/-- There are no more harmless diagnostics than other files. -/
lemma length_skipped_le (complete : (r.generation c s).isComplete = true) :
    (r.generation c s).skipped.length ≤ (c.otherFiles s).length := by
  have none := ((Generation.isComplete_iff c s r.arrived).mp complete).2
  have perm := Generation.perm_diagnostics c s r.arrived
  rw [none, List.append_nil] at perm
  have part := (Outcome.subperm_diagnostics reach.arrived_subperm).filter fun d => !d.isFatal
  calc
    (r.generation c s).skipped.length
        = ((Outcome.diagnostics r.arrived).filter fun d => !d.isFatal).length :=
      (perm.filter _).length_eq
    _ ≤ _ := part.length_le
    _ ≤ (c.otherFiles s).length := reads.length_harmless_le s.files

/-- In a complete run, a route with the key of every route file arrives. -/
lemma exists_route (complete : (r.generation c s).isComplete = true) {location : FilePath}
    (mem : location ∈ c.routeFiles s) :
    ∃ q ∈ Outcome.routes r.arrived, c.key q.path = c.keyAt location := by
  obtain ⟨harmless, none⟩ := (Generation.isComplete_iff c s r.arrived).mp complete
  obtain ⟨found, named⟩ := List.mem_filter.mp mem
  have wanted : logicalPath c.logicalPrefix c.root location ∈ expected c s :=
    List.mem_map_of_mem found
  obtain ⟨outcome, arrived, path⟩ | late := Generation.arrived_or_late r.arrived wanted
  · cases outcome with
    | ok q => exact ⟨q, Outcome.mem_routes.mpr arrived, congrArg c.key path⟩
    | error d =>
      -- The diagnostic may be of another file with the same path, but that one has no method.
      obtain ⟨location', _, e⟩ := List.mem_map.mp (reach.arrived_subperm.subset arrived)
      have path' : ((Workload.ofAnswers c answer attempt).outcome location').path
          = logicalPath c.logicalPrefix c.root location' :=
        Workload.path_outcome reads.carries location'
      have other := reads.isRouteFile_of_error e (harmless d (Outcome.mem_diagnostics.mpr arrived))
      rw [e, path] at path'
      rw [Config.isRouteFile, ← path', ← Config.isRouteFile, named] at other
      cases other
  · rw [none] at late
    cases late

/-- In a complete run, every route file has an entry of its own if no two share a key. -/
lemma hasOwnEntries (complete : (r.generation c s).isComplete = true)
    (different : ((c.routeFiles s).map c.keyAt).Nodup) :
    HasOwnEntries c s (.ofAnswers c answer attempt)
      (builderOf c (Outcome.routes r.arrived)).entries := by
  have keys : ((Outcome.routes r.arrived).map fun q => c.key q.path).Nodup := by
    obtain ⟨l, perm, part⟩ := subperm_routeKeys reads reach
    exact perm.nodup (different.sublist part)
  have each : ∀ location ∈ c.routeFiles s,
      ∃ e ∈ (builderOf c (Outcome.routes r.arrived)).entries,
        IsEntryOf c (.ofAnswers c answer attempt) location e := by
    intro location mem
    obtain ⟨q, arrived, key⟩ := exists_route reads reach complete mem
    obtain ⟨location', mem', e⟩ := exists_routeFile reads reach arrived
    have same : location' = location :=
      List.inj_on_of_nodup_map different mem' mem ((reads.key_of_ok e).symm.trans key)
    rw [Generation.entries_builderOf keys]
    exact ⟨c.entry q, List.mem_map_of_mem arrived, q, same ▸ e, rfl⟩
  obtain ⟨own, listed, matched⟩ := exists_forall₂ each
  have named := reads.keys_own matched
  exact ⟨own, List.subperm_of_subset (List.Nodup.of_map _ (named ▸ different)) listed, matched⟩

/-- A complete run has as many entries as route files exactly if no two of these share a key. -/
lemma size_eq_iff (complete : (r.generation c s).isComplete = true) :
    (r.generation c s).routes = (c.routeFiles s).length ↔
      ((c.routeFiles s).map c.keyAt).Nodup := by
  have keys := subperm_keys reads reach
  have size : (r.generation c s).routes
      = (builderOf c (Outcome.routes r.arrived)).entries.length := rfl
  rw [size]
  constructor
  · intro all
    have perm := keys.perm_of_length_le (by simp [all])
    exact perm.nodup (Generation.nodup_keys_builderOf c _)
  · intro different
    obtain ⟨own, part, matched⟩ := hasOwnEntries reads reach complete different
    have most := keys.length_le
    have least := part.length_le
    rw [List.length_map, List.length_map] at most
    rw [← matched.length_eq] at least
    exact Nat.le_antisymm most least

/-- In a complete run, the routes and the skipped files make up all files exactly if no two route
files share a key and every other file is skipped. -/
lemma count_eq_iff (complete : (r.generation c s).isComplete = true) :
    (r.generation c s).routes + (r.generation c s).skipped.length
        = (r.generation c s).discovered ↔
      ((c.routeFiles s).map c.keyAt).Nodup ∧
        (r.generation c s).skipped.length = (c.otherFiles s).length := by
  have routes : (r.generation c s).routes ≤ (c.routeFiles s).length := by
    have least := (subperm_keys reads reach).length_le
    rw [List.length_map, List.length_map] at least
    exact least
  have skipped := length_skipped_le reads reach complete
  have files : (r.generation c s).discovered = _ := c.length_files s
  rw [← size_eq_iff reads reach complete, files]
  omega

/-- In a complete run on files with different paths, every other file is skipped. -/
lemma length_skipped_eq (complete : (r.generation c s).isComplete = true)
    (distinct : (expected c s).Nodup) :
    (r.generation c s).skipped.length = (c.otherFiles s).length := by
  have all : (r.generation c s).skipped = (r.generation c s).diagnostics := by
    refine List.filter_eq_self.mpr fun d mem => ?_
    simp only [Generation.isComplete, Bool.not_eq_true', List.any_eq_false] at complete
    simpa using complete d mem
  have total : (Outcome.routes r.arrived).length + (r.generation c s).diagnostics.length
      = s.files.length :=
    Generation.length_diagnostics distinct (reach.paths_subperm reads.carries)
  have routes := (subperm_routeKeys reads reach).length_le
  have skipped := length_skipped_le reads reach complete
  have files := c.length_files s
  rw [List.length_map, List.length_map] at routes
  rw [all] at skipped ⊢
  omega

/-- In a complete run, every route file has an entry of its own exactly if no two share a key; and
the routes and the skipped files make up all files exactly if, besides, every other file is
skipped, as it is if no two files share a path. -/
theorem own_entries_iff_distinct_keys (complete : (r.generation c s).isComplete = true) :
    let g := r.generation c s
    let builder := builderOf c (Outcome.routes r.arrived)
    let keys := (c.routeFiles s).map c.keyAt
    g.document = builder.build ∧
      (HasOwnEntries c s (.ofAnswers c answer attempt) builder.entries ↔ keys.Nodup) ∧
      (g.routes + g.skipped.length = g.discovered ↔
        keys.Nodup ∧ g.skipped.length = (c.otherFiles s).length) ∧
      ((expected c s).Nodup → g.skipped.length = (c.otherFiles s).length) := by
  intro g builder keys
  exact ⟨rfl, ⟨HasOwnEntries.nodup_keys reads, hasOwnEntries reads reach complete⟩,
    count_eq_iff reads reach complete, length_skipped_eq reads reach complete⟩

end Complete

/-- A run that finishes before the deadline is complete, if no file fails. -/
lemma isComplete_of_harmless {c : Config} {s : Scan}
    {answer : FilePath → Except IoFault ByteArray} {attempt : SourceFile → Attempt}
    {r : Interleaving} (carries : CarriesPath attempt)
    (reach : Reaches (Step (.ofAnswers c answer attempt)) (start c s) r) (finished : r.IsFinished)
    (live : r.expired = false)
    (harmless : ∀ d ∈ Outcome.diagnostics
      (s.files.map (Workload.ofAnswers c answer attempt).outcome), d.isFatal = false) :
    (r.generation c s).isComplete = true := by
  have part := Outcome.subperm_diagnostics reach.arrived_subperm
  exact (Generation.isComplete_iff c s r.arrived).mpr
    ⟨fun d mem => harmless d (part.subset mem), reach.lateOnes_eq_nil carries finished live⟩

end Interleaving.Reaches

namespace Interleaving

open Generation (builderOf)

/-- Two route files and a file without a method make a complete run. -/
theorem own_entries_iff_distinct_keys_sample :
    ∃ r, Reaches (Step Sample.workload) (start Sample.config Sample.scan) r ∧ r.IsFinished ∧
      (r.generation Sample.config Sample.scan).isComplete = true ∧
      HasOwnEntries Sample.config Sample.scan Sample.workload
        (builderOf Sample.config (Outcome.routes r.arrived)).entries := by
  obtain ⟨r, reach, finished⟩ :=
    (isSound_start Sample.config Sample.scan).exists_finished Sample.workload
  have complete := reach.toSteps.isComplete_of_harmless (carriesPath_bareAttempt "ts") finished
    reach.expired_eq_false (by decide +kernel)
  obtain ⟨_, own, _⟩ := Reaches.own_entries_iff_distinct_keys (readsMethod_bareAttempt "ts")
    reach.toSteps complete
  exact ⟨r, reach.toSteps, finished, complete, own.mpr (by decide +kernel)⟩

namespace Sample

/-- Two route files with the same key. -/
def rivals : Scan where
  files := [.ofText "app/item/get.ts", .ofText "app/item.get.ts"]

end Sample

/-- Of two route files with the same key, one is lost without a diagnostic. -/
theorem own_entry_lost :
    ∃ r, Reaches (Step Sample.workload) (start Sample.config Sample.rivals) r ∧ r.IsFinished ∧
      (r.generation Sample.config Sample.rivals).isComplete = true ∧
      (r.generation Sample.config Sample.rivals).routes
          + (r.generation Sample.config Sample.rivals).skipped.length
        ≠ (r.generation Sample.config Sample.rivals).discovered ∧
      ¬ HasOwnEntries Sample.config Sample.rivals Sample.workload
        (builderOf Sample.config (Outcome.routes r.arrived)).entries := by
  obtain ⟨r, reach, finished⟩ :=
    (isSound_start Sample.config Sample.rivals).exists_finished Sample.workload
  have complete := reach.toSteps.isComplete_of_harmless (carriesPath_bareAttempt "ts") finished
    reach.expired_eq_false (by decide +kernel)
  have shared : ¬ ((Sample.config.routeFiles Sample.rivals).map Sample.config.keyAt).Nodup := by
    decide +kernel
  have reads := readsMethod_bareAttempt "ts"
  exact ⟨r, reach.toSteps, finished, complete,
    fun all => shared ((Reaches.count_eq_iff reads reach.toSteps complete).mp all).1,
    fun own => shared (own.nodup_keys reads)⟩

end Interleaving

end RouteAtlas
