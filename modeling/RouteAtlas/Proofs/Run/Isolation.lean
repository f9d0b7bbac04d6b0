import RouteAtlas.Proofs.Run.Completeness

/-!
# One file and the others

Two runs on the same files, one of which holds something else in each of them or can be read in one
of them only, come to the same for every other file, whatever moves first
(`Reaches.others_unaffected`). What becomes of a file is a matter of that file alone
(`Workload.outcome_congr`), so the outcomes of the others are the same ones
(`Twins.otherOutcomes_perm`), and no two files share an entry or a diagnostic.
-/

namespace RouteAtlas

/-- Whether requests to read files are answered in the same way but for one of them. -/
def AgreeExcept (files : List FilePath) (f : FilePath)
    (answer answer' : FilePath → Except IoFault ByteArray) : Prop :=
  ∀ location ∈ files, location ≠ f → answer location = answer' location

section Outcomes
variable {c : Config} {answer answer' : FilePath → Except IoFault ByteArray}
  {attempt : SourceFile → Attempt} {f : FilePath}

/-- What becomes of a file is settled by the answer to the request to read it. -/
lemma Workload.outcome_congr {location : FilePath} (same : answer location = answer' location) :
    (Workload.ofAnswers c answer attempt).outcome location
      = (Workload.ofAnswers c answer' attempt).outcome location := by
  simp only [outcome, ofAnswers, same]

/-- The outcomes of the other files. -/
def otherOutcomes (path : String) (outcomes : List Outcome) : List Outcome :=
  outcomes.filter fun outcome => outcome.path ≠ path

lemma Outcome.routes_otherOutcomes (path : String) (outcomes : List Outcome) :
    routes (otherOutcomes path outcomes) = (routes outcomes).filter fun r => r.path ≠ path := by
  rw [otherOutcomes, routes, routes, List.filterMap_filter, List.filter_filterMap]
  refine congrArg (List.filterMap · outcomes) (funext fun outcome => ?_)
  cases outcome with
  | ok r => rfl
  | error d => exact ite_self _

lemma Outcome.diagnostics_otherOutcomes (path : String) (outcomes : List Outcome) :
    diagnostics (otherOutcomes path outcomes)
      = (diagnostics outcomes).filter fun d => d.path ≠ path := by
  rw [otherOutcomes, diagnostics, diagnostics, List.filterMap_filter, List.filter_filterMap]
  refine congrArg (List.filterMap · outcomes) (funext fun outcome => ?_)
  cases outcome with
  | ok r => exact ite_self _
  | error d => rfl

/-- The outcomes of the other files are the outcomes with other paths. -/
lemma otherOutcomes_outcomes (carries : CarriesPath attempt) {s : Scan}
    (distinct : (Generation.expected c s).Nodup) (mem : f ∈ s.files) :
    otherOutcomes (logicalPath c.logicalPrefix c.root f)
        (s.files.map (Workload.ofAnswers c answer attempt).outcome)
      = (s.files.filter (· ≠ f)).map (Workload.ofAnswers c answer attempt).outcome := by
  rw [otherOutcomes, List.filter_map]
  refine congrArg (List.map _) (List.filter_congr fun location found => ?_)
  have path : ((Workload.ofAnswers c answer attempt).outcome location).path
      = logicalPath c.logicalPrefix c.root location := Workload.path_outcome carries location
  rw [Function.comp_apply, path, decide_eq_decide]
  exact not_congr ⟨List.inj_on_of_nodup_map distinct found mem, fun same => same ▸ rfl⟩

end Outcomes

namespace Generation

section Others
variable {c : Config} {s s' : Scan} {outcomes outcomes' : List Outcome} {path : String}
  (others : (otherOutcomes path outcomes).Perm (otherOutcomes path outcomes'))
include others

/-- The diagnostics of the other files are the same ones in the same order. -/
lemma otherDiagnostics_eq (distinct : (expected c s).Nodup)
    (part : (outcomes.map Outcome.path).Subperm (expected c s))
    (punctual : lateOnes c s outcomes = []) (punctual' : lateOnes c s' outcomes' = []) :
    ((ofOutcomes c s outcomes).diagnostics.filter fun d => d.path ≠ path)
      = (ofOutcomes c s' outcomes').diagnostics.filter fun d => d.path ≠ path := by
  have perm := perm_diagnostics c s outcomes
  have perm' := perm_diagnostics c s' outcomes'
  rw [punctual, List.append_nil] at perm
  rw [punctual', List.append_nil] at perm'
  have same : (Outcome.diagnostics (otherOutcomes path outcomes)).Perm
      (Outcome.diagnostics (otherOutcomes path outcomes')) := others.filterMap _
  rw [Outcome.diagnostics_otherOutcomes, Outcome.diagnostics_otherOutcomes] at same
  apply eq_of_perm_of_precedes
  · exact (nodup_diagnostics distinct part).sublist (List.filter_sublist.map _)
  · exact (perm.filter _).trans (same.trans (perm'.filter _).symm)
  · exact (pairwise_precedes c s outcomes).filter _
  · exact (pairwise_precedes c s' outcomes').filter _

end Others

section Entries
variable {c : Config} {s : Scan} {outcomes : List Outcome} {path : String}
  (different : ((expected c s).map c.key).Nodup)
  (part : (outcomes.map Outcome.path).Subperm (expected c s))
include different part

/-- The entries of the other files are those of their routes. -/
lemma otherEntries (found : path ∈ expected c s) :
    ((builderOf c (Outcome.routes outcomes)).entries.filter fun e => e.key ≠ c.key path)
      = (Outcome.routes (otherOutcomes path outcomes)).map c.entry := by
  rw [entries_builderOf (nodup_keys_routes different part), Outcome.routes_otherOutcomes,
    List.filter_map]
  refine congrArg (List.map _) (List.filter_congr fun q arrived => ?_)
  have mem : q.path ∈ expected c s :=
    part.subset (List.mem_map_of_mem (Outcome.mem_routes.mp arrived))
  rw [Function.comp_apply, decide_eq_decide]
  exact not_congr ⟨List.inj_on_of_nodup_map different mem found, fun same => congrArg c.key same⟩

/-- The entries of the other files are the same ones in the same order. -/
lemma otherEntries_eq {s' : Scan} {outcomes' : List Outcome} (sorted : c.preserveOrder = false)
    (different' : ((expected c s').map c.key).Nodup)
    (part' : (outcomes'.map Outcome.path).Subperm (expected c s'))
    (found : path ∈ expected c s) (found' : path ∈ expected c s')
    (others : (otherOutcomes path outcomes).Perm (otherOutcomes path outcomes')) :
    ((builderOf c (Outcome.routes outcomes)).orderedEntries.filter fun e => e.key ≠ c.key path)
      = (builderOf c (Outcome.routes outcomes')).orderedEntries.filter
          fun e => e.key ≠ c.key path := by
  have sorts (routes : List Route) : (builderOf c routes).preserveOrder = false :=
    ((emptyBuilder c).settings_offerAll routes).2.2.trans sorted
  have perm := (builderOf c (Outcome.routes outcomes)).perm_orderedEntries.filter
    fun e => e.key ≠ c.key path
  have perm' := (builderOf c (Outcome.routes outcomes')).perm_orderedEntries.filter
    fun e => e.key ≠ c.key path
  rw [otherEntries different part found] at perm
  rw [otherEntries different' part' found'] at perm'
  have same := (Outcome.perm_routes others).map c.entry
  apply Manifest.Builder.eq_of_perm_of_sorted
  · have keys := nodup_keys_builderOf c (Outcome.routes outcomes)
    have ordered := (builderOf c (Outcome.routes outcomes)).perm_orderedEntries
    exact ((ordered.map _).nodup_iff.mpr keys).sublist (List.filter_sublist.map _)
  · exact perm.trans (same.trans perm'.symm)
  · exact (Manifest.Builder.pairwise_orderedEntries (sorts _)).filter _
  · exact (Manifest.Builder.pairwise_orderedEntries (sorts _)).filter _

end Entries

/-- Whether a generation shows what became of a file: by an entry and the lines that it needs, or by
a diagnostic. -/
def Shows (c : Config) (s : Scan) (outcomes : List Outcome) : Outcome → Prop
  | .ok q =>
    c.entry q ∈ (builderOf c (Outcome.routes outcomes)).entries ∧
      ∀ l ∈ Manifest.ImportLine.ofHoisted q.hoistedImports,
        l ∈ (builderOf c (Outcome.routes outcomes)).imports.toList
  | .error d => d ∈ (ofOutcomes c s outcomes).diagnostics

/-- Whatever arrived is shown, if no two files share a key. -/
lemma shows_of_mem {c : Config} {s : Scan} {outcomes : List Outcome}
    (keys : ((Outcome.routes outcomes).map fun q => c.key q.path).Nodup) {outcome : Outcome}
    (arrived : outcome ∈ outcomes) : Shows c s outcomes outcome := by
  cases outcome with
  | ok q =>
    have mem := Outcome.mem_routes.mpr arrived
    refine ⟨?_, fun l line => (mem_imports_builderOf keys).mpr ⟨q, mem, line⟩⟩
    rw [entries_builderOf keys]
    exact List.mem_map_of_mem mem
  | error d =>
    apply (perm_diagnostics c s outcomes).mem_iff.mpr
    exact List.mem_append_left _ (Outcome.mem_diagnostics.mpr arrived)

end Generation

namespace Interleaving

open Generation (expected builderOf Shows)

/-- Two finished runs on the same files, which find something else in one of them or can read it in
one run only. No two files have the same key. -/
structure Twins (c : Config) (attempt : SourceFile → Attempt) (f : FilePath) (s s' : Scan)
    (answer answer' : FilePath → Except IoFault ByteArray) (r r' : Interleaving) : Prop where
  carries : CarriesPath attempt
  different : ((expected c s).map c.key).Nodup
  files : s.files.Perm s'.files
  mem : f ∈ s.files
  agree : AgreeExcept s.files f answer answer'
  reach : Reaches (Move (.ofAnswers c answer attempt)) (start c s) r
  finished : r.IsFinished
  reach' : Reaches (Move (.ofAnswers c answer' attempt)) (start c s') r'
  finished' : r'.IsFinished

namespace Twins
variable {c : Config} {attempt : SourceFile → Attempt} {f : FilePath} {s s' : Scan}
  {answer answer' : FilePath → Except IoFault ByteArray} {r r' : Interleaving}
  (twins : Twins c attempt f s s' answer answer' r r')
include twins

/-- The runs find the same paths. -/
lemma expected_perm : (expected c s).Perm (expected c s') := twins.files.map _

lemma different' : ((expected c s').map c.key).Nodup :=
  (twins.expected_perm.map c.key).nodup_iff.mp twins.different

lemma part : (r.arrived.map Outcome.path).Subperm (expected c s) :=
  twins.reach.toSteps.paths_subperm twins.carries

lemma part' : (r'.arrived.map Outcome.path).Subperm (expected c s') :=
  twins.reach'.toSteps.paths_subperm twins.carries

lemma arrived_perm : r.arrived.Perm (s.files.map (Workload.ofAnswers c answer attempt).outcome) :=
  twins.reach.toSteps.arrived_perm twins.finished twins.reach.expired_eq_false

lemma arrived_perm' :
    r'.arrived.Perm (s'.files.map (Workload.ofAnswers c answer' attempt).outcome) :=
  twins.reach'.toSteps.arrived_perm twins.finished' twins.reach'.expired_eq_false

/-- The outcomes of the other files are the same ones in both runs. -/
lemma otherOutcomes_perm :
    (otherOutcomes (logicalPath c.logicalPrefix c.root f) r.arrived).Perm
      (otherOutcomes (logicalPath c.logicalPrefix c.root f) r'.arrived) := by
  have others := twins.arrived_perm.filter fun o => o.path ≠ logicalPath c.logicalPrefix c.root f
  have others' := (twins.arrived_perm'.trans (twins.files.map _).symm).filter
    fun o => o.path ≠ logicalPath c.logicalPrefix c.root f
  rw [← otherOutcomes, ← otherOutcomes,
    otherOutcomes_outcomes twins.carries twins.different.of_map twins.mem] at others others'
  refine others.trans (.trans (.of_eq ?_) others'.symm)
  refine List.map_congr_left fun location mem => ?_
  obtain ⟨listed, other⟩ := List.mem_filter.mp mem
  exact Workload.outcome_congr (twins.agree location listed (by simpa using other))

/-- Both runs show what became of any other file. -/
lemma shows_other {location : FilePath} (listed : location ∈ s.files) (other : location ≠ f) :
    Shows c s r.arrived ((Workload.ofAnswers c answer attempt).outcome location) ∧
      Shows c s' r'.arrived ((Workload.ofAnswers c answer attempt).outcome location) := by
  constructor
  · apply Generation.shows_of_mem (Generation.nodup_keys_routes twins.different twins.part)
    exact twins.arrived_perm.mem_iff.mpr (List.mem_map_of_mem listed)
  · apply Generation.shows_of_mem (Generation.nodup_keys_routes twins.different' twins.part')
    apply twins.arrived_perm'.mem_iff.mpr
    rw [Workload.outcome_congr (twins.agree location listed other)]
    exact List.mem_map_of_mem (twins.files.mem_iff.mp listed)

/-- The entries of the other files are the same ones in the same order. -/
lemma otherEntries_eq (sorted : c.preserveOrder = false) :
    ((builderOf c (Outcome.routes r.arrived)).orderedEntries.filter fun e => e.key ≠ c.keyAt f)
      = (builderOf c (Outcome.routes r'.arrived)).orderedEntries.filter
          fun e => e.key ≠ c.keyAt f := by
  have found : logicalPath c.logicalPrefix c.root f ∈ expected c s := List.mem_map_of_mem twins.mem
  exact Generation.otherEntries_eq twins.different twins.part sorted twins.different' twins.part'
    found (twins.expected_perm.mem_iff.mp found) twins.otherOutcomes_perm

/-- The diagnostics of the other files are the same ones in the same order. -/
lemma otherDiagnostics_eq :
    ((r.generation c s).diagnostics.filter
        fun d => d.path ≠ logicalPath c.logicalPrefix c.root f)
      = (r'.generation c s').diagnostics.filter
          fun d => d.path ≠ logicalPath c.logicalPrefix c.root f := by
  apply Generation.otherDiagnostics_eq twins.otherOutcomes_perm twins.different.of_map twins.part
  · exact twins.reach.toSteps.lateOnes_eq_nil twins.carries twins.finished
      twins.reach.expired_eq_false
  · exact twins.reach'.toSteps.lateOnes_eq_nil twins.carries twins.finished'
      twins.reach'.expired_eq_false

end Twins

/-- Two runs on the same files that find something else in one of them, or can read it in one run
only, show the same of every other file. The entries of the other files are the same ones in the
same order, and so are their diagnostics. This holds of all extractors whose routes carry the paths
of their files, as those of TypeScript files do (`Extractor.readsMethod_attempt`). -/
theorem Reaches.others_unaffected {c : Config} {s s' : Scan} {f : FilePath}
    {answer answer' : FilePath → Except IoFault ByteArray} {attempt : SourceFile → Attempt}
    {r r' : Interleaving} (carries : CarriesPath attempt)
    (different : ((expected c s).map c.key).Nodup) (sorted : c.preserveOrder = false)
    (files : s.files.Perm s'.files) (mem : f ∈ s.files)
    (agree : AgreeExcept s.files f answer answer')
    (reach : Reaches (Move (.ofAnswers c answer attempt)) (start c s) r)
    (finished : r.IsFinished)
    (reach' : Reaches (Move (.ofAnswers c answer' attempt)) (start c s') r')
    (finished' : r'.IsFinished) :
    let path := logicalPath c.logicalPrefix c.root
    let outcome := (Workload.ofAnswers c answer attempt).outcome
    let g := r.generation c s
    let g' := r'.generation c s'
    let builder := builderOf c (Outcome.routes r.arrived)
    let builder' := builderOf c (Outcome.routes r'.arrived)
    (g.document = Manifest.Builder.header ++ builder.importBlock ++ "\n"
        ++ Manifest.Builder.exportOf builder.orderedEntries ∧
      g'.document = Manifest.Builder.header ++ builder'.importBlock ++ "\n"
        ++ Manifest.Builder.exportOf builder'.orderedEntries) ∧
      (∀ location ∈ s.files, location ≠ f → (outcome location).path = path location ∧
        Shows c s r.arrived (outcome location) ∧ Shows c s' r'.arrived (outcome location)) ∧
      (builder.orderedEntries.filter fun e => e.key ≠ c.keyAt f)
        = (builder'.orderedEntries.filter fun e => e.key ≠ c.keyAt f) ∧
      (g.diagnostics.filter fun d => d.path ≠ path f)
        = g'.diagnostics.filter fun d => d.path ≠ path f := by
  intro path outcome g g' builder builder'
  have twins : Twins c attempt f s s' answer answer' r r' :=
    ⟨carries, different, files, mem, agree, reach, finished, reach', finished'⟩
  exact ⟨⟨builder.build_eq, builder'.build_eq⟩,
    fun location listed other =>
      ⟨Workload.path_outcome carries location, twins.shows_other listed other⟩,
    twins.otherEntries_eq sorted, twins.otherDiagnostics_eq⟩

section Sample
open RouteAtlas.Sample

/-- The route whose body is a name that its file imports. -/
def importingRoute (method : Method) (path name : String) : Route where
  method
  path
  schema := { body := name }
  identifiers := (∅ : Identifiers).insert name
  imports := ({} : Imports).insert name "./routes/schema"

/-- The extractor that takes what a file holds for the name that it imports. -/
def importingAttempt (file : SourceFile) : Attempt :=
  match Method.ofPath? "ts" file.path, String.fromUTF8? file.content with
  | none, _ => .failure (.unrecognizedMethod file.path)
  | some _, none => .failure (.parse file.path "no text")
  | some method, some name => .route (importingRoute method file.path name)

lemma carriesPath_importingAttempt : CarriesPath importingAttempt := by
  intro file r tried
  unfold importingAttempt at tried
  split at tried <;> cases tried
  rfl

/-- The file that differs. -/
def spoiled : FilePath := .ofText "app/item/get.ts"

/-- Two route files, one of which holds a given content. -/
def routeFiles (content : ByteArray) : FileSystem where
  top := .directory [(.ofText "app", .directory
    [(.ofText "item", .directory [(.ofText "get.ts", .file content)]),
      (.ofText "user", .directory [(.ofText "put.ts", .file "User".toUTF8)])])]
  workingDirectory := []

/-- The scan of these files. -/
def routeScan (content : ByteArray) : Scan := config.scan (routeFiles content)

/-- Of two route files, one holds a name in one file system and no text in the other. The entry of
the other file and the line that imports its body stand in both manifests. -/
theorem others_unaffected_garbled :
    let sound : ByteArray := "Item".toUTF8
    let garbled : ByteArray := ⟨#[255]⟩
    let q := importingRoute .put "./routes/user/put.ts" "User"
    (routeFiles sound).read spoiled ≠ (routeFiles garbled).read spoiled ∧
    ∃ r r', r.IsFinished ∧ r'.IsFinished ∧
      Reaches (Move (.ofFiles (routeFiles sound) config importingAttempt))
        (start config (routeScan sound)) r ∧
      Reaches (Move (.ofFiles (routeFiles garbled) config importingAttempt))
        (start config (routeScan garbled)) r' ∧
      config.entry q ∈ (builderOf config (Outcome.routes r.arrived)).entries ∧
      config.entry q ∈ (builderOf config (Outcome.routes r'.arrived)).entries ∧
      ⟨"./routes/schema", "User"⟩
        ∈ (builderOf config (Outcome.routes r.arrived)).imports.toList ∧
      ⟨"./routes/schema", "User"⟩
        ∈ (builderOf config (Outcome.routes r'.arrived)).imports.toList := by
  intro sound garbled q
  obtain ⟨r, reach, finished⟩ := (isSound_start config (routeScan sound)).exists_finished
    (.ofFiles (routeFiles sound) config importingAttempt)
  obtain ⟨r', reach', finished'⟩ := (isSound_start config (routeScan garbled)).exists_finished
    (.ofFiles (routeFiles garbled) config importingAttempt)
  have different : ((expected config (routeScan sound)).map config.key).Nodup := by decide +kernel
  have files : (routeScan sound).files.Perm (routeScan garbled).files := by decide +kernel
  have agree : AgreeExcept (routeScan sound).files spoiled (routeFiles sound).read
      (routeFiles garbled).read := by
    unfold AgreeExcept
    decide +kernel
  obtain ⟨-, shown, -, -⟩ := Reaches.others_unaffected carriesPath_importingAttempt different rfl
    files (by decide +kernel) agree reach finished reach' finished'
  obtain ⟨-, here, there⟩ := shown (.ofText "app/user/put.ts") (by decide +kernel)
    (by decide +kernel)
  have outcome : (Workload.ofFiles (routeFiles sound) config importingAttempt).outcome
      (.ofText "app/user/put.ts") = .ok q := by
    decide +kernel
  rw [Workload.ofFiles] at outcome
  rw [outcome] at here there
  have line : ⟨"./routes/schema", "User"⟩ ∈ Manifest.ImportLine.ofHoisted q.hoistedImports := by
    decide +kernel
  exact ⟨by decide +kernel, r, r', finished, finished', reach, reach', here.1, there.1,
    here.2 _ line, there.2 _ line⟩

end Sample

end Interleaving

end RouteAtlas
