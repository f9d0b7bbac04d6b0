import RouteAtlas.Proofs.Files.Writing
import RouteAtlas.Session

/-!
# All or nothing

A session that fails prints nothing and leaves the manifest file as it was, unless the machine
interrupts the writing of the manifest itself: then the file holds the beginning of the manifest. A
session that succeeds has delivered the manifest, and the report if one was asked for
(`Session.all_or_nothing`). The report is written before the manifest is refused for lack of routes,
so it is there whenever writing it was possible.
-/

namespace RouteAtlas.Session

open FileSystem (Grown Interruption Received WriteEnd)

variable {fs : FileSystem} {a : Arguments} {m : Machine} {g : Generation}

/-- Whether an address is named by a path that is given. -/
def IsNamed (fs : FileSystem) (target : Option FilePath) (x : Address) : Prop :=
  ∃ p ∈ target, x = fs.addressOf p

/-- Whether a text was received at the path that is given, if one is. -/
def HasText (fs after : FileSystem) (target : Option FilePath) (text : String) : Prop :=
  ∀ p ∈ target, Received fs after p text.toUTF8

/-! ## Steps of a session -/

section Step
variable {target : Option FilePath} {text : String} {interruption : Option Interruption}

/-- The ends that the writing of a text can come to, for which a path may be given. -/
inductive WritingEnd (fs : FileSystem) (target : Option FilePath) (text : String)
    (interruption : Option Interruption) (s : Session) : Prop
  /-- The text was written, if a path is given. -/
  | written (done : s.fault = none) (grown : Grown (IsNamed fs target) fs s.files)
      (received : HasText fs s.files target text)
  /-- Nothing was written. -/
  | refused (failed : s.fault ≠ none) (grown : Grown (fun _ => False) fs s.files)
  /-- The beginning of the text was written. -/
  | interrupted {p : FilePath} {i : Interruption} (given : target = some p)
      (is : interruption = some i) (early : i.stored < text.toUTF8.size)
      (failed : s.fault = some (.writing i.fault)) (grown : Grown (IsNamed fs target) fs s.files)
      (received : Received fs s.files p (text.toUTF8.extract 0 i.stored))

/-- Writing a text prints nothing. -/
lemma output_writeTo : (writeTo fs text target interruption).output = "" := by
  cases target <;> rfl

/-- The writing of a text comes to one of these ends. -/
lemma writingEnd_writeTo (grounded : fs.IsGrounded) (direct : ∀ p ∈ target, fs.IsDirect p) :
    WritingEnd fs target text interruption (writeTo fs text target interruption) := by
  cases target with
  | none => exact .written rfl (.refl _ fs) nofun
  | some p =>
    have named : ∀ x, x = fs.addressOf p → IsNamed fs (some p) x := fun x is => ⟨p, rfl, is⟩
    have ended : WriteEnd fs p text.toUTF8 interruption (fs.writeText text p interruption) :=
      FileSystem.writeEnd_writeText grounded (direct p rfl) text
    cases ended with
    | written done wrote =>
      refine .written (by simp [writeTo, done]) (wrote.grown.mono named) ?_
      rintro _ ⟨⟩
      exact wrote.received
    | refused failed grown => exact .refused (by simpa [writeTo] using failed) grown
    | interrupted is early failed wrote =>
      exact .interrupted rfl is early (by simp [writeTo, failed]) (wrote.grown.mono named)
        wrote.received

end Step

/-- A manifest that lacks routes is refused unless the call allows it. -/
lemma deliver_incomplete (incomplete : g.isComplete = false) (strict : a.allowPartial = false) :
    deliver fs a m g =
      { files := fs, fault := some (.incomplete g.fatal.length g.discovered) } := by
  simp [deliver, incomplete, strict]

/-- A manifest that may be written is written to the file that is given for it, or printed. -/
lemma deliver_eq (allowed : g.isComplete = true ∨ a.allowPartial = true) : deliver fs a m g =
    match a.output with
    | none => { files := fs, output := g.document }
    | some p => writeTo fs g.document (some p) m.onManifest := by
  have accepted : (!g.isComplete && !a.allowPartial) = false := by
    rcases allowed with complete | lenient
    · rw [complete]
      rfl
    · rw [lenient, Bool.not_true, Bool.and_false]
  rw [deliver, accepted]
  rfl

/-- The ends that the delivery of a manifest can come to. -/
inductive DeliveryEnd (fs : FileSystem) (a : Arguments) (m : Machine) (g : Generation)
    (s : Session) : Prop
  /-- The manifest was refused, or nothing of it was written. -/
  | refused (failed : s.fault ≠ none) (silent : s.output = "")
      (grown : Grown (fun _ => False) fs s.files)
  /-- The manifest may be written, and the beginning of it was. -/
  | interrupted (allowed : g.isComplete = true ∨ a.allowPartial = true) {p : FilePath}
      {i : Interruption} (given : a.output = some p) (is : m.onManifest = some i)
      (early : i.stored < g.document.toUTF8.size) (failed : s.fault = some (.writing i.fault))
      (silent : s.output = "") (grown : Grown (IsNamed fs a.output) fs s.files)
      (received : Received fs s.files p (g.document.toUTF8.extract 0 i.stored))
  /-- The manifest may be written, and it was written or printed. -/
  | delivered (allowed : g.isComplete = true ∨ a.allowPartial = true) (done : s.fault = none)
      (grown : Grown (IsNamed fs a.output) fs s.files)
      (written : HasText fs s.files a.output g.document) (silent : a.output ≠ none → s.output = "")
      (printed : a.output = none → s.output = g.document)

/-- The delivery of a manifest comes to one of these ends. -/
lemma deliveryEnd_deliver (grounded : fs.IsGrounded) (direct : ∀ p ∈ a.output, fs.IsDirect p) :
    DeliveryEnd fs a m g (deliver fs a m g) := by
  by_cases allowed : g.isComplete = true ∨ a.allowPartial = true
  · rw [deliver_eq allowed]
    cases target : a.output with
    | none =>
      exact .delivered allowed rfl (.refl _ fs) (by rw [target]; nofun)
        (fun given => absurd target given) fun _ => rfl
    | some p =>
      rw [target] at direct
      have ended : WritingEnd fs (some p) g.document m.onManifest _ :=
        writingEnd_writeTo grounded direct
      have silent : (writeTo fs g.document (some p) m.onManifest).output = "" := output_writeTo
      cases ended with
      | written done grown received =>
        exact .delivered allowed done (by rwa [target]) (by rwa [target]) (fun _ => silent)
          (by rw [target]; nofun)
      | refused failed grown => exact .refused failed silent grown
      | interrupted given is early failed grown received =>
        exact .interrupted allowed (target.trans given) is early failed silent (by rwa [target])
          received
  · obtain ⟨incomplete, strict⟩ := not_or.1 allowed
    rw [deliver_incomplete (by simpa using incomplete) (by simpa using strict)]
    exact .refused nofun rfl (.refl _ fs)

/-! ## Whole sessions -/

/-- A report is written before its manifest is delivered. -/
lemma conclude_eq (fs : FileSystem) (a : Arguments) (m : Machine) (elapsed : Nat)
    (g : Generation) : conclude fs a m elapsed g =
      match (writeTo fs (reportText a elapsed g) a.report m.onReport).fault with
      | some _ => writeTo fs (reportText a elapsed g) a.report m.onReport
      | none => deliver (writeTo fs (reportText a elapsed g) a.report m.onReport).files a m g := rfl

/-- The ends that a session can come to whose run came to a generation. -/
inductive Ends (fs : FileSystem) (a : Arguments) (m : Machine) (report : String) (g : Generation)
    (s : Session) : Prop
  /-- The report could not be written, or only its beginning was. -/
  | unreported (failedReport : (writeTo fs report a.report m.onReport).fault ≠ none)
      (failed : s.fault ≠ none) (silent : s.output = "")
      (grown : Grown (IsNamed fs a.report) fs s.files)
      (partly : ∀ p ∈ a.report, s.files.fileAt (fs.addressOf p) = fs.fileAt (fs.addressOf p) ∨
        ∃ i, m.onReport = some i ∧ i.stored < report.toUTF8.size ∧
          Received fs s.files p (report.toUTF8.extract 0 i.stored))
  /-- The manifest was refused, or nothing of it was written. -/
  | undelivered (wroteReport : (writeTo fs report a.report m.onReport).fault = none)
      (failed : s.fault ≠ none) (silent : s.output = "")
      (grown : Grown (IsNamed fs a.report) fs s.files)
      (reported : HasText fs s.files a.report report)
  /-- The beginning of the manifest was written. -/
  | interrupted (wroteReport : (writeTo fs report a.report m.onReport).fault = none)
      (allowed : g.isComplete = true ∨ a.allowPartial = true) {p : FilePath} {i : Interruption}
      (given : a.output = some p) (is : m.onManifest = some i)
      (early : i.stored < g.document.toUTF8.size) (failed : s.fault = some (.writing i.fault))
      (silent : s.output = "")
      (grown : Grown (fun x => IsNamed fs a.report x ∨ IsNamed fs a.output x) fs s.files)
      (reported : HasText fs s.files a.report report)
      (received : Received fs s.files p (g.document.toUTF8.extract 0 i.stored))
  /-- The manifest was written or printed. -/
  | delivered (wroteReport : (writeTo fs report a.report m.onReport).fault = none)
      (done : s.fault = none) (allowed : g.isComplete = true ∨ a.allowPartial = true)
      (grown : Grown (fun x => IsNamed fs a.report x ∨ IsNamed fs a.output x) fs s.files)
      (reported : HasText fs s.files a.report report)
      (written : HasText fs s.files a.output g.document) (silent : a.output ≠ none → s.output = "")
      (printed : a.output = none → s.output = g.document)

/-- A report that was written is there however the delivery of the manifest ends. -/
lemma Ends.of_delivery {fs' : FileSystem} {report : String} {s : Session}
    (apart : ∀ p ∈ a.report, ∀ q ∈ a.output, fs.addressOf p ≠ fs.addressOf q)
    (wroteReport : (writeTo fs report a.report m.onReport).fault = none)
    (grown : Grown (IsNamed fs a.report) fs fs') (reported : HasText fs fs' a.report report)
    (ended : DeliveryEnd fs' a m g s) : Ends fs a m report g s := by
  have named : IsNamed fs' a.output = IsNamed fs a.output := by
    funext x
    simp only [IsNamed, grown.addressOf_eq]
  have both (grown' : Grown (IsNamed fs' a.output) fs' s.files) :
      Grown (fun x => IsNamed fs a.report x ∨ IsNamed fs a.output x) fs s.files ∧
        HasText fs s.files a.report report := by
    rw [named] at grown'
    refine ⟨(grown.mono fun _ => .inl).trans (grown'.mono fun _ => .inr), fun p is => ?_⟩
    -- The file of the manifest is another one.
    refine (reported p is).of_unwritten grown' ?_
    rintro ⟨q, isOutput, same⟩
    exact apart p is q isOutput same
  cases ended with
  | refused failed silent grown' =>
    exact .undelivered wroteReport failed silent (grown.trans (grown'.mono nofun))
      fun p is => (reported p is).of_unwritten grown' id
  | interrupted allowed given is early failed silent grown' received =>
    obtain ⟨grown', reported'⟩ := both grown'
    exact .interrupted wroteReport allowed given is early failed silent grown' reported'
      (received.of_grown grown)
  | delivered allowed done grown' written silent printed =>
    obtain ⟨grown', reported'⟩ := both grown'
    exact .delivered wroteReport done allowed grown' reported'
      (fun p is => (written p is).of_grown grown) silent printed

/-- A session whose run came to a generation comes to one of these ends. -/
lemma ends_conclude {elapsed : Nat} (grounded : fs.IsGrounded)
    (direct : ∀ p, p ∈ a.output ∨ p ∈ a.report → fs.IsDirect p)
    (apart : ∀ p ∈ a.report, ∀ q ∈ a.output, fs.addressOf p ≠ fs.addressOf q) :
    Ends fs a m (reportText a elapsed g) g (conclude fs a m elapsed g) := by
  have ended : WritingEnd fs a.report (reportText a elapsed g) m.onReport _ :=
    writingEnd_writeTo grounded fun p is => direct p (.inr is)
  rw [conclude_eq]
  cases ended with
  | written done grown received =>
    rw [done]
    have ended : DeliveryEnd _ a m g _ := deliveryEnd_deliver (grown.isGrounded grounded)
      fun p is => grown.isDirect (direct p (.inl is))
    exact .of_delivery apart done grown received ended
  | refused failed grown =>
    obtain ⟨fault, is⟩ := Option.ne_none_iff_exists'.1 failed
    rw [is]
    exact .unreported failed failed output_writeTo (grown.mono nofun)
      fun p _ => .inl (grown.files _ id)
  | interrupted given is early failed grown received =>
    have failedReport : (writeTo fs (reportText a elapsed g) a.report m.onReport).fault ≠ none := by
      simp [failed]
    rw [failed]
    refine .unreported failedReport failedReport output_writeTo grown fun p isReport => ?_
    rw [given, Option.mem_some_iff] at isReport
    exact .inr ⟨_, is, early, isReport ▸ received⟩

section Ends
variable {report : String} {s : Session}
  (apart : ∀ p ∈ a.report, ∀ q ∈ a.output, fs.addressOf p ≠ fs.addressOf q)

/-- A manifest that lacks routes makes the session fail, unless the call allows it. -/
lemma Ends.fault_of_incomplete (ends : Ends fs a m report g s) (incomplete : g.isComplete = false)
    (strict : a.allowPartial = false) : s.fault ≠ none := by
  cases ends with
  | unreported _ failed | undelivered _ failed => exact failed
  | interrupted _ allowed | delivered _ _ allowed => simp [incomplete, strict] at allowed

include apart in
/-- A session that fails prints nothing, and has written no manifest but the beginning of one. -/
lemma Ends.of_fault (ends : Ends fs a m report g s) (failed : s.fault ≠ none) :
    s.output = "" ∧ ∀ p ∈ a.output, s.files.fileAt (fs.addressOf p) = fs.fileAt (fs.addressOf p) ∨
      ∃ i, (g.isComplete = true ∨ a.allowPartial = true) ∧ m.onManifest = some i ∧
        i.stored < g.document.toUTF8.size ∧ s.fault = some (.writing i.fault) ∧
        Received fs s.files p (g.document.toUTF8.extract 0 i.stored) := by
  cases ends with
  | unreported _ _ silent grown | undelivered _ _ silent grown =>
    refine ⟨silent, fun p isOutput => .inl (grown.files _ ?_)⟩
    rintro ⟨q, isReport, same⟩
    exact apart q isReport p isOutput same.symm
  | interrupted _ allowed given is early failed silent _ _ received =>
    refine ⟨silent, fun p isOutput => .inr ⟨_, allowed, is, early, failed, ?_⟩⟩
    rw [given, Option.mem_some_iff] at isOutput
    exact isOutput ▸ received
  | delivered _ done => exact absurd done failed

/-- A report is written whole, or the session fails and has written at most the beginning of it. -/
lemma Ends.report_cases (ends : Ends fs a m report g s) {p : FilePath} (isReport : p ∈ a.report) :
    ((fs.writeText report p m.onReport).fault = none → Received fs s.files p report.toUTF8) ∧
      ((fs.writeText report p m.onReport).fault ≠ none →
        s.fault ≠ none ∧ (∀ x, x ≠ fs.addressOf p → s.files.fileAt x = fs.fileAt x) ∧
        (s.files.fileAt (fs.addressOf p) = fs.fileAt (fs.addressOf p) ∨
          ∃ i, m.onReport = some i ∧ i.stored < report.toUTF8.size ∧
            Received fs s.files p (report.toUTF8.extract 0 i.stored))) := by
  have wrote : (writeTo fs report a.report m.onReport).fault = none ↔
      (fs.writeText report p m.onReport).fault = none := by
    rw [Option.mem_def.1 isReport]
    simp [writeTo]
  rw [ne_eq, ← wrote]
  cases ends with
  | unreported failedReport failed silent grown partly =>
    refine ⟨fun wroteReport => absurd wroteReport failedReport,
      fun _ => ⟨failed, fun x elsewhere => grown.files x ?_, partly p isReport⟩⟩
    rintro ⟨q, is, same⟩
    exact elsewhere (Option.mem_unique is isReport ▸ same)
  | undelivered wroteReport _ _ _ reported | interrupted wroteReport _ _ _ _ _ _ _ reported
  | delivered wroteReport _ _ _ reported =>
    exact ⟨fun _ => reported p isReport, fun failed => absurd wroteReport failed⟩

/-- A session that does not fail has delivered the manifest and the report. -/
lemma Ends.of_done (ends : Ends fs a m report g s) (done : s.fault = none) :
    (g.isComplete = true ∨ a.allowPartial = true) ∧
      (∀ p ∈ a.output, s.output = "" ∧ Received fs s.files p g.document.toUTF8) ∧
      (a.output = none → s.output = g.document) ∧ HasText fs s.files a.report report := by
  cases ends with
  | unreported _ failed | undelivered _ failed => exact absurd done failed
  | interrupted _ _ _ _ _ failed => simp [failed] at done
  | delivered _ _ allowed _ reported written silent printed =>
    refine ⟨allowed, fun p is => ⟨silent ?_, written p is⟩, printed, reported⟩
    rw [Option.mem_def.1 is]
    nofun

/-- Files that the call does not name are as they were. -/
lemma Ends.fileAt_eq (ends : Ends fs a m report g s) {x : Address}
    (other : ∀ p, p ∈ a.output ∨ p ∈ a.report → x ≠ fs.addressOf p) :
    s.files.fileAt x = fs.fileAt x := by
  have notReport : ¬ IsNamed fs a.report x := by
    rintro ⟨p, is, same⟩
    exact other p (.inr is) same
  have notOutput : ¬ IsNamed fs a.output x := by
    rintro ⟨p, is, same⟩
    exact other p (.inl is) same
  cases ends with
  | unreported _ _ _ grown | undelivered _ _ _ grown => exact grown.files x notReport
  | interrupted _ _ _ _ _ _ _ grown | delivered _ _ _ grown =>
    exact grown.files x (not_or.2 ⟨notReport, notOutput⟩)

end Ends

/-- A directory with one file in it, where a call writes the manifest, and a device. -/
def sampleFiles : FileSystem := ⟨.directory [([111], .file "old".toUTF8), ([110], .device)], []⟩

/-- A call that asks for a report beside the manifest. -/
def sampleArguments : Arguments :=
  { root := ⟨[46]⟩, logicalPrefix := ".", output := some ⟨[111]⟩, report := some ⟨[114]⟩ }

/-- A generation that lacks the route of a file that could not be parsed. -/
def sampleGeneration : Generation :=
  { document := "export default \x7b\x7d\n", routes := 0, discovered := 1
    diagnostics := [⟨"./get.ts", .parseFailure, "syntax error at 1:1"⟩], warnings := [] }

/-- A machine that has room for six bytes of a manifest. -/
def sampleMachine : Machine := { onManifest := some ⟨6, .system .noSpace⟩ }

/-- No link is on the way to a file whose path is a name. -/
lemma isDirect_sample (n : Name) (single : (⟨n⟩ : FilePath).steps = [.enter n])
    (relative : (⟨n⟩ : FilePath).isAbsolute = false)
    (plain : ∀ target, sampleFiles.at? [n] ≠ some (.link target)) : sampleFiles.IsDirect ⟨n⟩ := by
  intro front before target there
  rw [single] at before
  have either : front = [] ∨ front = [.enter n] := by
    simpa [List.prefix_cons_iff] using before
  rw [FileSystem.start, relative] at there
  rcases either with rfl | rfl
  · cases there
  · exact plain target there

end RouteAtlas.Session
