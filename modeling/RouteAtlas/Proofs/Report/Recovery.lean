import RouteAtlas.Proofs.Report.Reading
import RouteAtlas.Report.Basic

/-!
# Reports from their texts

A report in JSON loses nothing: its text is well-formed, the value of the text has the fields of the
report, and the report is recovered from them (`RunReport.read?_toJson`). Fields are looked up by
their names, and warnings that are absent are none.
-/

namespace RouteAtlas

namespace Report.Value

/-- The value of a field of a record. -/
def field? (v : Value) (name : String) : Option Value :=
  match v with
  | .record fields => fields.lookup name
  | _ => none

/-- The truth value that a value is. -/
def bool? : Value → Option Bool
  | .bool b => some b
  | _ => none

/-- The number that a value is. -/
def nat? : Value → Option Nat
  | .nat n => some n
  | _ => none

/-- The text that a value is. -/
def text? : Value → Option String
  | .text s => some s
  | _ => none

/-- The items of the list that a value is, each of which is to be something. -/
def list? {α : Type} (item? : Value → Option α) : Value → Option (List α)
  | .list items => items.mapM item?
  | _ => none

lemma list?_map {α : Type} {item? : Value → Option α} {written : α → Value}
    (recovers : ∀ a, item? (written a) = some a) (xs : List α) :
    list? item? (.list (xs.map written)) = some xs := by
  rw [list?]
  induction xs with
  | nil => rfl
  | cons x xs ih => simp [recovers, ih]

end Report.Value

/-- The kind of a tag is the one that has it. -/
lemma DiagnosticKind.ofTag?_tag (kind : DiagnosticKind) : ofTag? kind.tag = some kind := by
  cases kind <;> decide

namespace RunReport

open Report (Value)

/-- The diagnostic that a value tells of. -/
def diagnosticOf? (v : Value) : Option Diagnostic := do
  let path ← (v.field? "path").bind Value.text?
  let tag ← (v.field? "kind").bind Value.text?
  let kind ← DiagnosticKind.ofTag? tag
  let message ← (v.field? "message").bind Value.text?
  return ⟨path, kind, message⟩

/-- The report that a value tells of. Warnings that are absent are none. -/
def ofValue? (v : Value) : Option RunReport := do
  let root ← (v.field? "root").bind Value.text?
  let logicalPrefix ← (v.field? "prefix").bind Value.text?
  let discovered ← (v.field? "discovered").bind Value.nat?
  let routes ← (v.field? "routes").bind Value.nat?
  let complete ← (v.field? "complete").bind Value.bool?
  let elapsedMilliseconds ← (v.field? "elapsed_ms").bind Value.nat?
  let diagnostics ← (v.field? "diagnostics").bind (Value.list? diagnosticOf?)
  let warnings ← ((v.field? "warnings").getD (.list [])).list? Value.text?
  return {
    root, logicalPrefix, discovered, routes, complete, elapsedMilliseconds, diagnostics, warnings }

lemma diagnosticOf?_diagnosticValue (d : Diagnostic) :
    diagnosticOf? (diagnosticValue d) = some d := by
  simp [diagnosticOf?, diagnosticValue, Value.field?, Value.text?, List.lookup_cons,
    DiagnosticKind.ofTag?_tag]

/-- The warnings of a report, whether its value has them or not. -/
lemma warnings_toValue (r : RunReport) :
    (r.toValue.field? "warnings").getD (.list []) = .list (r.warnings.map .text) := by
  cases listed : r.warnings with
  | nil => simp [toValue, Value.field?, List.lookup_cons, listed]
  | cons first more => simp [toValue, Value.field?, List.lookup_cons, listed]

/-- A report is recovered from its value. -/
lemma ofValue?_toValue (r : RunReport) : ofValue? r.toValue = some r := by
  have diagnostics := Value.list?_map diagnosticOf?_diagnosticValue r.diagnostics
  have warnings := @Value.list?_map _ Value.text? .text (fun _ => rfl) r.warnings
  rw [ofValue?, warnings_toValue, warnings]
  simp [toValue, Value.field?, List.lookup_cons, Value.text?, Value.nat?, Value.bool?, diagnostics]

/-- The text of a report in JSON is well-formed. Its value has the fields of the report, with the
warnings if and only if there are any, and the report is recovered from it. So different reports
have different texts. -/
theorem read?_toJson (r : RunReport) :
    Report.Json.read? r.toJson = some (.record ([
        ("root", .text r.root),
        ("prefix", .text r.logicalPrefix),
        ("discovered", .nat r.discovered),
        ("routes", .nat r.routes),
        ("complete", .bool r.complete),
        ("elapsed_ms", .nat r.elapsedMilliseconds),
        ("diagnostics", .list (r.diagnostics.map fun d => .record [
          ("path", .text d.path), ("kind", .text d.kind.tag), ("message", .text d.message)]))]
      ++ if r.warnings = [] then [] else [("warnings", .list (r.warnings.map .text))])) ∧
    (Report.Json.read? r.toJson).bind ofValue? = some r ∧
    ∀ s : RunReport, s.toJson = r.toJson ↔ s = r := by
  have text : Report.Json.read? r.toJson = some r.toValue := Report.Json.read?_render r.toValue
  have recovered (s : RunReport) : (Report.Json.read? s.toJson).bind ofValue? = some s := by
    rw [toJson, Report.Json.read?_render, Option.bind_some, ofValue?_toValue]
  refine ⟨?_, recovered r, fun s => ⟨fun same => ?_, congrArg toJson⟩⟩
  · rw [text, toValue]
    simp only [List.isEmpty_iff]
    rfl
  · have one := recovered s
    rw [same, recovered r] at one
    exact (Option.some.inj one).symm

end RunReport

end RouteAtlas
