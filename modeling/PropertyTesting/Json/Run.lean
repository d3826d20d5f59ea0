import PropertyTesting.Json.Comparison
import PropertyTesting.Run.Event

/-!
# JSON forms of outcomes and events

Summaries and failures are written and read as records. Events are written only, with the time at
which they happened; what does not apply to an event is left out.
-/

namespace PropertyTesting

open Json

namespace RunSummary

def toJson (s : RunSummary) : Json :=
  .object [("test", .string s.test), ("samples", ofCount s.samples),
    ("checks_passed", ofCount s.checksPassed), ("checks_skipped", ofCount s.checksSkipped)]

/-- Reads a summary. -/
def ofJson? (j : Json) : Option RunSummary := do
  match ← recordFields? ["test", "samples", "checks_passed", "checks_skipped"] j with
  | [test, samples, passed, skipped] =>
    return ⟨← test.string?, ← samples.count?, ← passed.count?, ← skipped.count?⟩
  | _ => none

end RunSummary

namespace PropertyFailure

def toJson (f : PropertyFailure) : Json :=
  .object [("test", .string f.test), ("property", .string f.property),
    ("sample_index", ofCount f.sampleIndex), ("sample", .string f.sample),
    ("diagnostic", f.diagnostic.toJson)]

/-- Reads a failure. -/
def ofJson? (j : Json) : Option PropertyFailure := do
  match ← recordFields? ["test", "property", "sample_index", "sample", "diagnostic"] j with
  | [test, property, sampleIndex, sample, diagnostic] =>
    return ⟨← test.string?, ← property.string?, ← sampleIndex.count?, ← sample.string?,
      ← Diagnostic.ofJson? diagnostic⟩
  | _ => none

end PropertyFailure

/-- A field of an object that is there only if it has a value. -/
def Json.presentField {α : Type} (name : String) (form : α → Json) : Option α → List (String × Json)
  | none => []
  | some a => [(name, form a)]

/-- An event that happened at a time, which is given in milliseconds. -/
structure TimedEvent where
  timestamp : Nat
  event : RunEvent

/-- The JSON form of an event that happened at a time. -/
def TimedEvent.toJson (t : TimedEvent) : Json :=
  let e := t.event
  .object ([("event", .string e.event), ("timestamp_ms", ofCount t.timestamp),
      ("test", .string e.test)]
    ++ presentField "samples" ofCount e.samples
    ++ presentField "sample_index" ofCount e.sampleIndex
    ++ presentField "property" .string e.property
    ++ presentField "sample" .string e.sample
    ++ presentField "detail" .string e.detail
    ++ presentField "summary" RunSummary.toJson e.summary)

end PropertyTesting
