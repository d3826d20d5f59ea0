import PropertyTesting.Diagnostic

/-!
# Outcomes and events of runs

A run ends with a summary or with the first failure. On its way it tells what happens as events: its
start, each property that a sample is not for, and its end.
-/

namespace PropertyTesting

/-- What a run without a failure has done. -/
structure RunSummary where
  test : String
  /-- The number of samples that were drawn. -/
  samples : Nat
  checksPassed : Nat
  checksSkipped : Nat
  deriving DecidableEq, Repr

/-- A sample that refutes a property. -/
structure PropertyFailure where
  test : String
  property : String
  /-- The number of samples of the run before this one. -/
  sampleIndex : Nat
  sample : String
  diagnostic : Diagnostic
  deriving DecidableEq, Repr

open Text in
def RunSummary.render (s : RunSummary) : String :=
  record "RunSummary"
    [("test", quote s.test),
     ("samples", toString s.samples),
     ("checks_passed", toString s.checksPassed),
     ("checks_skipped", toString s.checksSkipped)]

namespace PropertyFailure

/-- The report of a failure. -/
def message (f : PropertyFailure) : String :=
  "Failed \"" ++ f.test ++ "\"\nProperty:\n\t" ++ f.property ++ "\nInput sample:\n\t" ++ f.sample
    ++ "\n" ++ f.diagnostic.message

open Text in
def render (f : PropertyFailure) : String :=
  record "PropertyFailure"
    [("test", quote f.test),
     ("property", quote f.property),
     ("sample_index", toString f.sampleIndex),
     ("sample", quote f.sample),
     ("diagnostic", f.diagnostic.render)]

end PropertyFailure

/-- Something that happens in a run. -/
structure RunEvent where
  /-- The name of what happens. -/
  event : String
  test : String
  samples : Option Nat
  sampleIndex : Option Nat
  property : Option String
  sample : Option String
  /-- The reason for a failure, in words. -/
  detail : Option String
  summary : Option RunSummary
  deriving DecidableEq, Repr

namespace RunEvent

/-- An event with no more than its name and its test. -/
def bare (event test : String) : RunEvent :=
  ⟨event, test, none, none, none, none, none, none⟩

/-- A run begins that is to draw a number of samples. -/
def runStarted (test : String) (samples : Nat) : RunEvent :=
  { bare "run_started" test with samples := some samples }

/-- A sample does not meet the preconditions of a property. -/
def propertySkipped (test property : String) (sampleIndex : Nat) : RunEvent :=
  { bare "property_skipped" test with
    sampleIndex := some sampleIndex
    property := some property }

/-- A run ends with a failure. -/
def propertyFailed (failure : PropertyFailure) : RunEvent :=
  { bare "property_failed" failure.test with
    sampleIndex := some failure.sampleIndex
    property := some failure.property
    sample := some failure.sample
    detail := some failure.diagnostic.message }

/-- A run ends without a failure. -/
def runFinished (summary : RunSummary) : RunEvent :=
  { bare "run_finished" summary.test with
    samples := some summary.samples
    summary := some summary }

end RunEvent

/-- A place that events are told to: how it changes with each of them. -/
structure RunSink (ρ : Type) where
  record : RunEvent → ρ → ρ

namespace RunSink

/-- Forgets all events. -/
def silent {ρ : Type} : RunSink ρ :=
  ⟨fun _ log => log⟩

/-- Keeps all events in their order. -/
def memory : RunSink (List RunEvent) :=
  ⟨fun event log => log ++ [event]⟩

end RunSink

end PropertyTesting
