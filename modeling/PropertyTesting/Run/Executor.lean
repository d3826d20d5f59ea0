import PropertyTesting.Comparison.Output
import PropertyTesting.Run.Event
import PropertyTesting.Test

/-!
# Running tests

A run draws samples one after another and checks all properties on each of them, in their order. It
skips the properties whose preconditions the sample does not meet, and stops at the first property
that rejects the sample, with no further draw. The generator of an executor goes on from run to run.
-/

namespace PropertyTesting

/-- A test that is being run. -/
structure Executor (σ I ρ : Type) where
  test : Test σ I
  /-- The number of samples of a run. -/
  samples : Nat
  /-- Where events are told to. -/
  sink : RunSink ρ

/-- What is counted in a run: samples that were drawn, and checks that passed and that were skipped.
The counts stand for those of a machine with words of 64 bits, as long as none of them reaches
two to the power of 64. -/
structure Tally where
  samples : Nat
  passed : Nat
  skipped : Nat
  deriving DecidableEq, Repr

/-- The tally before the first sample. -/
def Tally.zero : Tally :=
  ⟨0, 0, 0⟩

/-- The tally after so many more samples were drawn. -/
def Tally.draw (tally : Tally) (n : Nat) : Tally :=
  { tally with samples := tally.samples + n }

theorem Tally.draw_draw (tally : Tally) (m n : Nat) :
    (tally.draw m).draw n = tally.draw (m + n) := by
  simp only [draw, Nat.add_assoc]

namespace Executor

variable {σ I ρ : Type}

/-- An executor that draws as many samples as the test says and tells no one. -/
def ofTest (test : Test σ I) : Executor σ I ρ :=
  ⟨test, test.samples, .silent⟩

/-- Sets the number of samples. -/
def withSamples (e : Executor σ I ρ) (samples : Nat) : Executor σ I ρ :=
  { e with samples }

/-- Sets where events are told to. -/
def withSink (e : Executor σ I ρ) (sink : RunSink ρ) : Executor σ I ρ :=
  { e with sink }

/-- Checks properties on a sample. Gives the failure of the first that rejects it, or the tally, and
the log after the events of the checks. -/
def checkSample [Shown I] (sink : RunSink ρ) (test : String) (sampleIndex : Nat) (sample : I) :
    List (Check I) → Tally → ρ → Except PropertyFailure Tally × ρ
  | [], tally, log => (.ok tally, log)
  | check :: rest, tally, log =>
    if check.accepts sample then
      match check.verdict sample with
      | .ok _ =>
        checkSample sink test sampleIndex sample rest { tally with passed := tally.passed + 1 } log
      | .error diagnostic =>
        let failure : PropertyFailure :=
          { test, property := check.description, sampleIndex,
            sample := Shown.shown sample, diagnostic }
        (.error failure, sink.record (.propertyFailed failure) log)
    else
      checkSample sink test sampleIndex sample rest { tally with skipped := tally.skipped + 1 }
        (sink.record (.propertySkipped test check.description sampleIndex) log)

/-- Draws `remaining` samples, the first of which has the index `sampleIndex`, and checks them.
Gives the failure or the tally, the generator after the last draw, and the log. -/
def checkSamples [Shown I] (sink : RunSink ρ) (test : String) (properties : List (Check I)) :
    (remaining sampleIndex : Nat) → Generator σ I → Tally → ρ →
      Except PropertyFailure Tally × Generator σ I × ρ
  | 0, _, generator, tally, log => (.ok tally, generator, log)
  | remaining + 1, sampleIndex, generator, tally, log =>
    let (sample, generator) := generator.next
    match checkSample sink test sampleIndex sample properties (tally.draw 1) log with
    | (.error failure, log) => (.error failure, generator, log)
    | (.ok tally, log) =>
      checkSamples sink test properties remaining (sampleIndex + 1) generator tally log

/-- Runs the test. Gives the outcome, the executor for the next run, and the log after the run. -/
def run [Shown I] (e : Executor σ I ρ) (log : ρ) :
    Except PropertyFailure RunSummary × Executor σ I ρ × ρ :=
  let test := e.test.name
  let log := e.sink.record (.runStarted test e.samples) log
  let (outcome, generator, log) :=
    checkSamples e.sink test e.test.properties e.samples 0 e.test.generator .zero log
  let e := { e with test := { e.test with generator } }
  match outcome with
  | .error failure => (.error failure, e, log)
  | .ok tally =>
    let summary : RunSummary :=
      { test, samples := tally.samples, checksPassed := tally.passed,
        checksSkipped := tally.skipped }
    (.ok summary, e, e.sink.record (.runFinished summary) log)

/-- Runs the test and gives the summary, or what `report` makes of the text of the failure. -/
def assertWith {ε : Type} [Shown I] (report : String → ε) (e : Executor σ I ρ) (log : ρ) :
    Except ε RunSummary × Executor σ I ρ × ρ :=
  let (outcome, e, log) := e.run log
  (outcome.mapError fun failure => report failure.message, e, log)

/-- Runs the test and gives the summary, or the text of the failure. -/
def assert [Shown I] (e : Executor σ I ρ) (log : ρ) :
    Except String RunSummary × Executor σ I ρ × ρ :=
  e.assertWith id log

open Text in
def render (e : Executor σ I ρ) : String :=
  openRecord "Executor" [("test", e.test.render), ("samples", toString e.samples)]

end Executor

end PropertyTesting
