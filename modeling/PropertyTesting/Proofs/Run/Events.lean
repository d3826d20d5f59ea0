import PropertyTesting.Proofs.Run.Trials
import PropertyTesting.Value.Shown

/-!
# What the events of runs tell

An executor may run again and again, with the number of samples set anew between its runs. A session
is such a sequence of runs, each with the executor as it was before it and with its outcome.

What a sink is told in a session is, run by run, the start of the run, the trials that it skips as
long as none has failed, and its outcome (`PastRun.events`). So one can read off what each run did
(`PastRun.Complete`): a failed run tells of all skipped trials before the one that it reports, and
then no more; a run without a failure tells of as many as it counts.
-/

namespace PropertyTesting

variable {σ I ρ : Type}

/-- A call of an executor. -/
inductive ExecutorCall where
  | run
  /-- Sets the number of samples of the runs to come. -/
  | samples (n : Nat)

/-- A run that was made. -/
structure PastRun (σ I ρ : Type) where
  /-- The executor when the run began. -/
  executor : Executor σ I ρ
  outcome : Except PropertyFailure RunSummary

/-- What a sequence of calls leaves. -/
structure Session (σ I ρ : Type) where
  /-- The runs in their order. -/
  runs : List (PastRun σ I ρ)
  log : ρ

/-- The session that calls make of an executor and a log. -/
def Executor.session [Shown I] (e : Executor σ I ρ) (log : ρ) : List ExecutorCall → Session σ I ρ
  | [] => ⟨[], log⟩
  | .samples n :: rest => (e.withSamples n).session log rest
  | .run :: rest =>
    let (outcome, after, log) := e.run log
    let later := after.session log rest
    { later with runs := ⟨e, outcome⟩ :: later.runs }

/-- The sink puts each event after those that are stored in the log. -/
def RunSink.Stores (sink : RunSink ρ) (stored : ρ → List RunEvent) : Prop :=
  ∀ event log, stored (sink.record event log) = stored log ++ [event]

/-- The event that ends a run with an outcome. -/
def RunEvent.closing : Except PropertyFailure RunSummary → RunEvent
  | .ok summary => .runFinished summary
  | .error failure => .propertyFailed failure

/-- Whether an event tells that a property was skipped. -/
def RunEvent.isSkip (event : RunEvent) : Bool :=
  event.event == "property_skipped"

/-- Whether an event ends a run. -/
def RunEvent.isClosing (event : RunEvent) : Bool :=
  event.event == "property_failed" || event.event == "run_finished"

theorem RunEvent.kind_runStarted (test : String) (samples : Nat) :
    (runStarted test samples).isSkip = false ∧ (runStarted test samples).isClosing = false := by
  simp [isSkip, isClosing, runStarted, bare]

theorem RunEvent.kind_propertySkipped (test property : String) (sampleIndex : Nat) :
    (propertySkipped test property sampleIndex).isSkip = true ∧
      (propertySkipped test property sampleIndex).isClosing = false := by
  simp [isSkip, isClosing, propertySkipped, bare]

theorem RunEvent.kind_closing (outcome : Except PropertyFailure RunSummary) :
    (closing outcome).isSkip = false ∧ (closing outcome).isClosing = true := by
  cases outcome <;> simp [isSkip, isClosing, closing, propertyFailed, runFinished, bare]

/-- As many trials are told to be skipped as are skipped, and none of them ends the run. -/
theorem Trial.countP_skip? (test : String) (trials : List (Trial I)) :
    (trials.filterMap (skip? test)).countP RunEvent.isSkip = trials.countP skipped ∧
      (trials.filterMap (skip? test)).countP RunEvent.isClosing = 0 := by
  induction trials with
  | nil => exact ⟨rfl, rfl⟩
  | cons t rest ih =>
    rw [List.filterMap_cons, List.countP_cons, skip?]
    cases t.skipped with
    | false => simpa using ih
    | true => simpa [List.countP_cons, RunEvent.kind_propertySkipped] using ih

variable [Shown I]

/-- The trials of a run before the first that fails. -/
def Executor.unfailed (e : Executor σ I ρ) : List (Trial I) :=
  e.trials.takeWhile fun t => (t.failure? e.test.name).isNone

namespace PastRun

/-- The start of a run, the skipped trials before the first that fails, and the outcome. -/
def events (r : PastRun σ I ρ) : List RunEvent :=
  .runStarted r.executor.test.name r.executor.samples ::
    (r.executor.unfailed.filterMap (Trial.skip? r.executor.test.name) ++ [.closing r.outcome])

/-- The events of a run tell all that it did. -/
structure Complete (r : PastRun σ I ρ) : Prop where
  /-- The failure that is reported is that of the trial after those before the first that fails. -/
  failed : ∀ failure, r.outcome = .error failure → ∃ t rest,
    r.executor.trials = r.executor.unfailed ++ t :: rest ∧
      t.failure? r.executor.test.name = some failure
  /-- Without a failure, there are no other trials, and as many are told to be skipped as are
  counted. -/
  passed : ∀ summary, r.outcome = .ok summary →
    r.executor.unfailed = r.executor.trials ∧
      r.events.countP RunEvent.isSkip = summary.checksSkipped
  /-- Only the last event ends the run. -/
  closed : r.events.countP RunEvent.isClosing = 1 ∧
    ∀ event, r.events.getLast? = some event → event.isClosing

end PastRun

theorem RunSink.Stores.recordAll {sink : RunSink ρ} {stored : ρ → List RunEvent}
    (stores : sink.Stores stored) (events : List RunEvent) (log : ρ) :
    stored (sink.recordAll events log) = stored log ++ events := by
  induction events generalizing log with
  | nil => simp
  | cons event events ih => simp [ih, stores event log]

/-! ## Runs -/

namespace Executor

variable {e : Executor σ I ρ}

theorem unfailed_of_failed {failure : PropertyFailure}
    (found : e.trials.findSome? (Trial.failure? e.test.name) = some failure) :
    ∃ t rest, e.trials = e.unfailed ++ t :: rest ∧ t.failure? e.test.name = some failure := by
  obtain ⟨before, t, rest, all, failed, passes⟩ := List.findSome?_eq_some_iff.mp found
  refine ⟨t, rest, ?_, failed⟩
  rw [unfailed, all, List.takeWhile_append_of_pos (by simpa using passes),
    List.takeWhile_cons, failed]
  simp

theorem unfailed_of_passed (nowhere : e.trials.findSome? (Trial.failure? e.test.name) = none) :
    e.unfailed = e.trials := by
  have passes : ∀ t ∈ e.trials, (t.failure? e.test.name).isNone = true := by
    simpa using List.findSome?_eq_none_iff.mp nowhere
  rw [unfailed, ← List.append_nil e.trials, List.takeWhile_append_of_pos passes, List.takeWhile_nil]

/-- A run tells its events, whatever the sink makes of them. -/
theorem run_log (e : Executor σ I ρ) (log : ρ) :
    (e.run log).2.2 = e.sink.recordAll (PastRun.events ⟨e, (e.run log).1⟩) log := by
  rw [run_outcome, run_eq, PastRun.events, unfailed]
  cases found : e.trials.findSome? (Trial.failure? e.test.name) <;>
    simp [Trial.events, found, RunEvent.closing]

theorem sink_run (e : Executor σ I ρ) (log : ρ) : (e.run log).2.1.sink = e.sink := by
  rw [run_eq]
  cases e.trials.findSome? (Trial.failure? e.test.name) <;> rfl

end Executor

theorem PastRun.complete (e : Executor σ I ρ) (log : ρ) : Complete ⟨e, (e.run log).1⟩ where
  failed failure failing := by
    simp only [e.run_outcome] at failing
    cases found : e.trials.findSome? (Trial.failure? e.test.name) with
    | none => simp [found] at failing
    | some first =>
      obtain rfl : first = failure := by simpa [found] using failing
      exact Executor.unfailed_of_failed found
  passed summary passing := by
    simp only [e.run_outcome] at passing
    cases found : e.trials.findSome? (Trial.failure? e.test.name) with
    | some first => simp [found] at passing
    | none =>
      obtain rfl : e.summary = summary := by simpa [found] using passing
      have all := Executor.unfailed_of_passed found
      have skips := (Trial.countP_skip? e.test.name e.trials).1
      refine ⟨all, ?_⟩
      simp [events, all, RunEvent.kind_runStarted, RunEvent.kind_closing, skips, Executor.summary]
  closed := by
    have skips := (Trial.countP_skip? e.test.name e.unfailed).2
    constructor
    · simp [events, RunEvent.kind_runStarted, RunEvent.kind_closing, skips]
    · intro event last
      obtain rfl : RunEvent.closing (e.run log).1 = event := by
        simpa [events, List.getLast?_cons] using last
      exact (RunEvent.kind_closing _).2

/-- What is stored after a session is what was stored before, and then the events of the runs, run
by run. They tell of each run all that it did. -/
theorem session_tells (e : Executor σ I ρ) {stored : ρ → List RunEvent}
    (stores : e.sink.Stores stored) (calls : List ExecutorCall) (log : ρ) :
    stored (e.session log calls).log =
        stored log ++ (e.session log calls).runs.flatMap PastRun.events ∧
      ∀ r ∈ (e.session log calls).runs, r.Complete := by
  induction calls generalizing e log with
  | nil => exact ⟨(List.append_nil _).symm, List.forall_mem_nil _⟩
  | cons call rest ih =>
    cases call with
    | samples n => exact ih (e.withSamples n) stores log
    | run =>
      have stores' : (e.run log).2.1.sink.Stores stored := e.sink_run log ▸ stores
      obtain ⟨later, complete⟩ := ih (e.run log).2.1 stores' (e.run log).2.2
      refine ⟨?_, List.forall_mem_cons.mpr ⟨PastRun.complete e log, complete⟩⟩
      rw [Executor.session, List.flatMap_cons, ← List.append_assoc, ← stores.recordAll, ← e.run_log]
      exact later

/-- Whole numbers other than 1 are less than 4. -/
def exLess : Property Value Value where
  description := "less than 4"
  preconditions := [fun sample => !sample.same (.wide 1)]
  function := id
  comparison := .ordered (.wide 4) .less

/-- The natural numbers in their order. -/
def exCounting : Executor Nat Value (List RunEvent) :=
  ⟨⟨"numbers", 3, ⟨"naturals", fun n => (.wide n, n + 1), 0⟩, [exLess.toCheck]⟩, 3, .memory⟩

theorem session_tells_exCounting :
    RunSink.memory.Stores id ∧
    id (exCounting.session [] [.run, .samples 5, .run]).log =
      [] ++ (exCounting.session [] [.run, .samples 5, .run]).runs.flatMap PastRun.events ∧
    ∀ r ∈ (exCounting.session [] [.run, .samples 5, .run]).runs, r.Complete := by
  have stores : RunSink.memory.Stores id := fun _ _ => rfl
  exact ⟨stores, session_tells exCounting stores [.run, .samples 5, .run] []⟩

/-- The first run draws 0, 1 and 2, and the second goes on with 3 and ends at 4. -/
example :
    ((exCounting.session [] [.run, .samples 5, .run]).log.map fun event =>
        (event.event, event.sampleIndex)) =
      [("run_started", none), ("property_skipped", some 1), ("run_finished", none),
        ("run_started", none), ("property_failed", some 1)] := by
  decide

end PropertyTesting
