import PropertyTesting.Run.Executor

/-!
# Runs as trials

A run is made of trials: each of its samples with each of the properties, sample by sample and for
each sample in the order of the properties (`Generator.trials`). A trial is skipped, passes or
fails, whatever came before it, and a run is decided by the first trial that fails
(`Executor.run_eq`): it ends with the failure of this trial, or else with a summary that counts all
trials, it draws no sample after that of the last trial that it makes, and it tells of the trials
that it skips on its way.

The two loops of a run are read as one walk over a list. What they do on some of the trials is the
outcome and the events of these (`Trial.outcome`, `Trial.events`), and both go on from one part of a
list to the next (`outcome_append`, `events_append`), which is all that the induction over the
samples needs.
-/

namespace PropertyTesting

variable {σ I ρ : Type}

/-! ## Draws -/

namespace Generator

variable {α : Type}

/-- The generator after a number of draws. -/
def after (g : Generator σ α) : Nat → Generator σ α
  | 0 => g
  | n + 1 => g.next.2.after n

/-- The sample that is drawn after `i` others. -/
def sample (g : Generator σ α) (i : Nat) : α :=
  (g.after i).next.1

theorem after_add (g : Generator σ α) (m n : Nat) : g.after (m + n) = (g.after m).after n := by
  induction m generalizing g with
  | zero => rw [Nat.zero_add, after]
  | succ m ih => rw [Nat.succ_add, after, after, ih]

theorem sample_after (g : Generator σ α) (n i : Nat) : (g.after n).sample i = g.sample (n + i) := by
  rw [sample, sample, after_add]

theorem sample_next (g : Generator σ α) (i : Nat) : g.next.2.sample i = g.sample (i + 1) :=
  rfl

end Generator

/-- Tells events to a sink, one after the other. -/
def RunSink.recordAll (sink : RunSink ρ) (events : List RunEvent) (log : ρ) : ρ :=
  events.foldl (fun log event => sink.record event log) log

@[simp]
theorem RunSink.recordAll_nil (sink : RunSink ρ) (log : ρ) : sink.recordAll [] log = log :=
  rfl

@[simp]
theorem RunSink.recordAll_cons (sink : RunSink ρ) (event : RunEvent) (events : List RunEvent)
    (log : ρ) :
    sink.recordAll (event :: events) log = sink.recordAll events (sink.record event log) :=
  rfl

theorem RunSink.recordAll_append (sink : RunSink ρ) (first second : List RunEvent) (log : ρ) :
    sink.recordAll (first ++ second) log = sink.recordAll second (sink.recordAll first log) :=
  List.foldl_append

/-! ## Trials -/

/-- A property with a sample to check it on. -/
structure Trial (I : Type) where
  /-- The number of samples of the run before this one. -/
  index : Nat
  sample : I
  check : Check I

namespace Trial

/-- Whether the property is not for the sample. -/
def skipped (t : Trial I) : Bool :=
  !t.check.accepts t.sample

section Failures

variable [Shown I] (test : String)

/-- The failure that the trial ends a run with, if it does. -/
def failure? (t : Trial I) : Option PropertyFailure :=
  if t.skipped then none
  else
    match t.check.verdict t.sample with
    | .ok _ => none
    | .error diagnostic =>
      some
        { test, property := t.check.description, sampleIndex := t.index,
          sample := Shown.shown t.sample, diagnostic }

/-- The event that tells that the trial is skipped, if it is. -/
def skip? (t : Trial I) : Option RunEvent :=
  if t.skipped then some (.propertySkipped test t.check.description t.index) else none

/-- The tally after a trial that does not fail. -/
def count (tally : Tally) (t : Trial I) : Tally :=
  if t.skipped then { tally with skipped := tally.skipped + 1 }
  else { tally with passed := tally.passed + 1 }

/-- The first failure of some trials, or the tally after all of them. -/
def outcome (trials : List (Trial I)) (tally : Tally) : Except PropertyFailure Tally :=
  match trials.findSome? (failure? test) with
  | some failure => .error failure
  | none => .ok (trials.foldl count tally)

/-- What is told of some trials: those that are skipped before the first that fails, and its
failure. -/
def events (trials : List (Trial I)) : List RunEvent :=
  (trials.takeWhile fun t => (t.failure? test).isNone).filterMap (skip? test) ++
    ((trials.findSome? (failure? test)).map .propertyFailed).toList

variable {test}

theorem failure?_eq_some_iff {t : Trial I} {failure : PropertyFailure} :
    t.failure? test = some failure ↔
      t.check.accepts t.sample = true ∧ ∃ diagnostic, t.check.verdict t.sample = .error diagnostic ∧
        failure = ⟨test, t.check.description, t.index, Shown.shown t.sample, diagnostic⟩ := by
  rw [failure?, skipped]
  cases t.check.accepts t.sample with
  | false => simp
  | true => cases t.check.verdict t.sample <;> simp [eq_comm]

theorem index_of_failure {t : Trial I} {failure : PropertyFailure}
    (failed : t.failure? test = some failure) : failure.sampleIndex = t.index := by
  obtain ⟨-, diagnostic, -, rfl⟩ := failure?_eq_some_iff.mp failed
  rfl

theorem outcome_cons (t : Trial I) (rest : List (Trial I)) (tally : Tally) :
    outcome test (t :: rest) tally =
      match t.failure? test with
      | some failure => .error failure
      | none => outcome test rest (count tally t) := by
  rw [outcome, List.findSome?_cons]
  cases t.failure? test <;> rfl

theorem events_cons (t : Trial I) (rest : List (Trial I)) :
    events test (t :: rest) =
      match t.failure? test with
      | some failure => [.propertyFailed failure]
      | none => (t.skip? test).toList ++ events test rest := by
  rw [events, List.findSome?_cons, List.takeWhile_cons]
  cases failed : t.failure? test with
  | some failure => simp
  | none => cases skipped : t.skip? test <;> simp [events, skipped]

theorem outcome_append (first second : List (Trial I)) (tally : Tally) :
    outcome test (first ++ second) tally =
      match outcome test first tally with
      | .error failure => .error failure
      | .ok tally => outcome test second tally := by
  induction first generalizing tally with
  | nil => rfl
  | cons t first ih =>
    rw [List.cons_append, outcome_cons, outcome_cons]
    cases t.failure? test with
    | some failure => rfl
    | none => exact ih _

theorem events_append (first second : List (Trial I)) :
    events test (first ++ second) =
      events test first ++
        if (first.findSome? (failure? test)).isSome then [] else events test second := by
  induction first with
  | nil => rfl
  | cons t first ih =>
    rw [List.cons_append, events_cons, events_cons, List.findSome?_cons]
    cases t.failure? test with
    | some failure => rfl
    | none => rw [ih, List.append_assoc]

end Failures

/-- Every trial is counted, as skipped or as passed. -/
theorem foldl_count (trials : List (Trial I)) (tally : Tally) :
    trials.foldl count tally =
      ⟨tally.samples, tally.passed + trials.countP (!·.skipped),
        tally.skipped + trials.countP skipped⟩ := by
  induction trials generalizing tally with
  | nil => rfl
  | cons t trials ih =>
    rw [List.foldl_cons, ih, List.countP_cons, List.countP_cons, count]
    cases t.skipped <;> simp <;> omega

theorem foldl_count_draw (trials : List (Trial I)) (tally : Tally) (n : Nat) :
    trials.foldl count (tally.draw n) = (trials.foldl count tally).draw n := by
  rw [foldl_count, foldl_count]
  rfl

end Trial

/-- The trials of `n` samples, the first of which has the index `start`. -/
def Generator.trials (g : Generator σ I) (checks : List (Check I)) (start n : Nat) :
    List (Trial I) :=
  (List.range n).flatMap fun i => checks.map fun check => ⟨start + i, g.sample i, check⟩

namespace Generator

theorem trials_succ (g : Generator σ I) (checks : List (Check I)) (start n : Nat) :
    g.trials checks start (n + 1) =
      checks.map (⟨start, g.next.1, ·⟩) ++ g.next.2.trials checks (start + 1) n := by
  rw [trials, List.range_succ_eq_map, List.flatMap_cons, List.flatMap_map]
  simp only [trials, Nat.succ_eq_add_one, sample_next, Nat.add_assoc, Nat.add_comm 1]
  rfl

theorem length_trials (g : Generator σ I) (checks : List (Check I)) (start n : Nat) :
    (g.trials checks start n).length = n * checks.length := by
  induction n generalizing g start with
  | zero => simp [trials]
  | succ n ih =>
    rw [trials_succ, List.length_append, List.length_map, ih, Nat.succ_mul, Nat.add_comm]

theorem start_le_index {g : Generator σ I} {checks : List (Check I)} {start n : Nat} {t : Trial I}
    (member : t ∈ g.trials checks start n) : start ≤ t.index := by
  obtain ⟨i, -, member⟩ := List.mem_flatMap.mp member
  obtain ⟨check, -, rfl⟩ := List.mem_map.mp member
  exact Nat.le_add_right start i

end Generator

/-! ## Runs -/

namespace Executor

variable [Shown I]

/-- Checking a sample makes its trials. -/
theorem checkSample_eq (sink : RunSink ρ) (test : String) (index : Nat) (sample : I)
    (checks : List (Check I)) (tally : Tally) (log : ρ) :
    checkSample sink test index sample checks tally log =
      (Trial.outcome test (checks.map (⟨index, sample, ·⟩)) tally,
        sink.recordAll (Trial.events test (checks.map (⟨index, sample, ·⟩))) log) := by
  induction checks generalizing tally log with
  | nil => rfl
  | cons check checks ih =>
    rw [List.map_cons, Trial.outcome_cons, Trial.events_cons, checkSample]
    cases accepted : check.accepts sample with
    | false => simp [ih, Trial.failure?, Trial.skip?, Trial.count, Trial.skipped, accepted]
    | true =>
      cases evaluated : check.verdict sample with
      | ok =>
        simp [ih, Trial.failure?, Trial.skip?, Trial.count, Trial.skipped, accepted, evaluated]
      | error diagnostic => simp [Trial.failure?, Trial.skipped, accepted, evaluated]

/-- How many of `n` samples, the first of which has the index `start`, are drawn if the run of them
ends with a failure, and if it does not. -/
def draws (start n : Nat) : Option PropertyFailure → Nat
  | some failure => failure.sampleIndex + 1 - start
  | none => n

theorem checkSamples_succ (sink : RunSink ρ) (test : String) (checks : List (Check I))
    (n start : Nat) (g : Generator σ I) (tally : Tally) (log : ρ) :
    checkSamples sink test checks (n + 1) start g tally log =
      match checkSample sink test start g.next.1 checks (tally.draw 1) log with
      | (.error failure, log) => (.error failure, g.next.2, log)
      | (.ok tally, log) => checkSamples sink test checks n (start + 1) g.next.2 tally log :=
  rfl

/-- Drawing samples and checking them counts the samples and makes their trials. -/
theorem checkSamples_eq (sink : RunSink ρ) (test : String) (checks : List (Check I)) (n start : Nat)
    (g : Generator σ I) (tally : Tally) (log : ρ) :
    checkSamples sink test checks n start g tally log =
      (Trial.outcome test (g.trials checks start n) (tally.draw n),
        g.after (draws start n ((g.trials checks start n).findSome? (Trial.failure? test))),
        sink.recordAll (Trial.events test (g.trials checks start n)) log) := by
  induction n generalizing start g tally log with
  | zero => rfl
  | succ n ih =>
    rw [checkSamples_succ, checkSample_eq, g.trials_succ, Trial.outcome_append, Trial.events_append,
      List.findSome?_append]
    cases found : (checks.map (⟨start, g.next.1, ·⟩)).findSome? (Trial.failure? test) with
    | some failure =>
      obtain ⟨t, member, failed⟩ := List.exists_of_findSome?_eq_some found
      obtain ⟨check, -, rfl⟩ := List.mem_map.mp member
      simp [Trial.outcome, found, draws, Trial.index_of_failure failed, Generator.after]
    | none =>
      have counted (trials : List (Trial I)) :
          (trials.foldl Trial.count (tally.draw 1)).draw n =
            trials.foldl Trial.count (tally.draw (n + 1)) := by
        rw [← Trial.foldl_count_draw, Tally.draw_draw, Nat.add_comm]
      simp only [Trial.outcome, found, ih, counted, Option.none_or, Option.isSome_none,
        RunSink.recordAll_append]
      cases later : (g.next.2.trials checks (start + 1) n).findSome? (Trial.failure? test) with
      | none => rfl
      | some failure =>
        obtain ⟨t, member, failed⟩ := List.exists_of_findSome?_eq_some later
        have started : start + 1 ≤ failure.sampleIndex :=
          Trial.index_of_failure failed ▸ Generator.start_le_index member
        have drawn : failure.sampleIndex + 1 - start =
            failure.sampleIndex + 1 - (start + 1) + 1 := by
          omega
        simp [draws, drawn, Generator.after]

/-- The trials of a run. -/
def trials (e : Executor σ I ρ) : List (Trial I) :=
  e.test.generator.trials e.test.properties 0 e.samples

/-- The executor after a number of draws. -/
def afterDraws (e : Executor σ I ρ) (n : Nat) : Executor σ I ρ :=
  { e with test := { e.test with generator := e.test.generator.after n } }

/-- The summary of a run without a failure. -/
def summary (e : Executor σ I ρ) : RunSummary :=
  { test := e.test.name
    samples := e.samples
    checksPassed := e.trials.countP (!·.skipped)
    checksSkipped := e.trials.countP Trial.skipped }

/-- A run is decided by the first of its trials that fails. -/
theorem run_eq (e : Executor σ I ρ) (log : ρ) :
    e.run log =
      match e.trials.findSome? (Trial.failure? e.test.name) with
      | some failure =>
        (.error failure, e.afterDraws (failure.sampleIndex + 1),
          e.sink.recordAll (.runStarted e.test.name e.samples :: Trial.events e.test.name e.trials)
            log)
      | none =>
        (.ok e.summary, e.afterDraws e.samples,
          e.sink.recordAll
            (.runStarted e.test.name e.samples :: Trial.events e.test.name e.trials ++
              [.runFinished e.summary]) log) := by
  rw [run, checkSamples_eq, trials, Trial.outcome]
  cases (e.test.generator.trials e.test.properties 0 e.samples).findSome?
      (Trial.failure? e.test.name) with
  | some failure => rfl
  | none =>
    simp [Trial.foldl_count, Tally.zero, Tally.draw, summary, trials, afterDraws, draws,
      RunSink.recordAll_append]

/-- The outcome of a run is the first failure, or the summary if there is none. -/
theorem run_outcome (e : Executor σ I ρ) (log : ρ) :
    (e.run log).1 =
      (e.trials.findSome? (Trial.failure? e.test.name)).elim (.ok e.summary) .error := by
  rw [run_eq]
  cases e.trials.findSome? (Trial.failure? e.test.name) <;> rfl

theorem run_of_failure {e : Executor σ I ρ} {failure : PropertyFailure}
    (found : e.trials.findSome? (Trial.failure? e.test.name) = some failure) (log : ρ) :
    (e.run log).1 = .error failure := by
  rw [run_outcome, found]
  rfl

theorem run_of_none {e : Executor σ I ρ}
    (nowhere : e.trials.findSome? (Trial.failure? e.test.name) = none) (log : ρ) :
    (e.run log).1 = .ok e.summary := by
  rw [run_outcome, nowhere]
  rfl

end Executor

end PropertyTesting
