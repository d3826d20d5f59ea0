import PropertyTesting.Proofs.Run.Trials

/-!
# Runs in parts

A run of `n + m` samples does what a run of `n` samples and then one of `m` samples of the same
executor do together (`run_in_parts`). Its trials are those of the first part, and then those of the
second part with `n` more samples before each of them (`trials_in_parts`). So it ends where the
first part ends with a failure, or else where the second part does, `n` samples later, and what it
counts without a failure is what both parts count.

A run is told apart from its parts by nothing but the index of a failure: each part goes on with the
generator as the part before it has left it (`run_leaves`), and it begins to count anew.
-/

namespace PropertyTesting

variable {σ I ρ : Type}

/-! ## Trials that come later -/

/-- The failure at a sample with `n` more samples before it. -/
def PropertyFailure.later (n : Nat) (failure : PropertyFailure) : PropertyFailure :=
  { failure with sampleIndex := n + failure.sampleIndex }

namespace Trial

/-- The trial with `n` more samples before it. -/
def later (n : Nat) (t : Trial I) : Trial I :=
  { t with index := n + t.index }

@[simp]
theorem skipped_later (n : Nat) (t : Trial I) : (t.later n).skipped = t.skipped :=
  rfl

theorem failure?_later [Shown I] (test : String) (n : Nat) (t : Trial I) :
    (t.later n).failure? test = (t.failure? test).map (PropertyFailure.later n) := by
  rw [failure?, failure?, skipped_later]
  cases t.skipped with
  | true => rfl
  | false =>
    cases evaluated : t.check.verdict t.sample <;> simp [later, PropertyFailure.later, evaluated]

theorem findSome?_later [Shown I] (test : String) (n : Nat) (trials : List (Trial I)) :
    (trials.map (later n)).findSome? (failure? test) =
      (trials.findSome? (failure? test)).map (PropertyFailure.later n) := by
  rw [List.findSome?_map, List.map_findSome?]
  congr 1
  funext t
  exact failure?_later test n t

theorem countP_later (p : Trial I → Bool) (n : Nat) (same : ∀ t, p (later n t) = p t)
    (trials : List (Trial I)) : (trials.map (later n)).countP p = trials.countP p := by
  rw [List.countP_map]
  congr 1
  funext t
  exact same t

end Trial

namespace Generator

theorem trials_later (g : Generator σ I) (checks : List (Check I)) (n start m : Nat) :
    g.trials checks (n + start) m = (g.trials checks start m).map (Trial.later n) := by
  simp only [trials, List.map_flatMap, List.map_map, Function.comp_def, Trial.later, Nat.add_assoc]

theorem trials_add (g : Generator σ I) (checks : List (Check I)) (start n m : Nat) :
    g.trials checks start (n + m) =
      g.trials checks start n ++ (g.after n).trials checks (start + n) m := by
  simp only [trials, List.range_add, List.flatMap_append, List.flatMap_map, sample_after,
    Nat.add_assoc]

end Generator

/-! ## Runs -/

/-- The test after a number of draws. -/
def Test.after (t : Test σ I) (n : Nat) : Test σ I :=
  { t with generator := t.generator.after n }

theorem Test.after_add (t : Test σ I) (n m : Nat) : t.after (n + m) = (t.after n).after m := by
  rw [after, Generator.after_add]
  rfl

namespace Executor

/-- The number of samples that a run with a given outcome has drawn. -/
def drawn : Except PropertyFailure RunSummary → Nat
  | .error failure => failure.sampleIndex + 1
  | .ok summary => summary.samples

theorem trials_in_parts (e : Executor σ I ρ) (n m : Nat) :
    (e.withSamples (n + m)).trials =
      (e.withSamples n).trials ++ ((e.afterDraws n).withSamples m).trials.map (Trial.later n) := by
  have moved := (e.test.generator.after n).trials_later e.test.properties n 0 m
  rw [trials, trials, trials, withSamples, withSamples, withSamples, Generator.trials_add,
    Nat.zero_add]
  exact congrArg _ moved

/-- What the whole counts is what its parts count. -/
theorem summary_in_parts (e : Executor σ I ρ) (n m : Nat) :
    let first := (e.withSamples n).summary
    let second := ((e.afterDraws n).withSamples m).summary
    (e.withSamples (n + m)).summary =
      ⟨e.test.name, first.samples + second.samples, first.checksPassed + second.checksPassed,
        first.checksSkipped + second.checksSkipped⟩ := by
  intro first second
  rw [summary, trials_in_parts, List.countP_append, List.countP_append,
    Trial.countP_later _ n fun _ => rfl, Trial.countP_later _ n fun _ => rfl]
  rfl

variable [Shown I]

/-- A run changes nothing of an executor but the generator, which has drawn the samples of the
run. -/
theorem run_leaves (e : Executor σ I ρ) (log : ρ) :
    (e.run log).2.1 = e.afterDraws (drawn (e.run log).1) := by
  rw [run_eq]
  cases e.trials.findSome? (Trial.failure? e.test.name) <;> rfl

/-- After a run without a failure the generator has drawn all samples of the run. -/
theorem run_leaves_of_none {e : Executor σ I ρ} {n : Nat}
    (nowhere : (e.withSamples n).trials.findSome? (Trial.failure? e.test.name) = none) (m : Nat)
    (log : ρ) :
    ((e.withSamples n).run log).2.1.withSamples m = (e.afterDraws n).withSamples m := by
  have passes : ((e.withSamples n).run log).1 = .ok (e.withSamples n).summary :=
    run_of_none nowhere log
  rw [run_leaves, passes]
  rfl

/-- The first failure of the whole is that of the first part, or else that of the second with `n`
more samples before it. -/
theorem failure_in_parts (e : Executor σ I ρ) (n m : Nat) :
    (e.withSamples (n + m)).trials.findSome? (Trial.failure? e.test.name) =
      ((e.withSamples n).trials.findSome? (Trial.failure? e.test.name)).or
        ((((e.afterDraws n).withSamples m).trials.findSome? (Trial.failure? e.test.name)).map
          (PropertyFailure.later n)) := by
  rw [trials_in_parts, List.findSome?_append, Trial.findSome?_later]

/-- A run of `n + m` samples, and in its place a run of `n` samples and then, with the executor that
it leaves, one of `m` samples. If the first part fails, so does the whole, in the same way. If the
second part fails after the first has not, so does the whole, `n` samples later. If no part fails,
the whole counts what both count. Any of these runs leaves the generator after as many draws as its
outcome says, and a run without samples counts nothing and leaves everything as it was. -/
theorem run_in_parts (e : Executor σ I ρ) (n m : Nat) (log : ρ) :
    let whole := (e.withSamples (n + m)).run log
    let first := (e.withSamples n).run log
    let second := (first.2.1.withSamples m).run first.2.2
    (match first.1, second.1 with
      | .error failure, _ => whole.1 = .error failure ∧ whole.2.1.test = first.2.1.test
      | .ok _, .error failure =>
        whole.1 = .error { failure with sampleIndex := n + failure.sampleIndex } ∧
          whole.2.1.test = second.2.1.test
      | .ok s, .ok t =>
        whole.1 =
            .ok ⟨e.test.name, s.samples + t.samples, s.checksPassed + t.checksPassed,
              s.checksSkipped + t.checksSkipped⟩ ∧
          whole.2.1.test = second.2.1.test) ∧
    (whole.2.1.test.generator = e.test.generator.after (drawn whole.1) ∧
      first.2.1.test.generator = e.test.generator.after (drawn first.1) ∧
      second.2.1.test.generator = e.test.generator.after (drawn first.1 + drawn second.1)) ∧
    ((e.withSamples 0).run log).1 = .ok ⟨e.test.name, 0, 0, 0⟩ ∧
      ((e.withSamples 0).run log).2.1 = e.withSamples 0 := by
  intro whole first second
  have wholeTest : whole.2.1.test = e.test.after (drawn whole.1) := congrArg test (run_leaves _ _)
  have firstTest : first.2.1.test = e.test.after (drawn first.1) := congrArg test (run_leaves _ _)
  have secondTest : second.2.1.test = e.test.after (drawn first.1 + drawn second.1) := by
    rw [Test.after_add, ← firstTest]
    exact congrArg test (run_leaves _ _)
  refine ⟨?_, ⟨congrArg Test.generator wholeTest, congrArg Test.generator firstTest,
    congrArg Test.generator secondTest⟩, rfl, rfl⟩
  have wholeFound := failure_in_parts e n m
  cases found : (e.withSamples n).trials.findSome? (Trial.failure? e.test.name) with
  | some failure =>
    rw [found, Option.some_or] at wholeFound
    have firstFails : first.1 = .error failure := run_of_failure found log
    have wholeFails : whole.1 = .error failure := run_of_failure wholeFound log
    rw [wholeTest, firstTest, wholeFails, firstFails]
    exact ⟨rfl, rfl⟩
  | none =>
    have firstPasses : first.1 = .ok (e.withSamples n).summary := run_of_none found log
    have continued : second = ((e.afterDraws n).withSamples m).run first.2.2 :=
      congrArg (run · first.2.2) (run_leaves_of_none found m log)
    rw [found, Option.none_or] at wholeFound
    cases foundLater : ((e.afterDraws n).withSamples m).trials.findSome?
        (Trial.failure? e.test.name) with
    | some failure =>
      rw [foundLater, Option.map_some] at wholeFound
      have secondFails : second.1 = .error failure := by
        rw [continued]
        exact run_of_failure foundLater first.2.2
      have wholeFails : whole.1 = .error (failure.later n) := run_of_failure wholeFound log
      rw [wholeTest, secondTest, wholeFails, firstPasses, secondFails]
      exact ⟨rfl, rfl⟩
    | none =>
      rw [foundLater, Option.map_none] at wholeFound
      have secondPasses : second.1 = .ok ((e.afterDraws n).withSamples m).summary := by
        rw [continued]
        exact run_of_none foundLater first.2.2
      have wholePasses : whole.1 = .ok (e.withSamples (n + m)).summary := run_of_none wholeFound log
      rw [wholeTest, secondTest, wholePasses, firstPasses, secondPasses]
      exact ⟨congrArg Except.ok (summary_in_parts e n m), rfl⟩

end Executor

end PropertyTesting
