import PropertyTesting.Proofs.Run.Trials

/-!
# The first failure of a run

A run reports the first violation of a property, sample by sample and for each sample in the order
of the properties, and draws nothing after it (`run_reports_first_violation`). A run without a
violation draws all its samples, and each property with each sample is a check that passed or was
skipped.
-/

namespace PropertyTesting

variable {σ I ρ : Type}

/-- What is found first stands at a place before which nothing is found. -/
theorem findSome?_place {α β : Type} {f : α → Option β} {l : List α} {b : β}
    (found : l.findSome? f = some b) :
    ∃ (p : Nat) (a : α), l[p]? = some a ∧ f a = some b ∧
      ∀ q < p, ∀ c, l[q]? = some c → f c = none := by
  obtain ⟨before, a, rest, rfl, here, nowhere⟩ := List.findSome?_eq_some_iff.mp found
  refine ⟨before.length, a, by simp, here, fun q earlier c located => nowhere c ?_⟩
  rw [List.getElem?_append_left earlier] at located
  exact List.mem_of_getElem? located

/-- A search of the trials of a run is a search of the properties for each of the samples. -/
theorem Generator.findSome?_trials {β : Type} (f : Trial I → Option β) (g : Generator σ I)
    (checks : List (Check I)) (start n : Nat) :
    (g.trials checks start n).findSome? f =
      (List.range n).findSome? fun i =>
        checks.findSome? fun check => f ⟨start + i, g.sample i, check⟩ := by
  rw [trials]
  induction List.range n with
  | nil => rfl
  | cons i rest ih =>
    rw [List.flatMap_cons, List.findSome?_append, List.findSome?_map, ih, List.findSome?_cons,
      Function.comp_def]
    cases checks.findSome? fun check => f ⟨start + i, g.sample i, check⟩ <;> rfl

theorem Check.accepts_iff {check : Check I} {sample : I} :
    check.accepts sample = true ↔ ∀ condition ∈ check.preconditions, condition sample = true :=
  List.all_eq_true

namespace Executor

/-- The property at place `p` is for the sample with the index `i` of the run and rejects it. -/
structure ViolatedBy (e : Executor σ I ρ) (i p : Nat) (check : Check I)
    (reason : Diagnostic) : Prop where
  drawn : i < e.samples
  property : e.test.properties[p]? = some check
  accepted : ∀ condition ∈ check.preconditions, condition (e.test.generator.sample i) = true
  rejected : check.verdict (e.test.generator.sample i) = .error reason

variable [Shown I]

/-- A violation is a trial that fails. -/
theorem ViolatedBy.failure {e : Executor σ I ρ} {i p : Nat} {check : Check I} {reason : Diagnostic}
    (violated : e.ViolatedBy i p check reason) (test : String) (index : Nat) :
    Trial.failure? test ⟨index, e.test.generator.sample i, check⟩ =
      some ⟨test, check.description, index, Shown.shown (e.test.generator.sample i), reason⟩ :=
  Trial.failure?_eq_some_iff.mpr
    ⟨Check.accepts_iff.mpr violated.accepted, reason, violated.rejected, rfl⟩

/-- The trials of a sample that violates a property do not all pass. -/
theorem ViolatedBy.found {e : Executor σ I ρ} {i p : Nat} {check : Check I} {reason : Diagnostic}
    (violated : e.ViolatedBy i p check reason) (test : String) (index : Nat) :
    (e.test.properties.findSome? fun check =>
      Trial.failure? test ⟨index, e.test.generator.sample i, check⟩) ≠ none := by
  intro nowhere
  have passes :=
    List.findSome?_eq_none_iff.mp nowhere check (List.mem_of_getElem? violated.property)
  rw [violated.failure] at passes
  cases passes

theorem not_violated {e : Executor σ I ρ}
    (nowhere : e.trials.findSome? (Trial.failure? e.test.name) = none) (i p : Nat) (check : Check I)
    (reason : Diagnostic) : ¬ e.ViolatedBy i p check reason := by
  intro violated
  rw [trials, Generator.findSome?_trials, List.findSome?_eq_none_iff] at nowhere
  exact violated.found _ _ (nowhere i (List.mem_range.mpr violated.drawn))

/-- The failure of the first trial that fails is that of the first violation. -/
theorem first_violation {e : Executor σ I ρ} {failure : PropertyFailure}
    (found : e.trials.findSome? (Trial.failure? e.test.name) = some failure) :
    ∃ i p check reason, e.ViolatedBy i p check reason ∧
      (∀ j q check' reason', e.ViolatedBy j q check' reason' → i < j ∨ i = j ∧ p ≤ q) ∧
      failure =
        ⟨e.test.name, check.description, i, Shown.shown (e.test.generator.sample i), reason⟩ := by
  rw [trials, Generator.findSome?_trials] at found
  obtain ⟨place, i, located, found, before⟩ := findSome?_place found
  obtain ⟨drawn, rfl⟩ := List.getElem?_eq_some_iff.mp located
  obtain ⟨p, check, property, failed, beforeHere⟩ := findSome?_place found
  rw [List.length_range] at drawn
  rw [List.getElem_range, Nat.zero_add] at failed
  obtain ⟨accepted, reason, rejected, rfl⟩ := Trial.failure?_eq_some_iff.mp failed
  refine ⟨place, p, check, reason, ⟨drawn, property, Check.accepts_iff.mp accepted, rejected⟩,
    ?_, rfl⟩
  intro j q check' reason' violated
  rcases Nat.lt_trichotomy place j with later | rfl | earlier
  · exact .inl later
  · refine .inr ⟨rfl, Nat.le_of_not_lt fun earlier => ?_⟩
    have passes := beforeHere q earlier check' violated.property
    rw [List.getElem_range, violated.failure] at passes
    cases passes
  · exact absurd (before j earlier j (List.getElem?_range (Nat.lt_trans earlier drawn)))
      (violated.found _ _)

/-- A run fails exactly if a property is violated by one of its samples. It reports the violation
such that there is none by a sample before it, nor by this sample of a property before it, and it
has drawn the samples up to this one. A run that does not fail counts those of its trials that were
skipped and those that were not, and it has drawn all samples, so that the next run begins with the
sample after them. -/
theorem run_reports_first_violation (e : Executor σ I ρ) (log : ρ) :
    ((∃ failure, (e.run log).1 = .error failure) ↔
      ∃ i p check reason, e.ViolatedBy i p check reason) ∧
    match e.run log with
    | (.error failure, after, _) =>
      ∃ i p check reason, e.ViolatedBy i p check reason ∧
        (∀ j q check' reason', e.ViolatedBy j q check' reason' → i < j ∨ i = j ∧ p ≤ q) ∧
        failure =
          ⟨e.test.name, check.description, i, Shown.shown (e.test.generator.sample i), reason⟩ ∧
        after = e.afterDraws (i + 1)
    | (.ok summary, after, _) =>
      summary.test = e.test.name ∧ summary.samples = e.samples ∧
        summary.checksSkipped = e.trials.countP Trial.skipped ∧
        summary.checksPassed + summary.checksSkipped = e.samples * e.test.properties.length ∧
        after = e.afterDraws e.samples ∧
        ∀ i, after.test.generator.sample i = e.test.generator.sample (e.samples + i) := by
  rw [run_eq]
  cases found : e.trials.findSome? (Trial.failure? e.test.name) with
  | some failure =>
    obtain ⟨i, p, check, reason, violated, first, rfl⟩ := first_violation found
    exact ⟨⟨fun _ => ⟨i, p, check, reason, violated⟩, fun _ => ⟨_, rfl⟩⟩,
      i, p, check, reason, violated, first, rfl, rfl⟩
  | none =>
    have passes : ¬ ∃ i p check reason, e.ViolatedBy i p check reason := by
      rintro ⟨i, p, check, reason, violated⟩
      exact not_violated found i p check reason violated
    refine ⟨⟨nofun, fun violated => absurd violated passes⟩, rfl, rfl, rfl, ?_, rfl,
      e.test.generator.sample_after e.samples⟩
    have total : e.trials.length = e.samples * e.test.properties.length :=
      Generator.length_trials ..
    rw [← total, List.length_eq_countP_add_countP Trial.skipped, Nat.add_comm]
    simp [summary]

end Executor

end PropertyTesting
