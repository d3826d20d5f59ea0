import Mathlib.Data.List.Forall2
import PropertyTesting.Proofs.Run.FirstFailure
import PropertyTesting.Value.Shown

/-!
# The failing sample

Whether a run fails, and with which sample, depends on which samples refute a property, but neither
on the order of the properties nor on which of them is refuted. The first sample that refutes a
property, if there is one, is the one that a run fails with (`run_fails`), and without such a sample
a run counts what each property makes of each sample (`run_passes`).

So runs of a test with its properties in different orders come to the same verdict, and
preconditions that are added to properties can only spare a test a failure
(`verdict_of_properties`).
-/

namespace PropertyTesting

variable {σ I ρ : Type}

/-- Whether a property is for a sample and rejects it. -/
def Check.refutedBy (c : Check I) (sample : I) : Bool :=
  c.accepts sample && !(c.verdict sample).passed

/-- The same check, but that there may be more preconditions. -/
def Check.RestrictedTo (c d : Check I) : Prop :=
  ∃ preconditions, c.preconditions.Sublist preconditions ∧ d = { c with preconditions }

theorem Check.RestrictedTo.accepts {c d : Check I} (stricter : c.RestrictedTo d) {sample : I}
    (accepted : d.accepts sample = true) : c.accepts sample = true := by
  obtain ⟨preconditions, kept, rfl⟩ := stricter
  rw [accepts_iff] at accepted ⊢
  intro condition given
  exact accepted condition (kept.mem given)

theorem Check.RestrictedTo.refutedBy {c d : Check I} (stricter : c.RestrictedTo d) {sample : I}
    (refuted : d.refutedBy sample = true) : c.refutedBy sample = true := by
  rw [Check.refutedBy, Bool.and_eq_true] at refuted ⊢
  refine ⟨stricter.accepts refuted.1, ?_⟩
  obtain ⟨preconditions, -, rfl⟩ := stricter
  exact refuted.2

theorem any_refutedBy_of_stricter {checks strict : List (Check I)}
    (stricter : List.Forall₂ Check.RestrictedTo checks strict) {sample : I}
    (refuted : strict.any (·.refutedBy sample) = true) :
    checks.any (·.refutedBy sample) = true := by
  induction stricter with
  | nil => exact refuted
  | cons head tail ih =>
    rw [List.any_cons, Bool.or_eq_true] at refuted ⊢
    exact refuted.imp head.refutedBy ih

theorem countP_accepts_of_stricter {checks strict : List (Check I)}
    (stricter : List.Forall₂ Check.RestrictedTo checks strict) (sample : I) :
    strict.countP (·.accepts sample) ≤ checks.countP (·.accepts sample) := by
  induction stricter with
  | nil => exact Nat.le_refl _
  | @cons c d checks strict head tail ih =>
    rw [List.countP_cons, List.countP_cons]
    refine Nat.add_le_add ih ?_
    split
    · next accepted => exact Nat.le_of_eq (if_pos (head.accepts accepted)).symm
    · exact Nat.zero_le _

/-- Where no more of some properties count than of others for any sample, no more of their trials
count. -/
theorem Generator.countP_trials_le {p : Trial I → Bool} {strict checks : List (Check I)}
    (fewer : ∀ (i : Nat) (sample : I),
      strict.countP (p ⟨i, sample, ·⟩) ≤ checks.countP (p ⟨i, sample, ·⟩))
    (g : Generator σ I) (start n : Nat) :
    (g.trials strict start n).countP p ≤ (g.trials checks start n).countP p := by
  rw [trials, trials]
  induction List.range n with
  | nil => exact Nat.le_refl _
  | cons i rest ih =>
    rw [List.flatMap_cons, List.flatMap_cons, List.countP_append, List.countP_append,
      List.countP_map, List.countP_map]
    exact Nat.add_le_add (fewer (start + i) (g.sample i)) ih

theorem Trial.isSome_failure? [Shown I] (test : String) (t : Trial I) :
    (t.failure? test).isSome = t.check.refutedBy t.sample := by
  rw [failure?, skipped, Check.refutedBy]
  cases t.check.accepts t.sample with
  | false => rfl
  | true => cases t.check.verdict t.sample <;> rfl

theorem Trial.isSome_findSome? [Shown I] (test : String) (index : Nat) (sample : I)
    (checks : List (Check I)) :
    (checks.findSome? fun check => failure? test ⟨index, sample, check⟩).isSome =
      checks.any (·.refutedBy sample) := by
  rw [List.isSome_findSome?]
  simp only [isSome_failure?]

namespace Executor

def withProperties (e : Executor σ I ρ) (checks : List (Check I)) : Executor σ I ρ :=
  { e with test := { e.test with properties := checks } }

/-- The index of the first sample of a run that refutes a property. -/
def failingSample? (e : Executor σ I ρ) : Option Nat :=
  (List.range e.samples).find? fun i =>
    e.test.properties.any (·.refutedBy (e.test.generator.sample i))

theorem total_summary (e : Executor σ I ρ) :
    e.summary.checksPassed + e.summary.checksSkipped = e.samples * e.test.properties.length := by
  have total : e.trials.length = e.samples * e.test.properties.length := Generator.length_trials ..
  rw [← total, List.length_eq_countP_add_countP Trial.skipped, Nat.add_comm]
  simp [summary]

variable [Shown I]

/-- The first failure is one of the first sample that refutes a property. -/
theorem first_failure (e : Executor σ I ρ) :
    (e.trials.findSome? (Trial.failure? e.test.name)).map (fun f => (f.sampleIndex, f.sample)) =
      e.failingSample?.map fun i => (i, Shown.shown (e.test.generator.sample i)) := by
  rw [trials, Generator.findSome?_trials, failingSample?]
  induction List.range e.samples with
  | nil => rfl
  | cons i rest ih =>
    rw [List.findSome?_cons, List.find?_cons, ← Trial.isSome_findSome? e.test.name (0 + i)]
    cases found : e.test.properties.findSome? fun check =>
        Trial.failure? e.test.name ⟨0 + i, e.test.generator.sample i, check⟩ with
    | none => exact ih
    | some failure =>
      obtain ⟨check, -, failed⟩ := List.exists_of_findSome?_eq_some found
      obtain ⟨-, diagnostic, -, rfl⟩ := Trial.failure?_eq_some_iff.mp failed
      simp

/-- Without a sample that refutes a property, a run passes. -/
theorem run_passes {e : Executor σ I ρ} (nowhere : e.failingSample? = none) (log : ρ) :
    (e.run log).1 = .ok e.summary := by
  refine run_of_none ?_ log
  have first := e.first_failure
  rw [nowhere, Option.map_none] at first
  exact Option.map_eq_none_iff.mp first

/-- A run fails with the first sample that refutes a property. -/
theorem run_fails {e : Executor σ I ρ} {i : Nat} (refuting : e.failingSample? = some i) (log : ρ) :
    ∃ failure, (e.run log).1 = .error failure ∧ failure.sampleIndex = i ∧
      failure.sample = Shown.shown (e.test.generator.sample i) := by
  have first := e.first_failure
  rw [refuting, Option.map_some] at first
  obtain ⟨failure, found, same⟩ := Option.map_eq_some_iff.mp first
  obtain ⟨index, sample⟩ := Prod.mk.inj same
  exact ⟨failure, run_of_failure found log, index, sample⟩

end Executor

/-! ## Other orders of properties -/

/-- Two outcomes that count the same, or that report the same sample. -/
def SameVerdict : Except PropertyFailure RunSummary → Except PropertyFailure RunSummary → Prop
  | .ok s, .ok t =>
    s.samples = t.samples ∧ s.checksPassed = t.checksPassed ∧ s.checksSkipped = t.checksSkipped
  | .error f, .error g => f.sampleIndex = g.sampleIndex ∧ f.sample = g.sample
  | _, _ => False

namespace Executor

variable {e : Executor σ I ρ} {checks : List (Check I)}

theorem failingSample?_of_perm (order : checks.Perm e.test.properties) :
    (e.withProperties checks).failingSample? = e.failingSample? := by
  rw [failingSample?, failingSample?]
  congr 1
  funext i
  exact order.any_eq

theorem countP_trials_of_perm (order : checks.Perm e.test.properties) (p : Trial I → Bool) :
    (e.withProperties checks).trials.countP p = e.trials.countP p := by
  apply Nat.le_antisymm
  · exact Generator.countP_trials_le (fun _ _ => Nat.le_of_eq (order.countP_eq _)) e.test.generator
      0 e.samples
  · exact Generator.countP_trials_le (fun _ _ => Nat.le_of_eq (order.symm.countP_eq _))
      e.test.generator 0 e.samples

theorem sameVerdict_of_perm [Shown I] (order : checks.Perm e.test.properties) (log : ρ) :
    SameVerdict (e.run log).1 ((e.withProperties checks).run log).1 := by
  have same := failingSample?_of_perm order
  cases refuting : e.failingSample? with
  | none =>
    rw [refuting] at same
    rw [run_passes refuting, run_passes same]
    exact ⟨rfl, (countP_trials_of_perm order _).symm, (countP_trials_of_perm order _).symm⟩
  | some i =>
    rw [refuting] at same
    obtain ⟨failure, fails, index, sample⟩ := run_fails refuting log
    obtain ⟨other, fails', index', sample'⟩ := run_fails same log
    rw [fails, fails']
    exact ⟨index.trans index'.symm, sample.trans sample'.symm⟩

end Executor

/-! ## More preconditions -/

/-- Two outcomes of which the second is of a run that has been spared something. Where the first run
passes, so does the second, and it may have skipped checks that passed. Where the second fails, the
first fails no later. -/
def SparedBy : Except PropertyFailure RunSummary → Except PropertyFailure RunSummary → Prop
  | .ok s, .ok t =>
    t.checksPassed ≤ s.checksPassed ∧
      t.checksPassed + t.checksSkipped = s.checksPassed + s.checksSkipped
  | .ok _, .error _ => False
  | .error _, .ok _ => True
  | .error f, .error g => f.sampleIndex ≤ g.sampleIndex

namespace Executor

variable {e : Executor σ I ρ} {strict : List (Check I)}

theorem failingSample?_of_stricter
    (stricter : List.Forall₂ Check.RestrictedTo e.test.properties strict) {i : Nat}
    (refuting : (e.withProperties strict).failingSample? = some i) :
    ∃ j ≤ i, e.failingSample? = some j := by
  obtain ⟨refuted, drawn, -⟩ := List.find?_range_eq_some.mp refuting
  have refutedToo : e.test.properties.any (·.refutedBy (e.test.generator.sample i)) = true :=
    any_refutedBy_of_stricter stricter refuted
  cases found : e.failingSample? with
  | none => exact absurd refutedToo (List.find?_eq_none.mp found i drawn)
  | some j =>
    obtain ⟨-, -, earlier⟩ := List.find?_range_eq_some.mp found
    refine ⟨j, Nat.le_of_not_lt fun before => ?_, rfl⟩
    have unrefuted := earlier i before
    rw [refutedToo] at unrefuted
    cases unrefuted

theorem countP_trials_of_stricter
    (stricter : List.Forall₂ Check.RestrictedTo e.test.properties strict) :
    (e.withProperties strict).trials.countP (!·.skipped) ≤ e.trials.countP (!·.skipped) := by
  refine Generator.countP_trials_le (fun i sample => ?_) e.test.generator 0 e.samples
  simp only [Trial.skipped, Bool.not_not]
  exact countP_accepts_of_stricter stricter sample

theorem sparedBy_of_stricter [Shown I]
    (stricter : List.Forall₂ Check.RestrictedTo e.test.properties strict) (log : ρ) :
    SparedBy (e.run log).1 ((e.withProperties strict).run log).1 := by
  cases refuting : (e.withProperties strict).failingSample? with
  | some i =>
    obtain ⟨j, earlier, refutingToo⟩ := failingSample?_of_stricter stricter refuting
    obtain ⟨failure, fails, index, -⟩ := run_fails refutingToo log
    obtain ⟨other, fails', index', -⟩ := run_fails refuting log
    rw [fails, fails']
    show failure.sampleIndex ≤ other.sampleIndex
    rw [index, index']
    exact earlier
  | none =>
    rw [run_passes refuting]
    cases refutingToo : e.failingSample? with
    | some j =>
      obtain ⟨failure, fails, -⟩ := run_fails refutingToo log
      rw [fails]
      trivial
    | none =>
      rw [run_passes refutingToo]
      refine ⟨countP_trials_of_stricter stricter, ?_⟩
      rw [total_summary, total_summary, stricter.length_eq]
      rfl

end Executor

/-- With its properties in another order, a test comes to the same verdict on the same samples: both
runs pass and count the same, or both fail and report the same sample. With more preconditions, a
test that passes still passes, and no more of its checks pass while as many pass or are skipped. A
test that fails with them fails no later without them. -/
theorem verdict_of_properties [Shown I] (e : Executor σ I ρ) (log : ρ) :
    (∀ checks : List (Check I), checks.Perm e.test.properties →
      SameVerdict (e.run log).1 ((e.withProperties checks).run log).1) ∧
    (∀ strict : List (Check I), List.Forall₂ Check.RestrictedTo e.test.properties strict →
      SparedBy (e.run log).1 ((e.withProperties strict).run log).1) := by
  constructor
  · intro checks order
    exact Executor.sameVerdict_of_perm order log
  · intro strict stricter
    exact Executor.sparedBy_of_stricter stricter log

/-- Whole numbers are less than a bound. -/
def exBelow (bound : Int) (preconditions : List (Value → Bool)) : Check Value :=
  Property.toCheck (O := Value)
    { description := "less", preconditions, function := id,
      comparison := .ordered (.wide bound) .less }

/-- The natural numbers in their order, which are not all less than 2, or than 3. -/
def exBounded : Executor Nat Value (List RunEvent) :=
  ⟨⟨"numbers", 5, ⟨"naturals", fun n => (.wide n, n + 1), 0⟩, [exBelow 2 [], exBelow 3 []]⟩, 5,
    .memory⟩

/-- The first bound is not for 2. -/
def exStricter : List (Check Value) :=
  [exBelow 2 [fun sample => !sample.same (.wide 2)], exBelow 3 []]

theorem verdict_of_properties_exBounded :
    ([exBelow 3 [], exBelow 2 []].Perm exBounded.test.properties ∧
      SameVerdict (exBounded.run []).1
        ((exBounded.withProperties [exBelow 3 [], exBelow 2 []]).run []).1) ∧
    List.Forall₂ Check.RestrictedTo exBounded.test.properties exStricter ∧
      SparedBy (exBounded.run []).1 ((exBounded.withProperties exStricter).run []).1 := by
  have swapped : [exBelow 3 [], exBelow 2 []].Perm exBounded.test.properties := .swap ..
  have stricter : List.Forall₂ Check.RestrictedTo exBounded.test.properties exStricter :=
    .cons ⟨_, List.nil_sublist _, rfl⟩ (.cons ⟨_, List.Sublist.refl _, rfl⟩ .nil)
  have verdicts := verdict_of_properties exBounded []
  exact ⟨⟨swapped, verdicts.1 _ swapped⟩, stricter, verdicts.2 _ stricter⟩

/-- The first bound fails at 2, and without 2 both fail at 3. -/
example : exBounded.failingSample? = some 2 ∧
    (exBounded.withProperties exStricter).failingSample? = some 3 := by
  decide

end PropertyTesting
