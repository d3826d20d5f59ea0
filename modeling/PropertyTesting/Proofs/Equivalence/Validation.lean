import PropertyTesting.Equivalence

/-!
# Accepted pairs of tests

Two tests are accepted as equivalent exactly if they have the same name, number of samples and kind
of generator, and the same outlines of their properties in the same order
(`validateEquivalent_ok_iff`). An outline is all that the validation sees of a property.
-/

namespace PropertyTesting

variable {σ τ I : Type}

/-- What can be told of a check without running it. -/
def Check.outline (c : Check I) : String × Nat × ComparisonShape :=
  (c.description, c.preconditions.length, c.shape)

theorem Check.difference?_eq_none_iff {index : Nat} {left right : Check I} :
    left.difference? index right = none ↔ left.outline = right.outline := by
  simp only [difference?, outline, Prod.mk.injEq]
  split
  · simp [*]
  · split <;> simp_all

theorem Check.firstDifference?_eq_none_iff {index : Nat} {lefts rights : List (Check I)}
    (sameLength : lefts.length = rights.length) :
    firstDifference? index lefts rights = none ↔ lefts.map outline = rights.map outline := by
  induction lefts generalizing index rights with
  | nil =>
    obtain rfl := List.length_eq_zero_iff.mp sameLength.symm
    exact ⟨fun _ => rfl, fun _ => rfl⟩
  | cons left lefts ih =>
    cases rights with
    | nil => cases sameLength
    | cons right rights =>
      rw [firstDifference?, Option.or_eq_none_iff, difference?_eq_none_iff,
        ih (Nat.succ.inj sameLength), List.map_cons, List.map_cons, List.cons.injEq]

theorem Test.validateEquivalent_ok_iff {left : Test σ I} {right : Test τ I} :
    left.validateEquivalent right = .ok () ↔
      left.name = right.name ∧ left.samples = right.samples ∧
        left.generator.kind = right.generator.kind ∧
        left.properties.map Check.outline = right.properties.map Check.outline := by
  have accepted : left.validateEquivalent right = .ok () ↔ left.difference? right = none := by
    rw [validateEquivalent]
    cases left.difference? right <;> simp
  rw [accepted, difference?]
  split
  · simp [*]
  split
  · simp [*]
  split
  · simp [*]
  split
  · next lengths =>
    have outlines : left.properties.map Check.outline ≠ right.properties.map Check.outline :=
      fun same => lengths (by simpa using congrArg List.length same)
    simp [outlines]
  · next names samples kinds lengths =>
    rw [Check.firstDifference?_eq_none_iff (Decidable.of_not_not lengths)]
    simp_all

end PropertyTesting
