import PropertyTesting.Proofs.Equivalence.Validation

/-!
# The first difference of two tests

Two tests may differ in many things. What they have where they differ is a difference of them
(`Test.Differs`), and each has its place in the order in which tests are compared
(`TestDifference.place`): names, numbers of samples, kinds of generators, numbers of properties, and
then property by property descriptions, numbers of preconditions and shapes. The validation reports
the difference with the first place (`validation_reports_first_difference`).

The validation looks at one thing after another. It finds the first of all differences because it
finds the first of those that it looks for before all others, and else the first of the others
(`Finds.or`).
-/

namespace PropertyTesting

variable {σ τ I : Type}

namespace TestDifference

/-- The place of a difference in the order in which tests are compared. -/
def place : TestDifference → Nat
  | name .. => 0
  | sampleCount .. => 1
  | generator .. => 2
  | propertyCount .. => 3
  | description index .. => 3 * index + 4
  | preconditionCount index .. => 3 * index + 5
  | comparison index .. => 3 * index + 6

/-- The same difference, with what the left and the right test have exchanged. -/
def swap : TestDifference → TestDifference
  | name left right => name right left
  | sampleCount left right => sampleCount right left
  | generator left right => generator right left
  | propertyCount left right => propertyCount right left
  | description index left right => description index right left
  | preconditionCount index left right => preconditionCount index right left
  | comparison index left right => comparison index right left

end TestDifference

/-- What two checks at a given place of their tests have where they differ. -/
inductive Check.Differs (left right : Check I) (index : Nat) : TestDifference → Prop
  | description : left.description ≠ right.description →
      Differs left right index (.description index left.description right.description)
  | preconditionCount : left.preconditions.length ≠ right.preconditions.length →
      Differs left right index
        (.preconditionCount index left.preconditions.length right.preconditions.length)
  | comparison : left.shape ≠ right.shape →
      Differs left right index (.comparison index left.shape right.shape)

/-- What two tests have where they differ. Properties are compared with those at the same place. -/
inductive Test.Differs (left : Test σ I) (right : Test τ I) : TestDifference → Prop
  | name : left.name ≠ right.name → Differs left right (.name left.name right.name)
  | sampleCount : left.samples ≠ right.samples →
      Differs left right (.sampleCount left.samples right.samples)
  | generator : left.generator.kind ≠ right.generator.kind →
      Differs left right (.generator left.generator.kind right.generator.kind)
  | propertyCount : left.properties.length ≠ right.properties.length →
      Differs left right (.propertyCount left.properties.length right.properties.length)
  | property {index : Nat} {c d : Check I} {difference : TestDifference} :
      left.properties[index]? = some c → right.properties[index]? = some d →
      c.Differs d index difference → Differs left right difference

/-! ## Searches for differences -/

/-- Of the differences looked for, all of which have places from `start` on, the one with the first
place is found, and nothing is found only if there is none. -/
structure Finds (start : Nat) (found? : Option TestDifference)
    (Differs : TestDifference → Prop) : Prop where
  from_start : ∀ difference, Differs difference → start ≤ difference.place
  first : ∀ difference, found? = some difference →
    Differs difference ∧ ∀ other, Differs other → difference.place ≤ other.place
  all : found? = none → ∀ difference, ¬ Differs difference

namespace Finds

variable {start next : Nat} {found? later? : Option TestDifference}
  {Differs Later : TestDifference → Prop}

theorem nothing (same : ∀ d, ¬ Differs d) : Finds start none Differs where
  from_start d differs := absurd differs (same d)
  first _ found := nomatch found
  all _ := same

/-- What comes before is found before. -/
theorem or (found : Finds start found? Differs) (later : Finds next later? Later)
    (before : ∀ d, Differs d → d.place ≤ next) (follows : start ≤ next) :
    Finds start (found?.or later?) fun d => Differs d ∨ Later d where
  from_start d differs := by
    rcases differs with sooner | late
    · exact found.from_start d sooner
    · exact Nat.le_trans follows (later.from_start d late)
  first d same := by
    cases found? with
    | some difference =>
      obtain rfl : difference = d := Option.some.inj same
      obtain ⟨differs, first⟩ := found.first difference rfl
      refine ⟨.inl differs, ?_⟩
      rintro other (sooner | late)
      · exact first other sooner
      · exact Nat.le_trans (before difference differs) (later.from_start other late)
    | none =>
      obtain ⟨differs, first⟩ := later.first d same
      refine ⟨.inr differs, ?_⟩
      rintro other (sooner | late)
      · exact absurd sooner (found.all rfl other)
      · exact first other late
  all nowhere := by
    rw [Option.or_eq_none_iff] at nowhere
    rintro d (sooner | late)
    · exact found.all nowhere.1 d sooner
    · exact later.all nowhere.2 d late

/-- A comparison of one thing that both have. -/
theorem compare {α : Type} [DecidableEq α] (left right : α) (difference : TestDifference) :
    Finds difference.place (if left ≠ right then some difference else none)
      fun other => left ≠ right ∧ other = difference where
  from_start d same := same.2 ▸ Nat.le_refl _
  first d found := by
    obtain ⟨differ, rfl⟩ : left ≠ right ∧ difference = d := by simpa using found
    exact ⟨⟨differ, rfl⟩, fun other same => same.2 ▸ Nat.le_refl _⟩
  all nowhere d differs := by
    rw [if_pos differs.1] at nowhere
    cases nowhere

/-- What is compared first is found first. -/
theorem step {α : Type} [DecidableEq α] (left right : α) (difference : TestDifference)
    (later : Finds next later? Later) (follows : difference.place ≤ next) :
    Finds difference.place (if left ≠ right then some difference else later?)
      fun d => left ≠ right ∧ d = difference ∨ Later d := by
  have both := (compare left right difference).or later (fun d same => same.2 ▸ follows) follows
  by_cases same : left = right
  · simpa [same] using both
  · simpa [same] using both

theorem congr (found : Finds start found? Differs) (same : ∀ d, Differs d ↔ Later d) :
    Finds start found? Later := by
  obtain rfl : Differs = Later := funext fun d => propext (same d)
  exact found

end Finds

/-! ## Differences of properties -/

theorem Check.Differs.place {left right : Check I} {index : Nat} {difference : TestDifference}
    (differs : left.Differs right index difference) : difference.place ≤ 3 * index + 6 := by
  cases differs <;> simp only [TestDifference.place] <;> omega

theorem Check.finds_difference? (left right : Check I) (index : Nat) :
    Finds (3 * index + 4) (left.difference? index right) (left.Differs right index) := by
  have shapes := Finds.compare left.shape right.shape (.comparison index left.shape right.shape)
  have counts := shapes.step left.preconditions.length right.preconditions.length
    (.preconditionCount index left.preconditions.length right.preconditions.length) (Nat.le_succ _)
  have descriptions := counts.step left.description right.description
    (.description index left.description right.description) (Nat.le_succ _)
  refine descriptions.congr fun d => ?_
  constructor
  · rintro (⟨differ, rfl⟩ | ⟨differ, rfl⟩ | ⟨differ, rfl⟩)
    · exact .description differ
    · exact .preconditionCount differ
    · exact .comparison differ
  · intro differs
    cases differs with
    | description differ => exact .inl ⟨differ, rfl⟩
    | preconditionCount differ => exact .inr (.inl ⟨differ, rfl⟩)
    | comparison differ => exact .inr (.inr ⟨differ, rfl⟩)

/-- What two lists of checks have where they differ, as far as both go. -/
def Check.DifferFrom (index : Nat) (lefts rights : List (Check I)) (difference : TestDifference) :
    Prop :=
  ∃ (k : Nat) (c d : Check I), lefts[k]? = some c ∧ rights[k]? = some d ∧
    c.Differs d (index + k) difference

theorem Check.differFrom_cons {index : Nat} {left right : Check I} {lefts rights : List (Check I)}
    {difference : TestDifference} :
    left.Differs right index difference ∨ DifferFrom (index + 1) lefts rights difference ↔
      DifferFrom index (left :: lefts) (right :: rights) difference := by
  constructor
  · rintro (differs | ⟨k, c, d, locatedLeft, locatedRight, differs⟩)
    · exact ⟨0, left, right, rfl, rfl, differs⟩
    · rw [← Nat.succ_eq_add_one, Nat.succ_add_eq_add_succ] at differs
      exact ⟨k + 1, c, d, locatedLeft, locatedRight, differs⟩
  · rintro ⟨k, c, d, locatedLeft, locatedRight, differs⟩
    cases k with
    | zero =>
      cases locatedLeft
      cases locatedRight
      exact .inl differs
    | succ k =>
      rw [← Nat.succ_add_eq_add_succ] at differs
      exact .inr ⟨k, c, d, locatedLeft, locatedRight, differs⟩

theorem Check.finds_firstDifference? (index : Nat) (lefts rights : List (Check I)) :
    Finds (3 * index + 4) (firstDifference? index lefts rights)
      (DifferFrom index lefts rights) := by
  induction lefts generalizing index rights with
  | nil =>
    refine .nothing ?_
    rintro d ⟨k, a, b, located, -, -⟩
    cases located
  | cons left lefts ih =>
    cases rights with
    | nil =>
      refine .nothing ?_
      rintro d ⟨k, a, b, -, located, -⟩
      cases located
    | cons right rights =>
      have later := ih (index + 1) rights
      rw [firstDifference?]
      refine .congr ((left.finds_difference? right index).or later ?_ ?_) fun d => differFrom_cons
      · intro d differs
        exact Nat.le_trans differs.place (by omega)
      · omega

/-! ## Differences of tests -/

theorem Test.finds_difference? (left : Test σ I) (right : Test τ I) :
    Finds 0 (left.difference? right) (left.Differs right) := by
  have properties := Check.finds_firstDifference? 0 left.properties right.properties
  have counts := properties.step left.properties.length right.properties.length
    (.propertyCount left.properties.length right.properties.length) (Nat.le_succ _)
  have kinds := counts.step left.generator.kind right.generator.kind
    (.generator left.generator.kind right.generator.kind) (Nat.le_succ _)
  have samples := kinds.step left.samples right.samples (.sampleCount left.samples right.samples)
    (Nat.le_succ _)
  have names := samples.step left.name right.name (.name left.name right.name) (Nat.le_succ _)
  refine names.congr fun d => ?_
  constructor
  · rintro (⟨differ, rfl⟩ | ⟨differ, rfl⟩ | ⟨differ, rfl⟩ | ⟨differ, rfl⟩ |
      ⟨k, c, d, locatedLeft, locatedRight, differs⟩)
    · exact .name differ
    · exact .sampleCount differ
    · exact .generator differ
    · exact .propertyCount differ
    · rw [Nat.zero_add] at differs
      exact .property locatedLeft locatedRight differs
  · intro differs
    cases differs with
    | name differ => exact .inl ⟨differ, rfl⟩
    | sampleCount differ => exact .inr (.inl ⟨differ, rfl⟩)
    | generator differ => exact .inr (.inr (.inl ⟨differ, rfl⟩))
    | propertyCount differ => exact .inr (.inr (.inr (.inl ⟨differ, rfl⟩)))
    | @property index c d _ locatedLeft locatedRight differs =>
      rw [← Nat.zero_add index] at differs
      exact .inr (.inr (.inr (.inr ⟨index, c, d, locatedLeft, locatedRight, differs⟩)))

/-! ## The other way round -/

theorem TestDifference.map_swap_step {α : Type} [DecidableEq α] {left right : α}
    {difference exchanged : TestDifference} {found? others? : Option TestDifference}
    (swapped : difference.swap = exchanged) (rest : found?.map swap = others?) :
    (if left ≠ right then some difference else found?).map swap =
      if right ≠ left then some exchanged else others? := by
  by_cases same : left = right
  · simp [same, rest]
  · simp [same, Ne.symm same, swapped]

theorem Check.map_swap_difference? (left right : Check I) (index : Nat) :
    (left.difference? index right).map TestDifference.swap = right.difference? index left :=
  TestDifference.map_swap_step rfl <| TestDifference.map_swap_step rfl <|
    TestDifference.map_swap_step rfl rfl

theorem Check.map_swap_firstDifference? (index : Nat) (lefts rights : List (Check I)) :
    (firstDifference? index lefts rights).map TestDifference.swap =
      firstDifference? index rights lefts := by
  induction lefts generalizing index rights with
  | nil => cases rights <;> rfl
  | cons left lefts ih =>
    cases rights with
    | nil => rfl
    | cons right rights =>
      rw [firstDifference?, firstDifference?, Option.map_or, map_swap_difference?, ih]

theorem Test.map_swap_difference? (left : Test σ I) (right : Test τ I) :
    (left.difference? right).map TestDifference.swap = right.difference? left :=
  TestDifference.map_swap_step rfl <| TestDifference.map_swap_step rfl <|
    TestDifference.map_swap_step rfl <| TestDifference.map_swap_step rfl <|
      Check.map_swap_firstDifference? 0 left.properties right.properties

/-! ## The validation -/

namespace Test

/-- The validation is an equivalence of tests, whatever the states of their generators. -/
theorem equivalence_validateEquivalent :
    Equivalence fun s t : (σ : Type) × Test σ I => s.2.validateEquivalent t.2 = .ok () where
  refl t := validateEquivalent_ok_iff.mpr ⟨rfl, rfl, rfl, rfl⟩
  symm valid := by
    obtain ⟨names, samples, kinds, outlines⟩ := validateEquivalent_ok_iff.mp valid
    exact validateEquivalent_ok_iff.mpr ⟨names.symm, samples.symm, kinds.symm, outlines.symm⟩
  trans valid valid' := by
    obtain ⟨names, samples, kinds, outlines⟩ := validateEquivalent_ok_iff.mp valid
    obtain ⟨names', samples', kinds', outlines'⟩ := validateEquivalent_ok_iff.mp valid'
    exact validateEquivalent_ok_iff.mpr
      ⟨names.trans names', samples.trans samples', kinds.trans kinds', outlines.trans outlines'⟩

end Test

/-- Two tests are accepted as equivalent exactly if their names, numbers of samples, kinds of
generators and the outlines of their properties are the same, which is an equivalence. Two tests
that are not accepted are refused for the difference of them that comes first, and the other way
round for the same difference with left and right exchanged. -/
theorem validation_reports_first_difference (left : Test σ I) (right : Test τ I) :
    (left.validateEquivalent right = .ok () ↔
      left.name = right.name ∧ left.samples = right.samples ∧
        left.generator.kind = right.generator.kind ∧
        left.properties.map Check.outline = right.properties.map Check.outline) ∧
    (match left.validateEquivalent right with
      | .ok _ => ∀ difference, ¬ left.Differs right difference
      | .error difference =>
        left.Differs right difference ∧
          ∀ other, left.Differs right other → difference.place ≤ other.place) ∧
    right.validateEquivalent left = (left.validateEquivalent right).mapError TestDifference.swap ∧
    Equivalence fun s t : (σ : Type) × Test σ I => s.2.validateEquivalent t.2 = .ok () := by
  refine ⟨Test.validateEquivalent_ok_iff, ?_, ?_, Test.equivalence_validateEquivalent⟩
  · have found := left.finds_difference? right
    rw [Test.validateEquivalent]
    cases same : left.difference? right with
    | none => exact found.all same
    | some difference => exact found.first difference same
  · rw [Test.validateEquivalent, Test.validateEquivalent, ← Test.map_swap_difference?]
    cases left.difference? right <;> rfl

end PropertyTesting
