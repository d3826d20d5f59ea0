import PropertyTesting.Proofs.Equivalence.Validation
import PropertyTesting.Proofs.Run.Trials

/-!
# Runs of equivalent tests

Two tests that are accepted as equivalent run alike if their functions do (`run_equivalent`). The
validation sees functions as opaque and literals as their texts. So it has to be given that texts
tell literals apart and that functions which correspond have the same values; then the comparisons
are the same (`eq_of_shape`), the checks are the same (`Alike.toCheck_eq`), and a run depends on
nothing else but the samples (`run_congr`).

The functions that order values are among those that must correspond. They too leave no trace in a
shape, and leaves that differ in nothing else can tell runs apart (`run_tells_orders_apart`).
-/

namespace PropertyTesting

variable {σ τ I O ρ : Type}

/-! ## Comparisons of the same shape -/

/-- The functions at leaves that correspond have the same values. Leaves correspond if both are
reached on the same way and both take their expected value, of equality or of order, from a
function. -/
def Comparison.ExpectAlike : Comparison I O → Comparison I O → Prop
  | functionEquality f _, functionEquality g _ => ∀ sample, f sample = g sample
  | functionOrder f .., functionOrder g .. => ∀ sample, f sample = g sample
  | block _ left right, block _ left' right' => ExpectAlike left left' ∧ ExpectAlike right right'
  | _, _ => True

/-- Ordering leaves that correspond, both on literals or both on functions, order values alike. -/
def Comparison.OrderAlike : Comparison I O → Comparison I O → Prop
  | literalOrder _ _ f, literalOrder _ _ g => ∀ x y, f x y = g x y
  | functionOrder _ _ f, functionOrder _ _ g => ∀ x y, f x y = g x y
  | block _ left right, block _ left' right' => OrderAlike left left' ∧ OrderAlike right right'
  | _, _ => True

/-- If texts tell values apart, a shape leaves nothing open but the functions. -/
theorem Comparison.eq_of_shape [Output O]
    (faithful : ∀ x y : O, Shown.shown x = Shown.shown y → x = y) {left right : Comparison I O}
    (same : left.shape = right.shape) (alike : ExpectAlike left right)
    (ordered : OrderAlike left right) : left = right := by
  induction left generalizing right with
  | literalEquality expected checkEqual =>
    cases right with
    | literalEquality expected' checkEqual' =>
      obtain ⟨texts, rfl⟩ := ComparisonShape.literalEquality.inj same
      rw [faithful _ _ texts]
    | _ => cases same
  | functionEquality expected checkEqual =>
    cases right with
    | functionEquality expected' checkEqual' =>
      obtain rfl := ComparisonShape.functionEquality.inj same
      rw [show expected = expected' from funext alike]
    | _ => cases same
  | literalOrder expected op order =>
    cases right with
    | literalOrder expected' op' order' =>
      obtain ⟨texts, rfl⟩ := ComparisonShape.literalOrder.inj same
      rw [faithful _ _ texts, show order = order' from funext fun x => funext (ordered x)]
    | _ => cases same
  | functionOrder expected op order =>
    cases right with
    | functionOrder expected' op' order' =>
      obtain rfl := ComparisonShape.functionOrder.inj same
      rw [show expected = expected' from funext alike,
        show order = order' from funext fun x => funext (ordered x)]
    | _ => cases same
  | block op l r ihl ihr =>
    cases right with
    | block op' l' r' =>
      obtain ⟨rfl, sameLeft, sameRight⟩ := ComparisonShape.block.inj same
      rw [ihl sameLeft alike.1 ordered.1, ihr sameRight alike.2 ordered.2]
    | _ => cases same

/-! ## Properties of the same outline -/

/-- A property with the type of its results. -/
structure TypedProperty (I : Type) : Type 1 where
  {O : Type}
  [output : Output O]
  property : Property I O

/-- The check of a property. -/
def TypedProperty.toCheck (p : TypedProperty I) : Check I :=
  letI := p.output
  p.property.toCheck

/-- Two properties with results of the same type, whose texts tell them apart, have the same
functions as far as these correspond: preconditions at the same place, the functions under test, and
the functions at leaves of the comparisons that correspond. -/
inductive TypedProperty.Alike : TypedProperty I → TypedProperty I → Prop
  | of {O : Type} [Output O] {left right : Property I O}
      (faithful : ∀ x y : O, Shown.shown x = Shown.shown y → x = y)
      (preconditions : ∀ (k : Nat) (f g : I → Bool), left.preconditions[k]? = some f →
        right.preconditions[k]? = some g → ∀ sample, f sample = g sample)
      (function : ∀ sample, left.function sample = right.function sample)
      (expected : left.comparison.ExpectAlike right.comparison) :
      Alike ⟨left⟩ ⟨right⟩

/-- Two properties with results of the same type order them alike, at leaves that correspond. -/
inductive TypedProperty.OrderAlike : TypedProperty I → TypedProperty I → Prop
  | of {O : Type} [Output O] {left right : Property I O}
      (ordered : left.comparison.OrderAlike right.comparison) : OrderAlike ⟨left⟩ ⟨right⟩

/-- Lists of the same length with the same elements at the same places are the same. -/
theorem eq_of_getElem? {α : Type} {left right : List α} (sameLength : left.length = right.length)
    (same : ∀ (k : Nat) (a b : α), left[k]? = some a → right[k]? = some b → a = b) :
    left = right := by
  refine List.ext_getElem sameLength fun k insideLeft insideRight => ?_
  exact same k _ _ (List.getElem?_eq_getElem insideLeft) (List.getElem?_eq_getElem insideRight)

theorem TypedProperty.Alike.toCheck_eq {left right : TypedProperty I} (alike : Alike left right)
    (ordered : OrderAlike left right) (same : left.toCheck.outline = right.toCheck.outline) :
    left.toCheck = right.toCheck := by
  cases alike with
  | @of O _ l r faithful preconditions function expected =>
    obtain ⟨orders⟩ := ordered
    obtain ⟨descriptions, counts, shapes⟩ :
        l.description = r.description ∧ l.preconditions.length = r.preconditions.length ∧
          l.comparison.shape = r.comparison.shape := by
      simpa [Check.outline, toCheck, Property.toCheck] using same
    have conditions : l.preconditions = r.preconditions :=
      eq_of_getElem? counts fun k f g left right => funext (preconditions k f g left right)
    have comparisons : l.comparison = r.comparison :=
      Comparison.eq_of_shape faithful shapes expected orders
    have functions : l.function = r.function := funext function
    have properties : l = r := by
      cases l
      cases r
      simp_all
    rw [properties]

/-! ## Runs -/

theorem Generator.trials_congr {left : Generator σ I} {right : Generator τ I}
    (stream : ∀ i, left.sample i = right.sample i) (checks : List (Check I)) (start n : Nat) :
    left.trials checks start n = right.trials checks start n := by
  simp only [trials, stream]

/-- The outcome and the log of a run depend on the name of the test, the number of samples, the
properties and the samples that are drawn. -/
theorem Executor.run_congr [Shown I] (left : Executor σ I ρ) (right : Executor τ I ρ)
    (name : left.test.name = right.test.name) (samples : left.samples = right.samples)
    (properties : left.test.properties = right.test.properties)
    (stream : ∀ i, left.test.generator.sample i = right.test.generator.sample i)
    (sink : left.sink = right.sink) (log : ρ) :
    (left.run log).1 = (right.run log).1 ∧ (left.run log).2.2 = (right.run log).2.2 := by
  have trials : left.trials = right.trials := by
    rw [Executor.trials, Executor.trials, Generator.trials_congr stream, properties, samples]
  have summary : left.summary = right.summary := by
    rw [Executor.summary, Executor.summary, name, samples, trials]
  rw [run_eq, run_eq, trials, summary, name, samples, sink]
  cases right.trials.findSome? (Trial.failure? right.test.name) <;> exact ⟨rfl, rfl⟩

/-- Two tests that are accepted as equivalent, whose functions have the same values where they
correspond, those that order values included, give the same result and tell the same events when
they are run on the same samples. -/
theorem run_equivalent [Shown I] {left : Test σ I} {right : Test τ I}
    {lefts rights : List (TypedProperty I)}
    (ofLefts : left.properties = lefts.map TypedProperty.toCheck)
    (ofRights : right.properties = rights.map TypedProperty.toCheck)
    (valid : left.validateEquivalent right = .ok ())
    (alike : ∀ (k : Nat) (l r : TypedProperty I), lefts[k]? = some l → rights[k]? = some r →
      l.Alike r)
    (ordered : ∀ (k : Nat) (l r : TypedProperty I), lefts[k]? = some l → rights[k]? = some r →
      l.OrderAlike r)
    (stream : ∀ i, left.generator.sample i = right.generator.sample i) (sink : RunSink ρ)
    (log : ρ) :
    (((Executor.ofTest left).withSink sink).run log).1 =
        (((Executor.ofTest right).withSink sink).run log).1 ∧
      (((Executor.ofTest left).withSink sink).run log).2.2 =
        (((Executor.ofTest right).withSink sink).run log).2.2 := by
  obtain ⟨names, samples, -, outlines⟩ := Test.validateEquivalent_ok_iff.mp valid
  have properties : left.properties = right.properties := by
    refine eq_of_getElem? (by simpa using congrArg List.length outlines) ?_
    intro k c d locatedLeft locatedRight
    have same : c.outline = d.outline := by
      have at_k := congrArg (·[k]?) outlines
      simpa [locatedLeft, locatedRight] using at_k
    rw [ofLefts, List.getElem?_map] at locatedLeft
    rw [ofRights, List.getElem?_map] at locatedRight
    obtain ⟨l, locatedL, rfl⟩ := Option.map_eq_some_iff.mp locatedLeft
    obtain ⟨r, locatedR, rfl⟩ := Option.map_eq_some_iff.mp locatedRight
    exact (alike k l r locatedL locatedR).toCheck_eq (ordered k l r locatedL locatedR) same
  exact ((Executor.ofTest left).withSink sink).run_congr ((Executor.ofTest right).withSink sink)
    names samples properties stream rfl log

theorem natural_injective (x y : Nat) (same : Shown.shown x = Shown.shown y) : x = y := by
  have texts : toString x = toString y := same
  have digits := congrArg (fun text => Nat.ofDigitChars 10 text.toList 0) texts
  simpa [Nat.toString_eq_ofList_toDigits] using digits

/-- The numbers from three on. -/
def exFromThree : Generator Nat Nat :=
  ⟨"from three", fun n => (n, n + 1), 3⟩

/-- Positive numbers are below five, or what is expected. -/
def exLimit (expected : Nat → Nat) (order : Comparator Nat) : TypedProperty Nat where
  property :=
    { description := "limited"
      preconditions := [fun n => 0 < n]
      function := id
      comparison := .block .or (.literalOrder 5 .less order) (.functionEquality expected true) }

def exTest (expected : Nat → Nat) (order : Comparator Nat) : Test Nat Nat :=
  ⟨"limit", 2, exFromThree, [(exLimit expected order).toCheck]⟩

/-- The order of numbers, asked from the other side. -/
def exFlipped : Comparator Nat :=
  fun a b => some (compare b a).swap

/-- No number is ordered relative to another. -/
def exUnordered : Comparator Nat :=
  fun _ _ => none

theorem alike_exLimit (order order' : Comparator Nat) :
    (exLimit (fun n => n + n) order).Alike (exLimit (2 * ·) order') := by
  refine .of natural_injective ?_ (fun _ => rfl) ⟨trivial, fun n => (Nat.two_mul n).symm⟩
  intro k f g locatedF locatedG sample
  exact congrFun (Option.some.inj (locatedF.symm.trans locatedG)) sample

theorem forall_singleton {related : TypedProperty I → TypedProperty I → Prop}
    {p q : TypedProperty I} (holds : related p q) (k : Nat) (l r : TypedProperty I)
    (locatedL : [p][k]? = some l) (locatedR : [q][k]? = some r) : related l r := by
  cases k with
  | zero =>
    cases locatedL
    cases locatedR
    exact holds
  | succ k => cases locatedL

theorem run_equivalent_exTest :
    (exTest (fun n => n + n) Output.compare?).validateEquivalent (exTest (2 * ·) exFlipped) =
        .ok () ∧
      (((Executor.ofTest (exTest (fun n => n + n) Output.compare?)).withSink .memory).run []).1 =
        (((Executor.ofTest (exTest (2 * ·) exFlipped)).withSink .memory).run []).1 ∧
      (((Executor.ofTest (exTest (fun n => n + n) Output.compare?)).withSink .memory).run []).2.2 =
        (((Executor.ofTest (exTest (2 * ·) exFlipped)).withSink .memory).run []).2.2 := by
  have ofLeft : (exTest (fun n => n + n) Output.compare?).properties =
      [exLimit (fun n => n + n) Output.compare?].map TypedProperty.toCheck := rfl
  have ofRight : (exTest (2 * ·) exFlipped).properties =
      [exLimit (2 * ·) exFlipped].map TypedProperty.toCheck := rfl
  have valid : (exTest (fun n => n + n) Output.compare?).validateEquivalent
      (exTest (2 * ·) exFlipped) = .ok () := rfl
  have ordered :
      (exLimit (fun n => n + n) Output.compare?).OrderAlike (exLimit (2 * ·) exFlipped) :=
    .of ⟨fun a b => congrArg some Std.OrientedCmp.eq_swap, trivial⟩
  exact ⟨valid, run_equivalent ofLeft ofRight valid (forall_singleton (alike_exLimit _ _))
    (forall_singleton ordered) (fun _ => rfl) .memory []⟩

/-- Two tests are accepted as equivalent and have the same samples and the same functions, but for
the one that orders values at a leaf: in the second test it orders none. So the first test passes
and the second fails. -/
theorem run_tells_orders_apart :
    (exTest (fun n => n + n) Output.compare?).validateEquivalent (exTest (2 * ·) exUnordered) =
        .ok () ∧
      (exTest (fun n => n + n) Output.compare?).properties =
        [exLimit (fun n => n + n) Output.compare?].map TypedProperty.toCheck ∧
      (exTest (2 * ·) exUnordered).properties =
        [exLimit (2 * ·) exUnordered].map TypedProperty.toCheck ∧
      (∀ (k : Nat) (l r : TypedProperty Nat),
        [exLimit (fun n => n + n) Output.compare?][k]? = some l →
          [exLimit (2 * ·) exUnordered][k]? = some r → l.Alike r) ∧
      (∀ i, (exTest (fun n => n + n) Output.compare?).generator.sample i =
        (exTest (2 * ·) exUnordered).generator.sample i) ∧
      ((Executor.ofTest (exTest (fun n => n + n) Output.compare?)).run ()).1 =
        .ok ⟨"limit", 2, 2, 0⟩ ∧
      ((Executor.ofTest (exTest (2 * ·) exUnordered)).run ()).1 =
        .error ⟨"limit", "limited", 0, "3",
          .allAlternativesFailed (.incomparable "5" "3") (.equalityMismatch "6" "3" true)⟩ :=
  ⟨rfl, rfl, rfl, forall_singleton (alike_exLimit _ _), fun _ => rfl, rfl, rfl⟩

end PropertyTesting
