import PropertyTesting.Proofs.Builder.Reading
import PropertyTesting.Proofs.Equivalence.Run

/-!
# Composed and fluent definitions

A comparison is a tree, which a composer gives as a whole and a chain of a fluent definition spells
out. A chain spells a tree if the tree is what remains of it without the marks of its groups. So a
block on the right of a connective is in a group, and all other groups are up to the writer. Every
tree can be spelled (`Comparison.tree_chain`).

On a builder, to write a chain is to add its tree (`Chain.write_eq_leaf`). Properties that are
defined one after the other in either style are therefore the same checks in the end (`composed_eq`,
`fluent_eq`).
-/

namespace PropertyTesting

variable {σ τ I O : Type}

/-! ## Spelling a tree -/

/-- The chain that spells a comparison with as few groups as possible. -/
def Comparison.chain : Comparison I O → Chain (LeafMethod I O)
  | .block op left right =>
    .join left.chain op (if right.isBlock then .group right.chain else .leaf (.leaf right))
  | comparison => .one (.leaf (.leaf comparison))

theorem Comparison.tree_chain [Output O] (comparison : Comparison I O) :
    (comparison.chain.map LeafMethod.comparison).tree = comparison := by
  induction comparison with
  | block op left right ihl ihr =>
    rw [chain, Chain.map, Chain.tree, ihl]
    cases right.isBlock with
    | true => exact congrArg (block op left) ihr
    | false => rfl
  | _ => rfl

/-- A property whose comparison is written in both styles. -/
structure WrittenProperty (I : Type) extends TypedProperty I where
  /-- What gives the comparison as a whole. -/
  compose : Composer I O → Comparison I O
  composes : compose .new = property.comparison
  /-- What spells the comparison out. -/
  chain : Chain (LeafMethod I O)
  spells : (chain.map LeafMethod.comparison).tree = property.comparison

/-- A property with its comparison as it is, and spelled with as few groups as possible. -/
def TypedProperty.written (p : TypedProperty I) : WrittenProperty I where
  toTypedProperty := p
  compose _ := p.property.comparison
  composes := rfl
  chain := p.property.comparison.chain
  spells :=
    letI := p.output
    p.property.comparison.tree_chain

/-! ## Definitions -/

namespace WrittenProperty

/-- Adds a property with its comparison as a whole. -/
def composed (b : InputTestBuilder σ I) (p : WrittenProperty I) : InputTestBuilder σ I :=
  letI := p.output
  (p.property.preconditions.foldl .given (b.property p.property.description)).thenSatisfies
    p.property.function p.compose

/-- Goes on after the description of a property to the end of its comparison. -/
def spelled (p : WrittenProperty I) (b : PropertyBuilder σ I) : ComparisonBuilder σ I p.O :=
  letI := p.output
  p.chain.write ((p.property.preconditions.foldl .given b).thenApply p.property.function)

end WrittenProperty

/-- Defines a test with the comparison of each property given as a whole. -/
def InputTestBuilder.composed (b : InputTestBuilder σ I) (properties : List (WrittenProperty I)) :
    Except BuilderError (Test σ I) :=
  (properties.foldl WrittenProperty.composed b).build

/-- Goes on after the description of a property to the end of a test whose comparisons are spelled
out. -/
def PropertyBuilder.fluent (b : PropertyBuilder σ I) (p : WrittenProperty I) :
    List (WrittenProperty I) → Except BuilderError (Test σ I)
  | [] =>
    letI := p.output
    (p.spelled b).build
  | next :: rest =>
    letI := p.output
    ((p.spelled b).property next.property.description).fluent next rest

/-- Defines a test with the comparison of each property spelled out. -/
def InputTestBuilder.fluent (b : InputTestBuilder σ I) :
    List (WrittenProperty I) → Except BuilderError (Test σ I)
  | [] => b.build
  | p :: rest => (b.property p.property.description).fluent p rest

/-! ## The same checks -/

/-- On a builder without a mistake that awaits the first operand, to write a chain is to add its
tree as a whole. -/
theorem Chain.write_eq_leaf [Output O] {b : ComparisonBuilder σ I O} (clean : b.test.error = none)
    (begun : b.draft.assembly = .empty) (chain : Chain (LeafMethod I O)) :
    chain.write b = b.leaf (chain.map LeafMethod.comparison).tree := by
  have assembles : b.draft.assembly.run (chain.map LeafMethod.comparison).calls =
      b.draft.assembly.run [.leaf (chain.map LeafMethod.comparison).tree] := by
    rw [begun]
    exact Assembly.run_chain _
  have ran : b.draft.assembly.run [.leaf (chain.map LeafMethod.comparison).tree] =
      .ok ⟨[(chain.map LeafMethod.comparison).tree], [], [], false⟩ := by
    rw [begun]
    rfl
  rw [chain.write_eq_foldl, foldl_call clean (assembles.trans ran)]
  exact (foldl_call clean ran).symm

theorem foldl_given (b : PropertyBuilder σ I) (preconditions : List (I → Bool)) :
    preconditions.foldl .given b =
      { b with preconditions := b.preconditions ++ preconditions } := by
  induction preconditions generalizing b with
  | nil => simp
  | cons condition rest ih => simp [ih, PropertyBuilder.given]

/-- A test in the making with further checks. -/
def TestDraft.withChecks (t : TestDraft σ I) (checks : List (Check I)) : TestDraft σ I :=
  { t with properties := t.properties ++ checks }

theorem TestDraft.withChecks_nil (t : TestDraft σ I) : t.withChecks [] = t := by
  simp [withChecks]

theorem TestDraft.withChecks_append (t : TestDraft σ I) (first second : List (Check I)) :
    t.withChecks (first ++ second) = (t.withChecks first).withChecks second := by
  simp [withChecks]

/-- A test in the making with a property that is finished, but not yet one of its checks. -/
def Property.atEnd (p : Property I O) (t : TestDraft σ I) : ComparisonBuilder σ I O :=
  ⟨t, ⟨some p.description, p.preconditions, some p.function, ⟨[p.comparison], [], [], false⟩⟩⟩

theorem Property.leaf_atEnd (p : Property I O) {t : TestDraft σ I} (clean : t.error = none) :
    (PropertyBuilder.thenApply ⟨t, p.description, p.preconditions⟩ p.function).leaf p.comparison =
      p.atEnd t := by
  rw [ComparisonBuilder.leaf, ComparisonBuilder.call, PropertyBuilder.thenApply, clean]
  rfl

theorem Property.commit_atEnd [Output O] {p : Property I O}
    (named : Text.isBlank p.description = false) {t : TestDraft σ I} (clean : t.error = none) :
    (p.atEnd t).commit = t.withChecks [p.toCheck] := by
  simp [ComparisonBuilder.commit, atEnd, clean, complete_finished named, TestDraft.withChecks]

namespace WrittenProperty

variable {t : TestDraft σ I} {p : WrittenProperty I} {properties : List (WrittenProperty I)}

theorem spelled_eq (clean : t.error = none) :
    p.spelled ⟨t, p.property.description, []⟩ = p.property.atEnd t := by
  let _ := p.output
  rw [spelled, foldl_given, Chain.write_eq_leaf clean rfl, p.spells]
  exact p.property.leaf_atEnd clean

theorem composed_step (clean : t.error = none)
    (named : Text.isBlank p.property.description = false) :
    composed ⟨t⟩ p = ⟨t.withChecks [p.toCheck]⟩ := by
  let _ := p.output
  rw [composed, foldl_given, PropertyBuilder.thenSatisfies, p.composes, InputTestBuilder.property,
    List.nil_append, p.property.leaf_atEnd clean, p.property.commit_atEnd named clean]
  rfl

theorem composed_eq (clean : t.error = none)
    (named : ∀ p ∈ properties, Text.isBlank p.property.description = false) :
    InputTestBuilder.composed ⟨t⟩ properties =
      (t.withChecks (properties.map (·.toCheck))).finish := by
  induction properties generalizing t with
  | nil =>
    rw [List.map_nil, t.withChecks_nil]
    rfl
  | cons p rest ih =>
    rw [List.forall_mem_cons] at named
    have after : (t.withChecks [p.toCheck]).error = none := clean
    rw [InputTestBuilder.composed, List.foldl_cons, composed_step clean named.1]
    exact (ih after named.2).trans (congrArg TestDraft.finish
      (t.withChecks_append [p.toCheck] _).symm)

theorem fluent_eq (clean : t.error = none)
    (named : ∀ q ∈ p :: properties, Text.isBlank q.property.description = false) :
    PropertyBuilder.fluent ⟨t, p.property.description, []⟩ p properties =
      (t.withChecks ((p :: properties).map (·.toCheck))).finish := by
  induction properties generalizing t p with
  | nil =>
    let _ := p.output
    rw [List.forall_mem_singleton] at named
    rw [PropertyBuilder.fluent, spelled_eq clean]
    exact congrArg TestDraft.finish (p.property.commit_atEnd named clean)
  | cons next rest ih =>
    let _ := p.output
    rw [List.forall_mem_cons] at named
    have after : (t.withChecks [p.toCheck]).error = none := clean
    rw [PropertyBuilder.fluent, spelled_eq clean, ComparisonBuilder.property,
      p.property.commit_atEnd named.1 clean]
    exact (ih after named.2).trans (congrArg TestDraft.finish
      (t.withChecks_append [p.toCheck] _).symm)

end WrittenProperty

/-- The verdict of a property on a sample. -/
def TypedProperty.verdict (p : TypedProperty I) (sample : I) : Verdict :=
  letI := p.output
  p.property.comparison.evaluate sample (p.property.function sample)

/-- Two tests have the properties of a list, in its order: at each place both accept the samples
that meet all preconditions, and give the verdict of the comparison on the value of the function. -/
def SameChecks (left : Test σ I) (right : Test τ I) (properties : List (TypedProperty I)) : Prop :=
  left.properties.length = properties.length ∧ right.properties.length = properties.length ∧
  ∀ (k : Nat) (p : TypedProperty I), properties[k]? = some p → ∃ l r : Check I,
    left.properties[k]? = some l ∧ right.properties[k]? = some r ∧ ∀ sample,
      l.accepts sample = r.accepts sample ∧
      r.accepts sample = p.property.preconditions.all (· sample) ∧
      l.verdict sample = r.verdict sample ∧ r.verdict sample = p.verdict sample

theorem WrittenProperty.agree (header : TestBuilder) {left : Generator σ I} {right : Generator τ I}
    (kinds : left.kind = right.kind) {properties : List (WrittenProperty I)}
    (named : ∀ p ∈ properties, Text.isBlank p.property.description = false) :
    ∃ (composed : Test σ I) (fluent : Test τ I),
      (header.drawingFrom left).composed properties = .ok composed ∧
      (header.drawingFrom right).fluent properties = .ok fluent ∧
      composed.validateEquivalent fluent = .ok () ∧ fluent.validateEquivalent composed = .ok () ∧
      SameChecks composed fluent (properties.map (·.toTypedProperty)) := by
  let checks := properties.map (·.toCheck)
  have ofFluent : (header.drawingFrom right).fluent properties =
      .ok ⟨header.name, header.samples, right, checks⟩ := by
    cases properties with
    | nil => rfl
    | cons p rest => exact WrittenProperty.fluent_eq rfl named
  refine ⟨⟨header.name, header.samples, left, checks⟩, _, WrittenProperty.composed_eq rfl named,
    ofFluent, ?_, ?_, by simp [checks], by simp [checks], ?_⟩
  · exact Test.validateEquivalent_ok_iff.mpr ⟨rfl, rfl, kinds, rfl⟩
  · exact Test.validateEquivalent_ok_iff.mpr ⟨rfl, rfl, kinds.symm, rfl⟩
  · intro k p located
    rw [List.getElem?_map, Option.map_eq_some_iff] at located
    obtain ⟨written, located, rfl⟩ := located
    have checked : checks[k]? = some written.toCheck := by
      rw [List.getElem?_map, located]
      rfl
    exact ⟨written.toCheck, written.toCheck, checked, checked, fun sample => ⟨rfl, rfl, rfl, rfl⟩⟩

/-- Properties whose descriptions are not blank can be written in both styles. In whatever way that
is done, the definition with each comparison given as a whole and the one with each of them spelled
out, under the same header, define tests that are accepted as equivalent and have the same
checks. -/
theorem styles_agree (header : TestBuilder) {left : Generator σ I} {right : Generator τ I}
    (kinds : left.kind = right.kind) {properties : List (TypedProperty I)}
    (named : ∀ p ∈ properties, Text.isBlank p.property.description = false) :
    (∃ written : List (WrittenProperty I), written.map (·.toTypedProperty) = properties) ∧
    ∀ written : List (WrittenProperty I), written.map (·.toTypedProperty) = properties →
      ∃ (composed : Test σ I) (fluent : Test τ I),
        (header.drawingFrom left).composed written = .ok composed ∧
        (header.drawingFrom right).fluent written = .ok fluent ∧
        composed.validateEquivalent fluent = .ok () ∧ fluent.validateEquivalent composed = .ok () ∧
        SameChecks composed fluent properties := by
  constructor
  · have kept : (fun p : TypedProperty I => p.written.toTypedProperty) = id := rfl
    refine ⟨properties.map TypedProperty.written, ?_⟩
    rw [List.map_map, Function.comp_def, kept, List.map_id]
  · rintro written rfl
    exact WrittenProperty.agree header kinds fun p member =>
      named p.toTypedProperty (List.mem_map_of_mem member)

/-- Of even numbers: less than 10, or both greater than 20 and different from 30. -/
def exInRange : WrittenProperty Nat where
  property :=
    { description := "in range"
      preconditions := [fun n => n % 2 == 0]
      function := fun n => Value.integer (.ofNat n)
      comparison := .block .or (.ordered (.integer 10) .less)
        (.block .and (.ordered (.integer 20) .greater) (.notEquals (.integer 30))) }
  compose c := c.or (c.compareTo (.integer 10) .less)
    (c.and (c.compareTo (.integer 20) .greater) (c.notEquals (.integer 30)))
  composes := rfl
  chain := exRange
  spells := rfl

/-- Less than 50, or odd, of the numbers less than 100 other than 5; with groups that are not
needed. -/
def exSmall : WrittenProperty Nat where
  property :=
    { description := "small"
      preconditions := [fun n => n < 100, fun n => n != 5]
      function := fun n => decide (n < 50)
      comparison := .block .or (.equals true) (.equalsOf fun n => n % 2 == 0) }
  compose c := c.or (c.equals true) (c.equalsOf fun n => n % 2 == 0)
  composes := rfl
  chain := .one (.group (.join (.one (.group (.one (.leaf (.equals true))))) .or
    (.leaf (.equalsOf fun n => n % 2 == 0))))
  spells := rfl

/-- The even numbers in their order. -/
def exEvens : Generator Nat Nat :=
  ⟨"naturals", fun n => (2 * n, n + 1), 0⟩

theorem styles_agree_exSmall :
    exNaturals.kind = exEvens.kind ∧
    (∀ p ∈ [exInRange.toTypedProperty, exSmall.toTypedProperty],
      Text.isBlank p.property.description = false) ∧
    ∃ composed fluent : Test Nat Nat,
      ((TestBuilder.named "numbers").drawingFrom exNaturals).composed [exInRange, exSmall] =
        .ok composed ∧
      ((TestBuilder.named "numbers").drawingFrom exEvens).fluent [exInRange, exSmall] = .ok fluent ∧
      composed.validateEquivalent fluent = .ok () ∧ fluent.validateEquivalent composed = .ok () ∧
      SameChecks composed fluent [exInRange.toTypedProperty, exSmall.toTypedProperty] := by
  have kinds : exNaturals.kind = exEvens.kind := rfl
  have named : ∀ p ∈ [exInRange.toTypedProperty, exSmall.toTypedProperty],
      Text.isBlank p.property.description = false := by
    simp only [List.forall_mem_cons]
    exact ⟨by decide, by decide, List.forall_mem_nil _⟩
  exact ⟨kinds, named, (styles_agree (.named "numbers") kinds named).2 [exInRange, exSmall] rfl⟩

end PropertyTesting
