import PropertyTesting.Builder.Composer
import PropertyTesting.Draft
import PropertyTesting.Test

/-!
# Building tests

A test is built step by step: its header, its generator, and then its properties, each with its
description, its preconditions, its function and its comparison. The first mistake is kept: from
then on calls change nothing but the kind of builder, and building reports it.
-/

namespace PropertyTesting

/-- A test under construction. -/
structure TestDraft (σ I : Type) where
  name : String
  samples : Nat
  generator : Generator σ I
  properties : List (Check I)
  /-- The first mistake that was made. -/
  error : Option BuilderError

namespace TestDraft

variable {σ I : Type}

/-- Keeps the mistake of a failed call unless there was an earlier one. -/
def latch {α : Type} (t : TestDraft σ I) : Except BuilderError α → TestDraft σ I
  | .ok _ => t
  | .error error => if t.error.isNone then { t with error := some error } else t

/-- The test, or the first mistake. -/
def finish (t : TestDraft σ I) : Except BuilderError (Test σ I) :=
  match t.error with
  | some error => .error error
  | none => .ok ⟨t.name, t.samples, t.generator, t.properties⟩

end TestDraft

/-- The header of a test. -/
structure TestBuilder where
  name : String
  samples : Nat

/-- A test that awaits its next property. -/
structure InputTestBuilder (σ I : Type) where
  test : TestDraft σ I

/-- A test with a property that awaits its function. -/
structure PropertyBuilder (σ I : Type) where
  test : TestDraft σ I
  description : String
  preconditions : List (I → Bool)

/-- A test with a property that awaits the rest of its comparison. -/
structure ComparisonBuilder (σ I O : Type) where
  test : TestDraft σ I
  draft : PropertyDraft I O

variable {σ I O : Type}

namespace TestBuilder

/-- A test with a name and the usual number of samples. -/
def named (name : String) : TestBuilder :=
  ⟨name, defaultSamples⟩

/-- Sets the number of samples. -/
def withSamples (b : TestBuilder) (samples : Nat) : TestBuilder :=
  { b with samples }

/-- Sets the generator, and with it the type of the samples. -/
def drawingFrom (b : TestBuilder) (generator : Generator σ I) : InputTestBuilder σ I :=
  ⟨⟨b.name, b.samples, generator, [], none⟩⟩

open Text in
def render (b : TestBuilder) : String :=
  record "TestBuilder" [("name", quote b.name), ("samples", toString b.samples)]

end TestBuilder

namespace ComparisonBuilder

/-- Does a call unless a mistake was made before it. -/
def call (b : ComparisonBuilder σ I O) (call : ChainCall I O) : ComparisonBuilder σ I O :=
  if b.test.error.isSome then b
  else
    let (result, assembly) := b.draft.assembly.call call
    ⟨b.test.latch result, { b.draft with assembly }⟩

/-- Adds a comparison as an operand. -/
def leaf (b : ComparisonBuilder σ I O) (comparison : Comparison I O) : ComparisonBuilder σ I O :=
  b.call (.leaf comparison)

/-- Goes on with a condition that must hold as well. -/
def and (b : ComparisonBuilder σ I O) : ComparisonBuilder σ I O :=
  b.call (.operator .and)

/-- Goes on with a condition that may hold instead. -/
def or (b : ComparisonBuilder σ I O) : ComparisonBuilder σ I O :=
  b.call (.operator .or)

/-- Opens a group. -/
def openGroup (b : ComparisonBuilder σ I O) : ComparisonBuilder σ I O :=
  b.call .openGroup

/-- Closes the innermost group. -/
def closeGroup (b : ComparisonBuilder σ I O) : ComparisonBuilder σ I O :=
  b.call .closeGroup

/-- The result is equal to a literal. -/
def equals (b : ComparisonBuilder σ I O) (expected : O) : ComparisonBuilder σ I O :=
  b.leaf (.equals expected)

/-- The result is different from a literal. -/
def notEquals (b : ComparisonBuilder σ I O) (expected : O) : ComparisonBuilder σ I O :=
  b.leaf (.notEquals expected)

/-- The result is equal to the value of a function at the sample. -/
def equalsOf (b : ComparisonBuilder σ I O) (expected : I → O) : ComparisonBuilder σ I O :=
  b.leaf (.equalsOf expected)

/-- The result is different from the value of a function at the sample. -/
def notEqualsOf (b : ComparisonBuilder σ I O) (expected : I → O) : ComparisonBuilder σ I O :=
  b.leaf (.notEqualsOf expected)

section Ordered

variable [Output O]

/-- The result stands in a relation to a literal. -/
def compareTo (b : ComparisonBuilder σ I O) (expected : O) (op : OrderOp) :
    ComparisonBuilder σ I O :=
  b.leaf (.ordered expected op)

/-- The result stands in a relation to the value of a function at the sample. -/
def compareToOf (b : ComparisonBuilder σ I O) (expected : I → O) (op : OrderOp) :
    ComparisonBuilder σ I O :=
  b.leaf (.orderedOf expected op)

/-- The result is greater than a literal. -/
def greaterThan (b : ComparisonBuilder σ I O) (expected : O) : ComparisonBuilder σ I O :=
  b.compareTo expected .greater

/-- The result is greater than the value of a function at the sample. -/
def greaterThanOf (b : ComparisonBuilder σ I O) (expected : I → O) : ComparisonBuilder σ I O :=
  b.compareToOf expected .greater

/-- The result is less than a literal. -/
def lessThan (b : ComparisonBuilder σ I O) (expected : O) : ComparisonBuilder σ I O :=
  b.compareTo expected .less

/-- The result is less than the value of a function at the sample. -/
def lessThanOf (b : ComparisonBuilder σ I O) (expected : I → O) : ComparisonBuilder σ I O :=
  b.compareToOf expected .less

/-- The result is ordered as equal to a literal. -/
def equalOrder (b : ComparisonBuilder σ I O) (expected : O) : ComparisonBuilder σ I O :=
  b.compareTo expected .equal

/-- The result is ordered as equal to the value of a function at the sample. -/
def equalOrderOf (b : ComparisonBuilder σ I O) (expected : I → O) : ComparisonBuilder σ I O :=
  b.compareToOf expected .equal

end Ordered

/-- Adds the finished property to the test, unless a mistake was made. -/
def commit [Output O] (b : ComparisonBuilder σ I O) : TestDraft σ I :=
  if b.test.error.isSome then b.test
  else
    match b.draft.complete.1 with
    | .ok property => { b.test with properties := b.test.properties ++ [property.toCheck] }
    | .error error => b.test.latch (.error error : Except BuilderError Unit)

/-- Ends the property and begins the next one. -/
def property [Output O] (b : ComparisonBuilder σ I O) (description : String) :
    PropertyBuilder σ I :=
  ⟨b.commit, description, []⟩

/-- Ends the property and gives the test. -/
def build [Output O] (b : ComparisonBuilder σ I O) : Except BuilderError (Test σ I) :=
  b.commit.finish

open Text in
def render (b : ComparisonBuilder σ I O) : String :=
  openRecord "ComparisonBuilder"
    [("test", quote b.test.name),
     ("assembler", b.draft.assembly.render),
     ("error", optional BuilderError.name b.test.error)]

end ComparisonBuilder

namespace PropertyBuilder

/-- Adds a precondition. -/
def given (b : PropertyBuilder σ I) (precondition : I → Bool) : PropertyBuilder σ I :=
  { b with preconditions := b.preconditions ++ [precondition] }

/-- Sets the function under test, and with it the type of the results. -/
def thenApply (b : PropertyBuilder σ I) (function : I → O) : ComparisonBuilder σ I O :=
  ⟨b.test,
    ((PropertyDraft.empty.describe b.description).givenAll b.preconditions).testing function⟩

/-- Sets the function under test and the whole comparison, which ends the property. -/
def thenSatisfies [Output O] (b : PropertyBuilder σ I) (function : I → O)
    (compose : Composer I O → Comparison I O) : InputTestBuilder σ I :=
  ⟨((b.thenApply function).leaf (compose .new)).commit⟩

/-- A property without a function is a mistake; so is, before that, a blank description. -/
def build (b : PropertyBuilder σ I) : Except BuilderError (Test σ I) :=
  match b.test.error with
  | some error => .error error
  | none => .error (if Text.isBlank b.description then .missingDescription else .missingFunction)

open Text in
def render (b : PropertyBuilder σ I) : String :=
  openRecord "PropertyBuilder"
    [("test", quote b.test.name),
     ("description", quote b.description),
     ("preconditions", toString b.preconditions.length)]

end PropertyBuilder

namespace InputTestBuilder

/-- Sets the number of samples. -/
def withSamples (b : InputTestBuilder σ I) (samples : Nat) : InputTestBuilder σ I :=
  ⟨{ b.test with samples }⟩

/-- Begins a property. -/
def property (b : InputTestBuilder σ I) (description : String) : PropertyBuilder σ I :=
  ⟨b.test, description, []⟩

/-- Gives the test. -/
def build (b : InputTestBuilder σ I) : Except BuilderError (Test σ I) :=
  b.test.finish

open Text in
def render (b : InputTestBuilder σ I) : String :=
  openRecord "InputTestBuilder"
    [("name", quote b.test.name),
     ("properties", toString b.test.properties.length),
     ("error", optional BuilderError.name b.test.error)]

end InputTestBuilder

end PropertyTesting
