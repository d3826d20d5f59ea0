import PropertyTesting.Generator
import PropertyTesting.Property

/-!
# Tests

A test claims its properties of the samples that its generator draws.
-/

namespace PropertyTesting

/-- The number of samples of a test that does not say how many it draws. -/
def defaultSamples : Nat := 100

/-- A test over samples of type `I`, which its generator draws from states of type `σ`. -/
structure Test (σ I : Type) where
  name : String
  /-- The number of samples of a run. -/
  samples : Nat
  generator : Generator σ I
  /-- The properties in the order in which they are checked. -/
  properties : List (Check I)

open Text in
def Test.render {σ I : Type} (t : Test σ I) : String :=
  openRecord "Test"
    [("name", quote t.name),
     ("samples", toString t.samples),
     ("generator_kind", quote t.generator.kind),
     ("properties", bracketed (t.properties.map fun p => quote p.description))]

end PropertyTesting
