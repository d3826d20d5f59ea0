import PropertyTesting.Test

/-!
# Equivalence of tests

Two tests are equivalent when nothing that can be told of them without running them differs: names,
numbers of samples, kinds of generators, and, property by property, descriptions, numbers of
preconditions and shapes of comparisons. The first difference in this order is reported.
-/

namespace PropertyTesting

/-- A difference between two tests, with what the left and the right one have. -/
inductive TestDifference where
  | name (left right : String)
  | sampleCount (left right : Nat)
  | generator (left right : String)
  | propertyCount (left right : Nat)
  | description (index : Nat) (left right : String)
  | preconditionCount (index left right : Nat)
  | comparison (index : Nat) (left right : ComparisonShape)
  deriving DecidableEq, Repr

namespace TestDifference

/-- The name of the kind of difference. -/
def kind : TestDifference → String
  | name .. => "NameMismatch"
  | sampleCount .. => "SampleCountMismatch"
  | generator .. => "GeneratorMismatch"
  | propertyCount .. => "PropertyCountMismatch"
  | description .. => "DescriptionMismatch"
  | preconditionCount .. => "PreconditionCountMismatch"
  | comparison .. => "ComparisonMismatch"

/-- Two texts, each in plain quotes. -/
def quotedPair (left right : String) : String :=
  "\"" ++ left ++ "\" vs \"" ++ right ++ "\""

def message : TestDifference → String
  | name left right => "test names do not match: " ++ quotedPair left right
  | sampleCount left right =>
    "tests have different sample counts: " ++ toString left ++ " vs " ++ toString right
  | generator left right => "tests have different generators: " ++ left ++ " vs " ++ right
  | propertyCount left right =>
    "tests have different numbers of properties: " ++ toString left ++ " vs " ++ toString right
  | description index left right =>
    "property " ++ toString index ++ " has different descriptions: " ++ quotedPair left right
  | preconditionCount index left right =>
    "property " ++ toString index ++ " has different precondition counts: " ++ toString left
      ++ " vs " ++ toString right
  | comparison index _ _ => "property " ++ toString index ++ " has different comparisons"

open Text in
def render (d : TestDifference) : String :=
  record d.kind <|
    match d with
    | name left right | generator left right => [("left", quote left), ("right", quote right)]
    | sampleCount left right | propertyCount left right =>
      [("left", toString left), ("right", toString right)]
    | description index left right =>
      [("index", toString index), ("left", quote left), ("right", quote right)]
    | preconditionCount index left right =>
      [("index", toString index), ("left", toString left), ("right", toString right)]
    | comparison index left right =>
      [("index", toString index), ("left", left.render), ("right", right.render)]

end TestDifference

/-- The first difference between two checks, which stand at a given place. -/
def Check.difference? {I : Type} (index : Nat) (left right : Check I) : Option TestDifference :=
  if left.description ≠ right.description then
    some (.description index left.description right.description)
  else if left.preconditions.length ≠ right.preconditions.length then
    some (.preconditionCount index left.preconditions.length right.preconditions.length)
  else if left.shape ≠ right.shape then some (.comparison index left.shape right.shape)
  else none

/-- The first difference between two lists of checks from a given place on, as far as both go. -/
def Check.firstDifference? {I : Type} (index : Nat) :
    List (Check I) → List (Check I) → Option TestDifference
  | left :: lefts, right :: rights =>
    (left.difference? index right).or (Check.firstDifference? (index + 1) lefts rights)
  | _, _ => none

/-- The first difference between two tests. -/
def Test.difference? {σ τ I : Type} (left : Test σ I) (right : Test τ I) : Option TestDifference :=
  if left.name ≠ right.name then some (.name left.name right.name)
  else if left.samples ≠ right.samples then some (.sampleCount left.samples right.samples)
  else if left.generator.kind ≠ right.generator.kind then
    some (.generator left.generator.kind right.generator.kind)
  else if left.properties.length ≠ right.properties.length then
    some (.propertyCount left.properties.length right.properties.length)
  else Check.firstDifference? 0 left.properties right.properties

/-- Accepts equivalent tests. -/
def Test.validateEquivalent {σ τ I : Type} (left : Test σ I) (right : Test τ I) :
    Except TestDifference Unit :=
  match left.difference? right with
  | none => .ok ()
  | some difference => .error difference

end PropertyTesting
