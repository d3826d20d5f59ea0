import PropertyTesting.Evaluation

/-!
# Properties

A property claims of a function that its results satisfy a comparison, on all samples that meet the
preconditions. A check is what a run needs of a property, whatever the type of the results.
-/

namespace PropertyTesting

/-- A claim about a function from samples of type `I` to results of type `O`. -/
structure Property (I O : Type) where
  description : String
  /-- The conditions on samples under which the claim is made. -/
  preconditions : List (I → Bool)
  /-- The function under test. -/
  function : I → O
  /-- What its results must satisfy. -/
  comparison : Comparison I O

/-- A property without the type of its results. -/
structure Check (I : Type) where
  description : String
  preconditions : List (I → Bool)
  /-- The verdict on a sample. -/
  verdict : I → Verdict
  shape : ComparisonShape

namespace Property

variable {I O : Type}

/-- The verdict on the result of the function for a sample. -/
def verdict [Output O] (p : Property I O) (sample : I) : Verdict :=
  p.comparison.evaluate sample (p.function sample)

/-- The check of a property. -/
def toCheck [Output O] (p : Property I O) : Check I :=
  ⟨p.description, p.preconditions, p.verdict, p.comparison.shape⟩

open Text in
def render [Output O] (p : Property I O) : String :=
  openRecord "Property"
    [("description", quote p.description),
     ("preconditions", toString p.preconditions.length),
     ("comparison", p.comparison.render)]

end Property

/-- Whether a sample meets all preconditions. -/
def Check.accepts {I : Type} (c : Check I) (sample : I) : Bool :=
  c.preconditions.all fun condition => condition sample

end PropertyTesting
