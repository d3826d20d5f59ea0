/-!
# Mistakes in definitions

What can be wrong with the definition of a test, apart from what the test is about.
-/

namespace PropertyTesting

/-- A mistake in the definition of a test. -/
inductive BuilderError where
  | missingDescription
  | missingFunction
  | missingComparison
  | unfinishedComparison
  | unbalancedOperator
  | unbalancedGroup
  deriving DecidableEq, Repr

namespace BuilderError

/-- The name of a mistake. -/
def name : BuilderError → String
  | missingDescription => "MissingDescription"
  | missingFunction => "MissingFunction"
  | missingComparison => "MissingComparison"
  | unfinishedComparison => "UnfinishedComparison"
  | unbalancedOperator => "UnbalancedOperator"
  | unbalancedGroup => "UnbalancedGroup"

def message : BuilderError → String
  | missingDescription => "missing description for new property"
  | missingFunction => "missing test function for new property"
  | missingComparison => "missing comparison for new property"
  | unfinishedComparison => "unfinished comparison for new property"
  | unbalancedOperator => "unbalanced boolean operators in comparison"
  | unbalancedGroup => "end_block called without a matching begin_block"

end BuilderError

end PropertyTesting
