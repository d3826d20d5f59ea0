import PropertyTesting.Comparison.Basic

/-!
# Composing comparisons

A composer knows the types of a comparison and writes it as a tree, from its leaves to its root.
-/

namespace PropertyTesting

/-- What is needed to write comparisons of results of type `O` for samples of type `I`. -/
structure Composer (I O : Type) where
  /-- The composer for two types. -/
  new ::

namespace Composer

variable {I O : Type}

/-- Both conditions hold. -/
def and (_ : Composer I O) (left right : Comparison I O) : Comparison I O :=
  .block .and left right

/-- One of the conditions holds. -/
def or (_ : Composer I O) (left right : Comparison I O) : Comparison I O :=
  .block .or left right

/-- The result is equal to a literal. -/
def equals (_ : Composer I O) (expected : O) : Comparison I O :=
  .equals expected

/-- The result is different from a literal. -/
def notEquals (_ : Composer I O) (expected : O) : Comparison I O :=
  .notEquals expected

/-- The result is equal to the value of a function at the sample. -/
def equalsOf (_ : Composer I O) (expected : I → O) : Comparison I O :=
  .equalsOf expected

/-- The result is different from the value of a function at the sample. -/
def notEqualsOf (_ : Composer I O) (expected : I → O) : Comparison I O :=
  .notEqualsOf expected

/-- The result stands in a relation to a literal. -/
def compareTo [Output O] (_ : Composer I O) (expected : O) (op : OrderOp) : Comparison I O :=
  .ordered expected op

/-- The result stands in a relation to the value of a function at the sample. -/
def compareToOf [Output O] (_ : Composer I O) (expected : I → O) (op : OrderOp) :
    Comparison I O :=
  .orderedOf expected op

def render (_ : Composer I O) : String :=
  "Composer"

end Composer

end PropertyTesting
