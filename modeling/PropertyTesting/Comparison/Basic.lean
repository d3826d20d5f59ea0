import PropertyTesting.Comparison.Output
import PropertyTesting.Comparison.Shape

/-!
# Comparisons

A comparison is a tree over the outputs of a function under test. Its leaves ask for equality with,
or for an order relative to, an expected value, which is a literal or a function of the sample; its
blocks join two comparisons by a connective.

An ordering leaf keeps the function that orders values. It is that of the output type if the leaf is
made by `ordered` or `orderedOf`, but any function will do.
-/

namespace PropertyTesting

/-- A condition on an output of type `O` for a sample of type `I`. -/
inductive Comparison (I O : Type) where
  /-- The output is equal to a literal, or with `checkEqual = false` different from it. -/
  | literalEquality (expected : O) (checkEqual : Bool)
  /-- The same for an expected value that depends on the sample. -/
  | functionEquality (expected : I → O) (checkEqual : Bool)
  /-- The output stands in the relation `op` to a literal, as `order` says. -/
  | literalOrder (expected : O) (op : OrderOp) (order : Comparator O)
  /-- The same for an expected value that depends on the sample. -/
  | functionOrder (expected : I → O) (op : OrderOp) (order : Comparator O)
  /-- Two conditions joined by a connective. -/
  | block (op : BooleanOp) (left right : Comparison I O)

namespace Comparison

variable {I O : Type}

/-- The output is equal to a literal. -/
def equals (expected : O) : Comparison I O :=
  literalEquality expected true

/-- The output is different from a literal. -/
def notEquals (expected : O) : Comparison I O :=
  literalEquality expected false

/-- The output is equal to the value of a function at the sample. -/
def equalsOf (expected : I → O) : Comparison I O :=
  functionEquality expected true

/-- The output is different from the value of a function at the sample. -/
def notEqualsOf (expected : I → O) : Comparison I O :=
  functionEquality expected false

/-- The output stands in a relation to a literal, as the output type orders values. -/
def ordered [Output O] (expected : O) (op : OrderOp) : Comparison I O :=
  literalOrder expected op Output.compare?

/-- The output stands in a relation to the value of a function at the sample. -/
def orderedOf [Output O] (expected : I → O) (op : OrderOp) : Comparison I O :=
  functionOrder expected op Output.compare?

/-- Whether a comparison is a block. -/
def isBlock : Comparison I O → Bool
  | block .. => true
  | _ => false

/-- The number of leaves of a comparison. -/
def leafCount : Comparison I O → Nat
  | block _ left right => left.leafCount + right.leafCount
  | _ => 1

/-- The number of levels of a comparison; a leaf has one. -/
def depth : Comparison I O → Nat
  | block _ left right => 1 + max left.depth right.depth
  | _ => 1

/-- The shape of a comparison. -/
def shape [Output O] : Comparison I O → ComparisonShape
  | literalEquality expected checkEqual => .literalEquality (Shown.shown expected) checkEqual
  | functionEquality _ checkEqual => .functionEquality checkEqual
  | literalOrder expected op _ => .literalOrder (Shown.shown expected) op
  | functionOrder _ op _ => .functionOrder op
  | block op left right => .block op left.shape right.shape

open Text in
def render [Output O] : Comparison I O → String
  | literalEquality expected checkEqual =>
    record "LiteralEquality"
      [("expected", Shown.shown expected), ("check_equal", boolean checkEqual)]
  | functionEquality _ checkEqual =>
    openRecord "FunctionEquality" [("check_equal", boolean checkEqual)]
  | literalOrder expected op _ =>
    openRecord "LiteralOrder" [("expected", Shown.shown expected), ("op", op.render)]
  | functionOrder _ op _ => openRecord "FunctionOrder" [("op", op.render)]
  | block op left right =>
    record "Block" [("op", op.render), ("left", left.render), ("right", right.render)]

end Comparison

end PropertyTesting
