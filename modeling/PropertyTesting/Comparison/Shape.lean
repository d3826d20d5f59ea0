import PropertyTesting.Comparison.Operator
import PropertyTesting.Text.Layout
import PropertyTesting.Text.Quoted

/-!
# Shapes

What can be told of a comparison without running it: its leaves with the text of their literals, and
the operators that join them. Functions leave no trace in a shape.
-/

namespace PropertyTesting

/-- The structure of a comparison. -/
inductive ComparisonShape where
  | literalEquality (expected : String) (checkEqual : Bool)
  | functionEquality (checkEqual : Bool)
  | literalOrder (expected : String) (op : OrderOp)
  | functionOrder (op : OrderOp)
  | block (op : BooleanOp) (left right : ComparisonShape)
  deriving DecidableEq, Repr

namespace ComparisonShape

open Text in
def render : ComparisonShape → String
  | literalEquality expected checkEqual =>
    record "LiteralEquality" [("expected", quote expected), ("check_equal", boolean checkEqual)]
  | functionEquality checkEqual => record "FunctionEquality" [("check_equal", boolean checkEqual)]
  | literalOrder expected op =>
    record "LiteralOrder" [("expected", quote expected), ("op", op.render)]
  | functionOrder op => record "FunctionOrder" [("op", op.render)]
  | block op left right =>
    record "Block" [("op", op.render), ("left", left.render), ("right", right.render)]

end ComparisonShape

end PropertyTesting
