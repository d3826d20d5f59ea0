import PropertyTesting.Evaluation
import PropertyTesting.Builder.Error
import PropertyTesting.Json.Record

/-!
# JSON forms of shapes and diagnostics

A shape is an object with its kind among its other fields, a diagnostic an object whose only field
is named for its kind.

A shape is also read from an array of its kind and its other fields in their order. Inside a shape,
reading is more lenient: the kind of an inner shape may be its number, and an operator may be an
object whose only field has its name and holds an empty object.
-/

namespace PropertyTesting

open Json

namespace OrderOp

/-- The name of an operator. -/
def name : OrderOp → String
  | less => "less"
  | equal => "equal"
  | greater => "greater"

def toJson (op : OrderOp) : Json :=
  .string op.name

def ofName? : String → Option OrderOp
  | "less" => some less
  | "equal" => some equal
  | "greater" => some greater
  | _ => none

/-- Reads an operator that stands on its own. -/
def ofJson? (j : Json) : Option OrderOp :=
  (name? isNull j).bind ofName?

/-- Reads an operator inside a shape. -/
def ofInnerJson? (j : Json) : Option OrderOp :=
  (name? isNullOrEmpty j).bind ofName?

end OrderOp

namespace BooleanOp

/-- The name of a connective. -/
def name : BooleanOp → String
  | and => "and"
  | or => "or"

def toJson (op : BooleanOp) : Json :=
  .string op.name

def ofName? : String → Option BooleanOp
  | "and" => some and
  | "or" => some or
  | _ => none

/-- Reads a connective that stands on its own. -/
def ofJson? (j : Json) : Option BooleanOp :=
  (name? isNull j).bind ofName?

/-- Reads a connective inside a shape. -/
def ofInnerJson? (j : Json) : Option BooleanOp :=
  (name? isNullOrEmpty j).bind ofName?

end BooleanOp

namespace LeafKind

/-- The name of a kind of leaves. -/
def name : LeafKind → String
  | literalEquality => "literal_equality"
  | functionEquality => "function_equality"
  | literalOrder => "literal_order"
  | functionOrder => "function_order"

def toJson (kind : LeafKind) : Json :=
  .string kind.name

def ofName? : String → Option LeafKind
  | "literal_equality" => some literalEquality
  | "function_equality" => some functionEquality
  | "literal_order" => some literalOrder
  | "function_order" => some functionOrder
  | _ => none

def ofJson? (j : Json) : Option LeafKind :=
  (name? isNull j).bind ofName?

end LeafKind

namespace BuilderError

def toJson (error : BuilderError) : Json :=
  .string error.name

def ofName? : String → Option BuilderError
  | "MissingDescription" => some missingDescription
  | "MissingFunction" => some missingFunction
  | "MissingComparison" => some missingComparison
  | "UnfinishedComparison" => some unfinishedComparison
  | "UnbalancedOperator" => some unbalancedOperator
  | "UnbalancedGroup" => some unbalancedGroup
  | _ => none

def ofJson? (j : Json) : Option BuilderError :=
  (name? isNull j).bind ofName?

end BuilderError

namespace ComparisonShape

/-! ## Shapes -/

/-- The kinds of shapes. -/
inductive Kind where
  | leaf (kind : LeafKind)
  | block
  deriving DecidableEq, Repr

/-- The kinds of shapes in the order of their numbers. -/
def kinds : List Kind :=
  [.leaf .literalEquality, .leaf .functionEquality, .leaf .literalOrder, .leaf .functionOrder,
    .block]

def Kind.ofName? (name : String) : Option Kind :=
  if name = "block" then some .block else (LeafKind.ofName? name).map .leaf

/-- Reads the kind of a shape, which inside another shape may be given by its number. -/
def Kind.ofJson? (isInner : Bool) : Json → Option Kind
  | .string name => Kind.ofName? name
  | .integer n => if isInner && 0 ≤ n then kinds[n.toNat]? else none
  | _ => none

/-- The JSON form of a shape. -/
def toJson : ComparisonShape → Json
  | literalEquality expected checkEqual =>
    .object [("kind", LeafKind.literalEquality.toJson), ("expected", .string expected),
      ("check_equal", .boolean checkEqual)]
  | functionEquality checkEqual =>
    .object [("kind", LeafKind.functionEquality.toJson), ("check_equal", .boolean checkEqual)]
  | literalOrder expected op =>
    .object [("kind", LeafKind.literalOrder.toJson), ("expected", .string expected),
      ("op", op.toJson)]
  | functionOrder op => .object [("kind", LeafKind.functionOrder.toJson), ("op", op.toJson)]
  | block op left right =>
    .object [("kind", .string "block"), ("op", op.toJson), ("left", left.toJson),
      ("right", right.toJson)]

/-- The names of the fields of the shapes of a kind, without the kind itself. -/
def fieldNames : Kind → List String
  | .leaf .literalEquality => ["expected", "check_equal"]
  | .leaf .functionEquality => ["check_equal"]
  | .leaf .literalOrder => ["expected", "op"]
  | .leaf .functionOrder => ["op"]
  | .block => ["op", "left", "right"]

/-- The shape of a kind with given fields, in the order of their names. Each field comes with the
shape that it spells, if it spells one. -/
def ofFields? : Kind → List (Json × Option ComparisonShape) → Option ComparisonShape
  | .leaf .literalEquality, [(expected, _), (checkEqual, _)] =>
    return literalEquality (← expected.string?) (← checkEqual.boolean?)
  | .leaf .functionEquality, [(checkEqual, _)] => return functionEquality (← checkEqual.boolean?)
  | .leaf .literalOrder, [(expected, _), (op, _)] =>
    return literalOrder (← expected.string?) (← OrderOp.ofInnerJson? op)
  | .leaf .functionOrder, [(op, _)] => return functionOrder (← OrderOp.ofInnerJson? op)
  | .block, [(op, _), (_, left), (_, right)] =>
    return block (← BooleanOp.ofInnerJson? op) (← left) (← right)
  | _, _ => none

mutual

/-- Reads a shape, or one inside another shape. -/
def read? (isInner : Bool) : Json → Option ComparisonShape
  | .object fields => do
    let kind ← Kind.ofJson? isInner (← field? "kind" fields)
    let parts := readFields fields
    ofFields? kind (← (fieldNames kind).mapM fun name => parts.lookup name)
  | .array (kind :: items) => do
    ofFields? (← Kind.ofJson? isInner kind) (readItems items)
  | _ => none

/-- The fields of an object with the shapes that they spell. -/
def readFields : List (String × Json) → List (String × Json × Option ComparisonShape)
  | [] => []
  | (name, value) :: rest => (name, value, read? true value) :: readFields rest

/-- The items of an array with the shapes that they spell. -/
def readItems : List Json → List (Json × Option ComparisonShape)
  | [] => []
  | item :: rest => (item, read? true item) :: readItems rest

end

/-- Reads a shape. -/
def ofJson? (j : Json) : Option ComparisonShape :=
  read? false j

end ComparisonShape

namespace Diagnostic

/-! ## Diagnostics -/

/-- The JSON form of a diagnostic. -/
def toJson : Diagnostic → Json
  | equalityMismatch expected observed checkEqual =>
    .object [("EqualityMismatch", .object [("expected", .string expected),
      ("observed", .string observed), ("check_equal", .boolean checkEqual)])]
  | orderMismatch expected observed op =>
    .object [("OrderMismatch", .object [("expected", .string expected),
      ("observed", .string observed), ("op", op.toJson)])]
  | incomparable expected observed =>
    .object [("Incomparable", .object [("expected", .string expected),
      ("observed", .string observed)])]
  | allAlternativesFailed left right =>
    .object [("AllAlternativesFailed", .object [("left", left.toJson), ("right", right.toJson)])]

mutual

/-- Reads a diagnostic. -/
def ofJson? : Json → Option Diagnostic
  | .object [("EqualityMismatch", .object fields)] => do
    let expected ← (← field? "expected" fields).string?
    let observed ← (← field? "observed" fields).string?
    let checkEqual ← (← field? "check_equal" fields).boolean?
    return equalityMismatch expected observed checkEqual
  | .object [("OrderMismatch", .object fields)] => do
    let expected ← (← field? "expected" fields).string?
    let observed ← (← field? "observed" fields).string?
    let op ← OrderOp.ofJson? (← field? "op" fields)
    return orderMismatch expected observed op
  | .object [("Incomparable", .object fields)] => do
    let expected ← (← field? "expected" fields).string?
    let observed ← (← field? "observed" fields).string?
    return incomparable expected observed
  | .object [("AllAlternativesFailed", .object fields)] => do
    let parts := readFields fields
    let left ← (← parts.lookup "left")
    let right ← (← parts.lookup "right")
    return allAlternativesFailed left right
  | _ => none

/-- The fields of an object with the diagnostics that they spell. -/
def readFields : List (String × Json) → List (String × Option Diagnostic)
  | [] => []
  | (name, value) :: rest => (name, ofJson? value) :: readFields rest

end

end Diagnostic

end PropertyTesting
