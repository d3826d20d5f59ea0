import PropertyTesting.Comparison.Basic
import PropertyTesting.Diagnostic

/-!
# Evaluation

The verdict of a comparison on an output. Every leaf is evaluated, from left to right, and reported
to a trace, whatever the other leaves say; only the verdicts are joined by the connectives.

An absent expected value asks for an absent output, and an absent output is below every present
value and equal to an absent one. All else is left to the equality of the output type and to the
order that a leaf keeps.
-/

namespace PropertyTesting

/-- The four kinds of leaves. -/
inductive LeafKind where
  | literalEquality
  | functionEquality
  | literalOrder
  | functionOrder
  deriving DecidableEq, Repr

def LeafKind.render : LeafKind → String
  | literalEquality => "LiteralEquality"
  | functionEquality => "FunctionEquality"
  | literalOrder => "LiteralOrder"
  | functionOrder => "FunctionOrder"

/-- What a trace is told of a leaf. -/
structure LeafEvent where
  kind : LeafKind
  /-- Whether the leaf accepts the output. -/
  passed : Bool
  deriving DecidableEq, Repr

/-- Whether a verdict accepts. -/
def Verdict.passed : Verdict → Bool
  | .ok _ => true
  | .error _ => false

/-- The verdict of two verdicts under a connective. -/
def BooleanOp.combine : BooleanOp → Verdict → Verdict → Verdict
  | and, .ok _, right => right
  | and, .error reason, _ => .error reason
  | or, .error left, .error right => .error (.allAlternativesFailed left right)
  | or, _, _ => .ok ()

theorem Verdict.passed_iff {verdict : Verdict} : verdict.passed = true ↔ verdict = .ok () := by
  cases verdict <;> simp [passed]

/-- A conjunction rejects for the reason of its first rejecting side, a disjunction for the reasons
of both. -/
theorem BooleanOp.combine_eq_error_iff {op : BooleanOp} {left right : Verdict}
    {reason : Diagnostic} :
    op.combine left right = .error reason ↔
      op = and ∧ (left = .error reason ∨ left = .ok () ∧ right = .error reason) ∨
      op = or ∧ ∃ reasonLeft reasonRight, left = .error reasonLeft ∧ right = .error reasonRight ∧
        reason = .allAlternativesFailed reasonLeft reasonRight := by
  cases op <;> cases left <;> cases right <;> simp [combine, eq_comm]

theorem BooleanOp.passed_combine (op : BooleanOp) (left right : Verdict) :
    (op.combine left right).passed = op.apply left.passed right.passed := by
  cases op <;> cases left <;> cases right <;> rfl

section Leaves

variable {O : Type} [Output O]

/-- The verdict of an equality leaf. -/
def checkEquality (expected output : O) (checkEqual : Bool) : Verdict :=
  let equal :=
    if Output.isAbsent expected then Output.isAbsent output else Output.same expected output
  if equal = checkEqual then .ok ()
  else .error (.equalityMismatch (Shown.shown expected) (Shown.shown output) checkEqual)

/-- Whether an absent output stands in the relation `op` to an expected value. -/
def absentPasses (expected : O) : OrderOp → Bool
  | .equal => Output.isAbsent expected
  | .less => !Output.isAbsent expected
  | .greater => false

/-- The verdict of an ordering leaf. -/
def checkOrder (order : Comparator O) (expected output : O) (op : OrderOp) : Verdict :=
  let mismatch : Verdict :=
    .error (.orderMismatch (Shown.shown expected) (Shown.shown output) op)
  if Output.isAbsent output then
    if absentPasses expected op then .ok () else mismatch
  else
    match order output expected with
    | none => .error (.incomparable (Shown.shown expected) (Shown.shown output))
    | some ordering => if op.admits ordering then .ok () else mismatch

end Leaves

namespace Comparison

variable {I O τ : Type} [Output O]

/-- The verdict of a comparison on an output for a sample, with the trace after it. The trace is
told of each leaf by `record`. -/
def evaluateTraced (record : LeafEvent → τ → τ) (sample : I) (output : O) :
    Comparison I O → τ → Verdict × τ
  | literalEquality expected checkEqual, trace =>
    let verdict := checkEquality expected output checkEqual
    (verdict, record ⟨.literalEquality, verdict.passed⟩ trace)
  | functionEquality expected checkEqual, trace =>
    let verdict := checkEquality (expected sample) output checkEqual
    (verdict, record ⟨.functionEquality, verdict.passed⟩ trace)
  | literalOrder expected op order, trace =>
    let verdict := checkOrder order expected output op
    (verdict, record ⟨.literalOrder, verdict.passed⟩ trace)
  | functionOrder expected op order, trace =>
    let verdict := checkOrder order (expected sample) output op
    (verdict, record ⟨.functionOrder, verdict.passed⟩ trace)
  | block op left right, trace =>
    let (leftVerdict, trace) := left.evaluateTraced record sample output trace
    let (rightVerdict, trace) := right.evaluateTraced record sample output trace
    (op.combine leftVerdict rightVerdict, trace)

/-- The verdict of a comparison on an output for a sample. -/
def evaluate (sample : I) (output : O) (comparison : Comparison I O) : Verdict :=
  (comparison.evaluateTraced (fun _ trace => trace) sample output ()).1

theorem evaluate_block (sample : I) (output : O) (op : BooleanOp) (left right : Comparison I O) :
    (block op left right).evaluate sample output =
      op.combine (left.evaluate sample output) (right.evaluate sample output) :=
  rfl

/-- The leaves that a comparison evaluates, in their order. -/
def leafEvents (sample : I) (output : O) (comparison : Comparison I O) : List LeafEvent :=
  (comparison.evaluateTraced (fun event trace => event :: trace) sample output []).2.reverse

end Comparison

end PropertyTesting
