import PropertyTesting.Comparison.Operator
import PropertyTesting.Text.Layout
import PropertyTesting.Text.Quoted

/-!
# Diagnostics

Why a comparison rejects an output. A rejected conjunction has the reason of its first rejecting
side; a rejected disjunction has the reasons of both.
-/

namespace PropertyTesting

/-- The reason for a rejection, with the texts of the values it is about. -/
inductive Diagnostic where
  /-- The output is not equal to the expected value, or is equal and should not be. -/
  | equalityMismatch (expected observed : String) (checkEqual : Bool)
  /-- The output does not stand in the relation `op` to the expected value. -/
  | orderMismatch (expected observed : String) (op : OrderOp)
  /-- The output and the expected value are not ordered. -/
  | incomparable (expected observed : String)
  /-- Both sides of a disjunction reject. -/
  | allAlternativesFailed (left right : Diagnostic)
  deriving DecidableEq, Repr

/-- The outcome of a comparison: accepted, or rejected for a reason. -/
abbrev Verdict := Except Diagnostic Unit

namespace Diagnostic

/-- The number of leaves that a reason names. -/
def failureCount : Diagnostic → Nat
  | allAlternativesFailed left right => left.failureCount + right.failureCount
  | _ => 1

/-- The reason in words, on one line for each leaf that it names. -/
def message : Diagnostic → String
  | equalityMismatch expected observed checkEqual =>
    let relation := if checkEqual then "equal to" else "different from"
    "Expected output " ++ relation ++ " " ++ expected ++ ", observed " ++ observed
  | orderMismatch expected observed op =>
    "Expected output " ++ observed ++ " to be " ++ op.relation ++ " " ++ expected
  | incomparable expected observed =>
    "Output " ++ observed ++ " has no ordering relative to " ++ expected
  | allAlternativesFailed left right => left.message ++ "\n" ++ right.message

open Text in
def render : Diagnostic → String
  | equalityMismatch expected observed checkEqual =>
    record "EqualityMismatch"
      [("expected", quote expected), ("observed", quote observed),
        ("check_equal", boolean checkEqual)]
  | orderMismatch expected observed op =>
    record "OrderMismatch"
      [("expected", quote expected), ("observed", quote observed), ("op", op.render)]
  | incomparable expected observed =>
    record "Incomparable" [("expected", quote expected), ("observed", quote observed)]
  | allAlternativesFailed left right =>
    record "AllAlternativesFailed" [("left", left.render), ("right", right.render)]

end Diagnostic

end PropertyTesting
