import PropertyTesting.Evaluation

/-!
# The leaves of comparisons and of reasons

A comparison is a leaf or joins two comparisons (`induction_leaf`), and a reason names one leaf or
joins two reasons. What a comparison says of an output is a formula over the truth values of its
leaves (`Comparison.reading`), in which all connectives are monotone.
-/

namespace PropertyTesting

variable {I O : Type}

namespace Comparison

/-- What holds of all leaves, and of a block if it holds of its sides, holds of all comparisons. -/
theorem induction_leaf {motive : Comparison I O → Prop}
    (leaf : ∀ comparison, comparison.isBlock = false → motive comparison)
    (block : ∀ op left right, motive left → motive right → motive (block op left right))
    (comparison : Comparison I O) : motive comparison := by
  induction comparison with
  | block op left right ihl ihr => exact block op left right ihl ihr
  | _ => exact leaf _ rfl

/-- The leaves from left to right. -/
def leaves : Comparison I O → List (Comparison I O)
  | block _ left right => left.leaves ++ right.leaves
  | leaf => [leaf]

/-- The truth of a comparison whose leaf at position `i`, counted from the left, has the truth value
`assigned i`. -/
def reading : Comparison I O → (Nat → Bool) → Bool
  | block op left right, assigned =>
    op.apply (left.reading assigned) (right.reading fun i => assigned (left.leafCount + i))
  | _, assigned => assigned 0

theorem leafCount_leaf {leaf : Comparison I O} (isLeaf : leaf.isBlock = false) :
    leaf.leafCount = 1 := by
  cases leaf with
  | block op left right => cases isLeaf
  | _ => rfl

theorem leaves_leaf {leaf : Comparison I O} (isLeaf : leaf.isBlock = false) :
    leaf.leaves = [leaf] := by
  cases leaf with
  | block op left right => cases isLeaf
  | _ => rfl

theorem isBlock_of_mem_leaves {comparison leaf : Comparison I O}
    (member : leaf ∈ comparison.leaves) : leaf.isBlock = false := by
  induction comparison using induction_leaf with
  | leaf single isLeaf =>
    rw [leaves_leaf isLeaf, List.mem_singleton] at member
    rwa [member]
  | block op left right ihl ihr =>
    rcases List.mem_append.mp member with member | member
    · exact ihl member
    · exact ihr member

theorem reading_leaf {leaf : Comparison I O} (isLeaf : leaf.isBlock = false)
    (assigned : Nat → Bool) : leaf.reading assigned = assigned 0 := by
  cases leaf with
  | block op left right => cases isLeaf
  | _ => rfl

@[simp]
theorem length_leaves (comparison : Comparison I O) :
    comparison.leaves.length = comparison.leafCount := by
  induction comparison using induction_leaf with
  | leaf leaf isLeaf => rw [leaves_leaf isLeaf, leafCount_leaf isLeaf, List.length_singleton]
  | block op left right ihl ihr => rw [leaves, leafCount, List.length_append, ihl, ihr]

theorem leaves_getElem?_left (op : BooleanOp) (left right : Comparison I O) {position : Nat}
    (inside : position < left.leafCount) :
    (block op left right).leaves[position]? = left.leaves[position]? :=
  List.getElem?_append_left (by rwa [length_leaves])

theorem leaves_getElem?_right (op : BooleanOp) (left right : Comparison I O) (position : Nat) :
    (block op left right).leaves[left.leafCount + position]? = right.leaves[position]? := by
  rw [leaves, ← left.length_leaves, List.getElem?_append_right (Nat.le_add_right _ _),
    Nat.add_sub_cancel_left]

/-- Only the values at the positions of leaves matter. -/
theorem reading_congr {comparison : Comparison I O} {assigned assigned' : Nat → Bool}
    (same : ∀ i < comparison.leafCount, assigned i = assigned' i) :
    comparison.reading assigned = comparison.reading assigned' := by
  induction comparison using induction_leaf generalizing assigned assigned' with
  | leaf leaf isLeaf =>
    rw [leafCount_leaf isLeaf] at same
    rw [reading_leaf isLeaf, reading_leaf isLeaf, same 0 Nat.zero_lt_one]
  | block op left right ihl ihr =>
    rw [leafCount] at same
    rw [reading, reading, ihl fun i inside => same i (by omega),
      ihr fun i inside => same (left.leafCount + i) (by omega)]

/-- A comparison is true if all its leaves are. -/
theorem reading_of_all {comparison : Comparison I O} {assigned : Nat → Bool}
    (all : ∀ i < comparison.leafCount, assigned i = true) : comparison.reading assigned = true := by
  induction comparison using induction_leaf generalizing assigned with
  | leaf leaf isLeaf =>
    rw [leafCount_leaf isLeaf] at all
    rw [reading_leaf isLeaf, all 0 Nat.zero_lt_one]
  | block op left right ihl ihr =>
    rw [leafCount] at all
    rw [reading, ihl fun i inside => all i (by omega),
      ihr fun i inside => all (left.leafCount + i) (by omega)]
    cases op <;> rfl

end Comparison

namespace Diagnostic

/-- The reasons of single leaves that a reason is put together from, from left to right. -/
def leaves : Diagnostic → List Diagnostic
  | allAlternativesFailed left right => left.leaves ++ right.leaves
  | reason => [reason]

@[simp]
theorem length_leaves (reason : Diagnostic) : reason.leaves.length = reason.failureCount := by
  induction reason with
  | allAlternativesFailed left right ihl ihr =>
    rw [leaves, failureCount, List.length_append, ihl, ihr]
  | _ => rfl

end Diagnostic

section Leaves

variable [Output O] {expected output : O} {reason : Diagnostic}

theorem leaves_of_checkEquality {checkEqual : Bool}
    (failed : checkEquality expected output checkEqual = .error reason) :
    reason.leaves = [reason] := by
  simp only [checkEquality] at failed
  repeat' split at failed
  all_goals cases failed
  all_goals rfl

theorem leaves_of_checkOrder {op : OrderOp} {order : Comparator O}
    (failed : checkOrder order expected output op = .error reason) :
    reason.leaves = [reason] := by
  simp only [checkOrder] at failed
  repeat' split at failed
  all_goals cases failed
  all_goals rfl

/-- A leaf is rejected for a reason of its own. -/
theorem leaves_of_leaf {leaf : Comparison I O} (isLeaf : leaf.isBlock = false) {sample : I}
    (failed : leaf.evaluate sample output = .error reason) : reason.leaves = [reason] := by
  cases leaf with
  | literalEquality expected checkEqual => exact leaves_of_checkEquality failed
  | functionEquality expected checkEqual => exact leaves_of_checkEquality failed
  | literalOrder expected op order => exact leaves_of_checkOrder failed
  | functionOrder expected op order => exact leaves_of_checkOrder failed
  | block op left right => cases isLeaf

end Leaves

end PropertyTesting
