import PropertyTesting.Proofs.Evaluation.Leaves
import PropertyTesting.Value.Shown

/-!
# Reasons for a rejection

The reason that a comparison gives for a rejection names leaves that all reject the output, and it
is as short as it can be (`rejected_for_minimal_reason`): as long as these leaves reject, nothing
that the other leaves say makes the comparison accept, and if any one of them accepted and with it
all leaves that are not named, the comparison would accept.

A conjunction passes on the reason of one side, whose positions are those of the side (`and_left`)
or begin after the leaves of the left side (`and_right`). A disjunction has the reasons of both
(`or_both`).
-/

namespace PropertyTesting

variable {I O : Type} [Output O]

namespace Comparison

/-- The leaves at `positions` are why a comparison rejects an output: together they suffice for a
rejection, and no fewer of them do. -/
structure RejectedAt (comparison : Comparison I O) (sample : I) (output : O) (positions : List Nat)
    (reason : Diagnostic) : Prop where
  /-- They are named from left to right. -/
  increasing : positions.Pairwise (· < ·)
  /-- Each of them, evaluated alone, rejects the output for its part of the reason. -/
  failing : (positions.map fun k => comparison.leaves[k]?.map (·.evaluate sample output)) =
    reason.leaves.map fun part => some (.error part)
  /-- If they reject, the comparison does, whatever the other leaves say. -/
  sufficient : ∀ assigned : Nat → Bool, (∀ k ∈ positions, assigned k = false) →
    comparison.reading assigned = false
  /-- If all of them but one reject and no other leaf does, the comparison accepts. -/
  minimal : ∀ k ∈ positions,
    comparison.reading (fun i => decide (i ∈ positions → i = k)) = true

namespace RejectedAt

variable {comparison left right : Comparison I O} {sample : I} {output : O}
  {positions lefts rights : List Nat} {reason reasonLeft reasonRight : Diagnostic}

/-- As many leaves are named as the reason counts. -/
theorem length_positions (rejected : RejectedAt comparison sample output positions reason) :
    positions.length = reason.failureCount := by
  simpa using congrArg List.length rejected.failing

theorem lt_leafCount (rejected : RejectedAt comparison sample output positions reason) {k : Nat}
    (named : k ∈ positions) : k < comparison.leafCount := by
  have found : comparison.leaves[k]?.map (·.evaluate sample output) ∈
      reason.leaves.map fun part => some (.error part) :=
    rejected.failing ▸ List.mem_map_of_mem named
  obtain ⟨part, -, evaluated⟩ := List.mem_map.mp found
  obtain ⟨leaf, located, -⟩ := Option.map_eq_some_iff.mp evaluated.symm
  simpa using (List.getElem?_eq_some_iff.mp located).1

theorem leaf {leaf : Comparison I O} (isLeaf : leaf.isBlock = false)
    (failed : leaf.evaluate sample output = .error reason) :
    RejectedAt leaf sample output [0] reason where
  increasing := List.pairwise_singleton _ 0
  failing := by simp [leaves_leaf isLeaf, leaves_of_leaf isLeaf failed, failed]
  sufficient assigned fails := by
    rw [reading_leaf isLeaf]
    exact fails 0 (List.mem_singleton_self 0)
  minimal k named := by
    obtain rfl := List.mem_singleton.mp named
    simp [reading_leaf isLeaf]

/-- What the leaves of the left side say stands at the same positions in a block. -/
theorem failing_left (op : BooleanOp) (right : Comparison I O)
    (rejected : RejectedAt left sample output positions reason) :
    (positions.map fun k => (block op left right).leaves[k]?.map (·.evaluate sample output)) =
      reason.leaves.map fun part => some (.error part) := by
  rw [← rejected.failing]
  refine List.map_congr_left fun k named => ?_
  rw [leaves_getElem?_left op left right (rejected.lt_leafCount named)]

/-- What the leaves of the right side say stands after the leaves of the left side. -/
theorem failing_right (op : BooleanOp) (left : Comparison I O)
    (rejected : RejectedAt right sample output positions reason) :
    ((positions.map (left.leafCount + ·)).map fun k =>
        (block op left right).leaves[k]?.map (·.evaluate sample output)) =
      reason.leaves.map fun part => some (.error part) := by
  rw [← rejected.failing, List.map_map]
  refine List.map_congr_left fun k _ => ?_
  rw [Function.comp_apply, leaves_getElem?_right]

theorem and_left (rejected : RejectedAt left sample output positions reason) :
    RejectedAt (block .and left right) sample output positions reason where
  increasing := rejected.increasing
  failing := rejected.failing_left .and right
  sufficient assigned fails := by
    rw [reading, rejected.sufficient assigned fails, BooleanOp.apply, Bool.false_and]
  minimal k named := by
    have others : right.reading (fun i =>
        decide (left.leafCount + i ∈ positions → left.leafCount + i = k)) = true :=
      reading_of_all fun i _ => decide_eq_true fun within =>
        absurd (rejected.lt_leafCount within) (Nat.not_lt_of_le (Nat.le_add_right _ i))
    rw [reading, rejected.minimal k named, others, BooleanOp.apply, Bool.true_and]

theorem and_right (rejected : RejectedAt right sample output positions reason) :
    RejectedAt (block .and left right) sample output
      (positions.map (left.leafCount + ·)) reason where
  increasing := rejected.increasing.map _ fun _ _ less => Nat.add_lt_add_left less _
  failing := rejected.failing_right .and left
  sufficient assigned fails := by
    rw [reading, rejected.sufficient _ fun k named => fails _ (List.mem_map_of_mem named),
      BooleanOp.apply, Bool.and_false]
  minimal k named := by
    obtain ⟨j, member, rfl⟩ := List.mem_map.mp named
    have others : left.reading (fun i =>
        decide (i ∈ positions.map (left.leafCount + ·) → i = left.leafCount + j)) = true :=
      reading_of_all fun i inside => decide_eq_true fun within => by
        obtain ⟨k, -, rfl⟩ := List.mem_map.mp within
        omega
    rw [reading, others, BooleanOp.apply, Bool.true_and, ← rejected.minimal j member]
    simp

theorem or_both (rejectedLeft : RejectedAt left sample output lefts reasonLeft)
    (rejectedRight : RejectedAt right sample output rights reasonRight) :
    RejectedAt (block .or left right) sample output (lefts ++ rights.map (left.leafCount + ·))
      (.allAlternativesFailed reasonLeft reasonRight) where
  increasing := by
    refine List.pairwise_append.mpr ⟨rejectedLeft.increasing,
      rejectedRight.increasing.map _ fun _ _ less => Nat.add_lt_add_left less _, ?_⟩
    intro i named j shifted
    obtain ⟨k, -, rfl⟩ := List.mem_map.mp shifted
    exact Nat.lt_add_right k (rejectedLeft.lt_leafCount named)
  failing := by
    rw [List.map_append, rejectedLeft.failing_left .or right, rejectedRight.failing_right .or left,
      Diagnostic.leaves, List.map_append]
  sufficient assigned fails := by
    rw [List.forall_mem_append] at fails
    rw [reading, rejectedLeft.sufficient assigned fails.1,
      rejectedRight.sufficient _ fun k named => fails.2 _ (List.mem_map_of_mem named)]
    rfl
  minimal k named := by
    rw [reading, BooleanOp.apply, Bool.or_eq_true]
    rcases List.mem_append.mp named with named | named
    · left
      rw [← rejectedLeft.minimal k named]
      refine reading_congr fun i inside => ?_
      have unshifted : ∀ j, left.leafCount + j ≠ i := fun j => by omega
      simp [unshifted]
    · right
      obtain ⟨j, member, rfl⟩ := List.mem_map.mp named
      have beyond : ∀ i, left.leafCount + i ∉ lefts := fun i within =>
        absurd (rejectedLeft.lt_leafCount within) (Nat.not_lt_of_le (Nat.le_add_right _ i))
      rw [← rejectedRight.minimal j member]
      simp [beyond]

end RejectedAt

theorem exists_rejectedAt {comparison : Comparison I O} {sample : I} {output : O}
    {reason : Diagnostic} (failed : comparison.evaluate sample output = .error reason) :
    ∃ positions, RejectedAt comparison sample output positions reason := by
  induction comparison using induction_leaf generalizing reason with
  | leaf leaf isLeaf => exact ⟨[0], .leaf isLeaf failed⟩
  | block op left right ihl ihr =>
    rw [evaluate_block, BooleanOp.combine_eq_error_iff] at failed
    rcases failed with
      ⟨rfl, evaluatedLeft | ⟨-, evaluatedRight⟩⟩ | ⟨rfl, _, _, evaluatedLeft, evaluatedRight, rfl⟩
    · obtain ⟨positions, rejected⟩ := ihl evaluatedLeft
      exact ⟨positions, rejected.and_left⟩
    · obtain ⟨positions, rejected⟩ := ihr evaluatedRight
      exact ⟨_, rejected.and_right⟩
    · obtain ⟨lefts, rejectedLeft⟩ := ihl evaluatedLeft
      obtain ⟨rights, rejectedRight⟩ := ihr evaluatedRight
      exact ⟨_, rejectedLeft.or_both rejectedRight⟩

/-- A rejection has a minimal sufficient reason: the leaves that it names, as many as it counts and
in their order, each reject the output for their part of it; if they reject, the comparison does
whatever the other leaves say; and if all of them but one reject and no other leaf does, the
comparison accepts. -/
theorem rejected_for_minimal_reason {comparison : Comparison I O} {sample : I} {output : O}
    {reason : Diagnostic} (failed : comparison.evaluate sample output = .error reason) :
    ∃ positions : List Nat, positions.length = reason.failureCount ∧
      RejectedAt comparison sample output positions reason := by
  obtain ⟨positions, rejected⟩ := exists_rejectedAt failed
  exact ⟨positions, rejected.length_positions, rejected⟩

/-- Equal to 5 or less than 3; and greater than 4 and equal to 7, or else less than 2. -/
def exNested : Comparison Unit Value :=
  .block .and (.block .or (.equals (.integer 5)) (.ordered (.integer 3) .less))
    (.block .or (.block .and (.ordered (.integer 4) .greater) (.equals (.integer 7)))
      (.ordered (.integer 2) .less))

theorem rejected_exNested :
    exNested.evaluate () (.integer 5) =
      .error (.allAlternativesFailed (.equalityMismatch "7" "5" true)
        (.orderMismatch "2" "5" .less)) ∧
    ∃ positions : List Nat, positions.length = 2 ∧
      RejectedAt exNested () (.integer 5) positions
        (.allAlternativesFailed (.equalityMismatch "7" "5" true)
          (.orderMismatch "2" "5" .less)) := by
  have failed : exNested.evaluate () (.integer 5) =
      .error (.allAlternativesFailed (.equalityMismatch "7" "5" true)
        (.orderMismatch "2" "5" .less)) := by
    rfl
  exact ⟨failed, rejected_for_minimal_reason failed⟩

end Comparison

end PropertyTesting
