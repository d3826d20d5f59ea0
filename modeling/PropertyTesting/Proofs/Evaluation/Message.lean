import PropertyTesting.Proofs.Evaluation.Leaves
import PropertyTesting.Proofs.Value.Shown

/-!
# Messages of rejections

The message of a reason has one line for each leaf that the reason names, from left to right,
however the disjunctions are nested (`message_lists_leaves`). The lines are in the order in which
the comparison evaluates the leaves (`leaves_sublist`).

Between the messages of any two neighbouring leaves stands one newline
(`Diagnostic.message_eq_intercalate`), and these have none of their own as long as the values that
are compared are shown on one line each (`isLine_message_of_leaf`). Values of tests that are given
as data always are (`Value.isLine_shown`).
-/

namespace PropertyTesting

/-! ## Lines -/

namespace Text

/-- The lines of a text, which newlines part. -/
def lines (s : String) : List String :=
  (s.split '\n').toList.map (·.copy)

/-- A text that is one line. -/
def IsLine (s : String) : Prop :=
  '\n' ∉ s.toList

instance : DecidablePred IsLine :=
  fun s => inferInstanceAs (Decidable ('\n' ∉ s.toList))

theorem IsLine.append {s t : String} (first : IsLine s) (second : IsLine t) : IsLine (s ++ t) := by
  rw [IsLine, String.toList_append, List.mem_append, not_or]
  exact ⟨first, second⟩

theorem Printable.isLine {s : String} (printable : Printable s.toList) : IsLine s :=
  fun broken => absurd (printable '\n' broken) (by decide)

theorem lines_intercalate {parts : List String} (some : parts ≠ [])
    (single : ∀ part ∈ parts, IsLine part) : lines ("\n".intercalate parts) = parts := by
  have split := String.toList_split_intercalate single
  rwa [if_neg some] at split

end Text

open Text

theorem Value.isLine_shown (v : Value) : IsLine (Shown.shown v) :=
  v.printable_render.isLine

/-! ## Reasons -/

namespace Diagnostic

theorem leaves_ne_nil (reason : Diagnostic) : reason.leaves ≠ [] := by
  cases reason with
  | allAlternativesFailed left right => exact List.append_ne_nil_of_left_ne_nil left.leaves_ne_nil _
  | _ => exact List.cons_ne_nil _ _

theorem map_leaves_ne_nil {α : Type} (f : Diagnostic → α) (reason : Diagnostic) :
    reason.leaves.map f ≠ [] :=
  fun nothing => reason.leaves_ne_nil (List.map_eq_nil_iff.mp nothing)

/-- A message is the messages of the leaves with a newline between any two of them. -/
theorem message_eq_intercalate (reason : Diagnostic) :
    reason.message = "\n".intercalate (reason.leaves.map message) := by
  induction reason with
  | allAlternativesFailed left right ihl ihr =>
    calc (allAlternativesFailed left right).message
      _ = left.message ++ "\n" ++ right.message := rfl
      _ = "\n".intercalate (left.leaves.map message) ++ "\n" ++
        "\n".intercalate (right.leaves.map message) := by
        rw [← ihl, ← ihr]
      _ = "\n".intercalate (left.leaves.map message ++ right.leaves.map message) :=
        (String.intercalate_append_of_ne_nil (left.map_leaves_ne_nil _)
          (right.map_leaves_ne_nil _)).symm
      _ = "\n".intercalate ((allAlternativesFailed left right).leaves.map message) := by
        rw [leaves, List.map_append]
  | _ => exact String.intercalate_singleton.symm

theorem lines_message {reason : Diagnostic} (single : ∀ part ∈ reason.leaves, IsLine part.message) :
    lines reason.message = reason.leaves.map message := by
  rw [message_eq_intercalate]
  exact lines_intercalate (reason.map_leaves_ne_nil _) (List.forall_mem_map.mpr single)

section Leaf

variable {expected observed : String}

theorem isLine_equalityMismatch (first : IsLine expected) (second : IsLine observed)
    (checkEqual : Bool) : IsLine (equalityMismatch expected observed checkEqual).message := by
  have opening : IsLine "Expected output " := by decide
  have relation : IsLine (if checkEqual then "equal to" else "different from") := by
    cases checkEqual <;> decide
  have space : IsLine " " := by decide
  have closing : IsLine ", observed " := by decide
  exact ((((opening.append relation).append space).append first).append closing).append second

theorem isLine_orderMismatch (first : IsLine expected) (second : IsLine observed) (op : OrderOp) :
    IsLine (orderMismatch expected observed op).message := by
  have opening : IsLine "Expected output " := by decide
  have link : IsLine " to be " := by decide
  have relation : IsLine op.relation := by
    cases op <;> decide
  have space : IsLine " " := by decide
  exact ((((opening.append second).append link).append relation).append space).append first

theorem isLine_incomparable (first : IsLine expected) (second : IsLine observed) :
    IsLine (incomparable expected observed).message := by
  have opening : IsLine "Output " := by decide
  have link : IsLine " has no ordering relative to " := by decide
  exact ((opening.append second).append link).append first

end Leaf

end Diagnostic

/-! ## Comparisons -/

variable {I O : Type} [Output O]

section Checks

variable {expected output : O} {reason : Diagnostic}

theorem isLine_of_checkEquality {checkEqual : Bool}
    (failed : checkEquality expected output checkEqual = .error reason)
    (first : IsLine (Shown.shown expected)) (second : IsLine (Shown.shown output)) :
    IsLine reason.message := by
  simp only [checkEquality] at failed
  repeat' split at failed
  all_goals cases failed
  all_goals exact Diagnostic.isLine_equalityMismatch first second checkEqual

theorem isLine_of_checkOrder {op : OrderOp} {order : Comparator O}
    (failed : checkOrder order expected output op = .error reason)
    (first : IsLine (Shown.shown expected)) (second : IsLine (Shown.shown output)) :
    IsLine reason.message := by
  simp only [checkOrder] at failed
  repeat' split at failed
  all_goals cases failed
  · exact Diagnostic.isLine_orderMismatch first second op
  · exact Diagnostic.isLine_incomparable first second
  · exact Diagnostic.isLine_orderMismatch first second op

end Checks

namespace Comparison

/-- What a leaf expects for a sample. -/
def expected? (sample : I) : Comparison I O → Option O
  | literalEquality expected _ | literalOrder expected .. => some expected
  | functionEquality expected _ | functionOrder expected .. => some (expected sample)
  | block .. => none

variable {comparison leaf : Comparison I O} {sample : I} {output : O} {reason : Diagnostic}

/-- The message of a leaf has no newline that is not shown in a value. -/
theorem isLine_message_of_leaf (isLeaf : leaf.isBlock = false)
    (failed : leaf.evaluate sample output = .error reason)
    (expected : ∀ value ∈ leaf.expected? sample, IsLine (Shown.shown value))
    (observed : IsLine (Shown.shown output)) : IsLine reason.message := by
  cases leaf with
  | literalEquality value checkEqual =>
    exact isLine_of_checkEquality failed (expected _ rfl) observed
  | functionEquality value checkEqual =>
    exact isLine_of_checkEquality failed (expected _ rfl) observed
  | literalOrder value op order => exact isLine_of_checkOrder failed (expected _ rfl) observed
  | functionOrder value op order => exact isLine_of_checkOrder failed (expected _ rfl) observed
  | block op left right => cases isLeaf

/-- A reason names leaves that were evaluated and rejected, in the order of evaluation. -/
theorem leaves_sublist (failed : comparison.evaluate sample output = .error reason) :
    (reason.leaves.map .error).Sublist (comparison.leaves.map (·.evaluate sample output)) := by
  induction comparison using induction_leaf generalizing reason with
  | leaf leaf isLeaf =>
    have named : reason.leaves.map .error = leaf.leaves.map (·.evaluate sample output) := by
      rw [leaves_of_leaf isLeaf failed, leaves_leaf isLeaf, List.map_singleton,
        List.map_singleton, failed]
    exact named ▸ List.Sublist.refl _
  | block op left right ihl ihr =>
    rw [evaluate_block, BooleanOp.combine_eq_error_iff] at failed
    rw [leaves, List.map_append]
    rcases failed with ⟨-, rejected | ⟨-, rejected⟩⟩ |
      ⟨-, reasonLeft, reasonRight, rejectedLeft, rejectedRight, rfl⟩
    · exact (ihl rejected).trans (List.sublist_append_left _ _)
    · exact (ihr rejected).trans (List.sublist_append_right _ _)
    · rw [Diagnostic.leaves, List.map_append]
      exact (ihl rejectedLeft).append (ihr rejectedRight)

/-- The message of a rejection has as many lines as the reason counts leaves: the messages of the
leaves that the reason names, from left to right, which are leaves that reject in the order in which
they are evaluated. -/
theorem message_lists_leaves (failed : comparison.evaluate sample output = .error reason)
    (expected : ∀ leaf ∈ comparison.leaves, ∀ value ∈ leaf.expected? sample,
      IsLine (Shown.shown value))
    (observed : IsLine (Shown.shown output)) :
    (lines reason.message).length = reason.failureCount ∧
    lines reason.message = reason.leaves.map Diagnostic.message ∧
    (reason.leaves.map .error).Sublist (comparison.leaves.map (·.evaluate sample output)) := by
  have named := leaves_sublist failed
  have single : ∀ part ∈ reason.leaves, IsLine part.message := by
    intro part member
    obtain ⟨leaf, evaluated, rejected⟩ :=
      List.mem_map.mp (named.subset (List.mem_map_of_mem member))
    exact isLine_message_of_leaf (isBlock_of_mem_leaves evaluated) rejected
      (expected leaf evaluated) observed
  have listed := Diagnostic.lines_message single
  refine ⟨?_, listed, named⟩
  rw [listed, List.length_map, Diagnostic.length_leaves]

/-- Alternatives on both sides of an alternative, the first of which expects a text with a newline
in it. -/
def exAlternatives : Comparison Unit Value :=
  .block .or
    (.block .or (.equals (.text "a\nb"))
      (.block .and (.ordered (.integer 9) .less) (.notEquals (.integer 5))))
    (.block .or (.ordered (.integer 7) .greater) (.orderedOf (fun _ => .absent) .equal))

/-- Why 5 is rejected: for all its alternatives, in the second of which only one side rejects. -/
def exReason : Diagnostic :=
  .allAlternativesFailed
    (.allAlternativesFailed (.equalityMismatch "\"a\\nb\"" "5" true)
      (.equalityMismatch "5" "5" false))
    (.allAlternativesFailed (.orderMismatch "7" "5" .greater) (.incomparable "None" "5"))

theorem message_lists_leaves_exAlternatives :
    exAlternatives.evaluate () (.integer 5) = .error exReason ∧
    (∀ leaf ∈ exAlternatives.leaves, ∀ value ∈ leaf.expected? (), IsLine (Shown.shown value)) ∧
    IsLine (Shown.shown (Value.integer 5)) ∧
    (lines exReason.message).length = 4 ∧
    lines exReason.message = exReason.leaves.map Diagnostic.message ∧
    (exReason.leaves.map .error).Sublist
      (exAlternatives.leaves.map (·.evaluate () (.integer 5))) := by
  have failed : exAlternatives.evaluate () (.integer 5) = .error exReason := by
    rfl
  have expected : ∀ leaf ∈ exAlternatives.leaves, ∀ value ∈ leaf.expected? (),
      IsLine (Shown.shown value) :=
    fun _ _ value _ => value.isLine_shown
  have observed : IsLine (Shown.shown (Value.integer 5)) := Value.isLine_shown _
  exact ⟨failed, expected, observed, message_lists_leaves failed expected observed⟩

end Comparison

end PropertyTesting
