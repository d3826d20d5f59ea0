import PropertyTesting.Proofs.Evaluation.Leaves
import PropertyTesting.Value.Shown

/-!
# What a trace is told

A comparison reports each of its leaves once, from left to right, with what the leaf says of the
output on its own, whatever the trace makes of the reports (`evaluateTraced_eq`). So the reports
depend on the leaves alone and not on the connectives that join them, and the verdict is the reading
of the comparison over the reported truth values (`trace_determines_verdict`).
-/

namespace PropertyTesting.Comparison

variable {I O τ : Type}

/-- The kind of a leaf. -/
def kind? : Comparison I O → Option LeafKind
  | literalEquality .. => some .literalEquality
  | functionEquality .. => some .functionEquality
  | literalOrder .. => some .literalOrder
  | functionOrder .. => some .functionOrder
  | block .. => none

/-- Two comparisons have the same leaves in the same places, whichever connectives join them. -/
inductive SameLeaves : Comparison I O → Comparison I O → Prop
  | leaf {leaf : Comparison I O} : leaf.isBlock = false → SameLeaves leaf leaf
  | block {left left' right right' : Comparison I O} (op op' : BooleanOp) :
      SameLeaves left left' → SameLeaves right right' →
        SameLeaves (block op left right) (block op' left' right')

theorem SameLeaves.leaves_eq {comparison comparison' : Comparison I O}
    (same : SameLeaves comparison comparison') : comparison'.leaves = comparison.leaves := by
  induction same with
  | leaf => rfl
  | block op op' left right ihl ihr => rw [leaves, leaves, ihl, ihr]

variable [Output O] (sample : I) (output : O)

/-- What a trace is told of a leaf. -/
def event? (leaf : Comparison I O) : Option LeafEvent :=
  leaf.kind?.map fun kind => ⟨kind, (leaf.evaluate sample output).passed⟩

/-! ## Events in the order of the leaves -/

/-- A trace is told of the leaves in their order, and of nothing else. It has no influence on the
verdict. -/
theorem evaluateTraced_eq (record : LeafEvent → τ → τ) (comparison : Comparison I O) (trace : τ) :
    comparison.evaluateTraced record sample output trace =
      (comparison.evaluate sample output,
        (comparison.leaves.filterMap (event? sample output)).foldl
          (fun trace event => record event trace) trace) := by
  induction comparison generalizing trace with
  | block op left right ihl ihr =>
    simp only [evaluateTraced, ihl, ihr, leaves, List.filterMap_append, List.foldl_append,
      evaluate_block]
  | _ => rfl

theorem leafEvents_eq (comparison : Comparison I O) :
    comparison.leafEvents sample output = comparison.leaves.filterMap (event? sample output) := by
  rw [leafEvents, evaluateTraced_eq]
  simp

/-- There is an event for each leaf. -/
theorem map_some_leafEvents (comparison : Comparison I O) :
    (comparison.leafEvents sample output).map some =
      comparison.leaves.map (event? sample output) := by
  rw [leafEvents_eq]
  induction comparison with
  | block op left right ihl ihr =>
    rw [leaves, List.filterMap_append, List.map_append, List.map_append, ihl, ihr]
  | _ => rfl

theorem length_leafEvents (comparison : Comparison I O) :
    (comparison.leafEvents sample output).length = comparison.leafCount := by
  simpa using congrArg List.length (map_some_leafEvents sample output comparison)

theorem leafEvents_getElem? (comparison : Comparison I O) (k : Nat) :
    (comparison.leafEvents sample output)[k]?.map some =
      comparison.leaves[k]?.map (event? sample output) := by
  simpa using congrArg (·[k]?) (map_some_leafEvents sample output comparison)

theorem leafEvents_block (op : BooleanOp) (left right : Comparison I O) :
    (block op left right).leafEvents sample output =
      left.leafEvents sample output ++ right.leafEvents sample output := by
  rw [leafEvents_eq, leafEvents_eq, leafEvents_eq, leaves, List.filterMap_append]

/-! ## The verdict -/

/-- The truth value that was reported at a position. -/
def passedAt (events : List LeafEvent) (k : Nat) : Bool :=
  (events[k]?.map (·.passed)).getD false

theorem passed_evaluate_eq_reading (comparison : Comparison I O) :
    (comparison.evaluate sample output).passed =
      comparison.reading (passedAt (comparison.leafEvents sample output)) := by
  induction comparison with
  | block op left right ihl ihr =>
    have lefts : left.reading (passedAt ((block op left right).leafEvents sample output)) =
        left.reading (passedAt (left.leafEvents sample output)) := by
      refine reading_congr fun i inside => ?_
      rw [passedAt, leafEvents_block, List.getElem?_append_left (by rwa [length_leafEvents]),
        passedAt]
    have rights : (right.reading fun i => passedAt ((block op left right).leafEvents sample output)
          (left.leafCount + i)) =
        right.reading (passedAt (right.leafEvents sample output)) := by
      refine reading_congr fun i _ => ?_
      rw [passedAt, leafEvents_block, ← left.length_leafEvents sample output,
        List.getElem?_append_right (Nat.le_add_right _ _), Nat.add_sub_cancel_left, passedAt]
    rw [evaluate_block, BooleanOp.passed_combine, ihl, ihr, reading, lefts, rights]
  | _ => rfl

/-! ## Recording traces -/

/-- Told of events one after the other, a trace that records them has them after those it had. -/
theorem recorded_foldl {record : LeafEvent → τ → τ} {recorded : τ → List LeafEvent}
    (records : ∀ event trace, recorded (record event trace) = recorded trace ++ [event])
    (events : List LeafEvent) (trace : τ) :
    recorded (events.foldl (fun trace event => record event trace) trace) =
      recorded trace ++ events := by
  induction events generalizing trace with
  | nil => rw [List.foldl_nil, List.append_nil]
  | cons event rest ih =>
    rw [List.foldl_cons, ih, records, List.append_assoc, List.singleton_append]

/-- However a trace records what it is told, a comparison appends one event for each leaf to it,
from left to right, with the kind of the leaf and what the leaf says on its own. The connectives
have no influence on the events, and the events determine the verdict, which is the same without a
trace. -/
theorem trace_determines_verdict (record : LeafEvent → τ → τ) (recorded : τ → List LeafEvent)
    (records : ∀ event trace, recorded (record event trace) = recorded trace ++ [event])
    (comparison : Comparison I O) (earlier : τ) :
    ∃ events : List LeafEvent,
      recorded (comparison.evaluateTraced record sample output earlier).2 =
        recorded earlier ++ events ∧
      events.length = comparison.leafCount ∧
      (∀ (k : Nat) (leaf : Comparison I O), comparison.leaves[k]? = some leaf →
        ∃ kind, leaf.kind? = some kind ∧
          events[k]? = some ⟨kind, (leaf.evaluate sample output).passed⟩) ∧
      (∀ comparison' : Comparison I O, SameLeaves comparison comparison' →
        recorded (comparison'.evaluateTraced record sample output earlier).2 =
          recorded earlier ++ events) ∧
      ((comparison.evaluateTraced record sample output earlier).1 = .ok () ↔
        comparison.reading (passedAt events) = true) ∧
      (comparison.evaluateTraced record sample output earlier).1 =
        comparison.evaluate sample output := by
  have appended (comparison : Comparison I O) :
      recorded (comparison.evaluateTraced record sample output earlier).2 =
        recorded earlier ++ comparison.leafEvents sample output := by
    rw [evaluateTraced_eq, recorded_foldl records, leafEvents_eq]
  refine ⟨comparison.leafEvents sample output, appended comparison,
    length_leafEvents sample output comparison, fun k leaf located => ?_,
    fun comparison' same => ?_, ?_, ?_⟩
  · have event := leafEvents_getElem? sample output comparison k
    rw [located, Option.map_some] at event
    obtain ⟨told, found, isEvent⟩ := Option.map_eq_some_iff.mp event
    obtain ⟨kind, isKind, rfl⟩ := Option.map_eq_some_iff.mp isEvent.symm
    exact ⟨kind, isKind, found⟩
  · rw [appended, leafEvents_eq, leafEvents_eq, same.leaves_eq]
  · rw [evaluateTraced_eq, ← Verdict.passed_iff, passed_evaluate_eq_reading]
  · rw [evaluateTraced_eq]

/-- A disjunction whose left side accepts reports the right side too, and so does the conjunction of
its sides. -/
theorem trace_determines_verdict_exDisjunction :
    ∃ events : List LeafEvent,
      (evaluateTraced (fun event (trace : Array LeafEvent) => trace.push event) () (Value.integer 1)
          (block .or (equals (.integer 1)) (ordered (.integer 1) .less))
          #[⟨.functionOrder, true⟩]).2.toList =
        ⟨.functionOrder, true⟩ :: events ∧
      events.length = 2 ∧ events[1]? = some ⟨.literalOrder, false⟩ ∧
      (evaluateTraced (fun event (trace : Array LeafEvent) => trace.push event) () (Value.integer 1)
          (block .and (equals (.integer 1)) (ordered (.integer 1) .less))
          #[⟨.functionOrder, true⟩]).2.toList =
        ⟨.functionOrder, true⟩ :: events := by
  obtain ⟨events, appended, length, kth, exchanged, -⟩ :=
    trace_determines_verdict () (Value.integer 1)
      (fun event (trace : Array LeafEvent) => trace.push event) Array.toList
      (fun _ _ => Array.toList_push)
      (block .or (equals (.integer 1)) (ordered (.integer 1) .less)) #[⟨.functionOrder, true⟩]
  obtain ⟨kind, isKind, event⟩ := kth 1 (ordered (.integer 1) .less) rfl
  cases isKind
  exact ⟨events, appended, length, event, exchanged _ (.block .or .and (.leaf rfl) (.leaf rfl))⟩

end PropertyTesting.Comparison
