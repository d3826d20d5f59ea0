import Mathlib.Logic.ExistsUnique
import PropertyTesting.Evaluation
import PropertyTesting.Value.Shown

/-!
# Absent values and the relations of a type

A leaf treats absent values by rules of its own and leaves the others to the relations of the output
type. For all output types the result is what these relations say of absent values too
(`leaves_agree_with_relations`), whatever they say of present ones: values need not be equal to
themselves, and two of them need not be ordered.

An output type is a type without absent values, an optional type, or one of these in boxes
(`OutputType`). Of two values of such a type that may be absent, the relations say what the rules
say (`OutputType.respectAbsence`).
-/

namespace PropertyTesting

/-- The output types, each as the set of its values. Values of any type are sorted like those of
fixed types. -/
inductive OutputType : {O : Type} → [Output O] → (O → Prop) → Prop
  /-- All values are present. -/
  | plain {O : Type} [Output O] {has : O → Prop} :
      (∀ o, has o → Output.isAbsent o = false) → OutputType has
  | optional {T : Type} [Output T] (has : T → Prop) :
      OutputType fun o : Option T => ∀ content ∈ o, has content
  | boxed {O : Type} [Output O] {has : O → Prop} :
      OutputType has → OutputType fun b : Boxed O => has b.content
  | optionalValue (has : Value → Prop) :
      OutputType fun v : Value => v = .absent ∨ ∃ content, v = .present content ∧ has content
  | boxedValue {has : Value → Prop} :
      OutputType has → OutputType fun v : Value => ∃ content, v = .boxed content ∧ has content

section

variable {O : Type} [Output O] {expected output : O}

/-- As far as one of two values is absent, they stand to each other as the rules for absent values
say. -/
structure RespectAbsence (expected output : O) : Prop where
  same : Output.isAbsent expected = true → Output.same expected output = Output.isAbsent output
  compare? : Output.isAbsent output = true →
    Output.compare? output expected = some (if Output.isAbsent expected then .eq else .lt)

namespace RespectAbsence

theorem of_present (hasExpected : Output.isAbsent expected = false)
    (hasOutput : Output.isAbsent output = false) : RespectAbsence expected output where
  same absent := absurd (hasExpected.symm.trans absent) Bool.false_ne_true
  compare? absent := absurd (hasOutput.symm.trans absent) Bool.false_ne_true

theorem optional {T : Type} [Output T] :
    (expected output : Option T) → RespectAbsence expected output
  | none, none => ⟨fun _ => rfl, fun _ => rfl⟩
  | none, some _ => ⟨fun _ => rfl, fun absent => absurd absent Bool.false_ne_true⟩
  | some _, none => ⟨fun absent => absurd absent Bool.false_ne_true, fun _ => rfl⟩
  | some _, some _ => of_present rfl rfl

theorem boxed (content : RespectAbsence expected output) :
    RespectAbsence (Boxed.mk expected) (Boxed.mk output) :=
  ⟨content.same, content.compare?⟩

theorem boxedValue {expected output : Value} (content : RespectAbsence expected output) :
    RespectAbsence (Value.boxed expected) (Value.boxed output) :=
  ⟨content.same, content.compare?⟩

end RespectAbsence

theorem OutputType.respectAbsence {has : O → Prop} (typed : OutputType has)
    (hasExpected : has expected) (hasOutput : has output) : RespectAbsence expected output := by
  induction typed with
  | plain present => exact .of_present (present expected hasExpected) (present output hasOutput)
  | optional has => exact .optional expected output
  | boxed typed ih => exact (ih hasExpected hasOutput).boxed
  | optionalValue has =>
    obtain rfl | ⟨a, rfl, -⟩ := hasExpected <;> obtain rfl | ⟨b, rfl, -⟩ := hasOutput
    · exact ⟨fun _ => rfl, fun _ => rfl⟩
    · exact ⟨fun _ => rfl, fun absent => absurd absent Bool.false_ne_true⟩
    · exact ⟨fun absent => absurd absent Bool.false_ne_true, fun _ => rfl⟩
    · exact .of_present rfl rfl
  | boxedValue typed ih =>
    obtain ⟨a, rfl, hasA⟩ := hasExpected
    obtain ⟨b, rfl, hasB⟩ := hasOutput
    exact (ih hasA hasB).boxedValue

/-! ## Leaves -/

/-- An absent output passes as if it were below the present values and equal to the absent ones. -/
theorem absentPasses_iff {op : OrderOp} :
    absentPasses expected op = true ↔
      op = .ofOrdering (if Output.isAbsent expected then .eq else .lt) := by
  cases absent : Output.isAbsent expected <;> cases op <;>
    simp [absentPasses, absent, OrderOp.ofOrdering]

namespace RespectAbsence

theorem checkEquality_eq (related : RespectAbsence expected output) (checkEqual : Bool) :
    checkEquality expected output checkEqual =
      if Output.same expected output = checkEqual then .ok ()
      else .error (.equalityMismatch (Shown.shown expected) (Shown.shown output) checkEqual) := by
  have equal :
      (if Output.isAbsent expected then Output.isAbsent output else Output.same expected output) =
        Output.same expected output := by
    split
    next absent => exact (related.same absent).symm
    next => rfl
  simp only [checkEquality, equal]

theorem checkOrder_of_unordered (related : RespectAbsence expected output)
    (unordered : Output.compare? output expected = none) (op : OrderOp) :
    checkOrder Output.compare? expected output op =
      .error (.incomparable (Shown.shown expected) (Shown.shown output)) := by
  have present : ¬Output.isAbsent output = true := fun absent =>
    nomatch unordered.symm.trans (related.compare? absent)
  simp only [checkOrder, if_neg present, unordered]

theorem checkOrder_of_ordered (related : RespectAbsence expected output) {ordering : Ordering}
    (ordered : Output.compare? output expected = some ordering) (op : OrderOp) :
    checkOrder Output.compare? expected output op =
      if op = .ofOrdering ordering then .ok ()
      else .error (.orderMismatch (Shown.shown expected) (Shown.shown output) op) := by
  simp only [checkOrder, OrderOp.admits_iff, absentPasses_iff, ordered]
  split
  next absent => rw [Option.some.inj (ordered.symm.trans (related.compare? absent))]
  next => rfl

end RespectAbsence

namespace Comparison

variable {I : Type} {sample : I}

/-- The equality leaves that expect a value of the output for a sample. -/
inductive EqualityLeaves (sample : I) (expected : O) : (Bool → Comparison I O) → Prop
  | literal : EqualityLeaves sample expected (literalEquality expected)
  | function (f : I → O) : f sample = expected → EqualityLeaves sample expected (functionEquality f)

/-- The ordering leaves that expect a relation to a value for a sample. -/
inductive OrderLeaves (sample : I) (expected : O) : (OrderOp → Comparison I O) → Prop
  | literal : OrderLeaves sample expected (ordered expected)
  | function (f : I → O) : f sample = expected → OrderLeaves sample expected (orderedOf f)

theorem EqualityLeaves.evaluate {leaf : Bool → Comparison I O}
    (leaves : EqualityLeaves sample expected leaf) (checkEqual : Bool) :
    (leaf checkEqual).evaluate sample output = checkEquality expected output checkEqual := by
  cases leaves with
  | literal => rfl
  | function f value =>
    subst value
    rfl

theorem OrderLeaves.evaluate {leaf : OrderOp → Comparison I O}
    (leaves : OrderLeaves sample expected leaf) (op : OrderOp) :
    (leaf op).evaluate sample output = checkOrder Output.compare? expected output op := by
  cases leaves with
  | literal => rfl
  | function f value =>
    subst value
    rfl

/-- A leaf on values of an output type says what the relations of the type say, whichever of them
are absent. An equality leaf passes if they are equal as it asks, so that of equality and difference
just one passes. An ordering leaf passes if they stand in its relation, so that just one relation
passes if they are ordered, and none if not. -/
theorem leaves_agree_with_relations {has : O → Prop} (typed : OutputType has)
    (hasExpected : has expected) (hasOutput : has output) (sample : I) :
    (∀ leaf : Bool → Comparison I O, EqualityLeaves sample expected leaf →
      (∀ checkEqual, (leaf checkEqual).evaluate sample output = .ok () ↔
        Output.same expected output = checkEqual) ∧
      (∀ checkEqual, (leaf checkEqual).evaluate sample output =
          .error (.equalityMismatch (Shown.shown expected) (Shown.shown output) checkEqual) ↔
        Output.same expected output ≠ checkEqual) ∧
      ((leaf true).evaluate sample output = .ok () ↔
        (leaf false).evaluate sample output ≠ .ok ())) ∧
    (∀ leaf : OrderOp → Comparison I O, OrderLeaves sample expected leaf →
      (∀ op, (leaf op).evaluate sample output = .ok () ↔
        ∃ ordering, Output.compare? output expected = some ordering ∧ op = .ofOrdering ordering) ∧
      (∀ op, (leaf op).evaluate sample output =
          .error (.incomparable (Shown.shown expected) (Shown.shown output)) ↔
        Output.compare? output expected = none) ∧
      (∀ op, (leaf op).evaluate sample output =
          .error (.orderMismatch (Shown.shown expected) (Shown.shown output) op) ↔
        ∃ ordering, Output.compare? output expected = some ordering ∧ op ≠ .ofOrdering ordering) ∧
      (Output.compare? output expected ≠ none → ∃! op, (leaf op).evaluate sample output = .ok ()) ∧
      (Output.compare? output expected = none →
        ∀ op, (leaf op).evaluate sample output ≠ .ok ())) := by
  have related := typed.respectAbsence hasExpected hasOutput
  constructor
  · intro leaf leaves
    simp only [leaves.evaluate, related.checkEquality_eq]
    refine ⟨fun checkEqual => ?_, fun checkEqual => ?_, ?_⟩
    · split <;> simp [*]
    · split <;> simp [*]
    · cases Output.same expected output <;> simp
  · intro leaf leaves
    cases relation : Output.compare? output expected with
    | none =>
      have verdict := related.checkOrder_of_unordered relation
      simp [leaves.evaluate, verdict]
    | some ordering =>
      have verdict := related.checkOrder_of_ordered relation
      have passes (op : OrderOp) :
          (leaf op).evaluate sample output = .ok () ↔ op = .ofOrdering ordering := by
        rw [leaves.evaluate, verdict]
        split <;> simp [*]
      refine ⟨fun op => ?_, fun op => ?_, fun op => ?_,
        fun _ => ⟨.ofOrdering ordering, (passes _).mpr rfl, fun op => (passes op).mp⟩,
        fun none => nomatch none⟩
      · simp [passes]
      · rw [leaves.evaluate, verdict]
        split <;> simp
      · rw [leaves.evaluate, verdict]
        split <;> simp [*]

/-- A boxed optional value that is no number is different from itself and in no relation to itself.
What is absent is below it. -/
theorem leaves_agree_with_relations_exNan :
    (notEquals (I := Unit) (Boxed.mk (some (Value.double .nan)))).evaluate ()
      ⟨some (.double .nan)⟩ = .ok () ∧
    (∀ op,
      (ordered (I := Unit) (Boxed.mk (some (Value.double .nan))) op).evaluate ()
        ⟨some (.double .nan)⟩ ≠ .ok ()) ∧
    (orderedOf (fun n => Value.boxed (.present n)) .less).evaluate (.double .nan) (.boxed .absent) =
      .ok () := by
  have boxedOption : OutputType fun b : Boxed (Option Value) => ∀ content ∈ b.content, True :=
    .boxed (.optional fun _ => True)
  have boxedValue := OutputType.boxedValue (.optionalValue fun _ => True)
  obtain ⟨equality, order⟩ :=
    @leaves_agree_with_relations (Boxed (Option Value)) _ ⟨some (.double .nan)⟩
      ⟨some (.double .nan)⟩ Unit _ boxedOption (fun _ _ => trivial) (fun _ _ => trivial) ()
  obtain ⟨-, optionalOrder⟩ :=
    @leaves_agree_with_relations Value _ (.boxed (.present (.double .nan))) (.boxed .absent) Value _
      boxedValue ⟨_, rfl, .inr ⟨_, rfl, trivial⟩⟩ ⟨_, rfl, .inl rfl⟩ (.double .nan)
  refine ⟨((equality _ .literal).1 false).mpr rfl, (order _ .literal).2.2.2.2 rfl, ?_⟩
  exact ((optionalOrder _ (.function (fun n => Value.boxed (.present n)) rfl)).1 .less).mpr
    ⟨.lt, rfl, rfl⟩

end Comparison

end

end PropertyTesting
