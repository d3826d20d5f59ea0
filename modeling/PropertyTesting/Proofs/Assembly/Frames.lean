import PropertyTesting.Assembly

/-!
# What a call does

`Effect` lists what a call of an assembly can do, one rule for each outcome, with the conditions
under which it comes about. Everything that is proved of calls starts from `call_effect`.

`Framed` is the invariant of the open groups. Each frame remembers a state of the assembly, and that
state fits the frames outside it: groups only grow while they are open, a group with an operand of
its own has no operand kept apart, and a group joins on closing exactly if it stands where a leaf
would join. `call_framed` shows that every call keeps it, also one that fails.
-/

namespace PropertyTesting.Assembly

variable {I O : Type}

/-! ## Calls -/

/-- What a call can do: from a state, by a call, a result and the state after it. -/
inductive Effect : Assembly I O → ChainCall I O → Except BuilderError Unit → Assembly I O → Prop
  /-- A leaf is kept apart from what stands before it. -/
  | pushed {operands : List (Comparison I O)} {operators : List BooleanOp} {groups : List OpenGroup}
      {pushNext : Bool} {comparison : Comparison I O} :
      pushNext = true ∨ operands = [] →
      Effect ⟨operands, operators, groups, pushNext⟩ (.leaf comparison) (.ok ())
        ⟨comparison :: operands, operators, groups, false⟩
  /-- A leaf is joined with the operand before it. -/
  | joined {left : Comparison I O} {operands : List (Comparison I O)} {op : BooleanOp}
      {operators : List BooleanOp} {groups : List OpenGroup} {comparison : Comparison I O} :
      operators.length = operands.length →
      Effect ⟨left :: operands, op :: operators, groups, false⟩ (.leaf comparison) (.ok ())
        ⟨.block op left comparison :: operands, operators, groups, false⟩
  /-- A leaf finds too few or too many connectives. -/
  | refused {operands : List (Comparison I O)} {operators : List BooleanOp}
      {groups : List OpenGroup} {comparison : Comparison I O} :
      operands ≠ [] → operators.length ≠ operands.length →
      Effect ⟨operands, operators, groups, false⟩ (.leaf comparison) (.error .unbalancedOperator)
        ⟨operands, operators, groups, false⟩
  | connected {a : Assembly I O} {op : BooleanOp} :
      Effect a (.operator op) (.ok ()) (a.operator op)
  | opened {a : Assembly I O} : Effect a .openGroup (.ok ()) a.openGroup
  /-- No group is open. -/
  | unmatched {operands : List (Comparison I O)} {operators : List BooleanOp} {pushNext : Bool} :
      Effect ⟨operands, operators, [], pushNext⟩ .closeGroup (.error .unbalancedGroup)
        ⟨operands, operators, [], pushNext⟩
  /-- The group holds several operands, or not as many connectives as when it was opened. -/
  | unfinished {operands : List (Comparison I O)} {operators : List BooleanOp} {frame : OpenGroup}
      {groups : List OpenGroup} {pushNext : Bool} :
      frame.operandsBefore + 1 < operands.length ∨ operators.length ≠ frame.operatorsBefore →
      Effect ⟨operands, operators, frame :: groups, pushNext⟩ .closeGroup
        (.error .unbalancedOperator) ⟨operands, operators, groups, pushNext⟩
  /-- The group has no operand. -/
  | closedEmpty {operands : List (Comparison I O)} {operators : List BooleanOp} {frame : OpenGroup}
      {groups : List OpenGroup} {pushNext : Bool} :
      operands.length ≤ frame.operandsBefore → operators.length = frame.operatorsBefore →
      Effect ⟨operands, operators, frame :: groups, pushNext⟩ .closeGroup (.ok ())
        ⟨operands, operators, groups, frame.pushNextBefore⟩
  /-- The operand of the group is kept apart from what stands before the group. -/
  | closedApart {operands : List (Comparison I O)} {operators : List BooleanOp} {frame : OpenGroup}
      {groups : List OpenGroup} {pushNext : Bool} :
      operands.length = frame.operandsBefore + 1 → operators.length = frame.operatorsBefore →
      frame.joinsOnClose = false →
      Effect ⟨operands, operators, frame :: groups, pushNext⟩ .closeGroup (.ok ())
        ⟨operands, operators, groups, false⟩
  /-- The operand of the group is joined with the one before the group. -/
  | closedJoined {node left : Comparison I O} {operands : List (Comparison I O)} {op : BooleanOp}
      {operators : List BooleanOp} {frame : OpenGroup} {groups : List OpenGroup} {pushNext : Bool} :
      operands.length + 1 = frame.operandsBefore → operators.length + 1 = frame.operatorsBefore →
      frame.joinsOnClose = true → operators.length = operands.length →
      Effect ⟨node :: left :: operands, op :: operators, frame :: groups, pushNext⟩ .closeGroup
        (.ok ()) ⟨.block op left node :: operands, operators, groups, false⟩
  /-- The operand of the group finds no connective for it and is gone. -/
  | closedDropping {node : Comparison I O} {operands : List (Comparison I O)}
      {operators : List BooleanOp} {frame : OpenGroup} {groups : List OpenGroup} {pushNext : Bool} :
      operands.length = frame.operandsBefore → operators.length = frame.operatorsBefore →
      frame.joinsOnClose = true → operands = [] ∨ operators.length ≠ operands.length →
      Effect ⟨node :: operands, operators, frame :: groups, pushNext⟩ .closeGroup
        (.error .unbalancedOperator) ⟨operands, operators, groups, false⟩

theorem leaf_effect (a : Assembly I O) (comparison : Comparison I O) :
    Effect a (.leaf comparison) (a.leaf comparison).1 (a.leaf comparison).2 := by
  obtain ⟨operands, operators, groups, pushNext⟩ := a
  by_cases free : pushNext = true ∨ operands = []
  · have pushes : (pushNext || operands.isEmpty) = true := by simpa using free
    simp only [leaf, pushes, if_true]
    exact .pushed free
  · rw [not_or, Bool.not_eq_true] at free
    obtain ⟨rfl, occupied⟩ := free
    have joins : (false || operands.isEmpty) = false := by simpa using occupied
    simp only [leaf, join, joins, Bool.false_eq_true, if_false]
    split
    · next even =>
      cases operands with
      | nil => exact absurd rfl occupied
      | cons left operands =>
        cases operators with
        | nil => simp at even
        | cons op operators => exact .joined (by simpa using even)
    · next uneven => exact .refused occupied uneven

/-- A leaf is added where as many connectives as operands stand. -/
theorem leaf_effect_of_even {a : Assembly I O} (even : a.operators.length = a.operands.length)
    (comparison : Comparison I O) :
    Effect a (.leaf comparison) (.ok ()) (a.leaf comparison).2 := by
  have effect := leaf_effect a comparison
  cases done : a.leaf comparison with
  | mk result after =>
    rw [done] at effect
    cases effect with
    | pushed free => exact .pushed free
    | joined level => exact .joined level
    | refused occupied uneven => exact absurd even uneven

theorem closeGroup_effect (a : Assembly I O) :
    Effect a .closeGroup a.closeGroup.1 a.closeGroup.2 := by
  obtain ⟨operands, operators, groups, pushNext⟩ := a
  cases groups with
  | nil => exact .unmatched
  | cons frame groups =>
    simp only [closeGroup]
    split
    · next crowded => exact .unfinished (by omega)
    next single =>
    have level : operators.length = frame.operatorsBefore := by omega
    split
    · next none => exact .closedEmpty (by omega) level
    next some =>
    have height : operands.length = frame.operandsBefore + 1 := by omega
    split
    · next joins =>
      cases operands with
      | nil => simp at height
      | cons node operands =>
        simp only [List.length_cons, Nat.add_right_cancel_iff] at height
        simp only [join]
        split
        · next even =>
          cases operands with
          | nil => exact .closedDropping height level joins (.inl rfl)
          | cons left operands =>
            cases operators with
            | nil => simp at even
            | cons op operators =>
              exact .closedJoined (by simpa using height) (by simpa using level) joins
                (by simpa using even)
        · next uneven => exact .closedDropping height level joins (.inr uneven)
    · next apart => exact .closedApart height level (by simpa using apart)

/-- Every call does one of the things that `Effect` lists. -/
theorem call_effect {a b : Assembly I O} {call : ChainCall I O} {result : Except BuilderError Unit}
    (done : a.call call = (result, b)) : Effect a call result b := by
  have effect : Effect a call (a.call call).1 (a.call call).2 := by
    cases call with
    | leaf comparison => exact leaf_effect a comparison
    | operator op => exact .connected
    | openGroup => exact .opened
    | closeGroup => exact closeGroup_effect a
  rwa [done] at effect

/-- A call does nothing else under the conditions of a rule. -/
theorem Effect.call {a b : Assembly I O} {call : ChainCall I O} {result : Except BuilderError Unit}
    (effect : Effect a call result b) : a.call call = (result, b) := by
  cases effect with
  | pushed free => rcases free with rfl | rfl <;> simp [Assembly.call, leaf]
  | joined level => simp [Assembly.call, leaf, join, level]
  | refused occupied uneven => simp [Assembly.call, leaf, join, occupied, uneven]
  | connected => rfl
  | opened => rfl
  | unmatched => rfl
  | @unfinished operands operators frame groups pushNext crowded =>
    have refuses : 1 < operands.length - frame.operandsBefore ∨
        operators.length ≠ frame.operatorsBefore := by omega
    simp only [Assembly.call, closeGroup, if_pos refuses]
  | closedEmpty empty level =>
    simp [Assembly.call, closeGroup, level, Nat.sub_eq_zero_of_le empty]
  | closedApart single level apart => simp [Assembly.call, closeGroup, single, level, apart]
  | closedJoined height level joins even =>
    simp [Assembly.call, closeGroup, join, ← height, ← level, joins, even]
  | @closedDropping node operands operators frame groups pushNext height level joins odd =>
    have loses : ({ operands, operators, groups, pushNext := false } : Assembly I O).join node =
        (.error .unbalancedOperator, ⟨operands, operators, groups, false⟩) := by
      rcases odd with rfl | odd
      · cases operators <;> simp [join]
      · simp [join, odd]
    simp [Assembly.call, closeGroup, ← height, ← level, joins, loses]

/-! ## The invariant of the open groups -/

/-- The frames fit the number of operands and the mark for the next one, and each frame's record
fits the frames outside it. -/
def Framed (operands : Nat) (pushNext : Bool) : List OpenGroup → Prop
  | [] => True
  | frame :: outer =>
    frame.operandsBefore ≤ operands ∧
    (pushNext = false → frame.operandsBefore < operands) ∧
    frame.joinsOnClose = (!frame.pushNextBefore && frame.operandsBefore != 0) ∧
    Framed frame.operandsBefore frame.pushNextBefore outer

/-- A group that joins on closing was opened after an operand, and not where the next one is kept
apart. -/
theorem Framed.of_joins {operands : Nat} {pushNext : Bool} {frame : OpenGroup}
    {outer : List OpenGroup} (framed : Framed operands pushNext (frame :: outer))
    (joins : frame.joinsOnClose = true) :
    frame.pushNextBefore = false ∧ frame.operandsBefore ≠ 0 := by
  have recorded := framed.2.2.1
  rw [joins, eq_comm, Bool.and_eq_true] at recorded
  simpa using recorded

theorem Framed.mono {operands more : Nat} {pushNext still : Bool} {groups : List OpenGroup}
    (framed : Framed operands pushNext groups) (grows : operands ≤ more)
    (keeps : still = false → pushNext = false ∨ operands < more) : Framed more still groups := by
  cases groups with
  | nil => trivial
  | cons frame outer =>
    obtain ⟨below, above, joins, rest⟩ := framed
    refine ⟨by omega, fun clear => ?_, joins, rest⟩
    rcases keeps clear with before | grown
    · exact Nat.lt_of_lt_of_le (above before) grows
    · omega

theorem Framed.outer_le {operands : Nat} {pushNext : Bool} {groups : List OpenGroup}
    (framed : Framed operands pushNext groups) :
    ∀ frame ∈ groups, frame.operandsBefore ≤ operands := by
  induction groups generalizing operands pushNext with
  | nil => exact fun _ none => nomatch none
  | cons frame outer ih =>
    obtain ⟨below, -, -, rest⟩ := framed
    rw [List.forall_mem_cons]
    exact ⟨below, fun other member => Nat.le_trans (ih rest other member) below⟩

theorem Framed.outer_lt {operands : Nat} {groups : List OpenGroup}
    (framed : Framed operands false groups) :
    ∀ frame ∈ groups, frame.operandsBefore < operands := by
  cases groups with
  | nil => exact fun _ none => nomatch none
  | cons frame outer =>
    obtain ⟨-, above, -, rest⟩ := framed
    rw [List.forall_mem_cons]
    exact ⟨above rfl,
      fun other member => Nat.lt_of_le_of_lt (rest.outer_le other member) (above rfl)⟩

/-- A call, whatever its result, leaves frames that fit the state. -/
theorem call_framed {a b : Assembly I O} {call : ChainCall I O} {result : Except BuilderError Unit}
    (done : a.call call = (result, b)) (framed : Framed a.operands.length a.pushNext a.groups) :
    Framed b.operands.length b.pushNext b.groups := by
  cases call_effect done with
  | pushed free => exact framed.mono (by simp) fun _ => .inr (by simp)
  | joined level => exact framed
  | refused occupied uneven => exact framed
  | connected => exact framed
  | opened =>
    have joins : (!a.pushNext && !a.operands.isEmpty) =
        (!a.pushNext && a.operands.length != 0) := by
      cases a.operands <;> simp
    exact ⟨Nat.le_refl _, (nomatch ·), joins, framed⟩
  | unmatched => trivial
  | unfinished crowded =>
    obtain ⟨below, above, -, rest⟩ := framed
    exact rest.mono below fun clear => .inr (above clear)
  | closedEmpty empty level =>
    obtain ⟨below, -, -, rest⟩ := framed
    exact rest.mono below fun clear => .inl clear
  | closedApart single level apart =>
    obtain ⟨below, -, -, rest⟩ := framed
    exact rest.mono below fun _ => .inr (single ▸ Nat.lt_succ_self _)
  | closedJoined height level joins even =>
    exact framed.2.2.2.mono (Nat.le_of_eq height.symm) fun _ => .inl (framed.of_joins joins).1
  | closedDropping height level joins odd =>
    exact framed.2.2.2.mono (Nat.le_of_eq height.symm) fun _ => .inl (framed.of_joins joins).1

end PropertyTesting.Assembly
