import PropertyTesting.Proofs.Assembly.Run

/-!
# Groups are operands

A group that is opened in a state `s` starts a comparison of its own on top of what `s` holds.
`above s t` is the state in which that inner comparison has come as far as `t` has on an empty
assembly: both stacks of `t` stand on those of `s`, its frames count from there, and where `t` would
keep its first operand for want of another, `above s t` has the mark to keep it apart.

`call_above` shows that a call does the same in both states, so a whole run does (`run_above`), up
to the call that closes the group. Closing it then leaves what a leaf would have left
(`closeGroup_above`).
-/

namespace PropertyTesting

open ChainCall

namespace Assembly

variable {I O : Type}

/-- A frame of an inner comparison, counted from the ground of the one it is in. -/
def raise (s : Assembly I O) (frame : OpenGroup) : OpenGroup where
  operandsBefore := frame.operandsBefore + s.operands.length
  operatorsBefore := frame.operatorsBefore + s.operators.length
  joinsOnClose := frame.joinsOnClose
  pushNextBefore := frame.pushNextBefore || frame.operandsBefore == 0

/-- The state `t` of an inner comparison in a group that was opened in the state `s`. -/
def above (s t : Assembly I O) : Assembly I O where
  operands := t.operands ++ s.operands
  operators := t.operators ++ s.operators
  groups := t.groups.map s.raise ++ s.openGroup.groups
  pushNext := t.pushNext || t.operands.isEmpty

theorem above_empty (s : Assembly I O) : s.above empty = s.openGroup :=
  rfl

variable {s t u : Assembly I O}

theorem openGroup_above : (s.above t).openGroup = s.above t.openGroup := by
  obtain ⟨operands, operators, groups, pushNext⟩ := t
  cases operands with
  | nil => simp [openGroup, above, raise]
  | cons top operands => simp [openGroup, above, raise, Nat.add_right_comm]

/-- A call that does not close the group does in it what it does in the inner comparison. The stacks
of `s` cancel where as many connectives as operands are asked for. -/
theorem call_above (even : s.operators.length = s.operands.length)
    (framed : Framed t.operands.length t.pushNext t.groups) {call : ChainCall I O}
    {result : Except BuilderError Unit} (done : t.call call = (result, u))
    (inner : call = .closeGroup → t.groups ≠ []) : (s.above t).call call = (result, s.above u) := by
  apply Effect.call
  cases call_effect done with
  | pushed free => exact .pushed (.inl (by simpa [above] using free))
  | joined level => exact .joined (by simp [level, even])
  | @refused operands operators groups comparison occupied uneven =>
    cases operands with
    | nil => exact absurd rfl occupied
    | cons top operands =>
      exact .refused (by simp) (by simp only [List.length_append, even]; omega)
  | connected => exact .connected
  | opened =>
    rw [← openGroup_above]
    exact .opened
  | unmatched => exact absurd rfl (inner rfl)
  | unfinished crowded => exact .unfinished (by simp only [raise, List.length_append]; omega)
  | @closedEmpty operands operators frame groups pushNext none level =>
    have ground : operands.isEmpty = (frame.operandsBefore == 0) := by
      rw [Nat.le_antisymm framed.1 none]
      cases operands <;> simp
    simp only [above, ground]
    exact .closedEmpty (by simpa [raise] using none) (by simpa [raise] using level)
  | @closedApart operands operators frame groups pushNext single level apart =>
    cases operands with
    | nil => simp at single
    | cons node operands =>
      exact .closedApart (by simp only [raise, List.length_append]; omega)
        (by simp only [raise, List.length_append]; omega) apart
  | closedJoined height level joins balanced =>
    exact .closedJoined (by simp only [raise, List.append_eq, List.length_append]; omega)
      (by simp only [raise, List.append_eq, List.length_append]; omega) joins
      (by simp [balanced, even])
  | @closedDropping node operands operators frame groups pushNext height level joins odd =>
    cases operands with
    | nil => exact absurd height.symm (framed.of_joins joins).2
    | cons left operands =>
      have uneven := odd.resolve_left (List.cons_ne_nil left operands)
      exact .closedDropping (by simp only [raise, List.append_eq, List.length_append]; omega)
        (by simp only [raise, List.length_append]; omega) joins
        (.inr (by simp only [List.append_eq, List.length_append, even]; omega))

/-- Calls that close no group but their own do the same in the group and in the inner comparison. -/
theorem run_above (even : s.operators.length = s.operands.length)
    (framed : Framed t.operands.length t.pushNext t.groups) {calls : List (ChainCall I O)}
    {depth : Nat} (closes : nesting? t.depth calls = some depth) :
    (s.above t).run calls = (t.run calls).map s.above := by
  induction calls generalizing t with
  | nil => rfl
  | cons call rest ih =>
    have inner : call = .closeGroup → t.groups ≠ [] := by
      rintro rfl none
      simp [Assembly.depth, none, nesting?] at closes
    cases done : t.call call with
    | mk result u =>
      rw [run, call_above even framed done inner, run, done]
      cases result with
      | error error => rfl
      | ok => exact ih (call_framed done framed) (nesting?_cons done ▸ closes)

/-- A whole comparison in a group that was just opened. -/
theorem run_openGroup (even : s.operators.length = s.operands.length) {calls : List (ChainCall I O)}
    (balanced : Balanced calls) : s.openGroup.run calls = (empty.run calls).map s.above := by
  rw [← above_empty]
  exact run_above (t := empty) even trivial balanced

/-- Closing a group that holds one operand leaves what adding the operand would have left. -/
theorem closeGroup_above {root : Comparison I O} {b : Assembly I O}
    (added : Effect s (.leaf root) (.ok ()) b) (pushNext : Bool) :
    Effect (s.above ⟨[root], [], [], pushNext⟩) .closeGroup (.ok ()) b := by
  cases added with
  | pushed free =>
    refine .closedApart (by simp) (by simp) ?_
    rcases free with rfl | rfl <;> simp
  | joined level => exact .closedJoined (by simp) (by simp) (by simp) level

/-- A group that is opened where a connective awaits each operand is one operand. -/
theorem run_group (even : s.operators.length = s.operands.length) {calls : List (ChainCall I O)}
    {root : Comparison I O} (assembles : Assembles calls root) :
    s.run (.openGroup :: calls ++ [.closeGroup]) = .ok (s.leaf root).2 := by
  obtain ⟨pushNext, ran⟩ := assembles_iff.mp assembles
  have inner : s.openGroup.run calls = .ok (s.above ⟨[root], [], [], pushNext⟩) := by
    rw [run_openGroup even assembles.balanced, ran]
    rfl
  have closes := closeGroup_above (leaf_effect_of_even even root) pushNext
  exact run_append_ok.mpr ⟨_, inner, run_cons_ok.mpr ⟨_, closes.call, rfl⟩⟩

/-- On an empty assembly a group adds nothing to what its calls assemble. -/
theorem assembles_group {calls : List (ChainCall I O)} {root : Comparison I O}
    (assembles : Assembles calls root) : Assembles (.openGroup :: calls ++ [.closeGroup]) root :=
  assembles_iff.mpr ⟨false, run_group rfl assembles⟩

/-- A group on the ground that closes with one operand left held that operand and nothing else. -/
theorem closed_group {root : Comparison I O} {pushNext : Bool} (ground : t.groups = [])
    (closed : (empty.above t).call .closeGroup = (.ok (), ⟨[root], [], [], pushNext⟩)) :
    t.finish.1 = .ok root := by
  obtain ⟨operands, operators, groups, pushInner⟩ := t
  obtain rfl : groups = [] := ground
  have opened : empty.above ⟨operands, operators, [], pushInner⟩ =
      ⟨operands, operators, [⟨0, 0, false, false⟩], pushInner || operands.isEmpty⟩ := by
    simp [above, empty, openGroup]
  rw [opened] at closed
  generalize (pushInner || operands.isEmpty) = marked at closed
  cases call_effect closed with
  | closedEmpty none level => simp at none
  | closedApart single level apart => rfl
  | closedJoined height level joins even => cases joins

/-- Conversely, a group that finishes with a comparison holds calls that do so. -/
theorem assembles_of_group {calls : List (ChainCall I O)} {root : Comparison I O}
    (balanced : Balanced calls)
    (assembles : Assembles (.openGroup :: calls ++ [.closeGroup]) root) : Assembles calls root := by
  obtain ⟨pushNext, ran⟩ := assembles_iff.mp assembles
  obtain ⟨_, opened, ran⟩ := run_cons_ok.mp ran
  obtain rfl := (Prod.mk.inj opened).2
  obtain ⟨m, inner, closes⟩ := run_append_ok.mp ran
  rw [run_openGroup rfl balanced] at inner
  cases ranInner : (empty : Assembly I O).run calls with
  | error error =>
    rw [ranInner] at inner
    cases inner
  | ok t =>
    rw [ranInner] at inner
    obtain rfl := Except.ok.inj inner
    obtain ⟨_, closed, done⟩ := run_cons_ok.mp closes
    obtain rfl := Except.ok.inj done
    have ground : some 0 = some t.depth := balanced.symm.trans (nesting?_run ranInner)
    have bare : t.groups = [] := List.length_eq_zero_iff.mp (Option.some.inj ground).symm
    exact ⟨t, ranInner, closed_group bare closed⟩

/-- A group behaves as one leaf. Where as many connectives as operands stand, a group of calls that
assemble a comparison leaves what the comparison leaves as a leaf; and a group around balanced calls
assembles what they assemble, if they assemble anything. -/
theorem group_as_leaf :
    (∀ (s : Assembly I O) (calls : List (ChainCall I O)) (root : Comparison I O),
      s.operators.length = s.operands.length → Assembles calls root →
      (s.leaf root).1 = .ok () ∧
        s.run (.openGroup :: calls ++ [.closeGroup]) = .ok (s.leaf root).2) ∧
    ∀ (calls : List (ChainCall I O)) (root : Comparison I O), Balanced calls →
      (Assembles calls root ↔ Assembles (.openGroup :: calls ++ [.closeGroup]) root) := by
  constructor
  · intro s calls root even assembles
    have added := (leaf_effect_of_even even root).call
    exact ⟨congrArg Prod.fst added, run_group even assembles⟩
  · intro calls root balanced
    exact ⟨assembles_group, assembles_of_group balanced⟩

/-- `1 and`, and a group that was just opened after it. -/
def exWaiting : Assembly Unit Nat :=
  ⟨[.equals 1], [.and], [⟨1, 1, true, false⟩], true⟩

/-- `2 or (3)` after an empty group. -/
def exChoice : List (ChainCall Unit Nat) :=
  [.openGroup, .closeGroup, .leaf (.equals 2), .operator .or, .openGroup, .leaf (.equals 3),
    .closeGroup]

theorem group_as_leaf_exChoice :
    (exWaiting.operators.length = exWaiting.operands.length ∧
      Assembles exChoice (.block .or (.equals 2) (.equals 3)) ∧
      (exWaiting.leaf (.block .or (.equals 2) (.equals 3))).1 = .ok () ∧
      exWaiting.run (.openGroup :: exChoice ++ [.closeGroup]) =
        .ok
          ⟨[.block .or (.equals 2) (.equals 3), .equals 1], [.and], [⟨1, 1, true, false⟩], false⟩) ∧
    Balanced exChoice ∧
      (Assembles exChoice (.block .or (.equals 2) (.equals 3)) ↔
        Assembles (.openGroup :: exChoice ++ [.closeGroup])
          (.block .or (.equals 2) (.equals 3))) := by
  have assembles : Assembles exChoice (.block .or (.equals 2) (.equals 3)) := ⟨_, rfl, rfl⟩
  exact ⟨⟨rfl, assembles, group_as_leaf.1 exWaiting exChoice _ rfl assembles⟩,
    rfl, group_as_leaf.2 exChoice _ rfl⟩

end Assembly

end PropertyTesting
