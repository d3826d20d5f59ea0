import PropertyTesting.Proofs.Assembly.Run

/-!
# The order of operands and connectives

Calls that finish with a comparison put all their leaves and connectives into it, once each and in
the order in which they were called (`assembles_in_order`). A leaf counts as a whole here, also if
it is a block, so the comparison is taken as a `Joining` of leaves.

Connectives are taken from the top of their stack, but a comparison is read from left to right. What
ties the two together is how many connectives there are: as long as operands outnumber them by one
at most, the i-th connective from the bottom follows the i-th operand from the bottom
(`Joining.inOrder`). A state with fewer is one in which a group was opened that stands where a leaf
would join, but without a connective for it, and now holds an operand. No call repairs that, as long
as all succeed: the group cannot be closed (`completable_of_call`).
-/

namespace PropertyTesting

variable {I O : Type}

/-! ## Joinings -/

/-- How a comparison was put together from leaves, each of them taken as a whole. -/
inductive Joining (I O : Type) where
  | leaf (comparison : Comparison I O)
  | join (op : BooleanOp) (left right : Joining I O)

namespace Joining

/-- The comparison that was put together. -/
def comparison : Joining I O → Comparison I O
  | leaf comparison => comparison
  | join op left right => .block op left.comparison right.comparison

/-- The leaves from left to right. -/
def leaves : Joining I O → List (Comparison I O)
  | leaf comparison => [comparison]
  | join _ left right => left.leaves ++ right.leaves

/-- The connectives from left to right, each between those of its left and its right side. -/
def connectives : Joining I O → List BooleanOp
  | leaf _ => []
  | join op left right => left.connectives ++ op :: right.connectives

theorem length_connectives (j : Joining I O) : j.connectives.length + 1 = j.leaves.length := by
  induction j with
  | leaf comparison => rfl
  | join op left right ihl ihr =>
    simp only [connectives, leaves, List.length_append, List.length_cons]
    omega

/-- The connectives within and between operands: the i-th of `waiting` follows the i-th operand. -/
def inOrder : List (Joining I O) → List BooleanOp → List BooleanOp
  | [], waiting => waiting
  | operand :: operands, [] => operand.connectives ++ inOrder operands []
  | operand :: operands, op :: waiting => operand.connectives ++ op :: inOrder operands waiting

/-- A leaf brings no connective. -/
theorem inOrder_leaf (operands : List (Joining I O)) (waiting : List BooleanOp)
    (comparison : Comparison I O) :
    inOrder (operands ++ [leaf comparison]) waiting = inOrder operands waiting := by
  induction operands generalizing waiting with
  | nil => cases waiting <;> rfl
  | cons operand operands ih => cases waiting <;> simp [inOrder, ih]

/-- A connective that follows the last operand comes last. -/
theorem inOrder_connective {operands : List (Joining I O)} {waiting : List BooleanOp}
    (room : operands.length ≤ waiting.length + 1) (op : BooleanOp) :
    inOrder operands (waiting ++ [op]) = inOrder operands waiting ++ [op] := by
  induction operands generalizing waiting with
  | nil => rfl
  | cons operand operands ih =>
    cases waiting with
    | nil =>
      obtain rfl : operands = [] := List.length_eq_zero_iff.mp (by simpa using room)
      simp [inOrder]
    | cons first waiting => simp [inOrder, ih (by simpa using room)]

/-- Joining the last two operands by the connective between them keeps the order. -/
theorem inOrder_join {operands : List (Joining I O)} {waiting : List BooleanOp}
    (level : waiting.length = operands.length) (left right : Joining I O) (op : BooleanOp) :
    inOrder (operands ++ [join op left right]) waiting =
      inOrder (operands ++ [left, right]) (waiting ++ [op]) := by
  induction operands generalizing waiting with
  | nil =>
    obtain rfl : waiting = [] := List.length_eq_zero_iff.mp level
    simp [inOrder, connectives]
  | cons operand operands ih =>
    cases waiting with
    | nil => simp at level
    | cons first waiting => simp [inOrder, ih (by simpa using level)]

end Joining

namespace ChainCall

/-- The leaf that a call adds. -/
def leaf? : ChainCall I O → Option (Comparison I O)
  | leaf comparison => some comparison
  | _ => none

/-- The connective that a call adds. -/
def connective? : ChainCall I O → Option BooleanOp
  | operator op => some op
  | _ => none

end ChainCall

open ChainCall

namespace Assembly

/-! ## States that can be completed -/

/-- While the mark for the next operand stands, the innermost group has no operand, and its
connectives are those that were there when it was opened and perhaps more. So it was for each
frame's record. -/
def Marked (operands operators : Nat) (pushNext : Bool) : List OpenGroup → Prop
  | [] => pushNext = false
  | frame :: outer =>
    (pushNext = true → operands = frame.operandsBefore ∧ frame.operatorsBefore ≤ operators) ∧
    Marked frame.operandsBefore frame.operatorsBefore frame.pushNextBefore outer

/-- Each open group that joins on closing and holds an operand was opened with a connective for each
operand before it. -/
def Completable (a : Assembly I O) : Prop :=
  ∀ frame ∈ a.groups, frame.joinsOnClose = true → frame.operandsBefore < a.operands.length →
    frame.operatorsBefore = frame.operandsBefore

theorem Marked.clear {operands operators n m : Nat} {pushNext : Bool} {groups : List OpenGroup}
    (marked : Marked operands operators pushNext groups) : Marked n m false groups := by
  cases groups with
  | nil => rfl
  | cons frame outer => exact ⟨(nomatch ·), marked.2⟩

theorem Marked.more {operands operators : Nat} {pushNext : Bool} {groups : List OpenGroup}
    (marked : Marked operands operators pushNext groups) :
    Marked operands (operators + 1) pushNext groups := by
  cases groups with
  | nil => exact marked
  | cons frame outer =>
    exact ⟨fun mark => ⟨(marked.1 mark).1, Nat.le_succ_of_le (marked.1 mark).2⟩, marked.2⟩

theorem call_marked {a b : Assembly I O} {call : ChainCall I O} (done : a.call call = (.ok (), b))
    (framed : Framed a.operands.length a.pushNext a.groups)
    (marked : Marked a.operands.length a.operators.length a.pushNext a.groups) :
    Marked b.operands.length b.operators.length b.pushNext b.groups := by
  cases call_effect done with
  | pushed free => exact marked.clear
  | joined level => exact marked.clear
  | connected => exact marked.more
  | opened => exact ⟨fun _ => ⟨rfl, Nat.le_refl _⟩, marked⟩
  | closedEmpty empty level =>
    have height := Nat.le_antisymm framed.1 empty
    have outer := marked.2
    rw [height, ← level] at outer
    exact outer
  | closedApart single level apart => exact marked.2.clear
  | closedJoined height level joins even => exact marked.2.clear

/-- If the open groups that join on closing were opened with a connective for each operand, a marked
state has a connective for each operand. Where the innermost group was opened in a marked state, the
groups outside it decide; elsewhere it joins, or has nothing before it. -/
theorem room_of_marked {operands operators : Nat} {groups : List OpenGroup}
    (framed : Framed operands true groups) (marked : Marked operands operators true groups)
    (connected : ∀ frame ∈ groups, frame.joinsOnClose = true →
      frame.operatorsBefore = frame.operandsBefore) : operands ≤ operators := by
  induction groups generalizing operands operators with
  | nil => cases marked
  | cons frame outer ih =>
    obtain ⟨-, -, joins, framedOuter⟩ := framed
    obtain ⟨mark, markedOuter⟩ := marked
    obtain ⟨rfl, level⟩ := mark rfl
    rw [List.forall_mem_cons] at connected
    cases markedBefore : frame.pushNextBefore with
    | true =>
      rw [markedBefore] at framedOuter markedOuter
      exact Nat.le_trans (ih framedOuter markedOuter connected.2) level
    | false =>
      by_cases ground : frame.operandsBefore = 0
      · omega
      · have joinsOnClose : frame.joinsOnClose = true := by simp [joins, markedBefore, ground]
        exact connected.1 joinsOnClose ▸ level

/-- A group that joins on closing was opened with a connective for each operand before it, if it
holds one of the operands. -/
def Ready (operands : Nat) (frame : OpenGroup) : Prop :=
  frame.joinsOnClose = true → frame.operandsBefore < operands →
    frame.operatorsBefore = frame.operandsBefore

/-- The first parts of two lists with the same last part differ as the lists do. -/
theorem cons_of_append {α : Type} {x : α} {l first longer rest : List α} (short : l = first ++ rest)
    (long : x :: l = longer ++ rest) : longer = x :: first := by
  subst short
  rw [← List.cons_append] at long
  exact (List.append_cancel_right long).symm

/-- A successful call makes no group ready that was not, and closes none that is not. -/
theorem ready_of_call {a b : Assembly I O} {call : ChainCall I O}
    (done : a.call call = (.ok (), b)) (framed : Framed a.operands.length a.pushNext a.groups)
    {inner inner' outer : List OpenGroup} (before : a.groups = inner ++ outer)
    (after : b.groups = inner' ++ outer) (ready : ∀ frame ∈ inner', Ready b.operands.length frame) :
    ∀ frame ∈ inner, Ready a.operands.length frame := by
  intro frame member joins inside
  cases call_effect done with
  | pushed free =>
    obtain rfl := List.append_cancel_right (before.symm.trans after)
    exact ready frame member joins (Nat.lt_succ_of_lt inside)
  | joined level =>
    obtain rfl := List.append_cancel_right (before.symm.trans after)
    exact ready frame member joins inside
  | connected =>
    obtain rfl := List.append_cancel_right (before.symm.trans after)
    exact ready frame member joins inside
  | opened =>
    obtain rfl := cons_of_append before after
    exact ready frame (List.mem_cons_of_mem _ member) joins inside
  | closedEmpty empty level =>
    obtain rfl := cons_of_append after before
    rcases List.mem_cons.mp member with rfl | member
    · exact absurd inside (Nat.not_lt_of_le empty)
    · exact ready frame member joins inside
  | closedApart single level apart =>
    obtain rfl := cons_of_append after before
    rcases List.mem_cons.mp member with rfl | member
    · exact absurd joins (Bool.eq_false_iff.mp apart)
    · exact ready frame member joins inside
  | closedJoined height level joinsOnClose even =>
    obtain rfl := cons_of_append after before
    rcases List.mem_cons.mp member with rfl | member
    · omega
    · have rest := framed.2.2.2
      rw [(framed.of_joins joinsOnClose).1] at rest
      have around : frame ∈ inner' ++ outer := List.mem_append_left _ member
      rw [← after] at around
      exact ready frame member joins (Nat.lt_of_lt_of_eq (rest.outer_lt frame around) height.symm)

/-- A successful call makes nothing completable that was not. -/
theorem completable_of_call {a b : Assembly I O} {call : ChainCall I O}
    (done : a.call call = (.ok (), b)) (framed : Framed a.operands.length a.pushNext a.groups)
    (completable : Completable b) : Completable a :=
  ready_of_call done framed (List.append_nil _).symm (List.append_nil _).symm completable

/-! ## The order of the calls -/

/-- The operands, from the bottom up, were put together from the leaves of the calls, and with the
waiting connectives they have the connectives of the calls, all of them in the order of the
calls. -/
def Ordered (calls : List (ChainCall I O)) (operands : List (Comparison I O))
    (operators : List BooleanOp) : Prop :=
  operands.length ≤ operators.length + 1 ∧
  ∃ joined : List (Joining I O), joined.map Joining.comparison = operands.reverse ∧
    joined.flatMap Joining.leaves = calls.filterMap ChainCall.leaf? ∧
    Joining.inOrder joined operators.reverse = calls.filterMap ChainCall.connective?

section Ordered

variable {calls : List (ChainCall I O)} {operands : List (Comparison I O)}
  {operators : List BooleanOp}

theorem Ordered.leaf (ordered : Ordered calls operands operators)
    (room : operands.length ≤ operators.length) (comparison : Comparison I O) :
    Ordered (calls ++ [.leaf comparison]) (comparison :: operands) operators := by
  obtain ⟨-, joined, assembled, leaves, connectives⟩ := ordered
  refine ⟨Nat.succ_le_succ room, joined ++ [.leaf comparison], ?_, ?_, ?_⟩
  · simp [assembled, Joining.comparison]
  · simp [leaves, Joining.leaves, ChainCall.leaf?]
  · simp [Joining.inOrder_leaf, connectives, ChainCall.connective?]

theorem Ordered.connective (ordered : Ordered calls operands operators) (op : BooleanOp) :
    Ordered (calls ++ [.operator op]) operands (op :: operators) := by
  obtain ⟨room, joined, assembled, leaves, connectives⟩ := ordered
  have height : joined.length = operands.length := by
    simpa using congrArg List.length assembled
  refine ⟨Nat.le_succ_of_le room, joined, assembled, ?_, ?_⟩
  · simp [leaves, ChainCall.leaf?]
  · rw [List.reverse_cons, Joining.inOrder_connective (by simpa [height] using room), connectives]
    simp [ChainCall.connective?]

/-- A mark of a group is not seen in the comparison. -/
theorem Ordered.group (ordered : Ordered calls operands operators) {call : ChainCall I O}
    (group : call = .openGroup ∨ call = .closeGroup) :
    Ordered (calls ++ [call]) operands operators := by
  obtain ⟨room, joined, assembled, leaves, connectives⟩ := ordered
  refine ⟨room, joined, assembled, ?_, ?_⟩
  · rcases group with rfl | rfl <;> simp [leaves, ChainCall.leaf?]
  · rcases group with rfl | rfl <;> simp [connectives, ChainCall.connective?]

theorem Ordered.join {left right : Comparison I O} {op : BooleanOp}
    (ordered : Ordered calls (right :: left :: operands) (op :: operators))
    (level : operators.length = operands.length) :
    Ordered calls (.block op left right :: operands) operators := by
  obtain ⟨-, joined, assembled, leaves, connectives⟩ := ordered
  obtain ⟨below, top, rfl, assembledBelow, assembledTop⟩ :
      ∃ below top, joined = below ++ top ∧ below.map Joining.comparison = operands.reverse ∧
        top.map Joining.comparison = [left, right] :=
    List.map_eq_append_iff.mp (by simpa using assembled)
  obtain ⟨l, last, rfl, rfl, assembledLast⟩ := List.map_eq_cons_iff.mp assembledTop
  obtain ⟨r, none, rfl, rfl, assembledNone⟩ := List.map_eq_cons_iff.mp assembledLast
  obtain rfl := List.map_eq_nil_iff.mp assembledNone
  have height : below.length = operands.length := by
    simpa using congrArg List.length assembledBelow
  refine ⟨Nat.succ_le_succ (Nat.le_of_eq level.symm), below ++ [.join op l r], ?_, ?_, ?_⟩
  · simp [assembledBelow, Joining.comparison]
  · simpa [Joining.leaves] using leaves
  · rw [Joining.inOrder_join (by simp [level, height]), ← connectives, List.reverse_cons]

end Ordered

/-- A successful call keeps the order, unless it leaves a state that cannot be completed. A leaf
that is kept apart lies in all open groups, so each of them that joins has a connective for it if
the state can be completed. -/
theorem call_ordered {a b : Assembly I O} {call : ChainCall I O} {calls : List (ChainCall I O)}
    (done : a.call call = (.ok (), b)) (framed : Framed a.operands.length a.pushNext a.groups)
    (marked : Marked a.operands.length a.operators.length a.pushNext a.groups)
    (completable : Completable b) (ordered : Ordered calls a.operands a.operators) :
    Ordered (calls ++ [call]) b.operands b.operators := by
  cases call_effect done with
  | pushed free =>
    refine ordered.leaf ?_ _
    rcases free with rfl | rfl
    · exact room_of_marked framed marked fun frame member joins =>
        completable frame member joins (Nat.lt_succ_of_le (framed.outer_le frame member))
    · exact Nat.zero_le _
  | joined level =>
    exact (ordered.leaf (Nat.le_of_eq (by simp [level])) _).join level
  | connected => exact ordered.connective _
  | opened => exact ordered.group (.inl rfl)
  | closedEmpty empty level => exact ordered.group (.inr rfl)
  | closedApart single level apart => exact ordered.group (.inr rfl)
  | closedJoined height level joins even => exact (ordered.group (.inr rfl)).join even

/-- What a run keeps. -/
structure Tracked (calls : List (ChainCall I O)) (a : Assembly I O) : Prop where
  framed : Framed a.operands.length a.pushNext a.groups
  marked : Marked a.operands.length a.operators.length a.pushNext a.groups
  ordered : Completable a → Ordered calls a.operands a.operators

theorem call_tracked {a b : Assembly I O} {call : ChainCall I O} {calls : List (ChainCall I O)}
    (done : a.call call = (.ok (), b)) (tracked : Tracked calls a) :
    Tracked (calls ++ [call]) b where
  framed := call_framed done tracked.framed
  marked := call_marked done tracked.framed tracked.marked
  ordered completable :=
    call_ordered done tracked.framed tracked.marked completable
      (tracked.ordered (completable_of_call done tracked.framed completable))

theorem tracked_empty : Tracked [] (empty : Assembly I O) :=
  ⟨trivial, rfl, fun _ => ⟨Nat.zero_le _, [], rfl, rfl, rfl⟩⟩

/-- Calls that finish with a comparison open and close groups in balance, have one connective less
than leaves, and are in order: the comparison is put together from the leaves of the calls, and both
its leaves and its connectives, read from left to right, are those of the calls in their order. -/
theorem assembles_in_order {calls : List (ChainCall I O)} {root : Comparison I O}
    (assembles : Assembles calls root) :
    Balanced calls ∧
    (calls.filterMap connective?).length + 1 = (calls.filterMap leaf?).length ∧
    ∃ j : Joining I O, j.comparison = root ∧ j.leaves = calls.filterMap leaf? ∧
      j.connectives = calls.filterMap connective? := by
  obtain ⟨pushNext, ran⟩ := assembles_iff.mp assembles
  have tracked : Tracked calls ⟨[root], [], [], pushNext⟩ :=
    run_history call_tracked [] ran tracked_empty
  obtain ⟨-, joined, assembled, leaves, connectives⟩ := tracked.ordered fun _ none => nomatch none
  obtain ⟨j, none, rfl, rfl, assembledNone⟩ := List.map_eq_cons_iff.mp assembled
  obtain rfl := List.map_eq_nil_iff.mp assembledNone
  have leavesOfJ : j.leaves = calls.filterMap leaf? := by simpa using leaves
  have connectivesOfJ : j.connectives = calls.filterMap connective? := by
    simpa [Joining.inOrder] using connectives
  refine ⟨assembles.balanced, ?_, j, rfl, leavesOfJ, connectivesOfJ⟩
  rw [← leavesOfJ, ← connectivesOfJ, j.length_connectives]

/-- A connective comes before any operand, and a group takes it and leaves another in its place:
`or (2 3 and) 4`. -/
def exEarly : List (ChainCall Unit Nat) :=
  [.operator .or, .openGroup, .leaf (.equals 2), .leaf (.equals 3), .operator .and, .closeGroup,
    .leaf (.equals 4)]

theorem assembles_in_order_exEarly :
    Assembles exEarly (.block .and (.block .or (.equals 2) (.equals 3)) (.equals 4)) ∧
    Balanced exEarly ∧
    (exEarly.filterMap connective?).length + 1 = (exEarly.filterMap leaf?).length ∧
    ∃ j : Joining Unit Nat,
      j.comparison = .block .and (.block .or (.equals 2) (.equals 3)) (.equals 4) ∧
      j.leaves = [.equals 2, .equals 3, .equals 4] ∧ j.connectives = [.or, .and] := by
  have assembles :
      Assembles exEarly (.block .and (.block .or (.equals 2) (.equals 3)) (.equals 4)) :=
    ⟨_, rfl, rfl⟩
  exact ⟨assembles, assembles_in_order assembles⟩

end Assembly

end PropertyTesting
