import PropertyTesting.Proofs.Assembly.Frames

/-!
# Histories of calls

An assembly may be called in any order, also after calls that have failed, and it may be finished
and reset at any time. `reached` is the state that such a history leads to.

In every state that is reached the open groups lie one upon the other (`Layered`): each stands on
the operands of those outside it and adds to them. So a call replaces no operand on which a group
stands that is open after the call (`perform_sameBelow`), and it takes nothing from where there is
nothing: `checkedPerform` stops at an empty stack and at a group with fewer operands than it was
opened with, and `checkedPerform_eq` shows that no call of a history does so.
-/

namespace PropertyTesting

variable {I O : Type}

/-- A call of an assembly. -/
inductive AssemblyCall (I O : Type) where
  | chain (call : ChainCall I O)
  | finish
  | reset

namespace Assembly

/-- The result of a call, with the comparison if it gives one, and the state after it. -/
def perform (a : Assembly I O) :
    AssemblyCall I O → Except BuilderError (Option (Comparison I O)) × Assembly I O
  | .chain call => ((a.call call).1.map fun _ => none, (a.call call).2)
  | .finish => (a.finish.1.map some, a.finish.2)
  | .reset => (.ok none, a.reset)

/-- The state after a history of calls, whatever their results. -/
def reached (history : List (AssemblyCall I O)) : Assembly I O :=
  history.foldl (fun a call => (a.perform call).2) empty

/-- A call that was made, with its result and the state after it. -/
structure Performed (I O : Type) where
  call : AssemblyCall I O
  result : Except BuilderError (Option (Comparison I O))
  after : Assembly I O

/-- Calls made one after another from a state on, whatever their results. -/
def transcript (a : Assembly I O) : List (AssemblyCall I O) → List (Performed I O)
  | [] => []
  | call :: rest =>
    ⟨call, (a.perform call).1, (a.perform call).2⟩ :: (a.perform call).2.transcript rest

/-- Finishing gives a comparison and starts anew, or it fails and leaves everything as it was. -/
theorem finish_cases (a : Assembly I O) :
    (∃ error, a.finish = (.error error, a)) ∨ ∃ root, a.finish = (.ok root, empty) := by
  rw [finish]
  split
  · exact .inl ⟨_, rfl⟩
  · split
    · exact .inl ⟨_, rfl⟩
    · exact .inr ⟨_, rfl⟩

theorem perform_framed {a : Assembly I O} (framed : Framed a.operands.length a.pushNext a.groups)
    (call : AssemblyCall I O) :
    Framed (a.perform call).2.operands.length (a.perform call).2.pushNext
      (a.perform call).2.groups := by
  cases call with
  | chain call => exact call_framed rfl framed
  | finish =>
    rcases a.finish_cases with ⟨error, failed⟩ | ⟨root, finished⟩
    · rwa [perform, failed]
    · rw [perform, finished]
      trivial
  | reset => trivial

theorem reached_framed (history : List (AssemblyCall I O)) :
    Framed (reached history).operands.length (reached history).pushNext
      (reached history).groups := by
  suffices kept : ∀ a : Assembly I O, Framed a.operands.length a.pushNext a.groups →
      let b := history.foldl (fun a call => (a.perform call).2) a
      Framed b.operands.length b.pushNext b.groups from kept empty trivial
  induction history with
  | nil => exact fun _ framed => framed
  | cons call rest ih => exact fun a framed => ih _ (perform_framed framed call)

/-! ## The layers of open groups -/

/-- The open groups, the innermost of which comes first, lie one upon the other. -/
structure Layered (a : Assembly I O) : Prop where
  /-- A group was opened with no fewer operands than those outside it. -/
  sorted : a.groups.Pairwise fun inner outer => outer.operandsBefore ≤ inner.operandsBefore
  /-- No operand is gone with which an open group was opened. -/
  below : ∀ frame ∈ a.groups, frame.operandsBefore ≤ a.operands.length
  /-- The innermost group has an operand of its own, unless the next one is kept apart. -/
  above : ∀ frame, a.groups.head? = some frame → a.pushNext = false →
    frame.operandsBefore < a.operands.length
  /-- A group that joins on closing was opened with an operand to join. -/
  joining : ∀ frame ∈ a.groups, frame.joinsOnClose = true → 1 ≤ frame.operandsBefore

theorem Framed.sorted {operands : Nat} {pushNext : Bool} {groups : List OpenGroup}
    (framed : Framed operands pushNext groups) :
    groups.Pairwise fun inner outer => outer.operandsBefore ≤ inner.operandsBefore := by
  induction groups generalizing operands pushNext with
  | nil => exact .nil
  | cons frame outer ih =>
    obtain ⟨-, -, -, rest⟩ := framed
    exact .cons rest.outer_le (ih rest)

theorem Framed.joining {operands : Nat} {pushNext : Bool} {groups : List OpenGroup}
    (framed : Framed operands pushNext groups) :
    ∀ frame ∈ groups, frame.joinsOnClose = true → 1 ≤ frame.operandsBefore := by
  induction groups generalizing operands pushNext with
  | nil => exact fun _ none => nomatch none
  | cons frame outer ih =>
    rw [List.forall_mem_cons]
    exact ⟨fun joins => Nat.one_le_iff_ne_zero.mpr (framed.of_joins joins).2, ih framed.2.2.2⟩

theorem Framed.layered {a : Assembly I O} (framed : Framed a.operands.length a.pushNext a.groups) :
    a.Layered where
  sorted := framed.sorted
  below := framed.outer_le
  above frame innermost clear := by
    rw [clear] at framed
    exact framed.outer_lt frame (List.mem_of_mem_head? innermost)
  joining := framed.joining

/-! ## What lies below a group -/

/-- The lowest `n` operands of two states, which both have, are the same. -/
def SameBelow (n : Nat) (a b : Assembly I O) : Prop :=
  ∃ low : List (Comparison I O), low.length = n ∧ low <:+ a.operands ∧ low <:+ b.operands

theorem SameBelow.of_suffix {n : Nat} {a b : Assembly I O} {low : List (Comparison I O)}
    (height : n ≤ low.length) (before : low <:+ a.operands) (after : low <:+ b.operands) :
    SameBelow n a b := by
  have lowest := List.drop_suffix (low.length - n) low
  exact ⟨low.drop (low.length - n), by rw [List.length_drop]; omega, lowest.trans before,
    lowest.trans after⟩

/-- Where nothing is done to the operands, none is replaced. -/
theorem SameBelow.of_eq {n : Nat} {a b : Assembly I O} (height : n ≤ a.operands.length)
    (same : b.operands = a.operands) : SameBelow n a b :=
  .of_suffix height List.suffix_rfl (same ▸ List.suffix_rfl)

/-- A call, whatever its result, replaces no operand on which a group stands that is open after it.
It replaces an operand only to join another with it, and this one lies in all groups that stay open:
a leaf is not joined in a group that has no operand yet, and a group that joins on closing was
opened where there was one. -/
theorem call_sameBelow {a b : Assembly I O} {call : ChainCall I O}
    {result : Except BuilderError Unit} (done : a.call call = (result, b))
    (framed : Framed a.operands.length a.pushNext a.groups) {frame : OpenGroup}
    (opened : frame ∈ b.groups) : SameBelow frame.operandsBefore a b := by
  cases call_effect done with
  | pushed free =>
    exact .of_suffix (framed.outer_le frame opened) List.suffix_rfl (List.suffix_cons _ _)
  | joined level =>
    have inside := Nat.le_of_lt_succ (framed.outer_lt frame opened)
    exact .of_suffix inside (List.suffix_cons _ _) (List.suffix_cons _ _)
  | refused occupied uneven => exact .of_eq (framed.outer_le frame opened) rfl
  | connected => exact .of_eq (framed.outer_le frame opened) rfl
  | opened =>
    rcases List.mem_cons.mp opened with rfl | opened
    · exact .of_eq (Nat.le_refl _) rfl
    · exact .of_eq (framed.outer_le frame opened) rfl
  | unmatched => cases opened
  | unfinished crowded => exact .of_eq (framed.outer_le frame (.tail _ opened)) rfl
  | closedEmpty empty level => exact .of_eq (framed.outer_le frame (.tail _ opened)) rfl
  | closedApart single level apart => exact .of_eq (framed.outer_le frame (.tail _ opened)) rfl
  | @closedJoined node left operands op operators inner groups pushNext height level joins even =>
    have rest := framed.2.2.2
    rw [(framed.of_joins joins).1, ← height] at rest
    have inside := Nat.le_of_lt_succ (rest.outer_lt frame opened)
    exact .of_suffix inside ((List.suffix_cons _ _).trans (List.suffix_cons _ _))
      (List.suffix_cons _ _)
  | closedDropping height level joins odd =>
    have inside := height.symm ▸ framed.2.2.2.outer_le frame opened
    exact .of_suffix inside (List.suffix_cons _ _) List.suffix_rfl

theorem perform_sameBelow {a : Assembly I O} (framed : Framed a.operands.length a.pushNext a.groups)
    (call : AssemblyCall I O) {frame : OpenGroup} (opened : frame ∈ (a.perform call).2.groups) :
    SameBelow frame.operandsBefore a (a.perform call).2 := by
  cases call with
  | chain call => exact call_sameBelow rfl framed opened
  | finish =>
    rcases a.finish_cases with ⟨error, failed⟩ | ⟨root, finished⟩
    · rw [perform, failed] at opened ⊢
      exact .of_eq (framed.outer_le frame opened) rfl
    · rw [perform, finished] at opened
      cases opened
  | reset => cases opened

/-! ## Checked calls -/

/-- `join` that does not go on if there is nothing to join. -/
def checkedJoin (a : Assembly I O) (right : Comparison I O) :
    Option (Except BuilderError Unit × Assembly I O) :=
  if a.operators.length = a.operands.length then
    match a.operands, a.operators with
    | left :: operands, op :: operators =>
      some (.ok (), { a with operands := .block op left right :: operands, operators })
    | _, _ => none
  else some (.error .unbalancedOperator, a)

def checkedLeaf (a : Assembly I O) (comparison : Comparison I O) :
    Option (Except BuilderError Unit × Assembly I O) :=
  if a.pushNext || a.operands.isEmpty then
    some (.ok (), { a with operands := comparison :: a.operands, pushNext := false })
  else a.checkedJoin comparison

/-- `closeGroup` that does not go on if there are fewer operands than when the group was opened, or
if the operand of the group is not there or nothing to join it with. -/
def checkedCloseGroup (a : Assembly I O) : Option (Except BuilderError Unit × Assembly I O) :=
  match a.groups with
  | [] => some (.error .unbalancedGroup, a)
  | frame :: groups =>
    if a.operands.length < frame.operandsBefore then none
    else
      let closed := { a with groups }
      let content := a.operands.length - frame.operandsBefore
      if 1 < content ∨ a.operators.length ≠ frame.operatorsBefore then
        some (.error .unbalancedOperator, closed)
      else if content = 0 then some (.ok (), { closed with pushNext := frame.pushNextBefore })
      else if frame.joinsOnClose then
        match a.operands with
        | node :: operands => { closed with operands, pushNext := false }.checkedJoin node
        | [] => none
      else some (.ok (), { closed with pushNext := false })

/-- `finish` that does not go on if there is no comparison after all that is asked of the state. -/
def checkedFinish (a : Assembly I O) :
    Option (Except BuilderError (Comparison I O) × Assembly I O) :=
  if a.operands.isEmpty then some (.error .missingComparison, a)
  else if 1 < a.operands.length || !a.operators.isEmpty || !a.groups.isEmpty then
    some (.error .unfinishedComparison, a)
  else
    match a.operands with
    | root :: _ => some (.ok root, empty)
    | [] => none

def checkedCall (a : Assembly I O) :
    ChainCall I O → Option (Except BuilderError Unit × Assembly I O)
  | .leaf comparison => a.checkedLeaf comparison
  | .operator op => some (.ok (), a.operator op)
  | .openGroup => some (.ok (), a.openGroup)
  | .closeGroup => a.checkedCloseGroup

/-- `perform` that does not go on where something is taken from where there is nothing. -/
def checkedPerform (a : Assembly I O) :
    AssemblyCall I O → Option (Except BuilderError (Option (Comparison I O)) × Assembly I O)
  | .chain call => (a.checkedCall call).map fun done => (done.1.map fun _ => none, done.2)
  | .finish => a.checkedFinish.map fun done => (done.1.map some, done.2)
  | .reset => some (.ok none, a.reset)

theorem checkedJoin_eq {a : Assembly I O} (occupied : a.operands ≠ []) (right : Comparison I O) :
    a.checkedJoin right = some (a.join right) := by
  obtain ⟨operands, operators, groups, pushNext⟩ := a
  cases operands with
  | nil => exact absurd rfl occupied
  | cons left operands =>
    cases operators with
    | nil => simp [checkedJoin, join]
    | cons op operators =>
      rw [checkedJoin, join]
      split <;> rfl

theorem checkedLeaf_eq (a : Assembly I O) (comparison : Comparison I O) :
    a.checkedLeaf comparison = some (a.leaf comparison) := by
  rw [checkedLeaf, leaf]
  split
  · rfl
  · next free => exact checkedJoin_eq (by simp_all) comparison

theorem checkedCloseGroup_eq {a : Assembly I O}
    (framed : Framed a.operands.length a.pushNext a.groups) :
    a.checkedCloseGroup = some a.closeGroup := by
  obtain ⟨operands, operators, groups, pushNext⟩ := a
  cases groups with
  | nil => rfl
  | cons frame groups =>
    simp only [checkedCloseGroup, closeGroup, if_neg (Nat.not_lt_of_le framed.1)]
    split
    · rfl
    split
    · rfl
    next single some =>
    split
    · next joins =>
      cases operands with
      | nil => simp at some
      | cons node operands =>
        have ground := (framed.of_joins joins).2
        refine checkedJoin_eq (fun none => ?_) node
        obtain rfl : operands = [] := none
        simp only [List.length_singleton] at some
        omega
    · rfl

theorem checkedFinish_eq (a : Assembly I O) : a.checkedFinish = some a.finish := by
  obtain ⟨operands, operators, groups, pushNext⟩ := a
  cases operands with
  | nil => rfl
  | cons root rest =>
    rw [checkedFinish, finish]
    cases rest <;> cases operators <;> cases groups <;> rfl

theorem checkedCall_eq {a : Assembly I O} (framed : Framed a.operands.length a.pushNext a.groups)
    (call : ChainCall I O) : a.checkedCall call = some (a.call call) := by
  cases call with
  | leaf comparison => exact a.checkedLeaf_eq comparison
  | operator op => rfl
  | openGroup => rfl
  | closeGroup => exact checkedCloseGroup_eq framed

/-- Where the frames fit the stacks, no call takes anything from where there is nothing. -/
theorem checkedPerform_eq {a : Assembly I O} (framed : Framed a.operands.length a.pushNext a.groups)
    (call : AssemblyCall I O) : a.checkedPerform call = some (a.perform call) := by
  cases call with
  | chain call =>
    rw [checkedPerform, checkedCall_eq framed]
    rfl
  | finish =>
    rw [checkedPerform, checkedFinish_eq]
    rfl
  | reset => rfl

/-- In every state that a history leads to, the open groups lie one upon the other. A call then
takes nothing from where there is nothing, and replaces no operand on which a group stands that is
open after the call. -/
theorem reached_layered (history : List (AssemblyCall I O)) :
    (reached history).Layered ∧ ∀ call : AssemblyCall I O,
      (reached history).checkedPerform call = some ((reached history).perform call) ∧
      ∀ frame ∈ ((reached history).perform call).2.groups,
        SameBelow frame.operandsBefore (reached history) ((reached history).perform call).2 := by
  have framed := reached_framed history
  refine ⟨framed.layered, fun call => ⟨checkedPerform_eq framed call, fun frame opened => ?_⟩⟩
  exact perform_sameBelow framed call opened

end Assembly

end PropertyTesting
