import PropertyTesting.Builder.Error
import PropertyTesting.Comparison.Basic

/-!
# Assembling comparisons

A comparison is written as a flat sequence of calls: leaves, the connectives between them, and marks
that open and close groups. The assembler makes a tree of them with two stacks, one of operands and
one of connectives waiting for their right side, and a frame for each open group. All connectives
bind alike, from left to right; a group is one operand.

Every call gives its result and the state after it, also when it fails: a failed closing of a group
has already closed it, and if it fails in joining the group with what stands before it, the group's
content is gone. All other failed calls leave the state as it was.
-/

namespace PropertyTesting

/-- What is remembered of the state in which a group was opened. -/
structure OpenGroup where
  /-- The number of operands. -/
  operandsBefore : Nat
  /-- The number of connectives. -/
  operatorsBefore : Nat
  /-- Whether the content of the group is joined with the operand before it when the group
  closes. -/
  joinsOnClose : Bool
  /-- Whether the next operand was to be kept apart from those before it. -/
  pushNextBefore : Bool
  deriving DecidableEq, Repr

/-- A comparison under construction. The top of each stack is the first element of its list. -/
structure Assembly (I O : Type) where
  operands : List (Comparison I O)
  operators : List BooleanOp
  groups : List OpenGroup
  /-- Whether the next operand is kept apart from those before it, as the first one of a group. -/
  pushNext : Bool

namespace Assembly

variable {I O : Type}

/-- Nothing assembled yet. -/
def empty : Assembly I O :=
  ⟨[], [], [], false⟩

/-- Joins the latest operand with one to its right by the latest connective. There must be as many
connectives as operands. -/
def join (a : Assembly I O) (right : Comparison I O) : Except BuilderError Unit × Assembly I O :=
  if a.operators.length = a.operands.length then
    match a.operands, a.operators with
    | left :: operands, op :: operators =>
      (.ok (), { a with operands := .block op left right :: operands, operators })
    | _, _ => (.error .unbalancedOperator, a)
  else (.error .unbalancedOperator, a)

/-- Adds an operand. -/
def leaf (a : Assembly I O) (comparison : Comparison I O) :
    Except BuilderError Unit × Assembly I O :=
  if a.pushNext || a.operands.isEmpty then
    (.ok (), { a with operands := comparison :: a.operands, pushNext := false })
  else a.join comparison

/-- Adds a connective. -/
def operator (a : Assembly I O) (op : BooleanOp) : Assembly I O :=
  { a with operators := op :: a.operators }

/-- Opens a group. -/
def openGroup (a : Assembly I O) : Assembly I O :=
  let frame : OpenGroup :=
    { operandsBefore := a.operands.length
      operatorsBefore := a.operators.length
      joinsOnClose := !a.pushNext && !a.operands.isEmpty
      pushNextBefore := a.pushNext }
  { a with groups := frame :: a.groups, pushNext := true }

/-- Closes the innermost group. It may hold one operand or none, and no connective of its own that
is still waiting. An empty group leaves no trace. -/
def closeGroup (a : Assembly I O) : Except BuilderError Unit × Assembly I O :=
  match a.groups with
  | [] => (.error .unbalancedGroup, a)
  | frame :: groups =>
    let closed := { a with groups }
    let content := a.operands.length - frame.operandsBefore
    if 1 < content ∨ a.operators.length ≠ frame.operatorsBefore then
      (.error .unbalancedOperator, closed)
    else if content = 0 then (.ok (), { closed with pushNext := frame.pushNextBefore })
    else if frame.joinsOnClose then
      match a.operands with
      | node :: operands => { closed with operands, pushNext := false }.join node
      | [] => (.error .unbalancedOperator, { closed with pushNext := false })
    else (.ok (), { closed with pushNext := false })

/-- Gives the finished comparison and starts anew. -/
def finish (a : Assembly I O) : Except BuilderError (Comparison I O) × Assembly I O :=
  match a.operands with
  | [] => (.error .missingComparison, a)
  | root :: rest =>
    if !rest.isEmpty || !a.operators.isEmpty || !a.groups.isEmpty then
      (.error .unfinishedComparison, a)
    else (.ok root, empty)

/-- Forgets everything. -/
def reset (_ : Assembly I O) : Assembly I O :=
  empty

/-- The number of open groups. -/
def depth (a : Assembly I O) : Nat :=
  a.groups.length

open Text in
def render (a : Assembly I O) : String :=
  record "ComparisonAssembler"
    [("operands", toString a.operands.length),
     ("operators", bracketed (a.operators.reverse.map BooleanOp.render)),
     ("depth", toString a.depth),
     ("push_next", boolean a.pushNext)]

end Assembly

/-- A call that adds to a comparison under construction. -/
inductive ChainCall (I O : Type) where
  | leaf (comparison : Comparison I O)
  | operator (op : BooleanOp)
  | openGroup
  | closeGroup

/-- The result of a call and the state after it. -/
def Assembly.call {I O : Type} (a : Assembly I O) :
    ChainCall I O → Except BuilderError Unit × Assembly I O
  | .leaf comparison => a.leaf comparison
  | .operator op => (.ok (), a.operator op)
  | .openGroup => (.ok (), a.openGroup)
  | .closeGroup => a.closeGroup

end PropertyTesting
