/-!
# Operators

The relation that an ordering leaf asks for, and the connectives that join two comparisons.
-/

namespace PropertyTesting

/-- The relation of an output to what is expected of it. -/
inductive OrderOp where
  | less
  | equal
  | greater
  deriving DecidableEq, Repr

namespace OrderOp

/-- Whether an ordering is the one that is asked for. -/
def admits : OrderOp → Ordering → Bool
  | less, .lt => true
  | equal, .eq => true
  | greater, .gt => true
  | _, _ => false

/-- The relation in words. -/
def relation : OrderOp → String
  | less => "less than"
  | equal => "equal to"
  | greater => "greater than"

/-- The operator that asks for a given ordering. -/
def ofOrdering : Ordering → OrderOp
  | .lt => less
  | .eq => equal
  | .gt => greater

def render : OrderOp → String
  | less => "Less"
  | equal => "Equal"
  | greater => "Greater"

theorem admits_iff {op : OrderOp} {ordering : Ordering} :
    op.admits ordering = true ↔ op = ofOrdering ordering := by
  cases op <;> cases ordering <;> simp [admits, ofOrdering]

end OrderOp

/-- A connective of two comparisons. -/
inductive BooleanOp where
  | and
  | or
  deriving DecidableEq, Repr

namespace BooleanOp

/-- The truth value of two truth values under a connective. -/
def apply : BooleanOp → Bool → Bool → Bool
  | and, a, b => a && b
  | or, a, b => a || b

def render : BooleanOp → String
  | and => "And"
  | or => "Or"

end BooleanOp

end PropertyTesting
