import PropertyTesting.Proofs.Assembly.Group

/-!
# Chains

A chain is what a reader writes: operands joined by connectives, each operand a leaf or a chain in a
group. All connectives bind alike, from left to right, and that is the tree of a chain.

`run_padded_chain` shows that the calls of a chain assemble its tree, wherever empty groups are put
between them. A group of a chain is one operand by `run_group`, so the induction over a chain meets
two kinds of states only: nothing assembled yet, and one operand with one connective.
-/

namespace PropertyTesting

variable {I O : Type}

mutual

/-- What a connective joins: a leaf, or a chain in a group. -/
inductive Operand (L : Type) where
  | leaf (leaf : L)
  | group (chain : Chain L)

/-- One operand, or a chain joined with a further operand. -/
inductive Chain (L : Type) where
  | one (operand : Operand L)
  | join (chain : Chain L) (op : BooleanOp) (operand : Operand L)

end

mutual

/-- The calls that write an operand. -/
def Operand.calls : Operand (Comparison I O) → List (ChainCall I O)
  | .leaf comparison => [.leaf comparison]
  | .group chain => .openGroup :: chain.calls ++ [.closeGroup]

/-- The calls that write a chain. -/
def Chain.calls : Chain (Comparison I O) → List (ChainCall I O)
  | .one operand => operand.calls
  | .join chain op operand => chain.calls ++ .operator op :: operand.calls

end

mutual

/-- The comparison that an operand stands for. -/
def Operand.tree : Operand (Comparison I O) → Comparison I O
  | .leaf comparison => comparison
  | .group chain => chain.tree

/-- The comparison that a chain stands for: its connectives bind from left to right. -/
def Chain.tree : Chain (Comparison I O) → Comparison I O
  | .one operand => operand.tree
  | .join chain op operand => .block op chain.tree operand.tree

end

/-- Balanced calls without a leaf and without a connective. -/
def EmptyGroups (calls : List (ChainCall I O)) : Prop :=
  ChainCall.Balanced calls ∧ ∀ call ∈ calls, call = .openGroup ∨ call = .closeGroup

/-- `Padded calls padded`: empty groups were put before, between and after the calls. -/
inductive Padded : List (ChainCall I O) → List (ChainCall I O) → Prop
  | last {pad : List (ChainCall I O)} : EmptyGroups pad → Padded [] pad
  | next {pad calls padded : List (ChainCall I O)} {call : ChainCall I O} :
      EmptyGroups pad → Padded calls padded → Padded (call :: calls) (pad ++ call :: padded)

namespace Assembly

open ChainCall

/-- An assembly that is new, or was just reset, or has just finished. -/
inductive Fresh : Assembly I O → Prop
  | new : Fresh empty
  | afterReset (a : Assembly I O) : Fresh a.reset
  | afterFinish {a b : Assembly I O} {root : Comparison I O} :
      a.finish = (.ok root, b) → Fresh b

theorem Fresh.eq_empty {a : Assembly I O} (fresh : Fresh a) : a = empty := by
  cases fresh with
  | new => rfl
  | afterReset => rfl
  | afterFinish done =>
    obtain ⟨pushNext, rfl⟩ := finish_ok.mp (congrArg Prod.fst done)
    exact (congrArg Prod.snd done).symm

/-- Closing a group right after it was opened restores the state. -/
theorem closeGroup_openGroup (a : Assembly I O) : a.openGroup.closeGroup = (.ok (), a) := by
  have effect : Effect a.openGroup .closeGroup (.ok ()) a := .closedEmpty (Nat.le_refl _) rfl
  exact effect.call

/-- After `depth` groups were opened, calls that open and close groups restore the state if they
close all of them. -/
theorem run_nested (depth : Nat) {a : Assembly I O} {calls : List (ChainCall I O)}
    (closes : nesting? depth calls = some 0)
    (groups : ∀ call ∈ calls, call = .openGroup ∨ call = .closeGroup) :
    (Nat.repeat openGroup depth a).run calls = .ok a := by
  induction calls generalizing depth with
  | nil =>
    obtain rfl := Option.some.inj closes
    rfl
  | cons call rest ih =>
    rw [List.forall_mem_cons] at groups
    obtain ⟨rfl | rfl, groups⟩ := groups
    · exact ih (depth + 1) closes groups
    · cases depth with
      | zero => cases closes
      | succ depth =>
        exact run_cons_ok.mpr ⟨_, closeGroup_openGroup _, ih depth closes groups⟩

/-- Empty groups leave no trace. -/
theorem run_emptyGroups {pad : List (ChainCall I O)} (pads : EmptyGroups pad) (a : Assembly I O) :
    a.run pad = .ok a :=
  run_nested 0 pads.1 pads.2

theorem run_padded {calls padded : List (ChainCall I O)} (pads : Padded calls padded)
    (a : Assembly I O) : a.run padded = a.run calls := by
  induction pads generalizing a with
  | last pad => exact run_emptyGroups pad a
  | next pad _ ih =>
    rw [run_append, run_emptyGroups pad a]
    simp only [Except.bind, run, ih]

mutual

/-- An operand is a leaf where a connective awaits each operand. -/
theorem run_operand (operand : Operand (Comparison I O)) {a : Assembly I O}
    (even : a.operators.length = a.operands.length) :
    a.run operand.calls = .ok (a.leaf operand.tree).2 := by
  cases operand with
  | leaf comparison => exact run_cons_ok.mpr ⟨_, (leaf_effect_of_even even comparison).call, rfl⟩
  | group chain => exact run_group even (assembles_iff.mpr ⟨false, run_chain chain⟩)

theorem run_chain (chain : Chain (Comparison I O)) :
    empty.run chain.calls = .ok ⟨[chain.tree], [], [], false⟩ := by
  cases chain with
  | one operand => exact run_operand operand rfl
  | join chain op operand =>
    exact run_append_ok.mpr ⟨_, run_chain chain, run_cons_ok.mpr ⟨_, rfl, run_operand operand rfl⟩⟩

end

/-- The calls of a chain, with empty groups put anywhere between them, all succeed on a fresh
assembly and finish with the tree of the chain, which leaves a new assembly. -/
theorem run_padded_chain {a : Assembly I O} {chain : Chain (Comparison I O)}
    {calls : List (ChainCall I O)} (fresh : Fresh a) (pads : Padded chain.calls calls) :
    ∃ b, a.run calls = .ok b ∧ b.finish = (.ok chain.tree, ⟨[], [], [], false⟩) := by
  obtain rfl := fresh.eq_empty
  exact ⟨_, (run_padded pads empty).trans (run_chain chain), rfl⟩

/-- `1 and (2 or 3)`. -/
def exChain : Chain (Comparison Unit Nat) :=
  .join (.one (.leaf (.equals 1))) .and
    (.group (.join (.one (.leaf (.equals 2))) .or (.leaf (.equals 3))))

/-- The calls of `exChain` with empty groups before the first, after `1`, around the opening of its
group and after the last. -/
def exPadded : List (ChainCall Unit Nat) :=
  [.openGroup, .openGroup, .closeGroup, .closeGroup, .leaf (.equals 1), .openGroup, .closeGroup,
    .operator .and, .openGroup, .closeGroup, .openGroup, .openGroup, .closeGroup, .leaf (.equals 2),
    .operator .or, .leaf (.equals 3), .closeGroup, .openGroup, .closeGroup]

/-- An assembly that has just finished with another comparison. -/
def exFinished : Assembly Unit Nat :=
  (⟨[.equals 0], [], [], false⟩ : Assembly Unit Nat).finish.2

theorem run_exPadded :
    Fresh exFinished ∧ Padded exChain.calls exPadded ∧
    ∃ b, exFinished.run exPadded = .ok b ∧
      b.finish = (.ok (.block .and (.equals 1) (.block .or (.equals 2) (.equals 3))),
        ⟨[], [], [], false⟩) := by
  have fresh : Fresh exFinished := .afterFinish (a := ⟨[.equals 0], [], [], false⟩) rfl
  have none : EmptyGroups ([] : List (ChainCall Unit Nat)) := ⟨rfl, by simp⟩
  have one : EmptyGroups ([.openGroup, .closeGroup] : List (ChainCall Unit Nat)) := ⟨rfl, by simp⟩
  have nested : EmptyGroups
      ([.openGroup, .openGroup, .closeGroup, .closeGroup] : List (ChainCall Unit Nat)) :=
    ⟨rfl, by simp⟩
  have pads : Padded exChain.calls exPadded :=
    .next nested <| .next one <| .next one <| .next one <| .next none <| .next none <|
      .next none <| .last one
  exact ⟨fresh, pads, run_padded_chain fresh pads⟩

end Assembly

end PropertyTesting
