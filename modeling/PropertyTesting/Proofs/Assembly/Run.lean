import PropertyTesting.Proofs.Assembly.Frames

/-!
# Runs of calls

`run` makes one call after the other as long as they succeed, and `Assembles` says that calls on an
empty assembly all succeed and finish with a comparison. Such calls are balanced: they close the
groups that they open and no others (`Assembles.balanced`).
-/

namespace PropertyTesting

variable {I O : Type}

namespace ChainCall

/-- The number of open groups after calls that begin with `depth` open groups; none if one of them
closes a group where none is open. -/
def nesting? (depth : Nat) : List (ChainCall I O) → Option Nat
  | [] => some depth
  | openGroup :: rest => nesting? (depth + 1) rest
  | closeGroup :: rest =>
    match depth with
    | 0 => none
    | outer + 1 => nesting? outer rest
  | _ :: rest => nesting? depth rest

theorem nesting?_append (depth : Nat) (first second : List (ChainCall I O)) :
    nesting? depth (first ++ second) = (nesting? depth first).bind fun d => nesting? d second := by
  induction first generalizing depth with
  | nil => rfl
  | cons call first ih =>
    cases call with
    | leaf comparison => exact ih depth
    | operator op => exact ih depth
    | openGroup => exact ih (depth + 1)
    | closeGroup =>
      cases depth with
      | zero => rfl
      | succ depth => exact ih depth

/-- A group around all calls stays open. -/
theorem nesting?_succ {depth after : Nat} {calls : List (ChainCall I O)}
    (nested : nesting? depth calls = some after) :
    nesting? (depth + 1) calls = some (after + 1) := by
  induction calls generalizing depth with
  | nil => exact congrArg (·.map Nat.succ) nested
  | cons call calls ih =>
    cases call with
    | leaf comparison => exact ih nested
    | operator op => exact ih nested
    | openGroup => exact ih nested
    | closeGroup =>
      cases depth with
      | zero => cases nested
      | succ depth => exact ih nested

/-- Every group that is opened is closed, and no other is. -/
def Balanced (calls : List (ChainCall I O)) : Prop :=
  nesting? 0 calls = some 0

end ChainCall

open ChainCall

namespace Assembly

/-- The state after calls that all succeed; otherwise the first mistake. -/
def run (a : Assembly I O) : List (ChainCall I O) → Except BuilderError (Assembly I O)
  | [] => .ok a
  | call :: rest =>
    match a.call call with
    | (.ok (), after) => after.run rest
    | (.error error, _) => .error error

/-- On an empty assembly all calls succeed, and they finish with the comparison. -/
def Assembles (calls : List (ChainCall I O)) (root : Comparison I O) : Prop :=
  ∃ a, empty.run calls = .ok a ∧ a.finish.1 = .ok root

theorem run_cons_ok {a b : Assembly I O} {call : ChainCall I O} {rest : List (ChainCall I O)} :
    a.run (call :: rest) = .ok b ↔ ∃ m, a.call call = (.ok (), m) ∧ m.run rest = .ok b := by
  rw [run]
  split
  · next after done => simp [done]
  · next error after failed => simp [failed]

theorem run_append {a : Assembly I O} {first second : List (ChainCall I O)} :
    a.run (first ++ second) = (a.run first).bind fun m => m.run second := by
  induction first generalizing a with
  | nil => rfl
  | cons call first ih =>
    simp only [List.cons_append, run]
    split
    · exact ih
    · rfl

theorem run_append_ok {a b : Assembly I O} {first second : List (ChainCall I O)} :
    a.run (first ++ second) = .ok b ↔ ∃ m, a.run first = .ok m ∧ m.run second = .ok b := by
  rw [run_append]
  cases a.run first with
  | error error => simp [Except.bind]
  | ok m => simp [Except.bind]

/-- What holds of calls and a state before a run, and is kept by each successful call, holds after
it. -/
theorem run_history {P : List (ChainCall I O) → Assembly I O → Prop}
    (step : ∀ {before a call b}, a.call call = (.ok (), b) → P before a → P (before ++ [call]) b)
    {a b : Assembly I O} {calls : List (ChainCall I O)} (before : List (ChainCall I O))
    (ran : a.run calls = .ok b) (start : P before a) : P (before ++ calls) b := by
  induction calls generalizing a before with
  | nil =>
    cases ran
    simpa using start
  | cons call rest ih =>
    obtain ⟨m, done, ran⟩ := run_cons_ok.mp ran
    simpa using ih _ ran (step done start)

theorem nesting?_cons {a b : Assembly I O} {call : ChainCall I O} {rest : List (ChainCall I O)}
    (done : a.call call = (.ok (), b)) :
    nesting? a.depth (call :: rest) = nesting? b.depth rest := by
  cases call_effect done <;> rfl

theorem nesting?_run {a b : Assembly I O} {calls : List (ChainCall I O)}
    (ran : a.run calls = .ok b) : nesting? a.depth calls = some b.depth := by
  induction calls generalizing a with
  | nil =>
    cases ran
    rfl
  | cons call rest ih =>
    obtain ⟨m, done, ran⟩ := run_cons_ok.mp ran
    rw [nesting?_cons done, ih ran]

/-- A finished comparison is a single operand, without connectives and open groups. -/
theorem finish_ok {a : Assembly I O} {root : Comparison I O} :
    a.finish.1 = .ok root ↔ ∃ pushNext, a = ⟨[root], [], [], pushNext⟩ := by
  constructor
  · intro done
    obtain ⟨operands, operators, groups, pushNext⟩ := a
    cases operands with
    | nil => cases done
    | cons top rest =>
      simp only [finish] at done
      split at done
      · cases done
      · next complete =>
        cases done
        simp only [Bool.or_eq_true, Bool.not_eq_true', not_or, Bool.not_eq_false,
          List.isEmpty_iff] at complete
        obtain ⟨⟨rfl, rfl⟩, rfl⟩ := complete
        exact ⟨pushNext, rfl⟩
  · rintro ⟨pushNext, rfl⟩
    rfl

theorem assembles_iff {calls : List (ChainCall I O)} {root : Comparison I O} :
    Assembles calls root ↔ ∃ pushNext, empty.run calls = .ok ⟨[root], [], [], pushNext⟩ := by
  constructor
  · rintro ⟨a, ran, done⟩
    obtain ⟨pushNext, rfl⟩ := finish_ok.mp done
    exact ⟨pushNext, ran⟩
  · rintro ⟨pushNext, ran⟩
    exact ⟨_, ran, rfl⟩

theorem Assembles.balanced {calls : List (ChainCall I O)} {root : Comparison I O}
    (assembles : Assembles calls root) : Balanced calls := by
  obtain ⟨pushNext, ran⟩ := assembles_iff.mp assembles
  exact nesting?_run ran

end Assembly

end PropertyTesting
