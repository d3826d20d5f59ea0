import Mathlib.Data.List.Forall2
import PropertyTesting.Proofs.Assembly.History

/-!
# Other operands in the place of the same calls

An assembly takes operands as they are: what it does depends on the calls alone, and not on what is
passed to a leaf. So a history can be made with the numbers of its calls for operands (`numbered`),
and what it comes to with any operands is what it comes to with the numbers, with the operand of its
number put in the place of each leaf (`transcript_substitute`).

This holds because every function of comparisons that goes through blocks also goes through every
call (`perform_map`): each of the rules that say what a call can do leaves operands where they are,
or makes a block of two of them.
-/

namespace PropertyTesting

variable {I O J P : Type}

/-- The comparison with an operand in the place of each leaf, which is known by its number. -/
def Comparison.fill (operand : Nat → Comparison I O) : Comparison Unit Nat → Comparison I O
  | literalEquality n _ => operand n
  | functionEquality n _ => operand (n ())
  | literalOrder n .. => operand n
  | functionOrder n .. => operand (n ())
  | block op left right => .block op (left.fill operand) (right.fill operand)

/-- The call with its operand changed, if it has one. -/
def ChainCall.map (f : Comparison I O → Comparison J P) : ChainCall I O → ChainCall J P
  | leaf comparison => leaf (f comparison)
  | operator op => operator op
  | openGroup => openGroup
  | closeGroup => closeGroup

namespace AssemblyCall

/-- The call with its operand changed, if it has one. -/
def map (f : Comparison I O → Comparison J P) : AssemblyCall I O → AssemblyCall J P
  | chain call => chain (call.map f)
  | finish => finish
  | reset => reset

/-- The operand that is passed to a call, if it has one. -/
def operand? : AssemblyCall I O → Option (Comparison I O)
  | chain (.leaf comparison) => some comparison
  | _ => none

end AssemblyCall

namespace Assembly

def map (f : Comparison I O → Comparison J P) (a : Assembly I O) : Assembly J P :=
  ⟨a.operands.map f, a.operators, a.groups, a.pushNext⟩

def Performed.map (f : Comparison I O → Comparison J P) (p : Performed I O) : Performed J P :=
  ⟨p.call.map f, p.result.map (Option.map f), p.after.map f⟩

/-! ## Functions that go through blocks -/

section Map

variable {f : Comparison I O → Comparison J P}

/-- What a call does, it does with changed operands as well. -/
theorem Effect.map
    (through : ∀ op left right, f (.block op left right) = .block op (f left) (f right))
    {a b : Assembly I O} {call : ChainCall I O} {result : Except BuilderError Unit}
    (effect : Effect a call result b) : Effect (a.map f) (call.map f) result (b.map f) := by
  cases effect with
  | pushed free => exact .pushed (by simpa using free)
  | joined level =>
    simp only [Assembly.map, ChainCall.map, List.map_cons, through]
    exact .joined (by simpa using level)
  | refused occupied uneven => exact .refused (by simpa using occupied) (by simpa using uneven)
  | connected => exact .connected
  | @opened a =>
    have same : a.openGroup.map f = (a.map f).openGroup := by simp [Assembly.map, openGroup]
    exact same ▸ .opened
  | unmatched => exact .unmatched
  | unfinished crowded => exact .unfinished (by simpa using crowded)
  | closedEmpty empty level => exact .closedEmpty (by simpa using empty) level
  | closedApart single level apart => exact .closedApart (by simpa using single) level apart
  | closedJoined height level joins even =>
    simp only [Assembly.map, ChainCall.map, List.map_cons, through]
    exact .closedJoined (by simpa using height) level joins (by simpa using even)
  | closedDropping height level joins odd =>
    exact .closedDropping (by simpa using height) level joins (by simpa using odd)

theorem finish_map (a : Assembly I O) :
    (a.map f).finish = (a.finish.1.map f, a.finish.2.map f) := by
  obtain ⟨operands, operators, groups, pushNext⟩ := a
  cases operands with
  | nil => rfl
  | cons root rest =>
    simp only [Assembly.map, finish, List.map_cons, List.isEmpty_map]
    split <;> rfl

/-- Every call gives with changed operands what it gives with the operands as they are, but
changed. -/
theorem perform_map
    (through : ∀ op left right, f (.block op left right) = .block op (f left) (f right))
    (a : Assembly I O) (call : AssemblyCall I O) :
    (a.map f).perform (call.map f) =
      ((a.perform call).1.map (Option.map f), (a.perform call).2.map f) := by
  cases call with
  | chain call =>
    have effect : Effect a call (a.call call).1 (a.call call).2 := call_effect rfl
    simp only [AssemblyCall.map, perform, (effect.map through).call]
    cases (a.call call).1 <;> rfl
  | finish =>
    simp only [AssemblyCall.map, perform, finish_map]
    cases a.finish.1 <;> rfl
  | reset => rfl

theorem transcript_map
    (through : ∀ op left right, f (.block op left right) = .block op (f left) (f right))
    (a : Assembly I O) (calls : List (AssemblyCall I O)) :
    (a.map f).transcript (calls.map (AssemblyCall.map f)) =
      (a.transcript calls).map (Performed.map f) := by
  induction calls generalizing a with
  | nil => rfl
  | cons call rest ih =>
    simp only [List.map_cons, transcript, perform_map through, ih]
    rfl

end Map

/-! ## Substitution -/

/-- The calls with the operand of its number passed to each leaf; the number of a call is that of
the calls before it. -/
def substitute (operand : Nat → Comparison J P) (calls : List (AssemblyCall I O)) :
    List (AssemblyCall J P) :=
  calls.mapIdx fun n call => call.map fun _ => operand n

/-- The calls with their numbers for operands. -/
def numbered (calls : List (AssemblyCall I O)) : List (AssemblyCall Unit Nat) :=
  substitute Comparison.equals calls

/-- The operands that calls have, and others for the numbers of calls without one. -/
def operandsOf (calls : List (AssemblyCall I O)) (others : Nat → Comparison I O) (n : Nat) :
    Comparison I O :=
  (calls[n]?.bind AssemblyCall.operand?).getD (others n)

theorem substitute_eq_map (operand : Nat → Comparison J P) (calls : List (AssemblyCall I O)) :
    substitute operand calls =
      (numbered calls).map (AssemblyCall.map (Comparison.fill operand)) := by
  refine List.ext_getElem (by simp [numbered, substitute]) fun n bound _ => ?_
  have within : n < calls.length := by simpa [substitute] using bound
  simp only [numbered, substitute, List.getElem_map, List.getElem_mapIdx]
  cases calls[n] with
  | chain call => cases call <;> rfl
  | finish => rfl
  | reset => rfl

/-- Calls have the operands that they have. -/
theorem substitute_operandsOf (calls : List (AssemblyCall I O)) (others : Nat → Comparison I O) :
    substitute (operandsOf calls others) calls = calls := by
  refine List.ext_getElem (by simp [substitute]) fun n _ bound => ?_
  simp only [substitute, List.getElem_mapIdx, operandsOf, List.getElem?_eq_getElem bound]
  cases calls[n] with
  | chain call => cases call <;> rfl
  | finish => rfl
  | reset => rfl

/-- What calls come to with some operands is what they come to with their numbers, filled with these
operands. -/
theorem transcript_substitute (operand : Nat → Comparison J P) (calls : List (AssemblyCall I O)) :
    empty.transcript (substitute operand calls) =
      (empty.transcript (numbered calls)).map (Performed.map (Comparison.fill operand)) := by
  rw [substitute_eq_map, ← transcript_map fun _ _ _ => rfl]
  rfl

/-- Two calls that were made differ in nothing but operands, and what was made of these. -/
structure Performed.SameButOperands (p : Performed I O) (p' : Performed J P) : Prop where
  /-- Both succeed and both or neither of them gives a comparison, or both fail with one mistake. -/
  result : p.result.map (Option.map fun _ => ()) = p'.result.map (Option.map fun _ => ())
  operands : p.after.operands.length = p'.after.operands.length
  operators : p.after.operators = p'.after.operators
  groups : p.after.groups = p'.after.groups
  pushNext : p.after.pushNext = p'.after.pushNext

theorem Performed.sameButOperands_map (f : Comparison Unit Nat → Comparison I O)
    (g : Comparison Unit Nat → Comparison J P) (p : Performed Unit Nat) :
    SameButOperands (p.map f) (p.map g) where
  result := by
    rcases p with ⟨call, error | root, after⟩
    · rfl
    · cases root <;> rfl
  operands := by simp [Performed.map, Assembly.map]
  operators := rfl
  groups := rfl
  pushNext := rfl

/-- With other operands passed to its leaves, a history goes as it went: call by call the results
and the states differ in operands only. What each of the two histories comes to is what the calls
come to with their numbers, with the operands of the history in the places of the numbers. -/
theorem operands_are_opaque (history : List (AssemblyCall I O)) (operand : Nat → Comparison I O) :
    List.Forall₂ Performed.SameButOperands (empty.transcript history)
      (empty.transcript (substitute operand history)) ∧
    empty.transcript history = (empty.transcript (numbered history)).map
      (Performed.map (Comparison.fill (operandsOf history operand))) ∧
    empty.transcript (substitute operand history) = (empty.transcript (numbered history)).map
      (Performed.map (Comparison.fill operand)) := by
  have original := transcript_substitute (operandsOf history operand) history
  rw [substitute_operandsOf] at original
  have substituted := transcript_substitute operand history
  refine ⟨?_, original, substituted⟩
  rw [original, substituted, List.forall₂_map_left_iff, List.forall₂_map_right_iff]
  exact List.forall₂_same.mpr fun p _ => p.sameButOperands_map _ _

/-- A block that is passed to a leaf stands in the place of the leaf. -/
example :
    let calls : List (AssemblyCall Nat Nat) :=
      [.chain (.leaf (.equals 1)), .chain (.operator .or), .chain (.leaf (.equals 2)),
        .chain (.operator .and), .chain (.leaf (.equals 3))]
    let block : Comparison Nat Nat := .block .and (.equals 4) (.equals 5)
    (reached (substitute (Function.update (operandsOf calls .equals) 2 block) calls)).finish.1 =
      .ok (.block .and (.block .or (.equals 1) block) (.equals 3)) := by
  rfl

end Assembly

end PropertyTesting
