import PropertyTesting.Proofs.Assembly.History

/-!
# Refused calls

A leaf for which there is no connective, the closing of a group where none is open, and finishing
what is not finished are refused: such a call fails and leaves the state as it was. There is one
other way to fail, and it leaves a mark: an open group that cannot be closed is open no more
(`failed_cases`).

So the refused calls of a history can be left out. Every other call then has the result and leaves
the state that it had among them (`transcript_accepted`).
-/

namespace PropertyTesting

variable {I O : Type}

/-- Whether a call that fails with a mistake is refused, that is, fails before it does anything. -/
def AssemblyCall.isRefusedFor : AssemblyCall I O → BuilderError → Bool
  | .chain (.leaf _), .unbalancedOperator => true
  | .chain .closeGroup, .unbalancedGroup => true
  | .finish, _ => true
  | _, _ => false

namespace Assembly

/-- Whether a call was refused. -/
def Performed.isRefused (p : Performed I O) : Bool :=
  match p.result with
  | .ok _ => false
  | .error error => p.call.isRefusedFor error

/-- The calls that are not refused, where all are made one after another from a state on. -/
def accepted (a : Assembly I O) (calls : List (AssemblyCall I O)) : List (AssemblyCall I O) :=
  ((a.transcript calls).filter fun p => !p.isRefused).map Performed.call

/-! ## One call -/

/-- A call that fails is refused and does nothing, or it closes a group that does not fit what is
around it. -/
theorem failed_cases {a : Assembly I O} {call : AssemblyCall I O} {error : BuilderError}
    (failed : (a.perform call).1 = .error error) :
    (call.isRefusedFor error = true ∧ (a.perform call).2 = a) ∨
      call.isRefusedFor error = false ∧ ∃ frame, a.groups = frame :: (a.perform call).2.groups := by
  cases call with
  | chain call =>
    cases done : a.call call with
    | mk result after =>
      simp only [perform, done] at failed ⊢
      cases call_effect done with
      | pushed free => cases failed
      | joined level => cases failed
      | connected => cases failed
      | opened => cases failed
      | closedEmpty empty level => cases failed
      | closedApart single level apart => cases failed
      | closedJoined height level joins even => cases failed
      | refused occupied uneven =>
        cases failed
        exact .inl ⟨rfl, rfl⟩
      | unmatched =>
        cases failed
        exact .inl ⟨rfl, rfl⟩
      | @unfinished operands operators frame groups pushNext crowded =>
        cases failed
        exact .inr ⟨rfl, frame, rfl⟩
      | @closedDropping node operands operators frame groups pushNext height level joins odd =>
        cases failed
        exact .inr ⟨rfl, frame, rfl⟩
  | finish =>
    rcases a.finish_cases with ⟨mistake, refused⟩ | ⟨root, finished⟩
    · exact .inl ⟨rfl, by rw [perform, refused]⟩
    · rw [perform, finished] at failed
      cases failed
  | reset => cases failed

/-- A call that fails leaves the state as it was exactly if it is refused. -/
theorem unchanged_iff_refused {a : Assembly I O} {call : AssemblyCall I O} {error : BuilderError}
    (failed : (a.perform call).1 = .error error) :
    (a.perform call).2 = a ↔ call.isRefusedFor error = true := by
  rcases failed_cases failed with ⟨refused, same⟩ | ⟨notRefused, frame, closed⟩
  · simp [refused, same]
  · constructor
    · intro same
      rw [same] at closed
      exact absurd closed.symm (List.cons_ne_self frame a.groups)
    · intro refused
      rw [refused] at notRefused
      cases notRefused

theorem perform_of_isRefused {a : Assembly I O} {call : AssemblyCall I O}
    (refused : Performed.isRefused ⟨call, (a.perform call).1, (a.perform call).2⟩ = true) :
    (a.perform call).2 = a := by
  simp only [Performed.isRefused] at refused
  split at refused
  · cases refused
  · next error failed => exact (unchanged_iff_refused failed).mpr refused

/-! ## All calls -/

theorem accepted_cons_of_refused {a : Assembly I O} {call : AssemblyCall I O}
    (refused : Performed.isRefused ⟨call, (a.perform call).1, (a.perform call).2⟩ = true)
    (rest : List (AssemblyCall I O)) : a.accepted (call :: rest) = a.accepted rest := by
  simp only [accepted, transcript, List.filter_cons, refused]
  rw [perform_of_isRefused refused]
  rfl

theorem accepted_cons_of_not_refused {a : Assembly I O} {call : AssemblyCall I O}
    (goes : Performed.isRefused ⟨call, (a.perform call).1, (a.perform call).2⟩ = false)
    (rest : List (AssemblyCall I O)) :
    a.accepted (call :: rest) = call :: (a.perform call).2.accepted rest := by
  simp only [accepted, transcript, List.filter_cons, goes]
  rfl

/-- Without the refused calls, the others are made as they were made among them. -/
theorem transcript_accepted (a : Assembly I O) (calls : List (AssemblyCall I O)) :
    a.transcript (a.accepted calls) = (a.transcript calls).filter fun p => !p.isRefused := by
  induction calls generalizing a with
  | nil => rfl
  | cons call rest ih =>
    cases refused : Performed.isRefused ⟨call, (a.perform call).1, (a.perform call).2⟩ with
    | true =>
      rw [accepted_cons_of_refused refused, ih, transcript,
        List.filter_cons_of_neg (by simp [refused]), perform_of_isRefused refused]
    | false =>
      rw [accepted_cons_of_not_refused refused, transcript, ih, transcript,
        List.filter_cons_of_pos (by simp [refused])]

/-- Without the refused calls, the others lead to the same state. -/
theorem reached_accepted (calls : List (AssemblyCall I O)) :
    reached (empty.accepted calls) = reached calls := by
  suffices same : ∀ a : Assembly I O,
      (a.accepted calls).foldl (fun a call => (a.perform call).2) a =
        calls.foldl (fun a call => (a.perform call).2) a from same empty
  induction calls with
  | nil => exact fun _ => rfl
  | cons call rest ih =>
    intro a
    cases refused : Performed.isRefused ⟨call, (a.perform call).1, (a.perform call).2⟩ with
    | true =>
      rw [accepted_cons_of_refused refused, ih, List.foldl_cons, perform_of_isRefused refused]
    | false => rw [accepted_cons_of_not_refused refused, List.foldl_cons, List.foldl_cons, ih]

/-- In every state that a history leads to, a call that fails takes nothing from where there is
nothing, and leaves the state as it was exactly if it is refused. Without its refused calls, a
history leads to the same state with the same results of all other calls; and a finish that has
failed fails again for the same reason. -/
theorem refused_calls_leave_no_mark (history : List (AssemblyCall I O)) :
    (∀ (call : AssemblyCall I O) (error : BuilderError),
      ((reached history).perform call).1 = .error error →
        (reached history).checkedPerform call = some ((reached history).perform call) ∧
        (((reached history).perform call).2 = reached history ↔ call.isRefusedFor error = true)) ∧
    empty.transcript (empty.accepted history) =
      ((empty.transcript history).filter fun p => !p.isRefused) ∧
    reached (empty.accepted history) = reached history ∧
    ∀ error : BuilderError, (reached history).finish.1 = .error error →
      (reached history).finish.2.finish = (reached history).finish := by
  refine ⟨fun call error failed => ?_, transcript_accepted empty history, reached_accepted history,
    fun error failed => ?_⟩
  · exact ⟨checkedPerform_eq (reached_framed history) call, unchanged_iff_refused failed⟩
  · rcases (reached history).finish_cases with ⟨mistake, refused⟩ | ⟨root, finished⟩
    · rw [refused]
      exact refused
    · rw [finished] at failed
      cases failed

/-- A second leaf without a connective, a group that loses its leaf on closing, and an end without a
begin: all but the group leave no mark. -/
def exStumbling : List (AssemblyCall Nat Nat) :=
  [.chain (.leaf (.equals 1)), .chain (.leaf (.equals 2)), .chain .openGroup,
    .chain (.leaf (.equals 3)), .chain .closeGroup, .chain .closeGroup, .chain (.operator .and)]

theorem refused_calls_exStumbling :
    ((reached exStumbling).perform .finish).1 = .error .unfinishedComparison ∧
    (reached exStumbling).finish.1 = .error .unfinishedComparison ∧
    (((reached exStumbling).perform .finish).2 = reached exStumbling ↔
      AssemblyCall.isRefusedFor (.finish : AssemblyCall Nat Nat) .unfinishedComparison = true) ∧
    reached (empty.accepted exStumbling) = reached exStumbling ∧
    (reached exStumbling).finish.2.finish = (reached exStumbling).finish := by
  obtain ⟨failing, -, same, again⟩ := refused_calls_leave_no_mark exStumbling
  exact ⟨rfl, rfl, (failing .finish .unfinishedComparison rfl).2, same, again _ rfl⟩

/-- Two of the seven calls are refused. -/
example : (empty.accepted exStumbling).length = 5 := by
  decide

end Assembly

end PropertyTesting
