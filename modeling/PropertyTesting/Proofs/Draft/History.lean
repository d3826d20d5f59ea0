import Mathlib.Data.List.Induction
import PropertyTesting.Draft
import PropertyTesting.Proofs.Assembly.History

/-!
# Histories of drafts

A draft may be told its parts in any order and any number of times, its comparison may be assembled
by calls that fail, and it may be completed at any time, whether it is complete or not. `reached` is
the draft that such a history leads to.

Completing takes the comparison before it takes the other parts. It is all or nothing because by
then no part can be missing (`complete_all_or_nothing`): either the draft makes up a property
(`Makes`) and is empty afterwards, or it is as it was before, and the first part that it lacks is
named (`FirstLack`).

So a draft holds what it was told since a property was last made of it, and nothing of what it was
told before (`completion_of_history`): the latest description and function, all preconditions in
their order, and what the calls of its assembly have come to.
-/

namespace PropertyTesting

variable {I O : Type}

/-- A call of a draft. -/
inductive DraftCall (I O : Type) where
  | describe (description : String)
  | given (precondition : I → Bool)
  | givenAll (preconditions : List (I → Bool))
  | testing (function : I → O)
  | assemble (call : AssemblyCall I O)
  | complete

namespace DraftCall

/-! What a call tells a draft: a description, preconditions, a function, or a call of its
assembly. -/

def description? : DraftCall I O → Option String
  | describe description => some description
  | _ => none

def preconditions : DraftCall I O → List (I → Bool)
  | given precondition => [precondition]
  | givenAll preconditions => preconditions
  | _ => []

def function? : DraftCall I O → Option (I → O)
  | testing function => some function
  | _ => none

def assemblyCall? : DraftCall I O → Option (AssemblyCall I O)
  | assemble call => some call
  | _ => none

end DraftCall

/-- Finishing gives a single operand without connectives and open groups, and starts anew. Otherwise
it says whether nothing or too much is there, and leaves everything as it was. -/
theorem Assembly.finish_outcome (a : Assembly I O) :
    (∃ root, a.operands = [root] ∧ a.operators = [] ∧ a.groups = [] ∧
      a.finish = (.ok root, empty)) ∨
    (a.operands = [] ∧ a.finish = (.error .missingComparison, a)) ∨
    (a.operands ≠ [] ∧ (1 < a.operands.length ∨ a.operators ≠ [] ∨ a.groups ≠ []) ∧
      a.finish = (.error .unfinishedComparison, a)) := by
  obtain ⟨operands, operators, groups, pushNext⟩ := a
  cases operands with
  | nil => exact .inr (.inl ⟨rfl, rfl⟩)
  | cons root rest =>
    have some : root :: rest ≠ [] := List.cons_ne_nil root rest
    cases rest with
    | cons next rest => exact .inr (.inr ⟨some, .inl (by simp), rfl⟩)
    | nil =>
      cases operators with
      | cons op operators => exact .inr (.inr ⟨some, .inr (.inl (List.cons_ne_nil _ _)), rfl⟩)
      | nil =>
        cases groups with
        | cons frame groups => exact .inr (.inr ⟨some, .inr (.inr (List.cons_ne_nil _ _)), rfl⟩)
        | nil => exact .inl ⟨root, rfl, rfl, rfl, rfl⟩

namespace PropertyDraft

/-! ## Completing a draft -/

/-- The parts of a draft are those of a property. -/
structure Makes (d : PropertyDraft I O) (p : Property I O) : Prop where
  description : d.description = some p.description
  described : Text.trimmed p.description ≠ []
  preconditions : d.preconditions = p.preconditions
  function : d.function = some p.function
  operands : d.assembly.operands = [p.comparison]
  operators : d.assembly.operators = []
  groups : d.assembly.groups = []

/-- What a draft lacks. -/
def Lacks (d : PropertyDraft I O) : BuilderError → Prop
  | .missingDescription =>
    ∀ description, d.description = some description → Text.trimmed description = []
  | .missingFunction => d.function = none
  | .missingComparison => d.assembly.operands = []
  | .unfinishedComparison =>
    1 < d.assembly.operands.length ∨ d.assembly.operators ≠ [] ∨ d.assembly.groups ≠ []
  | .unbalancedOperator | .unbalancedGroup => False

/-- What a draft can lack, in the order in which it is looked for. -/
def lackOrder : List BuilderError :=
  [.missingDescription, .missingFunction, .missingComparison, .unfinishedComparison]

/-- A draft lacks something, and nothing that is looked for before. -/
def FirstLack (d : PropertyDraft I O) (error : BuilderError) : Prop :=
  ∃ before after, lackOrder = before ++ error :: after ∧ d.Lacks error ∧
    ∀ other ∈ before, ¬ d.Lacks other

/-- All parts of a property are there. -/
structure Ready (d : PropertyDraft I O) : Prop where
  described : ∃ description, d.description = some description ∧ Text.trimmed description ≠ []
  tested : d.function ≠ none
  operands : d.assembly.operands.length = 1
  operators : d.assembly.operators = []
  groups : d.assembly.groups = []

theorem Makes.ready {d : PropertyDraft I O} {p : Property I O} (makes : d.Makes p) : d.Ready where
  described := ⟨p.description, makes.description, makes.described⟩
  tested := by
    rw [makes.function]
    exact Option.some_ne_none p.function
  operands := by
    rw [makes.operands]
    rfl
  operators := makes.operators
  groups := makes.groups

theorem Ready.lacks_nothing {d : PropertyDraft I O} (ready : d.Ready) (error : BuilderError) :
    ¬ d.Lacks error := by
  cases error with
  | missingDescription =>
    obtain ⟨description, given, described⟩ := ready.described
    intro blank
    exact described (blank description given)
  | missingFunction => exact ready.tested
  | missingComparison =>
    intro missing
    have single := ready.operands
    rw [missing] at single
    cases single
  | unfinishedComparison =>
    rintro (several | waiting | opened)
    · rw [ready.operands] at several
      exact Nat.lt_irrefl 1 several
    · exact waiting ready.operators
    · exact opened ready.groups
  | unbalancedOperator => exact id
  | unbalancedGroup => exact id

/-- Where the comparison cannot be finished, nothing is taken. -/
theorem complete_refused {d : PropertyDraft I O} {description : String} {function : I → O}
    {error : BuilderError}
    (named : (d.description.filter fun description => !Text.isBlank description) = some description)
    (tested : d.function = some function)
    (refused : d.assembly.finish = (.error error, d.assembly)) :
    d.complete = (.error error, d) := by
  rw [complete, named]
  simp only [tested, refused]
  rw [← tested]

/-- Completing gives the property that the draft makes up and leaves an empty draft, or it names the
first thing that the draft lacks and leaves the draft as it was. -/
theorem complete_all_or_nothing (d : PropertyDraft I O) :
    (∃ p, d.complete = (.ok p, empty) ∧ d.Makes p) ∨
      ∃ error, d.complete = (.error error, d) ∧ d.FirstLack error := by
  cases named : d.description.filter fun description => !Text.isBlank description with
  | none =>
    refine .inr ⟨.missingDescription, by rw [complete, named], [], _, rfl, ?_,
      List.forall_mem_nil _⟩
    intro description given
    rw [given, Option.filter_eq_none_iff] at named
    exact (Text.isBlank_iff_trim_eq_nil description).mp (by simpa using named)
  | some description =>
    obtain ⟨given, visible⟩ := Option.filter_eq_some_iff.mp named
    have described : Text.trimmed description ≠ [] := by
      rw [Ne, ← Text.isBlank_iff_trim_eq_nil]
      simpa using visible
    have isDescribed : ¬ d.Lacks .missingDescription :=
      fun blank => described (blank description given)
    cases tested : d.function with
    | none =>
      refine .inr ⟨.missingFunction, by rw [complete, named, tested], [.missingDescription], _,
        rfl, tested, ?_⟩
      simpa using isDescribed
    | some function =>
      have isTested : ¬ d.Lacks .missingFunction := by
        rw [Lacks, tested]
        exact Option.some_ne_none function
      rcases d.assembly.finish_outcome with
        ⟨root, operands, operators, groups, finished⟩ | ⟨nothing, refused⟩ |
          ⟨something, remains, refused⟩
      · refine .inl ⟨⟨description, d.preconditions, function, root⟩, ?_, ?_⟩
        · rw [complete, named, tested, finished]
          rfl
        · exact ⟨given, described, rfl, tested, operands, operators, groups⟩
      · refine .inr ⟨.missingComparison, complete_refused named tested refused,
          [.missingDescription, .missingFunction], _, rfl, nothing, ?_⟩
        simpa using ⟨isDescribed, isTested⟩
      · refine .inr ⟨.unfinishedComparison, complete_refused named tested refused,
          [.missingDescription, .missingFunction, .missingComparison], _, rfl, remains, ?_⟩
        simpa using ⟨isDescribed, isTested, something⟩

/-! ## Histories -/

/-- The draft after a call, whatever its result. -/
def perform (d : PropertyDraft I O) : DraftCall I O → PropertyDraft I O
  | .describe description => d.describe description
  | .given precondition => d.given precondition
  | .givenAll preconditions => d.givenAll preconditions
  | .testing function => d.testing function
  | .assemble call => { d with assembly := (d.assembly.perform call).2 }
  | .complete => d.complete.2

/-- The draft after a history of calls, whatever their results. -/
def reached (history : List (DraftCall I O)) : PropertyDraft I O :=
  history.foldl perform empty

theorem reached_concat (history : List (DraftCall I O)) (call : DraftCall I O) :
    reached (history ++ [call]) = (reached history).perform call := by
  rw [reached, List.foldl_append]
  rfl

/-- The last description and function of some calls, all their preconditions, and what the calls of
the assembly come to. -/
def gathered (calls : List (DraftCall I O)) : PropertyDraft I O where
  description := (calls.filterMap DraftCall.description?).getLast?
  preconditions := calls.flatMap DraftCall.preconditions
  function := (calls.filterMap DraftCall.function?).getLast?
  assembly := Assembly.reached (calls.filterMap DraftCall.assemblyCall?)

theorem gathered_concat (calls : List (DraftCall I O)) {call : DraftCall I O}
    (adds : call ≠ .complete) : gathered (calls ++ [call]) = (gathered calls).perform call := by
  cases call with
  | complete => exact absurd rfl adds
  | _ =>
    simp [gathered, perform, describe, given, givenAll, testing, List.filterMap_cons,
      DraftCall.description?, DraftCall.preconditions, DraftCall.function?,
      DraftCall.assemblyCall?, Assembly.reached]

theorem gathered_complete (calls : List (DraftCall I O)) :
    gathered (calls ++ [.complete]) = gathered calls := by
  simp [gathered, List.filterMap_cons, DraftCall.description?, DraftCall.preconditions,
    DraftCall.function?, DraftCall.assemblyCall?]

/-- A history comes in two parts: up to the last completion that gave a property, and the calls
since then. -/
structure SinceCompletion (past recent : List (DraftCall I O)) : Prop where
  /-- Before the recent calls a property was given, or there was nothing. -/
  start : past = [] ∨ ∃ before p, past = before ++ [.complete] ∧ (reached before).complete.1 = .ok p
  /-- None of the recent calls gave a property. -/
  incomplete : ∀ before after, recent = before ++ .complete :: after →
    ∃ error, (reached (past ++ before)).complete.1 = .error error

/-- A call that gives no property is one of the recent calls. -/
theorem SinceCompletion.concat {past recent : List (DraftCall I O)}
    (since : SinceCompletion past recent) {call : DraftCall I O}
    (gives : call = .complete → ∃ error, (reached (past ++ recent)).complete.1 = .error error) :
    SinceCompletion past (recent ++ [call]) where
  start := since.start
  incomplete before after split := by
    rcases List.eq_nil_or_concat after with rfl | ⟨after, last, rfl⟩
    · obtain ⟨rfl, same⟩ := List.append_inj' split rfl
      exact gives (List.cons.inj same).1
    · rw [List.concat_eq_append, ← List.cons_append, ← List.append_assoc] at split
      obtain ⟨rfl, -⟩ := List.append_inj' split rfl
      exact since.incomplete before after rfl

/-- A draft holds what the recent calls of its history have told it. -/
theorem reached_eq_gathered (history : List (DraftCall I O)) :
    ∃ past recent, history = past ++ recent ∧ SinceCompletion past recent ∧
      reached history = gathered recent := by
  induction history using List.reverseRecOn with
  | nil => exact ⟨[], [], rfl, ⟨.inl rfl, by simp⟩, rfl⟩
  | append_singleton history call ih =>
    obtain ⟨past, recent, rfl, since, holds⟩ := ih
    by_cases adds : call = .complete
    · subst adds
      rcases complete_all_or_nothing (reached (past ++ recent)) with
        ⟨p, done, -⟩ | ⟨error, refused, -⟩
      · refine ⟨past ++ recent ++ [.complete], [], (List.append_nil _).symm, ⟨?_, by simp⟩, ?_⟩
        · exact .inr ⟨past ++ recent, p, rfl, by rw [done]⟩
        · rw [reached_concat, perform, done]
          rfl
      · refine ⟨past, recent ++ [.complete], List.append_assoc .., ?_, ?_⟩
        · exact since.concat fun _ => ⟨error, by rw [refused]⟩
        · rw [reached_concat, perform, refused, gathered_complete]
          exact holds
    · refine ⟨past, recent ++ [call], List.append_assoc .., ?_, ?_⟩
      · exact since.concat fun same => absurd same adds
      · rw [reached_concat, gathered_concat recent adds, holds]

/-- After any history of calls, completing a draft gives a property exactly if what was told since a
property was last given makes it ready: a description that is not blank, a function, and a finished
comparison. The property is made up of just this, and a new draft is left. Otherwise the first thing
that is lacking is named, and the draft stays as it was. -/
theorem completion_of_history (history : List (DraftCall I O)) :
    ∃ past recent, history = past ++ recent ∧ SinceCompletion past recent ∧
      reached history = gathered recent ∧
      ((∃ p, (reached history).complete.1 = .ok p) ↔ (gathered recent).Ready) ∧
      match (reached history).complete with
      | (.ok p, after) => (gathered recent).Makes p ∧ after = empty
      | (.error error, after) => (gathered recent).FirstLack error ∧ after = reached history := by
  obtain ⟨past, recent, split, since, holds⟩ := reached_eq_gathered history
  refine ⟨past, recent, split, since, holds, ?_⟩
  rw [holds]
  rcases complete_all_or_nothing (gathered recent) with ⟨p, done, makes⟩ | ⟨error, refused, lack⟩
  · rw [done]
    exact ⟨⟨fun _ => makes.ready, fun _ => ⟨p, rfl⟩⟩, makes, rfl⟩
  · rw [refused]
    refine ⟨⟨nofun, fun ready => ?_⟩, lack, rfl⟩
    obtain ⟨-, -, -, lacking, -⟩ := lack
    exact absurd lacking (ready.lacks_nothing error)

/-- What was told before a completion that failed counts for the next one, and for none after it. -/
example :
    let told : List (DraftCall Nat Nat) :=
      [.describe "small", .given (· < 3), .complete, .testing id,
        .assemble (.chain (.leaf (.equals 1)))]
    (reached told).preconditions.length = 1 ∧
      (reached (told ++ [.complete, .describe "large"])).preconditions.length = 0 := by
  decide

end PropertyDraft

end PropertyTesting
