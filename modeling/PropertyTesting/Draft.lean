import PropertyTesting.Assembly
import PropertyTesting.Property
import PropertyTesting.Text.Blank

/-!
# Drafts of properties

A draft collects the parts of a property in any order. Completing it gives the property and leaves
an empty draft, or names the first part that is missing and leaves the draft as it was.
-/

namespace PropertyTesting

/-- A property under construction. -/
structure PropertyDraft (I O : Type) where
  description : Option String
  preconditions : List (I → Bool)
  function : Option (I → O)
  assembly : Assembly I O

namespace PropertyDraft

variable {I O : Type}

/-- A draft without any part. -/
def empty : PropertyDraft I O :=
  ⟨none, [], none, .empty⟩

/-- Sets the description. -/
def describe (d : PropertyDraft I O) (description : String) : PropertyDraft I O :=
  { d with description := some description }

/-- Adds preconditions after those already given. -/
def givenAll (d : PropertyDraft I O) (preconditions : List (I → Bool)) : PropertyDraft I O :=
  { d with preconditions := d.preconditions ++ preconditions }

/-- Adds a precondition. -/
def given (d : PropertyDraft I O) (precondition : I → Bool) : PropertyDraft I O :=
  d.givenAll [precondition]

/-- Sets the function under test. -/
def testing (d : PropertyDraft I O) (function : I → O) : PropertyDraft I O :=
  { d with function := some function }

/-- Gives the property of a complete draft. A blank description counts as none. -/
def complete (d : PropertyDraft I O) : Except BuilderError (Property I O) × PropertyDraft I O :=
  match d.description.filter fun description => !Text.isBlank description with
  | none => (.error .missingDescription, d)
  | some description =>
    match d.function with
    | none => (.error .missingFunction, d)
    | some function =>
      match d.assembly.finish with
      | (.error error, assembly) => (.error error, { d with assembly })
      | (.ok comparison, assembly) =>
        (.ok ⟨description, d.preconditions, function, comparison⟩,
          { empty with assembly })

end PropertyDraft

end PropertyTesting
