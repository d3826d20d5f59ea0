import PropertyTesting.Config.Basic
import PropertyTesting.Toml.Reader

/-!
# Configurations in TOML

A configuration is a table with a table for each of its parts. A part may also be an array of its
fields in their order, of which any number may be left out at the end, and a place for events may be
a table with nothing under its name. Fields of other names are errors.
-/

namespace PropertyTesting

/-- The values of the fields of a record; none for a field that is missing. -/
def Toml.fields? (names : List String) : Toml → Option (List (Option Toml))
  | .table _ entries =>
    if entries.all fun entry => names.contains entry.1 then
      some (names.map fun name => entries.lookup name)
    else none
  | .array _ items => some ((List.range names.length).map fun i => items[i]?)
  | _ => none

/-- Reads a field that has a default. -/
def Toml.readOr {α : Type} (read? : Toml → Option α) (otherwise : α) : Option Toml → Option α
  | none => some otherwise
  | some value => read? value

/-- The number of a count, which is a whole number that 64 bits can hold. -/
def Toml.count? : Toml → Option Nat
  | .integer n => if 0 ≤ n ∧ n < UInt64.size then some n.toNat else none
  | _ => none

/-- Whether a value is a table or an array with nothing in it. -/
def Toml.isEmpty : Toml → Bool
  | .table _ entries => entries.isEmpty
  | .array _ items => items.isEmpty
  | _ => false

def LogSinkKind.ofToml? : Toml → Option LogSinkKind
  | .string name => ofName? name
  | .table _ [(name, value)] => if value.isEmpty then ofName? name else Option.none
  | _ => Option.none

def Path.ofToml? : Toml → Option Path
  | .string s => some (Path.ofString s)
  | _ => none

def RunConfig.ofToml? (t : Toml) : Option RunConfig := do
  match ← t.fields? ["samples_override"] with
  | [samples] => return ⟨← Toml.readOr (fun t => t.count?.map some) none samples⟩
  | _ => none

def LogConfig.ofToml? (t : Toml) : Option LogConfig := do
  match ← t.fields? ["sink", "path"] with
  | [sink, path] =>
    return ⟨← Toml.readOr LogSinkKind.ofToml? .none sink,
      ← Toml.readOr (fun t => (Path.ofToml? t).map some) none path⟩
  | _ => none

namespace HarnessConfig

/-- The configuration that a table spells, whether it is valid or not. -/
def ofTable? (t : Toml) : Option HarnessConfig := do
  match ← t.fields? ["run", "log"] with
  | [run, log] =>
    return ⟨← Toml.readOr RunConfig.ofToml? unset.run run,
      ← Toml.readOr LogConfig.ofToml? unset.log log⟩
  | _ => none

/-- The configuration that a text spells, whether it is valid or not. -/
def decode? (text : String) : Option HarnessConfig :=
  (Toml.read? text).bind ofTable?

/-- The valid configuration that a text spells in TOML. -/
def ofToml (text : String) : Except ConfigError HarnessConfig :=
  ofText decode? text

end HarnessConfig

end PropertyTesting
