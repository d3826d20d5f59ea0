import PropertyTesting.Config.Basic
import PropertyTesting.Json.Record

/-!
# JSON forms of configurations

A configuration is read strictly: a field of an unknown name is an error. A field that is missing
sets nothing.
-/

namespace PropertyTesting

open Json

/-- The values of the fields of a record with no other fields; none for a field that is missing. -/
def Json.strictFields? (names : List String) : Json → Option (List (Option Json))
  | .object fields =>
    if fields.all fun field => names.contains field.1 then
      some (names.map fun name => field? name fields)
    else none
  | .array items =>
    if items.length ≤ names.length then
      some (items.map some ++ List.replicate (names.length - items.length) none)
    else none
  | _ => none

/-- Reads a field that has a default. -/
def Json.readOr {α : Type} (read? : Json → Option α) (otherwise : α) : Option Json → Option α
  | none => some otherwise
  | some value => read? value

namespace LogSinkKind

def toJson (kind : LogSinkKind) : Json :=
  .string kind.name

def ofJson? (j : Json) : Option LogSinkKind :=
  (name? isNull j).bind ofName?

end LogSinkKind

/-- The JSON form of a path, which is that of its text. -/
def Path.toJson (p : Path) : Json :=
  .string p.text

def Path.ofJson? (j : Json) : Option Path :=
  j.string?.map Path.ofString

namespace RunConfig

def toJson (c : RunConfig) : Json :=
  .object [("samples_override", ofOption ofCount c.samplesOverride)]

def ofJson? (j : Json) : Option RunConfig := do
  match ← strictFields? ["samples_override"] j with
  | [samples] => return ⟨← readOr (optional? count?) none samples⟩
  | _ => none

end RunConfig

namespace LogConfig

def toJson (c : LogConfig) : Json :=
  .object [("sink", c.sink.toJson), ("path", ofOption Path.toJson c.path)]

def ofJson? (j : Json) : Option LogConfig := do
  match ← strictFields? ["sink", "path"] j with
  | [sink, path] =>
    return ⟨← readOr LogSinkKind.ofJson? .none sink, ← readOr (optional? Path.ofJson?) none path⟩
  | _ => none

end LogConfig

namespace HarnessConfig

def toJson (c : HarnessConfig) : Json :=
  .object [("run", c.run.toJson), ("log", c.log.toJson)]

/-- Reads a configuration. -/
def ofJson? (j : Json) : Option HarnessConfig := do
  match ← strictFields? ["run", "log"] j with
  | [run, log] =>
    return ⟨← readOr RunConfig.ofJson? unset.run run, ← readOr LogConfig.ofJson? unset.log log⟩
  | _ => none

end HarnessConfig

end PropertyTesting
