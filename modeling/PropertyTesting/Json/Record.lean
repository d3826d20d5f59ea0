import PropertyTesting.Json.Basic

/-!
# JSON forms of records and names

A record is written as an object with its fields. It is read from an object, which may have other
fields too, or from an array of its fields in their order. A name that stands alone is written as a
text, and read from a text or from an object whose only field has that name and holds nothing.
-/

namespace PropertyTesting.Json

/-- The values of the named fields of a record, in the order of the names. -/
def recordFields? (names : List String) : Json → Option (List Json)
  | object fields => names.mapM fun name => field? name fields
  | array items => if items.length = names.length then some items else none
  | _ => none

/-- Reads a name that stands alone. `isNothing` says which values hold nothing. -/
def name? (isNothing : Json → Bool) : Json → Option String
  | string name => some name
  | object [(name, value)] => if isNothing value then some name else none
  | _ => none

/-- Whether a value is null. -/
def isNull : Json → Bool
  | null => true
  | _ => false

/-- Whether a value is null or an object without fields. -/
def isNullOrEmpty : Json → Bool
  | null => true
  | object [] => true
  | _ => false

/-- An optional value, written as null if there is none. -/
def ofOption {α : Type} (form : α → Json) : Option α → Json
  | none => null
  | some a => form a

/-- Reads an optional value, null if there is none. -/
def optional? {α : Type} (read? : Json → Option α) : Json → Option (Option α)
  | null => some none
  | value => (read? value).map some

end PropertyTesting.Json
