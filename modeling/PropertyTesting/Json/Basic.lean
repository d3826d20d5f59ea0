/-!
# JSON values

Values as they stand in a document, with whole numbers told apart from all other numbers: a number
written with a point, an exponent or as minus zero is never a whole number here.
-/

namespace PropertyTesting

/-- A JSON value. The fields of an object keep their order, and no two share a name. -/
inductive Json where
  | null
  | boolean (b : Bool)
  /-- A whole number. -/
  | integer (n : Int)
  /-- Any other number, as it is written. -/
  | decimal (literal : String)
  | string (s : String)
  | array (items : List Json)
  | object (fields : List (String × Json))
  deriving Repr, Inhabited

namespace Json

/-- The field of an object with a given name. -/
def field? (name : String) : List (String × Json) → Option Json
  | [] => none
  | (key, value) :: rest => if key = name then some value else field? name rest

/-- Puts a field into an object: in the place of the field of that name, or else at the end. -/
def putField (name : String) (value : Json) : List (String × Json) → List (String × Json)
  | [] => [(name, value)]
  | (key, old) :: rest =>
    if key = name then (name, value) :: rest else (key, old) :: putField name value rest

/-- The number of a count, which is a whole number that 64 bits can hold. -/
def count? : Json → Option Nat
  | integer n => if 0 ≤ n ∧ n < UInt64.size then some n.toNat else none
  | _ => none

def string? : Json → Option String
  | string s => some s
  | _ => none

def boolean? : Json → Option Bool
  | boolean b => some b
  | _ => none

/-- Writes a count. -/
def ofCount (n : Nat) : Json :=
  integer n

end Json

end PropertyTesting
