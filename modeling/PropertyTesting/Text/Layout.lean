/-!
# Layout of shown values

How the parts of a value stand together when the value is shown on one line: records with named
fields, lists, tuples, sets, maps and optional values.
-/

namespace PropertyTesting.Text

/-- The parts of a value, parted by commas. -/
def commaSeparated (parts : List String) : String :=
  ", ".intercalate parts

/-- The fields of a record, each as its name and its value. -/
def shownFields (fields : List (String × String)) : List String :=
  fields.map fun field => field.1 ++ ": " ++ field.2

/-- A record that shows all its fields. -/
def record (name : String) (fields : List (String × String)) : String :=
  name ++ " \x7b " ++ commaSeparated (shownFields fields) ++ " \x7d"

/-- A record that keeps some of its fields to itself, which two dots stand for. -/
def openRecord (name : String) (fields : List (String × String)) : String :=
  name ++ " \x7b " ++ commaSeparated (shownFields fields ++ [".."]) ++ " \x7d"

/-- A list, in brackets. -/
def bracketed (parts : List String) : String :=
  "[" ++ commaSeparated parts ++ "]"

/-- A tuple of at least two components, in parentheses. -/
def parenthesized (parts : List String) : String :=
  "(" ++ commaSeparated parts ++ ")"

/-- A set, in braces. -/
def braced (parts : List String) : String :=
  "\x7b" ++ commaSeparated parts ++ "\x7d"

/-- An optional value whose content, if there is one, is shown by `shown`. -/
def optional {α : Type} (shown : α → String) : Option α → String
  | none => "None"
  | some a => "Some(" ++ shown a ++ ")"

/-- A truth value. -/
def boolean : Bool → String
  | true => "true"
  | false => "false"

end PropertyTesting.Text
