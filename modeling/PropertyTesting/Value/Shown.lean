import PropertyTesting.Comparison.Output
import PropertyTesting.Decimal.Written
import PropertyTesting.Text.Quoted
import PropertyTesting.Value.Basic

/-!
# Shown values

The text of a value in a report. A box is shown as its content.
-/

namespace PropertyTesting.Value

open Text

mutual

/-- The text of a value. -/
def render : Value → String
  | unit => "()"
  | boolean b => Text.boolean b
  | integer n => toString n.toInt
  | wide n => toString n
  | double x => Decimal.Width.double.write x
  | single x => Decimal.Width.single.write x
  | character c => quoteChar c
  | text s => quote s
  | sequence _ items => bracketed (renderAll items)
  | tuple components => parenthesized (renderAll components)
  | absent => "None"
  | present content => "Some(" ++ content.render ++ ")"
  | boxed content => content.render
  | set items => braced (items.map fun n => toString n.toInt)
  | map entries => braced (entries.map fun entry => quote entry.1 ++ ": " ++ toString entry.2.toInt)

/-- The texts of values, in their order. -/
def renderAll : List Value → List String
  | [] => []
  | v :: rest => v.render :: renderAll rest

end

instance : Output Value where
  shown := render
  same := same
  compare? := compare?
  isAbsent := isAbsent

end PropertyTesting.Value
