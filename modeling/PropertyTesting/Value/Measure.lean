import PropertyTesting.Value.Shown

/-!
# Functions of values

Functions and predicates of samples that are given as data. Many of them go by the measure of a
sample: a whole number of 64 bits that stands for its size, with arithmetic that wraps around.
-/

namespace PropertyTesting

namespace Value

mutual

/-- The measure of a value: the value of a number, the code point of a character, the length of a
text or of a sequence, the sum of the measures of a tuple's components, and that of the content of a
present or boxed value. All other values have the measure zero. -/
def measure : Value → Int64
  | integer n => n
  | boolean b => if b then 1 else 0
  | character c => Int64.ofNat c.toNat
  | text s => Int64.ofNat s.length
  | sequence _ items => Int64.ofNat items.length
  | tuple components => measureAll components
  | present content => content.measure
  | boxed content => content.measure
  | _ => 0

/-- The sum of the measures of values. -/
def measureAll : List Value → Int64
  | [] => 0
  | v :: rest => v.measure + measureAll rest

end

/-- The component of a tuple, list or slice at a place; any other value, and one without such a
component, stands for itself. -/
def component (place : Nat) (v : Value) : Value :=
  match v with
  | tuple components => components[place]?.getD v
  | sequence .list items => items[place]?.getD v
  | sequence .slice items => items[place]?.getD v
  | _ => v

end Value

/-- A condition on samples. -/
inductive Predicate where
  | always (b : Bool)
  /-- The measure leaves the remainder `remainder` when it is divided by `modulus`. -/
  | remainder (modulus remainder : Int)
  /-- The measure is greater than a bound. -/
  | above (bound : Int64)
  /-- The measure is less than a bound. -/
  | below (bound : Int64)
  /-- The sample is equal to one of the values. -/
  | among (values : List Value)

/-- Whether a sample meets a condition. -/
def Predicate.holds (p : Predicate) (sample : Value) : Bool :=
  match p with
  | always b => b
  | remainder modulus r => sample.measure.toInt % modulus == r
  | above bound => bound < sample.measure
  | below bound => sample.measure < bound
  | among values => values.any sample.same

/-- A function of samples. -/
inductive SampleFunction where
  | identity
  /-- The text of the sample. -/
  | text
  | constant (v : Value)
  /-- The number `factor * measure + offset`. -/
  | linear (factor offset : Int64)
  | component (place : Nat)
  /-- The value beside the first key that is equal to the sample, or else `otherwise`. -/
  | table (entries : List (Value × Value)) (otherwise : Value)
  /-- The result of a function where a condition holds, and absent elsewhere. -/
  | restricted (p : Predicate) (f : SampleFunction)
  | pair (f g : SampleFunction)

/-- The value of a function at a sample. -/
def SampleFunction.apply : SampleFunction → Value → Value
  | identity, sample => sample
  | text, sample => .text sample.render
  | constant v, _ => v
  | linear factor offset, sample => .integer (factor * sample.measure + offset)
  | component place, sample => sample.component place
  | table entries otherwise, sample =>
    ((entries.find? fun entry => entry.1.same sample).map Prod.snd).getD otherwise
  | restricted p f, sample => if p.holds sample then .present (f.apply sample) else .absent
  | pair f g, sample => .tuple [f.apply sample, g.apply sample]

end PropertyTesting
