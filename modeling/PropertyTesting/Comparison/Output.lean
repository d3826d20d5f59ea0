import PropertyTesting.Text.Layout

/-!
# Outputs

What reports and comparisons ask of the values they handle. No law is assumed: equality need not be
reflexive, and two values need not be ordered.

A truth value or a number is never absent. An optional value is absent when it is `none`, which is
below every present value. A boxed value is what its content is.
-/

namespace PropertyTesting

/-- Values that can be shown in a report. -/
class Shown (α : Type) where
  /-- The text that stands for a value. -/
  shown : α → String

/-- How a value stands to another, if they are ordered at all. -/
abbrev Comparator (O : Type) :=
  O → O → Option Ordering

/-- Values that a function under test can return. -/
class Output (O : Type) extends Shown O where
  /-- Whether two values are equal. -/
  same : O → O → Bool
  /-- How a value stands to another, if they are ordered at all. -/
  compare? : Comparator O
  /-- Whether a value stands for the lack of one. -/
  isAbsent : O → Bool

/-- Truth values, of which false is below true. -/
instance : Output Bool where
  shown := Text.boolean
  same a b := a == b
  compare? a b := some (compare a.toNat b.toNat)
  isAbsent _ := false

/-- Natural numbers in their order. -/
instance : Output Nat where
  shown := toString
  same a b := a == b
  compare? a b := some (compare a b)
  isAbsent _ := false

/-- The equality that optional values have from their contents. -/
def sameOptional {T : Type} (same : T → T → Bool) : Option T → Option T → Bool
  | none, none => true
  | some a, some b => same a b
  | _, _ => false

/-- The order that optional values have from their contents: what is absent is below what is not. -/
def compareOptional? {T : Type} (compare? : Comparator T) : Comparator (Option T)
  | none, none => some .eq
  | none, some _ => some .lt
  | some _, none => some .gt
  | some a, some b => compare? a b

instance {T : Type} [Output T] : Output (Option T) where
  shown := Text.optional Shown.shown
  same := sameOptional Output.same
  compare? := compareOptional? Output.compare?
  isAbsent := Option.isNone

/-- A value in a box of its own. -/
structure Boxed (T : Type) where
  content : T

instance {T : Type} [Output T] : Output (Boxed T) where
  shown b := Shown.shown b.content
  same a b := Output.same a.content b.content
  compare? a b := Output.compare? a.content b.content
  isAbsent b := Output.isAbsent b.content

end PropertyTesting
