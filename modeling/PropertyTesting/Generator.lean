/-!
# Generators

A generator is a source of samples with a state: each draw gives a sample and the state that the
next draw starts from. Draws are combined over the states of their parts:

* `Draw.pair` and `Draw.triplet` draw each component once, the first one first;
* `Draw.array` and `Draw.list` draw a length from a source of its own and then that many elements.
-/

namespace PropertyTesting

/-- One draw from a state: the sample and the state after it. -/
abbrev Draw (σ α : Type) := σ → α × σ

/-- A source of samples in a given state. -/
structure Generator (σ α : Type) where
  /-- The name of the kind of generator. -/
  kind : String
  draw : Draw σ α
  state : σ

/-- The next sample, and the generator after it. -/
def Generator.next {σ α : Type} (g : Generator σ α) : α × Generator σ α :=
  let (sample, state) := g.draw g.state
  (sample, { g with state })

/-- A source of randomness that can choose a number below a positive bound. -/
structure LengthSource (ρ : Type) where
  /-- A number below `bound`. -/
  below (bound : Nat) : Draw ρ Nat
  below_lt : ∀ {bound : Nat} (state : ρ), 0 < bound → (below bound state).1 < bound

namespace Draw

variable {σ τ ρ α β γ : Type}

/-- Changes each sample. -/
def map (f : α → β) (draw : Draw σ α) : Draw σ β := fun state =>
  let (a, state) := draw state
  (f a, state)

/-- Draws from the first part of a state. -/
def onFirst (draw : Draw σ α) : Draw (σ × τ) α := fun (s, t) =>
  let (a, s) := draw s
  (a, (s, t))

/-- Draws from the second part of a state. -/
def onSecond (draw : Draw τ α) : Draw (σ × τ) α := fun (s, t) =>
  let (a, t) := draw t
  (a, (s, t))

/-- Draws a number of times and collects the samples. -/
def times (draw : Draw σ α) : Nat → Draw σ (List α)
  | 0, state => ([], state)
  | n + 1, state =>
    let (a, state) := draw state
    let (rest, state) := times draw n state
    (a :: rest, state)

/-- Draws two components. -/
def pair (first : Draw σ α) (second : Draw σ β) : Draw σ (α × β) := fun state =>
  let (a, state) := first state
  let (b, state) := second state
  ((a, b), state)

/-- Draws three components. -/
def triplet (first : Draw σ α) (second : Draw σ β) (third : Draw σ γ) : Draw σ (α × β × γ) :=
  fun state =>
    let (a, state) := first state
    let (b, state) := second state
    let (c, state) := third state
    ((a, b, c), state)

/-- Chooses a length below `maxLength`, and zero without asking the source if there is none
below. -/
def length (source : LengthSource ρ) (maxLength : Nat) : Draw ρ Nat := fun state =>
  if maxLength = 0 then (0, state) else source.below maxLength state

/-- Draws fewer than `maxLength` elements: a length from its own source, and then the elements. -/
def collection (element : Draw σ α) (source : LengthSource ρ) (maxLength : Nat) :
    Draw (σ × ρ) (List α) := fun (state, lengths) =>
  let (n, lengths) := length source maxLength lengths
  let (items, state) := element.times n state
  (items, (state, lengths))

/-- Draws an array of fewer than `maxLength` elements. -/
def array (element : Draw σ α) (source : LengthSource ρ) (maxLength : Nat) :
    Draw (σ × ρ) (Array α) :=
  (collection element source maxLength).map List.toArray

/-- Draws a list of fewer than `maxLength` elements, those of the array that would be drawn. -/
def list (element : Draw σ α) (source : LengthSource ρ) (maxLength : Nat) :
    Draw (σ × ρ) (List α) :=
  (array element source maxLength).map Array.toList

end Draw

end PropertyTesting
