import PropertyTesting.Random.Primitive
import PropertyTesting.Value.Shown

/-!
# Samplers

Generators that are given as data and draw values. Each part of a sampler has a state of its own,
apart from the counters, which share one.
-/

namespace PropertyTesting

open PropertyTesting.Random

/-- The generators that draw from one random source. -/
inductive Primitive where
  | integer
  | posInteger
  | smallInteger
  | posSmallInteger
  | character
  | double
  | single
  | text
  deriving DecidableEq, Repr

/-- A generator of values. A part without a seed starts from what chance gives. -/
inductive Sampler where
  | primitive (p : Primitive) (seed : Option UInt64)
  /-- Slices of fewer than `maxLength` elements; the seed is that of their lengths. -/
  | array (element : Sampler) (seed : Option UInt64) (maxLength : Nat)
  /-- Lists of fewer than `maxLength` elements; the seed is that of their lengths. -/
  | list (element : Sampler) (seed : Option UInt64) (maxLength : Nat)
  | pair (first second : Sampler)
  | triplet (first second third : Sampler)
  /-- The values of a list one after another, and again from the first. -/
  | cycle (values : List Value)
  /-- The numbers from one on. -/
  | counter

namespace Primitive

/-- The range of a generator of whole numbers. -/
def integerRange? : Primitive → Option IntegerRange
  | integer => some integerRange
  | posInteger => some posIntegerRange
  | smallInteger => some smallIntegerRange
  | posSmallInteger => some posSmallIntegerRange
  | _ => none

/-- Draws a whole number as a value. -/
def drawInteger (range : IntegerRange) : Draw Keystream Value :=
  (Keystream.integer range).map fun n => .integer (Int64.ofInt n)

def draw : Primitive → Draw Keystream Value
  | integer => drawInteger integerRange
  | posInteger => drawInteger posIntegerRange
  | smallInteger => drawInteger smallIntegerRange
  | posSmallInteger => drawInteger posSmallIntegerRange
  | character => Keystream.character.map .character
  | double => Keystream.double.map .double
  | single => Keystream.single.map .single
  | text => Keystream.text.map .text

/-- The name of the kind of generator. -/
def kind : Primitive → String
  | integer => "prop_harness::generator::IntegerGenerator"
  | posInteger => "prop_harness::generator::PosIntegerGenerator"
  | smallInteger => "prop_harness::generator::SmallIntegerGenerator"
  | posSmallInteger => "prop_harness::generator::PosSmallIntegerGenerator"
  | character => "prop_harness::generator::CharGenerator"
  | double => "prop_harness::generator::DoubleGenerator"
  | single => "prop_harness::generator::FloatGenerator"
  | text => "prop_harness::generator::StringGenerator"

/-- Whether a code point is that of a printable character or of the control character after them. -/
def isPrintableCode (c : Char) : Bool :=
  printableRange.start ≤ c.toNat && (c.toNat : Int) < printableRange.stop

/-- Whether a floating value lies from zero up to one. -/
def isFraction (w : Decimal.Width) : Decimal.Floating → Bool
  | .finite false units => units < Nat.pow 2 w.fractionBits
  | _ => false

/-- Whether a value lies in the range of a generator. -/
def admits (p : Primitive) (v : Value) : Bool :=
  match p, v with
  | character, .character c => isPrintableCode c
  | double, .double x => isFraction .double x
  | single, .single x => isFraction .single x
  | text, .text s => s.length < defaultMaxLength && s.toList.all isPrintableCode
  | p, .integer n =>
    match p.integerRange? with
    | some range => range.start ≤ n.toInt && n.toInt < range.stop
    | none => false
  | _, _ => false

end Primitive

namespace Sampler

/-- The states of a sampler. -/
@[reducible] def State : Sampler → Type
  | primitive .. => Keystream
  | array element .. => element.State × Keystream
  | list element .. => element.State × Keystream
  | pair first second => first.State × second.State
  | triplet first second third => first.State × second.State × third.State
  | cycle _ => Nat
  | counter => Unit

/-- The state before the first draw; `chance` is the seed of the parts without one. -/
def start (chance : UInt64) : (s : Sampler) → s.State
  | primitive _ seed => Keystream.ofSeed (seed.getD chance)
  | array element seed _ => (element.start chance, Keystream.ofSeed (seed.getD chance))
  | list element seed _ => (element.start chance, Keystream.ofSeed (seed.getD chance))
  | pair first second => (first.start chance, second.start chance)
  | triplet first second third => (first.start chance, second.start chance, third.start chance)
  | cycle _ => 0
  | counter => ()

/-- Draws from the first part of a state beside the shared counter. -/
def besideSecond {σ τ α : Type} (draw : Draw (σ × Nat) α) : Draw ((σ × τ) × Nat) α :=
  fun ((s, t), count) =>
    let (a, (s, count)) := draw (s, count)
    (a, ((s, t), count))

/-- Draws from the second part of a state beside the shared counter. -/
def besideFirst {σ τ α : Type} (draw : Draw (τ × Nat) α) : Draw ((σ × τ) × Nat) α :=
  fun ((s, t), count) =>
    let (a, (t, count)) := draw (t, count)
    (a, ((s, t), count))

/-- Moves the shared counter past the source of the lengths of a collection. -/
def besideLengths {σ α : Type} (draw : Draw ((σ × Nat) × Keystream) α) :
    Draw ((σ × Keystream) × Nat) α := fun ((s, lengths), count) =>
  let (a, ((s, count), lengths)) := draw ((s, count), lengths)
  (a, ((s, lengths), count))

/-- One draw of a sampler, whose state stands beside the shared counter: the last number counted. -/
def draw : (s : Sampler) → Draw (s.State × Nat) Value
  | primitive p _ => p.draw.onFirst
  | array element _ maxLength =>
    (besideLengths (Draw.array element.draw Keystream.lengths maxLength)).map fun items =>
      .sequence .slice items.toList
  | list element _ maxLength =>
    (besideLengths (Draw.list element.draw Keystream.lengths maxLength)).map (.sequence .list)
  | pair first second =>
    (Draw.pair (besideSecond first.draw) (besideFirst second.draw)).map fun (a, b) => .tuple [a, b]
  | triplet first second third =>
    (Draw.triplet (besideSecond first.draw) (besideFirst (besideSecond second.draw))
      (besideFirst (besideFirst third.draw))).map fun (a, b, c) => .tuple [a, b, c]
  | cycle values => fun (place, count) =>
    (values[place % values.length]?.getD .unit, (place + 1, count))
  | counter => fun (_, count) => (.integer (Int64.ofNat (count + 1)), ((), count + 1))

/-- The names of the kinds of generators that are no part of the library. -/
structure KindNames where
  /-- Any generator of values, whatever its kind. -/
  any : String
  /-- Generators that go round a list of values. -/
  cycle : String
  /-- Functions that give values. -/
  function : String

/-- The kind of an element of a collection: its own if it is primitive. -/
def elementKind (names : KindNames) : Sampler → String
  | primitive p _ => p.kind
  | _ => names.any

/-- Whether a sampler draws whole numbers from a random source. -/
def isInteger : Sampler → Bool
  | primitive p _ => p.integerRange?.isSome
  | _ => false

/-- The name of a kind of generator with the kinds of its parts. -/
def compoundKind (name : String) (parts : List String) : String :=
  "prop_harness::generator::" ++ name ++ "<" ++ ", ".intercalate parts ++ ">"

/-- The name of the kind of a sampler. -/
def kind (names : KindNames) : Sampler → String
  | primitive p _ => p.kind
  | array element .. => compoundKind "ArrayGenerator" [element.elementKind names]
  | list element .. => compoundKind "ListGenerator" [element.elementKind names]
  | pair first second =>
    compoundKind "PairGenerator"
      (if first.isInteger && second.isInteger then
        [first.elementKind names, second.elementKind names]
      else [names.any, names.any])
  | triplet .. => compoundKind "TripletGenerator" [names.any, names.any, names.any]
  | cycle _ => names.cycle
  | counter => compoundKind "FnGenerator" [names.function]

/-- The types of samples. -/
inductive ItemType where
  | integer
  | character
  | double
  | single
  | text
  /-- Values of all kinds. -/
  | any
  | array (element : ItemType)
  | list (element : ItemType)
  | pair (component : ItemType)
  | triplet (component : ItemType)
  deriving DecidableEq, Repr

/-- The type of the samples of a primitive generator. -/
def primitiveType : Primitive → ItemType
  | .character => .character
  | .double => .double
  | .single => .single
  | .text => .text
  | _ => .integer

/-- The type of the elements of a collection. -/
def elementType : Sampler → ItemType
  | primitive p _ => primitiveType p
  | _ => .any

/-- The type of the samples of a sampler. Collections of primitive samples and pairs of whole
numbers have the types of their parts; all other compounds are of values of all kinds. -/
def itemType : Sampler → ItemType
  | primitive p _ => primitiveType p
  | array element .. => .array element.elementType
  | list element .. => .list element.elementType
  | pair first second => .pair (if first.isInteger && second.isInteger then .integer else .any)
  | triplet .. => .triplet .any
  | cycle _ => .any
  | counter => .any

/-- Whether a value is one that a sampler can draw. Of the values of a list each is known by its
text, since one that is no number does not equal itself. -/
def admits : Sampler → Value → Bool
  | primitive p _, v => p.admits v
  | array element _ maxLength, .sequence .slice items =>
    (items.isEmpty || items.length < maxLength) && items.all element.admits
  | list element _ maxLength, .sequence .list items =>
    (items.isEmpty || items.length < maxLength) && items.all element.admits
  | pair first second, .tuple [a, b] => first.admits a && second.admits b
  | triplet first second third, .tuple [a, b, c] =>
    first.admits a && second.admits b && third.admits c
  | cycle values, v => values.any fun value => value.render == v.render
  | counter, .integer n => 0 < n
  | _, _ => false

/-- The generator of a sampler before its first draw. -/
def generator (s : Sampler) (names : KindNames) (chance : UInt64) :
    Generator (s.State × Nat) Value :=
  ⟨s.kind names, s.draw, (s.start chance, 0)⟩

end Sampler

end PropertyTesting
