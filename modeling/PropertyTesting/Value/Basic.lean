import PropertyTesting.Decimal.Floating

/-!
# Values

Values of any type, for tests that are given as data: numbers, texts, collections, tuples, optional
and boxed values. Values of different kinds are never equal and never ordered; values of one kind
have the relations of their type, element by element where they have elements.
-/

namespace PropertyTesting

/-- The kinds of sequences. -/
inductive SequenceKind where
  | list
  | slice
  | deque
  /-- Sequences of a length that their type fixes. -/
  | fixed
  deriving DecidableEq, Repr

/-- A value of any type. -/
inductive Value where
  | unit
  | boolean (b : Bool)
  /-- A whole number of 64 bits. -/
  | integer (n : Int64)
  /-- A whole number of 128 bits. -/
  | wide (n : Int)
  /-- A floating value of 64 bits. -/
  | double (x : Decimal.Floating)
  /-- A floating value of 32 bits. -/
  | single (x : Decimal.Floating)
  | character (c : Char)
  | text (s : String)
  | sequence (kind : SequenceKind) (items : List Value)
  | tuple (components : List Value)
  | absent
  | present (content : Value)
  | boxed (content : Value)
  /-- Whole numbers in ascending order. -/
  | set (items : List Int64)
  /-- Texts in ascending order, with a whole number for each. -/
  | map (entries : List (String × Int64))

namespace Value

mutual

/-- Whether two values are of one kind and equal. -/
def same : Value → Value → Bool
  | unit, unit => true
  | boolean a, boolean b => a == b
  | integer a, integer b => a == b
  | wide a, wide b => a == b
  | double a, double b => a.same b
  | single a, single b => a.same b
  | character a, character b => a == b
  | text a, text b => a == b
  | sequence kind as, sequence kind' bs => kind == kind' && sameAll as bs
  | tuple as, tuple bs => sameAll as bs
  | absent, absent => true
  | present a, present b => same a b
  | boxed a, boxed b => same a b
  | set as, set bs => as == bs
  | map as, map bs => as == bs
  | _, _ => false

/-- Whether two lists of values are equal element by element. -/
def sameAll : List Value → List Value → Bool
  | [], [] => true
  | a :: as, b :: bs => same a b && sameAll as bs
  | _, _ => false

end

/-- The order of two texts, by the code points of their characters. -/
def compareText (a b : String) : Ordering :=
  if a = b then .eq else if a < b then .lt else .gt

/-- Orders two lists by the first elements that differ, and a list below those that it begins. -/
def compareLists {α : Type} (compare : α → α → Ordering) : List α → List α → Ordering
  | [], [] => .eq
  | [], _ :: _ => .lt
  | _ :: _, [] => .gt
  | a :: as, b :: bs => (compare a b).then (compareLists compare as bs)

def compareIntegers (a b : Int64) : Ordering :=
  compare a.toInt b.toInt

mutual

/-- How two values are ordered, if they are of one kind and ordered at all. -/
def compare? : Value → Value → Option Ordering
  | unit, unit => some .eq
  | boolean a, boolean b => some (compare a.toNat b.toNat)
  | integer a, integer b => some (compareIntegers a b)
  | wide a, wide b => some (compare a b)
  | double a, double b => a.compare? b
  | single a, single b => a.compare? b
  | character a, character b => some (compare a.toNat b.toNat)
  | text a, text b => some (compareText a b)
  | sequence kind as, sequence kind' bs => if kind = kind' then compareAll? as bs else none
  | tuple as, tuple bs => if as.length = bs.length then compareAll? as bs else none
  | absent, absent => some .eq
  | absent, present _ => some .lt
  | present _, absent => some .gt
  | present a, present b => compare? a b
  | boxed a, boxed b => compare? a b
  | set as, set bs => some (compareLists compareIntegers as bs)
  | map as, map bs =>
    some (compareLists (fun a b => (compareText a.1 b.1).then (compareIntegers a.2 b.2)) as bs)
  | _, _ => none

/-- Orders two lists of values by the first elements that are not equal, which may be unordered. -/
def compareAll? : List Value → List Value → Option Ordering
  | [], [] => some .eq
  | [], _ :: _ => some .lt
  | _ :: _, [] => some .gt
  | a :: as, b :: bs =>
    match compare? a b with
    | some .eq => compareAll? as bs
    | other => other

end

/-- Puts an element into a list in ascending order, in the place of an equal one if there is one. -/
def insertAscending {α : Type} (compare : α → α → Ordering) (a : α) : List α → List α
  | [] => [a]
  | b :: rest =>
    match compare a b with
    | .lt => a :: b :: rest
    | .eq => a :: rest
    | .gt => b :: insertAscending compare a rest

/-- The set of some whole numbers. -/
def ofIntegers (items : List Int64) : Value :=
  set (items.foldl (fun ascending n => insertAscending compareIntegers n ascending) [])

/-- The map with some entries; of two with one key the later counts. -/
def ofEntries (entries : List (String × Int64)) : Value :=
  map (entries.foldl
    (fun ascending entry => insertAscending (fun a b => compareText a.1 b.1) entry ascending) [])

/-- Whether a value stands for the lack of one. A present value does not, whatever its content. -/
def isAbsent : Value → Bool
  | absent => true
  | boxed content => content.isAbsent
  | _ => false

end Value

end PropertyTesting
