import Mathlib.Algebra.Ring.Nat
import PropertyTesting.Generator

/-!
# Draws of composite generators

What a number of draws of a composite generator take from its parts, for parts that are arbitrary
draws, and so may be composite themselves.

* Collections take from the source of their lengths one number for each collection, and from the
  elements as many draws as the collections hold elements, which stand in them in their order
  (`Collects`). So the lengths do not depend on the elements. The source is never asked for a number
  below zero (`times_collection_noting`).
* Pairs and triplets take one draw of each component for each value: place by place where each
  component has a state of its own (`times_pair_apart`, `times_triplet_apart`), and in turn where
  they share one (`inTurn_pair`, `inTurn_triplet`).
-/

namespace PropertyTesting

/-- The source with the bounds noted that it is asked for. -/
def LengthSource.noting {ρ : Type} (source : LengthSource ρ) : LengthSource (ρ × List Nat) where
  below bound := fun (state, asked) =>
    let (n, state) := source.below bound state
    (n, (state, asked ++ [bound]))
  below_lt state positive := source.below_lt state.1 positive

namespace Draw

variable {σ τ υ ρ α β γ : Type}

/-! ## Draws one after another -/

theorem times_succ (draw : Draw σ α) (n : Nat) (state : σ) :
    draw.times (n + 1) state =
      ((draw state).1 :: (draw.times n (draw state).2).1, (draw.times n (draw state).2).2) :=
  rfl

@[simp]
theorem length_times (draw : Draw σ α) (n : Nat) (state : σ) :
    (draw.times n state).1.length = n := by
  induction n generalizing state with
  | zero => rfl
  | succ n ih => exact congrArg Nat.succ (ih _)

theorem times_add (draw : Draw σ α) (m n : Nat) (state : σ) :
    draw.times (m + n) state =
      ((draw.times m state).1 ++ (draw.times n (draw.times m state).2).1,
        (draw.times n (draw.times m state).2).2) := by
  induction m generalizing state with
  | zero => simp [times]
  | succ m ih =>
    rw [Nat.succ_add, times_succ, times_succ, ih]
    rfl

/-- Changing each sample changes the samples of many draws one by one. -/
theorem times_map (f : α → β) (draw : Draw σ α) (n : Nat) (state : σ) :
    (draw.map f).times n state = ((draw.times n state).1.map f, (draw.times n state).2) := by
  induction n generalizing state with
  | zero => rfl
  | succ n ih =>
    rw [times_succ, times_succ, ih]
    rfl

/-! ## Collections -/

/-- What collections come to that were drawn one after another from a state on. -/
structure Collects (element : Draw σ α) (source : LengthSource ρ) (maxLength : Nat) (start : σ × ρ)
    (drawn : List (List α)) (after : σ × ρ) : Prop where
  /-- A collection is shorter than its bound, and empty if it can be no shorter. -/
  short : ∀ items ∈ drawn, (0 < maxLength → items.length < maxLength) ∧ (maxLength ≤ 1 → items = [])
  /-- The lengths are what the source gives. -/
  lengths : 0 < maxLength →
    (source.below maxLength).times drawn.length start.2 = (drawn.map List.length, after.2)
  /-- If there is no length to choose, the source stays as it is. -/
  unasked : maxLength = 0 → after.2 = start.2
  /-- The elements of all collections are the first draws of the elements, and no more are made. -/
  elements : element.times (drawn.map List.length).sum start.1 = (drawn.flatten, after.1)

theorem length_lt {source : LengthSource ρ} {maxLength : Nat} (state : ρ) :
    (0 < maxLength → (length source maxLength state).1 < maxLength) ∧
      (maxLength ≤ 1 → (length source maxLength state).1 = 0) := by
  rcases Nat.eq_zero_or_pos maxLength with rfl | positive
  · exact ⟨fun absurd => absurd, fun _ => rfl⟩
  · have below : (length source maxLength state).1 < maxLength := by
      rw [length, if_neg (Nat.ne_of_gt positive)]
      exact source.below_lt state positive
    exact ⟨fun _ => below, fun small => by omega⟩

theorem Collects.nil (element : Draw σ α) (source : LengthSource ρ) (maxLength : Nat)
    (start : σ × ρ) : Collects element source maxLength start [] start where
  short := List.forall_mem_nil _
  lengths _ := rfl
  unasked _ := rfl
  elements := rfl

/-- A collection before others is drawn from the state before them. -/
theorem Collects.cons {element : Draw σ α} {source : LengthSource ρ} {maxLength : Nat}
    {start after : σ × ρ} {drawn : List (List α)}
    (rest : Collects element source maxLength (collection element source maxLength start).2 drawn
      after) :
    Collects element source maxLength start ((collection element source maxLength start).1 :: drawn)
      after where
  short := by
    have count : (collection element source maxLength start).1.length =
        (length source maxLength start.2).1 :=
      length_times element _ start.1
    refine List.forall_mem_cons.mpr ⟨⟨fun positive => ?_, fun small => ?_⟩, rest.short⟩
    · exact count ▸ (length_lt start.2).1 positive
    · exact List.length_eq_zero_iff.mp (count.trans ((length_lt start.2).2 small))
  lengths positive := by
    have asks : length source maxLength start.2 = source.below maxLength start.2 :=
      if_neg (Nat.ne_of_gt positive)
    have others := rest.lengths positive
    simp only [collection, asks] at others ⊢
    rw [List.length_cons, times_succ, others, List.map_cons, length_times]
  unasked none := by
    have keeps : (length source maxLength start.2).2 = start.2 := by rw [length, if_pos none]
    exact (rest.unasked none).trans keeps
  elements := by
    have others := rest.elements
    simp only [collection] at others ⊢
    rw [List.map_cons, List.sum_cons, length_times, times_add, others, List.flatten_cons]

/-- Collections that are drawn one after another use up the draws of their parts and no others. -/
theorem collects_times (element : Draw σ α) (source : LengthSource ρ) (maxLength k : Nat)
    (start : σ × ρ) :
    Collects element source maxLength start ((collection element source maxLength).times k start).1
      ((collection element source maxLength).times k start).2 := by
  induction k generalizing start with
  | zero => exact .nil element source maxLength start
  | succ k ih => exact .cons (ih _)

/-- A source that notes its bounds gives what it gave without, and it is asked once for each
collection, for a number below their bound, if there is such a number. -/
theorem times_collection_noting (element : Draw σ α) (source : LengthSource ρ) (maxLength k : Nat)
    (state : σ) (lengths : ρ) (asked : List Nat) :
    (collection element source.noting maxLength).times k (state, (lengths, asked)) =
      let (drawn, after) := (collection element source maxLength).times k (state, lengths)
      (drawn, (after.1,
        (after.2, asked ++ if maxLength = 0 then [] else List.replicate k maxLength))) := by
  induction k generalizing state lengths asked with
  | zero => simp [times]
  | succ k ih =>
    by_cases none : maxLength = 0
    · simp only [times, collection, length, if_pos none, ih]
    · simp only [times, collection, length, if_neg none, LengthSource.noting] at ih ⊢
      simp only [ih, List.replicate_succ, List.append_assoc, List.singleton_append]

theorem map_toList_map_toArray (drawn : List (List α)) :
    (drawn.map List.toArray).map Array.toList = drawn := by
  rw [List.map_map]
  exact List.map_id drawn

theorem times_array (element : Draw σ α) (source : LengthSource ρ) (maxLength k : Nat)
    (start : σ × ρ) :
    (array element source maxLength).times k start =
      (((collection element source maxLength).times k start).1.map List.toArray,
        ((collection element source maxLength).times k start).2) :=
  times_map List.toArray _ k start

theorem times_list (element : Draw σ α) (source : LengthSource ρ) (maxLength k : Nat)
    (start : σ × ρ) :
    (list element source maxLength).times k start =
      (collection element source maxLength).times k start := by
  rw [list, times_map, times_array, map_toList_map_toArray]

/-! ## Components -/

/-- Where the components of a pair have states of their own, the values have their draws place by
place. -/
theorem times_pair_apart (first : Draw σ α) (second : Draw τ β) (k : Nat) (s : σ) (t : τ) :
    (pair first.onFirst second.onSecond).times k (s, t) =
      ((first.times k s).1.zip (second.times k t).1,
        ((first.times k s).2, (second.times k t).2)) := by
  induction k generalizing s t with
  | zero => rfl
  | succ k ih =>
    simp only [times_succ, pair, onFirst, onSecond] at ih ⊢
    rw [ih, List.zip_cons_cons]

theorem times_triplet_apart (first : Draw σ α) (second : Draw τ β) (third : Draw υ γ) (k : Nat)
    (s : σ) (t : τ) (u : υ) :
    (triplet first.onFirst second.onFirst.onSecond third.onSecond.onSecond).times k (s, t, u) =
      ((first.times k s).1.zip ((second.times k t).1.zip (third.times k u).1),
        ((first.times k s).2, (second.times k t).2, (third.times k u).2)) := by
  induction k generalizing s t u with
  | zero => rfl
  | succ k ih =>
    simp only [times_succ, triplet, onFirst, onSecond] at ih ⊢
    rw [ih, List.zip_cons_cons, List.zip_cons_cons]

/-- Makes draws in turn from one state and collects the samples. -/
def inTurn : List (Draw σ α) → Draw σ (List α)
  | [], state => ([], state)
  | draw :: draws, state =>
    ((draw state).1 :: (inTurn draws (draw state).2).1, (inTurn draws (draw state).2).2)

theorem inTurn_append (draws more : List (Draw σ α)) (state : σ) :
    inTurn (draws ++ more) state =
      ((inTurn draws state).1 ++ (inTurn more (inTurn draws state).2).1,
        (inTurn more (inTurn draws state).2).2) := by
  induction draws generalizing state with
  | nil => rfl
  | cons draw draws ih =>
    simp only [List.cons_append, inTurn, ih]

/-- If a draw is made up of others in turn, so are many of them. -/
theorem inTurn_times {draw : Draw σ α} {components : List (Draw σ γ)} {parts : α → List γ}
    (made : ∀ state, inTurn components state = (parts (draw state).1, (draw state).2)) (k : Nat)
    (state : σ) :
    inTurn (List.replicate k components).flatten state =
      ((draw.times k state).1.flatMap parts, (draw.times k state).2) := by
  induction k generalizing state with
  | zero => rfl
  | succ k ih =>
    rw [List.replicate_succ, List.flatten_cons, inTurn_append, made, ih, times_succ,
      List.flatMap_cons]

/-- The components of the value of a pair in their order. -/
def pairParts : α × β → List (α ⊕ β)
  | (a, b) => [.inl a, .inr b]

/-- The components of the value of a triplet in their order. -/
def tripletParts : α × β × γ → List (α ⊕ β ⊕ γ)
  | (a, b, c) => [.inl a, .inr (.inl b), .inr (.inr c)]

/-- Where the components of a pair share a state, they are drawn from it in turn. -/
theorem inTurn_pair (first : Draw σ α) (second : Draw σ β) (k : Nat) (state : σ) :
    inTurn (List.replicate k [first.map Sum.inl, second.map Sum.inr]).flatten state =
      (((pair first second).times k state).1.flatMap pairParts,
        ((pair first second).times k state).2) :=
  inTurn_times (fun _ => rfl) k state

theorem inTurn_triplet (first : Draw σ α) (second : Draw σ β) (third : Draw σ γ) (k : Nat)
    (state : σ) :
    inTurn (List.replicate k
        [first.map Sum.inl, second.map fun b => .inr (.inl b),
          third.map fun c => .inr (.inr c)]).flatten state =
      (((triplet first second third).times k state).1.flatMap tripletParts,
        ((triplet first second third).times k state).2) :=
  inTurn_times (fun _ => rfl) k state

/-- Composite generators take from their parts what their values are made of, and nothing else.
Arrays and lists that are drawn one after another are the same collections, their source is asked
for each of them once and only for numbers below a bound above zero; the components of pairs and
triplets are drawn once for each value, from the first to the last, whether they have states of
their own or share one. -/
theorem composites_take_exactly (k : Nat) :
    (∀ (element : Draw σ α) (source : LengthSource ρ) (maxLength : Nat) (start : σ × ρ),
      let (arrays, after) := (array element source maxLength).times k start
      arrays.length = k ∧
      Collects element source maxLength start (arrays.map Array.toList) after ∧
      (list element source maxLength).times k start = (arrays.map Array.toList, after) ∧
      (array element source.noting maxLength).times k (start.1, (start.2, [])) =
        (arrays, (after.1, (after.2, if maxLength = 0 then [] else List.replicate k maxLength)))) ∧
    (∀ (first : Draw σ α) (second : Draw τ β) (s : σ) (t : τ),
      (pair first.onFirst second.onSecond).times k (s, t) =
        ((first.times k s).1.zip (second.times k t).1,
          ((first.times k s).2, (second.times k t).2))) ∧
    (∀ (first : Draw σ α) (second : Draw τ β) (third : Draw υ γ) (s : σ) (t : τ) (u : υ),
      (triplet first.onFirst second.onFirst.onSecond third.onSecond.onSecond).times k (s, t, u) =
        ((first.times k s).1.zip ((second.times k t).1.zip (third.times k u).1),
          ((first.times k s).2, (second.times k t).2, (third.times k u).2))) ∧
    (∀ (first : Draw σ α) (second : Draw σ β) (state : σ),
      inTurn (List.replicate k [first.map Sum.inl, second.map Sum.inr]).flatten state =
        (((pair first second).times k state).1.flatMap pairParts,
          ((pair first second).times k state).2)) ∧
    (∀ (first : Draw σ α) (second : Draw σ β) (third : Draw σ γ) (state : σ),
      inTurn (List.replicate k
          [first.map Sum.inl, second.map fun b => .inr (.inl b),
            third.map fun c => .inr (.inr c)]).flatten state =
        (((triplet first second third).times k state).1.flatMap tripletParts,
          ((triplet first second third).times k state).2)) := by
  refine ⟨fun element source maxLength start => ?_,
    fun first second => times_pair_apart first second k,
    fun first second third => times_triplet_apart first second third k,
    fun first second => inTurn_pair first second k,
    fun first second third => inTurn_triplet first second third k⟩
  simp only [times_array, times_list, map_toList_map_toArray, times_collection_noting,
    List.nil_append]
  exact ⟨by simp, collects_times element source maxLength k start, trivial, trivial⟩

/-- Gives the numbers below a bound one after another. -/
def exRound : LengthSource Nat :=
  ⟨fun bound n => (n % bound, n + 1), fun n positive => Nat.mod_lt n positive⟩

/-- Three lengths, and then the first one again; six elements are drawn, and the seventh comes
next. -/
example :
    (array (fun n => (n, n + 1)) exRound 3).times 4 (0, 2) =
      ([#[0, 1], #[], #[2], #[3, 4]], (5, 6)) := by
  decide

end Draw

end PropertyTesting
