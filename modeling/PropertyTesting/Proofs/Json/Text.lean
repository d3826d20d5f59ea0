import Mathlib.Data.List.TakeWhile
import PropertyTesting.Json.Reader
import PropertyTesting.Json.Writer
import PropertyTesting.Proofs.Text.Printable

/-!
# Reading JSON texts back

The compact text of a value is read as this value (`read?_compact`), for values whose numbers are
whole and whose objects have no two fields of one name (`Plain`). It holds no control character
(`Plain.printable`), so it is one line whatever the texts in it.

A reader takes the text of a part off the text of the whole. What it leaves begins with a comma or a
closing bracket or is nothing (`Stops`), so that a number ends where it was written to end. Fuel is
measured by the length of the text: two steps for a character are enough at each level.
-/

namespace PropertyTesting.Json

/-- Values with whole numbers only, and with no two fields of one name in an object. -/
inductive Plain : Json → Prop
  | null : Plain null
  | boolean (b : Bool) : Plain (boolean b)
  | integer (n : Int) : Plain (integer n)
  | string (s : String) : Plain (string s)
  | array {items : List Json} : (∀ item ∈ items, Plain item) → Plain (array items)
  | object {fields : List (String × Json)} : (fields.map Prod.fst).Nodup →
      (∀ field ∈ fields, Plain field.2) → Plain (object fields)

/-- What may come after a value. -/
def Stops (cs : List Char) : Prop :=
  ∀ c, cs.head? = some c → c = ',' ∨ c = ']' ∨ c = '\x7d'

/-! ## Texts in quotes -/

theorem hexDigit?_digitChar : ∀ d < 16, hexDigit? (Nat.digitChar d) = some d := by
  decide

theorem codePoint?_of_control {c : Char} (control : c.toNat < 0x20) (cs : List Char) :
    codePoint? ('0' :: '0' :: twoHexDigits c.toNat ++ cs) = some (c, cs) := by
  have zero : hexDigit? '0' = some 0 := by decide
  have high := hexDigit?_digitChar (c.toNat / 16 % 16) (by omega)
  have low := hexDigit?_digitChar (c.toNat % 16) (by omega)
  have spelled : ((0 * 16 + 0) * 16 + c.toNat / 16 % 16) * 16 + c.toNat % 16 = c.toNat := by omega
  have digits : fourHexDigits? ('0' :: '0' :: twoHexDigits c.toNat ++ cs) = some (c.toNat, cs) := by
    simp [twoHexDigits, fourHexDigits?, zero, high, low]
    omega
  rw [codePoint?, digits]
  simp only [Option.bind_eq_bind, Option.bind_some]
  rw [if_neg (by omega), if_neg (by omega), Char.ofNat_toNat]
  rfl

/-- One step reads one character, however it was written. -/
theorem textAfterQuote?_escapeChar (fuel : Nat) (done : List Char) (c : Char) (cs : List Char) :
    textAfterQuote? (fuel + 1) done (escapeChar c ++ cs) = textAfterQuote? fuel (c :: done) cs := by
  unfold escapeChar
  split
  · next quote => subst quote; simp [textAfterQuote?, letterEscape?]
  split
  · next backslash => subst backslash; simp [textAfterQuote?, letterEscape?]
  split
  · next newline => subst newline; simp [textAfterQuote?, letterEscape?]
  split
  · next carriage => subst carriage; simp [textAfterQuote?, letterEscape?]
  split
  · next tab => subst tab; simp [textAfterQuote?, letterEscape?]
  split
  · next backspace =>
    obtain rfl : c = Char.ofNat 8 := backspace ▸ (Char.ofNat_toNat c).symm
    simp [textAfterQuote?, letterEscape?]
  split
  · next feed =>
    obtain rfl : c = Char.ofNat 12 := feed ▸ (Char.ofNat_toNat c).symm
    simp [textAfterQuote?, letterEscape?]
  split
  · next control =>
    have point := codePoint?_of_control control cs
    simp only [List.cons_append, List.nil_append] at point ⊢
    rw [textAfterQuote?, point]
  · next notQuote notBackslash _ _ _ _ _ printable =>
    rw [List.singleton_append, textAfterQuote?]
    · exact if_neg printable
    · exact notQuote
    · exact fun _ backslash _ => notBackslash backslash
    · exact fun _ _ backslash _ => notBackslash backslash

theorem textAfterQuote?_flatMap {fuel : Nat} (s : List Char) (enough : s.length < fuel)
    (done rest : List Char) :
    textAfterQuote? fuel done (s.flatMap escapeChar ++ '\"' :: rest) =
      some (String.ofList (done.reverse ++ s), rest) := by
  induction s generalizing fuel done with
  | nil =>
    obtain ⟨fuel, rfl⟩ := Nat.exists_eq_succ_of_ne_zero (Nat.ne_of_gt enough)
    simp [textAfterQuote?]
  | cons c s ih =>
    obtain ⟨fuel, rfl⟩ := Nat.exists_eq_succ_of_ne_zero (Nat.ne_of_gt (Nat.zero_lt_of_lt enough))
    rw [List.flatMap_cons, List.append_assoc, textAfterQuote?_escapeChar,
      ih (by simpa using enough) (c :: done)]
    simp

theorem length_le_quotedChars (s : String) : s.toList.length + 2 ≤ (quotedChars s).length := by
  have longer : ∀ cs : List Char, cs.length ≤ (cs.flatMap escapeChar).length := by
    intro cs
    induction cs with
    | nil => simp
    | cons c cs ih =>
      have one : 1 ≤ (escapeChar c).length := by
        unfold escapeChar
        repeat' split
        all_goals simp
      simp only [List.flatMap_cons, List.length_append, List.length_cons]
      omega
  have := longer s.toList
  simp only [quotedChars, List.length_append, List.length_cons, List.length_nil]
  omega

/-- A text in quotes is read after its first quote. -/
theorem textAfterQuote?_quoted {fuel : Nat} (s : String)
    (enough : (quotedChars s).length ≤ fuel + 1) (rest : List Char) :
    textAfterQuote? fuel [] (s.toList.flatMap escapeChar ++ '\"' :: rest) = some (s, rest) := by
  have long := length_le_quotedChars s
  rw [textAfterQuote?_flatMap s.toList (by omega)]
  simp

/-! ## Numbers -/

theorem head?_toDigits {n : Nat} (positive : 0 < n) : (Nat.toDigits 10 n).head? ≠ some '0' := by
  induction n using Nat.strongRecOn with
  | ind n ih =>
    rw [Nat.toDigits_eq_if (by decide)]
    split
    · next small =>
      simp only [List.head?_cons, ne_eq, Option.some.injEq, Nat.digitChar_eq_zero]
      omega
    · next large =>
      have first := ih (n / 10) (by omega) (by omega)
      cases digits : Nat.toDigits 10 (n / 10) with
      | nil => exact absurd digits Nat.toDigits_ne_nil
      | cons d ds =>
        rw [digits] at first
        simpa using first

/-- The digits of a number have no zero before them. -/
theorem no_leading_zero (n : Nat) :
    ¬ ((Nat.toDigits 10 n).length > 1 ∧ (Nat.toDigits 10 n).head? = some '0') := by
  rintro ⟨long, zero⟩
  rcases Nat.eq_zero_or_pos n with rfl | positive
  · simp at long
  · exact head?_toDigits positive zero

theorem spelled_toDigits (n : Nat) : spelled (Nat.toDigits 10 n) = n := by
  rw [spelled, ← Nat.ofDigitChars_eq_foldl, Nat.ofDigitChars_ten_toDigits]

theorem isDigit_toDigits {n : Nat} : ∀ c ∈ Nat.toDigits 10 n, c.isDigit = true :=
  fun _ member => Nat.isDigit_of_mem_toDigits (by decide) (by decide) member

section Stops

variable {rest : List Char}

theorem Stops.not_digit (stops : Stops rest) : ∀ c, rest.head? = some c → c.isDigit = false := by
  intro c first
  rcases stops c first with rfl | rfl | rfl <;> decide

theorem digits?_toDigits (n : Nat) (stops : Stops rest) :
    digits? (Nat.toDigits 10 n ++ rest) = some (Nat.toDigits 10 n, rest) := by
  have whole : (Nat.toDigits 10 n ++ rest).takeWhile Char.isDigit = Nat.toDigits 10 n := by
    rw [List.takeWhile_append_of_pos isDigit_toDigits]
    cases rest with
    | nil => simp
    | cons c rest => simp [stops.not_digit c rfl]
  have left : (Nat.toDigits 10 n ++ rest).dropWhile Char.isDigit = rest := by
    rw [List.dropWhile_append_of_pos isDigit_toDigits]
    cases rest with
    | nil => rfl
    | cons c rest => simp [stops.not_digit c rfl]
  simp [digits?, whole, left, Nat.toDigits_ne_nil]

theorem fraction?_of_stops (stops : Stops rest) : fraction? rest = some ([], rest) := by
  unfold fraction?
  split
  · next tail =>
    rcases stops '.' rfl with absurd | absurd | absurd <;> simp at absurd
  · rfl

theorem exponent?_of_stops (stops : Stops rest) : exponent? rest = some ([], rest) := by
  cases rest with
  | nil => rfl
  | cons c rest =>
    have plain : ¬ (c = 'e' ∨ c = 'E') := by
      rcases stops c rfl with rfl | rfl | rfl <;> decide
    simp [exponent?, plain]

/-- A whole number is read after its sign; zero has no sign. -/
theorem magnitude?_toDigits {negative : Bool} {n : Nat} (signed : negative = true → n ≠ 0)
    (stops : Stops rest) :
    magnitude? negative (Nat.toDigits 10 n ++ rest) =
      some (integer (if negative then -(n : Int) else n), rest) := by
  have nonzero : (negative && decide (n = 0)) = false := by
    cases negative with
    | false => rfl
    | true => simpa using signed rfl
  simp only [magnitude?, digits?_toDigits n stops, fraction?_of_stops stops,
    exponent?_of_stops stops, Option.bind_eq_bind, Option.bind_some, if_neg (no_leading_zero n),
    spelled_toDigits, nonzero]
  rfl

theorem number?_integerChars (n : Int) (stops : Stops rest) :
    number? (integerChars n ++ rest) = some (integer n, rest) := by
  cases n with
  | ofNat n =>
    have unsigned : number? (Nat.toDigits 10 n ++ rest) =
        magnitude? false (Nat.toDigits 10 n ++ rest) := by
      unfold number?
      split
      · next tail minus =>
        cases digits : Nat.toDigits 10 n with
        | nil => exact absurd digits Nat.toDigits_ne_nil
        | cons d ds =>
          have isDigit : d.isDigit = true := isDigit_toDigits d (digits ▸ List.mem_cons_self)
          rw [digits, List.cons_append, List.cons.injEq] at minus
          rw [minus.1] at isDigit
          cases isDigit
      · rfl
    rw [integerChars, unsigned, magnitude?_toDigits (by simp) stops]
    rfl
  | negSucc n =>
    rw [integerChars, List.cons_append, number?,
      magnitude?_toDigits (fun _ => Nat.succ_ne_zero n) stops]
    rfl

end Stops

/-! ## Values -/

/-- The text of a value is read as the value, with fuel for its length, whatever may come after
it. -/
def Reads (v : Json) : Prop :=
  ∀ (fuel : Nat) (rest : List Char), 2 * v.chars.length ≤ fuel → Stops rest →
    value? fuel (v.chars ++ rest) = some (v, rest)

/-- A text that begins with neither a gap nor the end of an array. -/
def Begins (cs : List Char) : Prop :=
  ∃ c tail, cs = c :: tail ∧ isGap c = false ∧ c ≠ ']'

theorem stops_cons {c : Char} (mark : c = ',' ∨ c = ']' ∨ c = '\x7d') (cs : List Char) :
    Stops (c :: cs) := by
  intro d first
  obtain rfl : c = d := by simpa using first
  exact mark

theorem stops_nil : Stops [] :=
  fun _ none => nomatch none

theorem skipGap_cons {c : Char} (visible : isGap c = false) (cs : List Char) :
    skipGap (c :: cs) = c :: cs := by
  simp [skipGap, visible]

theorem Begins.skipGap_append {cs : List Char} (begins : Begins cs) (rest : List Char) :
    skipGap (cs ++ rest) = cs ++ rest := by
  obtain ⟨c, tail, rfl, visible, -⟩ := begins
  exact skipGap_cons visible (tail ++ rest)

theorem quotedChars_append (s : String) (rest : List Char) :
    quotedChars s ++ rest = '\"' :: (s.toList.flatMap escapeChar ++ '\"' :: rest) := by
  simp [quotedChars]

theorem skipGap_quotedChars (s : String) (rest : List Char) :
    skipGap (quotedChars s ++ rest) = quotedChars s ++ rest := by
  rw [quotedChars_append, skipGap_cons (by decide)]

/-- A whole number begins with its sign or with a digit. -/
theorem integerChars_cons (n : Int) :
    ∃ c tail, integerChars n = c :: tail ∧ (c = '-' ∨ c.isDigit = true) := by
  cases n with
  | ofNat n =>
    cases digits : Nat.toDigits 10 n with
    | nil => exact absurd digits Nat.toDigits_ne_nil
    | cons d ds => exact ⟨d, ds, digits, .inr (isDigit_toDigits d (digits ▸ List.mem_cons_self))⟩
  | negSucc n => exact ⟨'-', _, rfl, .inl rfl⟩

theorem begins_integerChars (n : Int) : Begins (integerChars n) := by
  obtain ⟨c, tail, shape, first⟩ := integerChars_cons n
  refine ⟨c, tail, shape, Bool.eq_false_iff.mpr fun gap => ?_, fun bracket => ?_⟩
  · simp only [isGap, Bool.or_eq_true, decide_eq_true_eq] at gap
    rcases gap with ((rfl | rfl) | rfl) | rfl <;> exact absurd first (by decide)
  · subst bracket
    exact absurd first (by decide)

theorem Plain.begins {v : Json} (plain : Plain v) : Begins v.chars := by
  cases plain with
  | null => exact ⟨'n', _, rfl, rfl, by decide⟩
  | boolean b =>
    cases b with
    | true => exact ⟨'t', _, rfl, rfl, by decide⟩
    | false => exact ⟨'f', _, rfl, rfl, by decide⟩
  | integer n => exact begins_integerChars n
  | string s => exact ⟨'\"', _, rfl, rfl, by decide⟩
  | @array items each => cases items <;> exact ⟨'[', _, rfl, rfl, by decide⟩
  | @object fields distinct each => cases fields <;> exact ⟨'\x7b', _, rfl, rfl, by decide⟩

/-- A number begins like no other value. -/
theorem value?_integerChars (n : Int) {rest : List Char} (stops : Stops rest) (fuel : Nat) :
    value? (fuel + 1) (integerChars n ++ rest) = some (integer n, rest) := by
  have reads := number?_integerChars n stops
  obtain ⟨c, tail, shape, first⟩ := integerChars_cons n
  rw [shape, List.cons_append] at reads ⊢
  rw [value?.eq_def]
  split
  · next absurd => cases absurd
  next fuel' cs same =>
  split
  all_goals first
    | exact reads
    | next other =>
      rw [List.cons.injEq] at other
      rw [other.1] at first
      exact absurd first (by decide)

section Steps

variable {fuel : Nat} {cs tail rest : List Char}

theorem items?_more {item : Json} (read : value? fuel cs = some (item, ',' :: rest))
    (done : List Json) : items? (fuel + 1) done cs = items? fuel (item :: done) (skipGap rest) := by
  rw [items?, read]
  rfl

theorem items?_last {item : Json} (read : value? fuel cs = some (item, ']' :: rest))
    (done : List Json) : items? (fuel + 1) done cs = some (array (item :: done).reverse, rest) := by
  rw [items?, read]
  rfl

theorem fields?_more {name : String} {value : Json}
    (named : textAfterQuote? fuel [] cs = some (name, ':' :: tail))
    (read : value? fuel (skipGap tail) = some (value, ',' :: rest)) (done : List (String × Json)) :
    fields? (fuel + 1) done ('\"' :: cs) =
      fields? fuel (putField name value done) (skipGap rest) := by
  rw [fields?, named]
  simp only [Option.bind_eq_bind, Option.bind_some,
    skipGap_cons (show isGap ':' = false from rfl), read]
  rfl

theorem fields?_last {name : String} {value : Json}
    (named : textAfterQuote? fuel [] cs = some (name, ':' :: tail))
    (read : value? fuel (skipGap tail) = some (value, '\x7d' :: rest))
    (done : List (String × Json)) :
    fields? (fuel + 1) done ('\"' :: cs) = some (object (putField name value done), rest) := by
  rw [fields?, named]
  simp only [Option.bind_eq_bind, Option.bind_some,
    skipGap_cons (show isGap ':' = false from rfl), read]
  rfl

end Steps

/-- The items of an array are read from one of them on. -/
theorem items?_itemChars {items : List Json} {item : Json} (reads : ∀ v ∈ item :: items, Reads v)
    (begins : ∀ v ∈ items, Begins v.chars) {fuel : Nat}
    (enough : 2 * (item.chars.length + (itemChars items).length) ≤ fuel) (done : List Json)
    (rest : List Char) :
    items? (fuel + 1) done (item.chars ++ (itemChars items ++ rest)) =
      some (array (done.reverse ++ item :: items), rest) := by
  induction items generalizing item fuel done with
  | nil =>
    have read := reads item List.mem_cons_self fuel (']' :: rest) (by omega)
      (stops_cons (.inr (.inl rfl)) rest)
    rw [itemChars, List.singleton_append, items?_last read, List.reverse_cons]
  | cons next items ih =>
    obtain ⟨opens, begins⟩ := List.forall_mem_cons.mp begins
    obtain ⟨read, reads⟩ := List.forall_mem_cons.mp reads
    simp only [itemChars, List.length_cons, List.length_append] at enough
    obtain ⟨less, rfl⟩ : ∃ less, fuel = less + 1 := ⟨fuel - 1, by omega⟩
    have read := read (less + 1) (',' :: (next.chars ++ (itemChars items ++ rest))) (by omega)
      (stops_cons (.inl rfl) _)
    rw [itemChars, List.cons_append, List.append_assoc, items?_more read, opens.skipGap_append,
      ih reads begins (by omega)]
    simp

theorem putField_of_new {name : String} {fields : List (String × Json)}
    (new : name ∉ fields.map Prod.fst) (value : Json) :
    putField name value fields = fields ++ [(name, value)] := by
  induction fields with
  | nil => rfl
  | cons entry fields ih =>
    obtain ⟨key, old⟩ := entry
    rw [List.map_cons, List.mem_cons, not_or] at new
    rw [putField, if_neg (Ne.symm new.1), ih new.2]
    rfl

/-- A field is read up to what comes after it. -/
theorem read_field (name : String) {value : Json} (reads : Reads value)
    (begins : Begins value.chars) {fuel : Nat}
    (enough : 2 * ((quotedChars name).length + value.chars.length) ≤ fuel) {rest : List Char}
    (stops : Stops rest) :
    textAfterQuote? fuel []
        (name.toList.flatMap escapeChar ++ '\"' :: ':' :: (value.chars ++ rest)) =
      some (name, ':' :: (value.chars ++ rest)) ∧
      value? fuel (skipGap (value.chars ++ rest)) = some (value, rest) := by
  constructor
  · exact textAfterQuote?_quoted name (by omega) _
  · rw [begins.skipGap_append]
    exact reads fuel rest (by omega) stops

theorem new_of_nodup {done fields : List (String × Json)} {name : String} {value : Json}
    (distinct : ((done ++ (name, value) :: fields).map Prod.fst).Nodup) :
    name ∉ done.map Prod.fst := by
  rw [List.map_append, List.nodup_append] at distinct
  exact fun old => distinct.2.2 name old name (by simp) rfl

/-- The fields of an object are read from one of them on, in their order if no two share a name. -/
theorem fields?_fieldChars {fields : List (String × Json)} {name : String} {value : Json}
    (reads : ∀ field ∈ (name, value) :: fields, Reads field.2 ∧ Begins field.2.chars) {fuel : Nat}
    (enough : 2 * ((quotedChars name).length + value.chars.length + (fieldChars fields).length) ≤
      fuel)
    (done : List (String × Json))
    (distinct : ((done ++ (name, value) :: fields).map Prod.fst).Nodup) (rest : List Char) :
    fields? (fuel + 1) done
        (quotedChars name ++ ':' :: (value.chars ++ (fieldChars fields ++ rest))) =
      some (object (done ++ (name, value) :: fields), rest) := by
  have new := new_of_nodup distinct
  obtain ⟨readsValue, beginsValue⟩ : Reads value ∧ Begins value.chars :=
    reads (name, value) List.mem_cons_self
  induction fields generalizing name value fuel done with
  | nil =>
    have fits : 2 * ((quotedChars name).length + value.chars.length) ≤ fuel := by omega
    obtain ⟨named, read⟩ :=
      read_field name readsValue beginsValue fits (stops_cons (.inr (.inr rfl)) rest)
    rw [fieldChars, List.singleton_append, quotedChars_append, fields?_last named read,
      putField_of_new new]
  | cons next fields ih =>
    obtain ⟨key, content⟩ := next
    simp only [fieldChars, List.length_cons, List.length_append] at enough
    obtain ⟨less, rfl⟩ : ∃ less, fuel = less + 1 := ⟨fuel - 1, by omega⟩
    have later : ((done ++ [(name, value)]) ++ (key, content) :: fields).map Prod.fst |>.Nodup := by
      simpa using distinct
    have reads := (List.forall_mem_cons.mp reads).2
    have fits : 2 * ((quotedChars name).length + value.chars.length) ≤ less + 1 := by omega
    obtain ⟨named, read⟩ := read_field name readsValue beginsValue fits
      (stops_cons (.inl rfl)
        (quotedChars key ++ ':' :: (content.chars ++ (fieldChars fields ++ rest))))
    have first : fieldChars ((key, content) :: fields) ++ rest =
        ',' :: (quotedChars key ++ ':' :: (content.chars ++ (fieldChars fields ++ rest))) := by
      simp [fieldChars]
    rw [first, quotedChars_append, fields?_more named read, putField_of_new new,
      skipGap_quotedChars, ih reads (by omega) _ later (new_of_nodup later)
        (reads (key, content) List.mem_cons_self).1
        (reads (key, content) List.mem_cons_self).2]
    simp

/-- There is fuel for a step, since no text is empty. -/
theorem reads_of_succ {v : Json} (begins : Begins v.chars)
    (step : ∀ fuel rest, 2 * v.chars.length ≤ fuel + 1 → Stops rest →
      value? (fuel + 1) (v.chars ++ rest) = some (v, rest)) : Reads v := by
  intro fuel rest enough stops
  obtain ⟨c, tail, shape, -⟩ := begins
  obtain ⟨less, rfl⟩ : ∃ less, fuel = less + 1 := by
    refine ⟨fuel - 1, ?_⟩
    rw [shape, List.length_cons] at enough
    omega
  exact step less rest enough stops

theorem reads_array {item : Json} {items : List Json} (plain : ∀ v ∈ item :: items, Plain v)
    (reads : ∀ v ∈ item :: items, Reads v) : Reads (array (item :: items)) := by
  refine reads_of_succ (Plain.array plain).begins fun fuel rest enough stops => ?_
  simp only [chars, List.length_cons, List.length_append] at enough
  obtain ⟨less, rfl⟩ : ∃ less, fuel = less + 1 := ⟨fuel - 1, by omega⟩
  obtain ⟨opens, others⟩ := List.forall_mem_cons.mp plain
  have fits : 2 * (item.chars.length + (itemChars items).length) ≤ less := by omega
  have read := items?_itemChars reads (fun v member => (others v member).begins) fits [] rest
  have skip := opens.begins.skipGap_append (itemChars items ++ rest)
  obtain ⟨c, tail, shape, -, notEnd⟩ := opens.begins
  rw [shape, List.cons_append] at read skip
  rw [chars, List.cons_append, List.append_assoc, shape, List.cons_append, value?]
  simp only [skip]
  split
  · next same =>
    rw [List.cons.injEq] at same
    exact absurd same.1 notEnd
  · exact read

theorem reads_object {name : String} {value : Json} {fields : List (String × Json)}
    (plain : ∀ field ∈ (name, value) :: fields, Plain field.2)
    (distinct : (((name, value) :: fields).map Prod.fst).Nodup)
    (reads : ∀ field ∈ (name, value) :: fields, Reads field.2) :
    Reads (object ((name, value) :: fields)) := by
  refine reads_of_succ (Plain.object distinct plain).begins fun fuel rest enough stops => ?_
  simp only [chars, List.length_cons, List.length_append] at enough
  obtain ⟨less, rfl⟩ : ∃ less, fuel = less + 1 := ⟨fuel - 1, by omega⟩
  have fits : 2 * ((quotedChars name).length + value.chars.length + (fieldChars fields).length) ≤
      less := by omega
  have both : ∀ field ∈ (name, value) :: fields, Reads field.2 ∧ Begins field.2.chars :=
    fun field member => ⟨reads field member, (plain field member).begins⟩
  have read := fields?_fieldChars both fits [] distinct rest
  have all : (object ((name, value) :: fields)).chars ++ rest =
      '\x7b' :: (quotedChars name ++ ':' :: (value.chars ++ (fieldChars fields ++ rest))) := by
    simp [chars]
  rw [quotedChars_append] at read
  rw [all, value?, skipGap_quotedChars, quotedChars_append]
  exact read

/-- The text of a value is read as the value. -/
theorem Plain.reads {v : Json} (plain : Plain v) : Reads v := by
  induction plain with
  | null => exact reads_of_succ Plain.null.begins fun _ _ _ _ => rfl
  | boolean b => cases b <;> exact reads_of_succ (Plain.boolean _).begins fun _ _ _ _ => rfl
  | integer n =>
    exact reads_of_succ (Plain.integer n).begins fun fuel _ _ stops =>
      value?_integerChars n stops fuel
  | string s =>
    refine reads_of_succ (Plain.string s).begins fun fuel rest enough _ => ?_
    rw [chars] at enough
    have fits : (quotedChars s).length ≤ fuel + 1 := by omega
    have read := textAfterQuote?_quoted s fits rest
    rw [chars, quotedChars_append, value?, read]
    rfl
  | @array items plain ih =>
    cases items with
    | nil => exact reads_of_succ (Plain.array plain).begins fun _ _ _ _ => rfl
    | cons item items => exact reads_array plain ih
  | @object fields distinct plain ih =>
    cases fields with
    | nil => exact reads_of_succ (Plain.object distinct plain).begins fun _ _ _ _ => rfl
    | cons field fields => exact reads_object plain distinct ih

/-- The compact text of a value is read as this value. -/
theorem read?_compact {v : Json} (plain : Plain v) : read? v.compact = some v := by
  have skip := plain.begins.skipGap_append []
  have read := plain.reads (2 * v.chars.length + 2) [] (by omega) stops_nil
  rw [List.append_nil] at skip read
  rw [read?, compact, String.toList_ofList, skip]
  simp only [read]
  rfl

/-! ## Control characters -/

open Text (Printable printable_append printable_cons printable_toDigits)

theorem printable_twoHexDigits (n : Nat) : Printable (twoHexDigits n) := by
  have digit : ∀ d < 16, 0x20 ≤ (Nat.digitChar d).toNat := by decide
  rw [twoHexDigits, printable_cons, printable_cons]
  exact ⟨digit _ (by omega), digit _ (by omega), by decide⟩

theorem printable_escapeChar (c : Char) : Printable (escapeChar c) := by
  unfold escapeChar
  repeat' split
  case isFalse.isFalse.isFalse.isFalse.isFalse.isFalse.isFalse.isTrue =>
    exact printable_append.mpr ⟨by decide, printable_twoHexDigits c.toNat⟩
  case isFalse.isFalse.isFalse.isFalse.isFalse.isFalse.isFalse.isFalse notControl =>
    simpa [Printable] using notControl
  all_goals decide

theorem printable_quotedChars (s : String) : Printable (quotedChars s) := by
  rw [quotedChars, printable_append, printable_append]
  refine ⟨⟨by decide, fun c member => ?_⟩, by decide⟩
  obtain ⟨d, -, written⟩ := List.mem_flatMap.mp member
  exact printable_escapeChar d c written

theorem printable_itemChars {items : List Json} (printable : ∀ v ∈ items, Printable v.chars) :
    Printable (itemChars items) := by
  induction items with
  | nil => decide
  | cons item items ih =>
    obtain ⟨first, others⟩ := List.forall_mem_cons.mp printable
    rw [itemChars, printable_cons, printable_append]
    exact ⟨by decide, first, ih others⟩

theorem printable_fieldChars {fields : List (String × Json)}
    (printable : ∀ field ∈ fields, Printable field.2.chars) : Printable (fieldChars fields) := by
  induction fields with
  | nil => decide
  | cons field fields ih =>
    obtain ⟨first, others⟩ := List.forall_mem_cons.mp printable
    rw [fieldChars, printable_cons, printable_append, printable_cons, printable_append]
    exact ⟨by decide, printable_quotedChars _, by decide, first, ih others⟩

/-- Whatever the texts in a value, its own text has no control character. -/
theorem Plain.printable {v : Json} (plain : Plain v) : Printable v.chars := by
  induction plain with
  | null => decide
  | boolean b => cases b <;> decide
  | integer n =>
    cases n with
    | ofNat n => exact printable_toDigits (by decide) (by decide) n
    | negSucc n =>
      exact printable_cons.mpr ⟨by decide, printable_toDigits (by decide) (by decide) (n + 1)⟩
  | string s => exact printable_quotedChars s
  | @array items plain ih =>
    cases items with
    | nil => decide
    | cons item items =>
      obtain ⟨first, others⟩ := List.forall_mem_cons.mp ih
      rw [chars, printable_cons, printable_append]
      exact ⟨by decide, first, printable_itemChars others⟩
  | @object fields distinct plain ih =>
    cases fields with
    | nil => decide
    | cons field fields =>
      obtain ⟨first, others⟩ := List.forall_mem_cons.mp ih
      rw [chars, printable_cons, printable_append, printable_cons, printable_append]
      exact ⟨by decide, printable_quotedChars _, by decide, first, printable_fieldChars others⟩

end PropertyTesting.Json
