import Mathlib.Tactic.SplitIfs
import PropertyTesting.Text.Layout
import PropertyTesting.Text.Quoted

/-!
# Text without control characters

Numbers are written without control characters, which newlines are among, and so are texts and
characters in quotes, whatever stands between the quotes (`printable_quote`, `printable_quoteChar`).
The layout of lists, tuples and maps adds none (`printable_commaSeparated`, `printable_enclosed`).
-/

namespace PropertyTesting.Text

/-- A text without control characters, which newlines are among. -/
def Printable (cs : List Char) : Prop :=
  ∀ c ∈ cs, 0x20 ≤ c.toNat

instance : DecidablePred Printable :=
  List.decidableBAll fun c : Char => 0x20 ≤ c.toNat

theorem printable_append {cs ds : List Char} : Printable (cs ++ ds) ↔ Printable cs ∧ Printable ds :=
  List.forall_mem_append

theorem printable_cons {c : Char} {cs : List Char} :
    Printable (c :: cs) ↔ 0x20 ≤ c.toNat ∧ Printable cs :=
  List.forall_mem_cons

theorem printable_take {cs : List Char} (printable : Printable cs) (n : Nat) :
    Printable (cs.take n) :=
  fun c member => printable c (List.mem_of_mem_take member)

theorem printable_drop {cs : List Char} (printable : Printable cs) (n : Nat) :
    Printable (cs.drop n) :=
  fun c member => printable c (List.mem_of_mem_drop member)

/-! ## Numbers -/

theorem printable_toDigits {base : Nat} (positional : 1 < base) (named : base ≤ 16) (n : Nat) :
    Printable (Nat.toDigits base n) := by
  have digit : ∀ d < 16, 0x20 ≤ (Nat.digitChar d).toNat := by decide
  induction n using Nat.strongRecOn with
  | ind n ih =>
    rw [Nat.toDigits_eq_if positional]
    split
    · exact printable_cons.mpr ⟨digit n (by omega), by decide⟩
    · have smaller : n / base < n := Nat.div_lt_self (by omega) positional
      have last : n % base < base := Nat.mod_lt n (by omega)
      exact printable_append.mpr ⟨ih _ smaller, printable_cons.mpr ⟨digit _ (by omega), by decide⟩⟩

theorem printable_toString_nat (n : Nat) : Printable (toString n).toList := by
  rw [Nat.toString_eq_ofList_toDigits, String.toList_ofList]
  exact printable_toDigits (by decide) (by decide) n

theorem printable_toString_int (n : Int) : Printable (toString n).toList := by
  cases n with
  | ofNat n => exact printable_toString_nat n
  | negSucc n =>
    have signed : toString (Int.negSucc n) = "-" ++ toString (n + 1) := rfl
    rw [signed, String.toList_append, printable_append]
    exact ⟨by decide, printable_toString_nat (n + 1)⟩

/-! ## Quotes -/

/-- The first of the unprintable ranges holds the control characters. -/
theorem le_of_isPrintable {c : Char} (shown : isPrintable c = true) : 0x20 ≤ c.toNat := by
  refine Nat.le_of_not_lt fun control => ?_
  have listed : isInAscending c.toNat unprintableRanges = true := by
    rw [unprintableRanges, isInAscending, if_neg (Nat.not_lt_zero _), Bool.or_eq_true]
    exact .inl (decide_eq_true (by omega))
  rw [isPrintable, listed] at shown
  cases shown

theorem printable_codePointEscape (c : Char) : Printable (codePointEscape c) := by
  rw [codePointEscape, printable_append, printable_append]
  exact ⟨⟨by decide, printable_toDigits (by decide) (by decide) _⟩, by decide⟩

theorem printable_escapeChar {quote : Char} (mark : 0x20 ≤ quote.toNat) (c : Char) :
    Printable (escapeChar quote c) := by
  unfold escapeChar
  split_ifs with nul tab newline carriage backslash quoted shown
  any_goals decide
  · exact printable_cons.mpr ⟨by decide, printable_cons.mpr ⟨mark, by decide⟩⟩
  · exact printable_cons.mpr ⟨le_of_isPrintable shown, by decide⟩
  · exact printable_codePointEscape c

theorem printable_quote (s : String) : Printable (quote s).toList := by
  rw [quote, String.toList_ofList, printable_append, printable_append]
  refine ⟨⟨by decide, fun c member => ?_⟩, by decide⟩
  obtain ⟨d, -, written⟩ := List.mem_flatMap.mp member
  exact printable_escapeChar (by decide) d c written

theorem printable_quoteChar (c : Char) : Printable (quoteChar c).toList := by
  rw [quoteChar, String.toList_ofList, printable_append, printable_append]
  exact ⟨⟨by decide, printable_escapeChar (by decide) c⟩, by decide⟩

/-! ## Layout -/

theorem printable_commaSeparated {parts : List String}
    (printable : ∀ part ∈ parts, Printable part.toList) :
    Printable (commaSeparated parts).toList := by
  unfold commaSeparated
  induction parts with
  | nil => decide
  | cons part parts ih =>
    obtain ⟨first, others⟩ := List.forall_mem_cons.mp printable
    cases parts with
    | nil => rwa [String.intercalate_singleton]
    | cons next parts =>
      rw [String.intercalate_cons_cons, String.toList_append, String.toList_append,
        printable_append, printable_append]
      exact ⟨⟨first, by decide⟩, ih others⟩

theorem printable_enclosed {before inside after : String} (left : Printable before.toList)
    (printable : Printable inside.toList) (right : Printable after.toList) :
    Printable (before ++ inside ++ after).toList := by
  rw [String.toList_append, String.toList_append, printable_append, printable_append]
  exact ⟨⟨left, printable⟩, right⟩

end PropertyTesting.Text
