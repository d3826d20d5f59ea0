import PropertyTesting.Proofs.Text.Printable
import PropertyTesting.Value.Shown

/-!
# Values on one line

The text of a value holds no control character (`Value.printable_render`), whatever characters are
in the value. So values never break a line of a report. The text of a floating value is made of
digits, a point, a sign and an exponent (`Decimal.Width.printable_write`); for all other values the
layout decides.
-/

namespace PropertyTesting

open Text

namespace Decimal

theorem printable_zeros (n : Nat) : Printable (List.replicate n '0') := by
  intro c member
  rw [List.eq_of_mem_replicate member]
  decide

theorem printable_positional {digits : List Char} (printable : Printable digits) (places : Int) :
    Printable (positional digits places) := by
  unfold positional
  split_ifs
  all_goals simp only [printable_append]
  · exact ⟨⟨by decide, printable_zeros _⟩, printable⟩
  · exact ⟨⟨printable, printable_zeros _⟩, by decide⟩
  · exact ⟨⟨printable_take printable _, by decide⟩, printable_drop printable _⟩

theorem printable_scientific {digits : List Char} (printable : Printable digits) (exponent : Int) :
    Printable (scientific digits exponent) := by
  have fraction : Printable (if digits.length ≤ 1 then [] else '.' :: digits.drop 1) := by
    split
    · decide
    · exact printable_cons.mpr ⟨by decide, printable_drop printable 1⟩
  simp only [scientific, printable_append]
  exact ⟨⟨⟨printable_take printable 1, fraction⟩, by decide⟩, printable_toString_int exponent⟩

theorem Numeral.printable_chars (x : Numeral) : Printable x.chars := by
  have digits : Printable (digitsOf x.digits) := printable_toDigits (by decide) (by decide) x.digits
  simp only [chars]
  split
  · exact printable_positional digits _
  · exact printable_scientific digits _

theorem Width.printable_write (w : Width) (x : Floating) : Printable (w.write x).toList := by
  cases x with
  | nan => exact (by decide : Printable "NaN".toList)
  | infinite negative =>
    cases negative with
    | false => exact (by decide : Printable "inf".toList)
    | true => exact (by decide : Printable "-inf".toList)
  | finite negative units =>
    have magnitude :
        Printable (if units = 0 then ['0', '.', '0'] else (w.shortest units).chars) := by
      split
      · decide
      · exact Numeral.printable_chars _
    rw [write, String.toList_ofList]
    cases negative with
    | false => exact magnitude
    | true => exact printable_cons.mpr ⟨by decide, magnitude⟩

end Decimal

namespace Value

mutual

theorem printable_render : (v : Value) → Printable v.render.toList
  | unit => by rw [render]; decide
  | boolean true => by rw [render]; decide
  | boolean false => by rw [render]; decide
  | integer n => printable_toString_int n.toInt
  | wide n => printable_toString_int n
  | double x => Decimal.Width.printable_write _ x
  | single x => Decimal.Width.printable_write _ x
  | character c => printable_quoteChar c
  | text s => printable_quote s
  | sequence _ items =>
    printable_enclosed (by decide) (printable_commaSeparated (printable_renderAll items))
      (by decide)
  | tuple components =>
    printable_enclosed (by decide) (printable_commaSeparated (printable_renderAll components))
      (by decide)
  | absent => by rw [render]; decide
  | present content => printable_enclosed (by decide) content.printable_render (by decide)
  | boxed content => content.printable_render
  | set items => by
    have shown : ∀ part ∈ items.map fun n => toString n.toInt, Printable part.toList :=
      List.forall_mem_map.mpr fun n _ => printable_toString_int n.toInt
    exact printable_enclosed (by decide) (printable_commaSeparated shown) (by decide)
  | map entries => by
    have shown : ∀ part ∈ entries.map fun entry => quote entry.1 ++ ": " ++ toString entry.2.toInt,
        Printable part.toList :=
      List.forall_mem_map.mpr fun entry _ =>
        printable_enclosed (printable_quote entry.1) (by decide)
          (printable_toString_int entry.2.toInt)
    exact printable_enclosed (by decide) (printable_commaSeparated shown) (by decide)

theorem printable_renderAll : (vs : List Value) → ∀ shown ∈ renderAll vs, Printable shown.toList
  | [] => fun _ member => nomatch member
  | v :: rest => List.forall_mem_cons.mpr ⟨v.printable_render, printable_renderAll rest⟩

end

end Value

end PropertyTesting
