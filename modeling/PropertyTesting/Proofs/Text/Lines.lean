import PropertyTesting.Proofs.Text.Utf8

/-!
# Lines of bytes

A file of lines is read by cutting its bytes at the newlines. Lines that are written after a file
that ends with a newline, or is empty, are the last lines of it, and those before them stay as they
were (`splitLines_append`). This needs that no line holds a newline of its own: in UTF-8 its byte is
the byte of the character and no part of another (`newline_mem_encode`).
-/

namespace PropertyTesting.Text

/-- The byte that ends a line. -/
def newline : UInt8 := 0x0A

/-- The lines of a file, each without its newline. The last one may have none. -/
def splitLines : List UInt8 → List (List UInt8)
  | [] => []
  | b :: rest =>
    if b = newline then [] :: splitLines rest
    else
      match splitLines rest with
      | [] => [[b]]
      | line :: lines => (b :: line) :: lines

/-- Nothing, or bytes of which the last is a newline. -/
def EndsLine (bytes : List UInt8) : Prop :=
  ∀ b ∈ bytes.getLast?, b = newline

instance : DecidablePred EndsLine :=
  fun bytes => Option.decidableForallMem bytes.getLast?

theorem EndsLine.of_cons {b : UInt8} {rest : List UInt8} (ended : EndsLine (b :: rest)) :
    EndsLine rest := by
  intro last final
  exact ended last (by rw [List.getLast?_cons, Option.mem_def.mp final, Option.getD_some]; rfl)

theorem splitLines_ne_nil {bytes : List UInt8} (something : bytes ≠ []) :
    splitLines bytes ≠ [] := by
  cases bytes with
  | nil => exact absurd rfl something
  | cons b rest =>
    rw [splitLines]
    split
    · exact List.cons_ne_nil _ _
    · split <;> exact List.cons_ne_nil _ _

/-- What comes after the end of a line begins a line of its own. -/
theorem splitLines_append {before : List UInt8} (ended : EndsLine before) (after : List UInt8) :
    splitLines (before ++ after) = splitLines before ++ splitLines after := by
  induction before with
  | nil => rfl
  | cons b rest ih =>
    have later := ih ended.of_cons
    rw [List.cons_append, splitLines, splitLines, later]
    split
    · rfl
    · next inside =>
      have goesOn : rest ≠ [] := fun last => inside (ended b (by rw [last]; rfl))
      cases lines : splitLines rest with
      | nil => exact absurd lines (splitLines_ne_nil goesOn)
      | cons line lines => rfl

theorem splitLines_line {line : List UInt8} (single : newline ∉ line) :
    splitLines (line ++ [newline]) = [line] := by
  induction line with
  | nil => rfl
  | cons b rest ih =>
    rw [List.mem_cons, not_or] at single
    rw [List.cons_append, splitLines, if_neg (Ne.symm single.1), ih single.2]

theorem endsLine_line (line : List UInt8) : EndsLine (line ++ [newline]) := by
  intro b last
  rw [List.getLast?_concat, Option.mem_some_iff] at last
  exact last.symm

/-- Lines that are written one after another are the lines of the file. -/
theorem splitLines_lines {lines : List (List UInt8)} (single : ∀ line ∈ lines, newline ∉ line) :
    splitLines (lines.flatMap fun line => line ++ [newline]) = lines := by
  induction lines with
  | nil => rfl
  | cons line lines ih =>
    obtain ⟨first, others⟩ := List.forall_mem_cons.mp single
    rw [List.flatMap_cons, splitLines_append (endsLine_line line), splitLines_line first, ih others]
    rfl

theorem encode_append (s t : String) : encode (s ++ t) = encode s ++ encode t := by
  rw [encode, String.toList_append, List.flatMap_append]
  rfl

/-- The byte of a newline stands for the character and for no part of another. -/
theorem eq_of_newline_mem_utf8EncodeChar {c : Char} (member : newline ∈ String.utf8EncodeChar c) :
    c = '\n' := by
  have byte {v : Nat} (small : v < 256) (same : newline = UInt8.ofNat v) : v = 0x0A := by
    rw [← toNat_ofNat_of_lt small, ← same]
    rfl
  have code : c.toNat = 0x0A := by
    rw [String.utf8EncodeChar] at member
    simp only [Char.toNat]
    split_ifs at member with one two three
    all_goals simp only [List.mem_cons, List.not_mem_nil, or_false] at member
    · exact byte (by omega) member
    · rcases member with lead | next
      · have := byte (by omega) lead; omega
      · have := byte (by omega) next; omega
    · rcases member with lead | next | next
      · have := byte (by omega) lead; omega
      all_goals have := byte (by omega) next; omega
    · rcases member with lead | next | next | next
      · have := byte (by omega) lead; omega
      all_goals have := byte (by omega) next; omega
  rw [← Char.ofNat_toNat c, code]

/-- A newline among the bytes of a text is a newline of the text. -/
theorem newline_mem_encode {s : String} (member : newline ∈ encode s) : '\n' ∈ s.toList := by
  obtain ⟨c, inside, byte⟩ := List.mem_flatMap.mp member
  exact eq_of_newline_mem_utf8EncodeChar byte ▸ inside

end PropertyTesting.Text
