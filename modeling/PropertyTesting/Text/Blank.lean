/-!
# Blank text

The characters with the property White_Space, and the texts that hold no other character.
`isBlank_iff_trim_eq_nil` says that a text is blank exactly when trimming leaves nothing of it.
-/

namespace PropertyTesting.Text

/-- The code points with the property White_Space, as ranges that include both ends. -/
def whiteSpaceRanges : List (Nat × Nat) :=
  [(0x09, 0x0D), (0x20, 0x20), (0x85, 0x85), (0xA0, 0xA0), (0x1680, 0x1680), (0x2000, 0x200A),
   (0x2028, 0x2029), (0x202F, 0x202F), (0x205F, 0x205F), (0x3000, 0x3000)]

/-- Whether a character has the property White_Space. -/
def isWhiteSpace (c : Char) : Bool :=
  whiteSpaceRanges.any fun range => range.1 ≤ c.toNat && c.toNat ≤ range.2

/-- The characters of a text without the white space at its two ends. -/
def trimmed (s : String) : List Char :=
  (((s.toList.dropWhile isWhiteSpace).reverse).dropWhile isWhiteSpace).reverse

/-- Whether a text holds nothing but white space. -/
def isBlank (s : String) : Bool :=
  s.toList.all isWhiteSpace

/-- A text is blank exactly when nothing of it is left between the white space at its ends. -/
theorem isBlank_iff_trim_eq_nil (s : String) : isBlank s = true ↔ trimmed s = [] := by
  unfold isBlank trimmed
  generalize s.toList = cs
  rw [List.reverse_eq_nil_iff, List.all_eq_true]
  constructor
  · intro h
    have : cs.dropWhile isWhiteSpace = [] := by
      induction cs with
      | nil => rfl
      | cons c rest ih =>
        rw [List.dropWhile_cons_of_pos (h c (by simp))]
        exact ih fun d hd => h d (by simp [hd])
    simp [this]
  · intro h
    have blanks : ∀ ds : List Char, ds.dropWhile isWhiteSpace = [] → ∀ d ∈ ds, isWhiteSpace d := by
      intro ds
      induction ds with
      | nil => simp
      | cons d rest ih =>
        intro hd e he
        by_cases hw : isWhiteSpace d
        · rw [List.dropWhile_cons_of_pos hw] at hd
          rcases List.mem_cons.1 he with rfl | he
          · exact hw
          · exact ih hd e he
        · rw [List.dropWhile_cons_of_neg hw] at hd
          cases hd
    have tail := blanks _ h
    have kept : cs.dropWhile isWhiteSpace = [] := by
      cases hk : cs.dropWhile isWhiteSpace with
      | nil => rfl
      | cons d rest =>
        have hd : ¬ isWhiteSpace d = true := by
          have := List.head?_dropWhile_not isWhiteSpace cs
          rw [hk] at this
          simpa using this
        exact absurd (tail d (by simp [hk])) hd
    exact blanks _ kept

end PropertyTesting.Text
