/-!
# Text as bytes

Reading bytes as UTF-8. Bytes that are no text are cut into the longest starts of characters, so
that each of them can be refused or replaced as one:

* `decode?` refuses bytes that hold such a broken character;
* `decodeLossy` writes the replacement character for it.
-/

namespace PropertyTesting.Text

/-- What the first byte of a character of several bytes announces. -/
structure Lead where
  /-- The number of bytes that follow. -/
  following : Nat
  /-- The least value of the byte after the first. -/
  low : Nat
  /-- The greatest value of the byte after the first. -/
  high : Nat
  /-- The bits of the code point in the first byte. -/
  bits : Nat

/-- The announcement of a first byte; none for a byte that starts no character of several bytes. -/
def lead? (b : Nat) : Option Lead :=
  if 0xC2 ≤ b ∧ b ≤ 0xDF then some ⟨1, 0x80, 0xBF, b - 0xC0⟩
  else if b = 0xE0 then some ⟨2, 0xA0, 0xBF, 0⟩
  else if b = 0xED then some ⟨2, 0x80, 0x9F, 0xD⟩
  else if 0xE1 ≤ b ∧ b ≤ 0xEF then some ⟨2, 0x80, 0xBF, b - 0xE0⟩
  else if b = 0xF0 then some ⟨3, 0x90, 0xBF, 0⟩
  else if 0xF1 ≤ b ∧ b ≤ 0xF3 then some ⟨3, 0x80, 0xBF, b - 0xF0⟩
  else if b = 0xF4 then some ⟨3, 0x80, 0x8F, 4⟩
  else none

/-- Takes up to `n` following bytes, the first of them between `low` and `high`. Gives the code
point if all `n` are there, and the bytes that are left. -/
def follow : Nat → Nat → Nat → Nat → List UInt8 → Option Nat × List UInt8
  | 0, _, _, bits, bytes => (some bits, bytes)
  | _ + 1, _, _, _, [] => (none, [])
  | n + 1, low, high, bits, b :: rest =>
    if low ≤ b.toNat ∧ b.toNat ≤ high then follow n 0x80 0xBF (bits * 64 + (b.toNat - 0x80)) rest
    else (none, b :: rest)

theorem follow_length_le (n low high bits : Nat) (bytes : List UInt8) :
    (follow n low high bits bytes).2.length ≤ bytes.length := by
  fun_induction follow n low high bits bytes with
  | case1 => simp
  | case2 => simp
  | case3 _ _ _ _ _ _ _ ih => simp only [List.length_cons]; omega
  | case4 => simp

/-- The characters that bytes spell, with none for each broken character. -/
def characters : List UInt8 → List (Option Char)
  | [] => []
  | b :: rest =>
    if b.toNat < 0x80 then some (Char.ofNat b.toNat) :: characters rest
    else
      match lead? b.toNat with
      | none => none :: characters rest
      | some l =>
        (follow l.following l.low l.high l.bits rest).1.map Char.ofNat
          :: characters (follow l.following l.low l.high l.bits rest).2
termination_by bytes => bytes.length
decreasing_by
  all_goals simp only [List.length_cons]
  · omega
  · omega
  · have := follow_length_le l.following l.low l.high l.bits rest
    omega

/-- The text that bytes spell; none if one of its characters is broken. -/
def decode? (bytes : List UInt8) : Option String :=
  ((characters bytes).mapM id).map String.ofList

/-- The text that bytes spell, with U+FFFD for each broken character. -/
def decodeLossy (bytes : List UInt8) : String :=
  String.ofList ((characters bytes).map fun c => c.getD (Char.ofNat 0xFFFD))

/-- The bytes that spell a text. -/
def encode (s : String) : List UInt8 :=
  s.toList.flatMap String.utf8EncodeChar

end PropertyTesting.Text
