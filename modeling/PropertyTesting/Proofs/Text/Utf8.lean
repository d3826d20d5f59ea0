import Mathlib.Tactic.SplitIfs
import PropertyTesting.Text.Utf8

/-!
# Reading what was written as bytes

Bytes are read as a text exactly if they are the bytes of that text (`decode?_eq_some_iff`), and no
text loses anything by being read with replacement characters (`decodeLossy_encode`).

Both follow from what one character does: its bytes are read as it (`characters_utf8EncodeChar`),
and no other bytes are (`eq_of_characters_cons`). A character of several bytes is taken apart at its
first byte, which announces how many bytes follow, and in which range the second of them is. The
ranges leave out just what is no character, or could be written in fewer bytes.
-/

namespace PropertyTesting.Text

/-! ## Bytes that follow -/

theorem follow_zero_eq_some_iff {low high bits code : Nat} {bytes rest : List UInt8} :
    follow 0 low high bits bytes = (some code, rest) ↔ bits = code ∧ bytes = rest := by
  simp [follow]

theorem follow_succ_eq_some_iff {n low high bits code : Nat} {bytes rest : List UInt8} :
    follow (n + 1) low high bits bytes = (some code, rest) ↔
      ∃ b tail, bytes = b :: tail ∧ low ≤ b.toNat ∧ b.toNat ≤ high ∧
        follow n 0x80 0xBF (bits * 64 + (b.toNat - 0x80)) tail = (some code, rest) := by
  cases bytes with
  | nil => simp [follow]
  | cons b tail =>
    rw [follow]
    split
    · next within =>
      constructor
      · exact fun followed => ⟨b, tail, rfl, within.1, within.2, followed⟩
      · rintro ⟨_, _, ⟨rfl, rfl⟩, -, -, followed⟩
        exact followed
    · next outside =>
      constructor
      · exact fun followed => nomatch followed
      · rintro ⟨_, _, ⟨rfl, rfl⟩, lower, upper, -⟩
        exact absurd ⟨lower, upper⟩ outside

theorem toNat_ofNat_of_lt {b : Nat} (small : b < 256) : (UInt8.ofNat b).toNat = b :=
  Nat.mod_eq_of_lt small

theorem follow_cons {n low high bits b : Nat} (rest : List UInt8) (small : b < 64)
    (lower : low ≤ b + 0x80) (upper : b + 0x80 ≤ high) :
    follow (n + 1) low high bits (UInt8.ofNat (b + 0x80) :: rest) =
      follow n 0x80 0xBF (bits * 64 + b) rest := by
  rw [follow, toNat_ofNat_of_lt (by omega), if_pos ⟨lower, upper⟩, Nat.add_sub_cancel]

/-- All following bytes but the first have the same range. -/
theorem follow_continuation {n bits b : Nat} (rest : List UInt8) (small : b < 64) :
    follow (n + 1) 0x80 0xBF bits (UInt8.ofNat (b + 0x80) :: rest) =
      follow n 0x80 0xBF (bits * 64 + b) rest :=
  follow_cons rest small (Nat.le_add_left _ _) (by omega)

/-! ## From bytes to characters and back -/

theorem toNat_ofNat_of_valid {code : Nat}
    (valid : code < 0xD800 ∨ 0xDFFF < code ∧ code < 0x110000) :
    (Char.ofNat code).val.toNat = code := by
  have isChar : code.isValidChar := valid
  rw [Char.ofNat, dif_pos isChar]
  rfl

theorem utf8EncodeChar_ofNat_one {a : UInt8} (short : a.toNat < 0x80) :
    String.utf8EncodeChar (Char.ofNat a.toNat) = [a] := by
  rw [String.utf8EncodeChar, toNat_ofNat_of_valid (by omega)]
  simp [show a.toNat ≤ 127 by omega]

theorem utf8EncodeChar_ofNat_two {a b : UInt8} {code : Nat}
    (first : 0xC2 ≤ a.toNat ∧ a.toNat ≤ 0xDF) (second : 0x80 ≤ b.toNat ∧ b.toNat ≤ 0xBF)
    (spelled : code = (a.toNat - 0xC0) * 64 + (b.toNat - 0x80)) :
    String.utf8EncodeChar (Char.ofNat code) = [a, b] := by
  rw [String.utf8EncodeChar, toNat_ofNat_of_valid (by omega)]
  simp only [show ¬ code ≤ 127 by omega, show code ≤ 2047 by omega, if_true, if_false]
  rw [show code / 64 % 32 + 192 = a.toNat by omega, show code % 64 + 128 = b.toNat by omega]
  simp

theorem utf8EncodeChar_ofNat_three {a b c : UInt8} {code : Nat}
    (first : 0xE0 ≤ a.toNat ∧ a.toNat ≤ 0xEF) (second : 0x80 ≤ b.toNat ∧ b.toNat ≤ 0xBF)
    (third : 0x80 ≤ c.toNat ∧ c.toNat ≤ 0xBF)
    (spelled : code = ((a.toNat - 0xE0) * 64 + (b.toNat - 0x80)) * 64 + (c.toNat - 0x80))
    (long : 0x800 ≤ code) (valid : code < 0xD800 ∨ 0xDFFF < code) :
    String.utf8EncodeChar (Char.ofNat code) = [a, b, c] := by
  rw [String.utf8EncodeChar, toNat_ofNat_of_valid (by omega)]
  simp only [show ¬ code ≤ 127 by omega, show ¬ code ≤ 2047 by omega, show code ≤ 65535 by omega,
    if_true, if_false]
  rw [show code / 4096 % 16 + 224 = a.toNat by omega, show code / 64 % 64 + 128 = b.toNat by omega,
    show code % 64 + 128 = c.toNat by omega]
  simp

theorem utf8EncodeChar_ofNat_four {a b c d : UInt8} {code : Nat}
    (first : 0xF0 ≤ a.toNat ∧ a.toNat ≤ 0xF4) (second : 0x80 ≤ b.toNat ∧ b.toNat ≤ 0xBF)
    (third : 0x80 ≤ c.toNat ∧ c.toNat ≤ 0xBF) (fourth : 0x80 ≤ d.toNat ∧ d.toNat ≤ 0xBF)
    (spelled : code = (((a.toNat - 0xF0) * 64 + (b.toNat - 0x80)) * 64 + (c.toNat - 0x80)) * 64 +
      (d.toNat - 0x80))
    (long : 0x10000 ≤ code) (valid : code < 0x110000) :
    String.utf8EncodeChar (Char.ofNat code) = [a, b, c, d] := by
  rw [String.utf8EncodeChar, toNat_ofNat_of_valid (by omega)]
  simp only [show ¬ code ≤ 127 by omega, show ¬ code ≤ 2047 by omega, show ¬ code ≤ 65535 by omega,
    if_false]
  rw [show code / 262144 % 8 + 240 = a.toNat by omega,
    show code / 4096 % 64 + 128 = b.toNat by omega,
    show code / 64 % 64 + 128 = c.toNat by omega, show code % 64 + 128 = d.toNat by omega]
  simp

/-- A first byte and those that follow it are the bytes of the character that is read from them. -/
theorem eq_utf8EncodeChar_of_lead {a : UInt8} {l : Lead} {code : Nat} {tail rest : List UInt8}
    (announced : lead? a.toNat = some l)
    (followed : follow l.following l.low l.high l.bits tail = (some code, rest)) :
    a :: tail = String.utf8EncodeChar (Char.ofNat code) ++ rest := by
  unfold lead? at announced
  split_ifs at announced with two
  all_goals
    obtain rfl := Option.some.inj announced
    simp only [follow_succ_eq_some_iff, follow_zero_eq_some_iff] at followed
  case pos =>
    obtain ⟨b, _, rfl, _, _, spelled, rfl⟩ := followed
    rw [utf8EncodeChar_ofNat_two two ⟨by omega, by omega⟩ spelled.symm]
    rfl
  case pos | pos | pos =>
    obtain ⟨b, _, rfl, _, _, c, _, rfl, _, _, spelled, rfl⟩ := followed
    have encoded : String.utf8EncodeChar (Char.ofNat code) = [a, b, c] :=
      utf8EncodeChar_ofNat_three (by omega) (by omega) (by omega) (by omega) (by omega) (by omega)
    rw [encoded]
    rfl
  all_goals
    obtain ⟨b, _, rfl, _, _, c, _, rfl, _, _, d, _, rfl, _, _, spelled, rfl⟩ := followed
    have encoded : String.utf8EncodeChar (Char.ofNat code) = [a, b, c, d] :=
      utf8EncodeChar_ofNat_four (by omega) (by omega) (by omega) (by omega) (by omega) (by omega)
        (by omega)
    rw [encoded]
    rfl

theorem lead?_two {bits : Nat} (long : 2 ≤ bits) (short : bits < 32) :
    lead? (bits + 0xC0) = some ⟨1, 0x80, 0xBF, bits⟩ := by
  rw [lead?, if_pos (by omega), Nat.add_sub_cancel]

theorem lead?_three {bits b : Nat} (short : bits < 16) (second : b < 64) (long : bits = 0 → 32 ≤ b)
    (valid : bits = 13 → b < 32) :
    ∃ low high, lead? (bits + 0xE0) = some ⟨2, low, high, bits⟩ ∧ low ≤ b + 0x80 ∧
      b + 0x80 ≤ high := by
  rw [lead?, if_neg (by omega)]
  split_ifs with least surrogates
  · obtain rfl : bits = 0 := by omega
    exact ⟨_, _, rfl, by omega, by omega⟩
  · obtain rfl : bits = 13 := by omega
    exact ⟨_, _, rfl, by omega, by omega⟩
  · exact ⟨_, _, by rw [Nat.add_sub_cancel], by omega, by omega⟩
  all_goals omega

theorem lead?_four {bits b : Nat} (short : bits < 5) (second : b < 64) (long : bits = 0 → 16 ≤ b)
    (valid : bits = 4 → b < 16) :
    ∃ low high, lead? (bits + 0xF0) = some ⟨3, low, high, bits⟩ ∧ low ≤ b + 0x80 ∧
      b + 0x80 ≤ high := by
  rw [lead?, if_neg (by omega), if_neg (by omega), if_neg (by omega), if_neg (by omega)]
  split_ifs with least middle greatest
  · obtain rfl : bits = 0 := by omega
    exact ⟨_, _, rfl, by omega, by omega⟩
  · exact ⟨_, _, by rw [Nat.add_sub_cancel], by omega, by omega⟩
  · obtain rfl : bits = 4 := by omega
    exact ⟨_, _, rfl, by omega, by omega⟩
  · omega

/-- The bytes of a character that has more than one begin with one that announces the others. -/
theorem exists_lead {c : Char} (long : ¬ c.val.toNat ≤ 0x7F) (rest : List UInt8) :
    ∃ (a : UInt8) (l : Lead) (tail : List UInt8),
      String.utf8EncodeChar c ++ rest = a :: tail ∧ 0x80 ≤ a.toNat ∧ lead? a.toNat = some l ∧
        follow l.following l.low l.high l.bits tail = (some c.val.toNat, rest) := by
  have valid : c.val.toNat < 0xD800 ∨ 0xDFFF < c.val.toNat ∧ c.val.toNat < 0x110000 := c.valid
  rw [String.utf8EncodeChar]
  generalize c.val.toNat = v at long valid ⊢
  simp only [if_neg long]
  split_ifs with two three
  · have bits : v / 64 % 32 = v / 64 := by omega
    have first : (UInt8.ofNat (v / 64 + 0xC0)).toNat = v / 64 + 0xC0 := toNat_ofNat_of_lt (by omega)
    rw [bits]
    refine ⟨_, ⟨1, 0x80, 0xBF, v / 64⟩, .ofNat (v % 64 + 0x80) :: rest, rfl, by omega, ?_, ?_⟩
    · rw [first, lead?_two (by omega) (by omega)]
    · rw [follow_continuation rest (by omega), follow, Nat.div_add_mod']
  · have bits : v / 4096 % 16 = v / 4096 := by omega
    have first : (UInt8.ofNat (v / 4096 + 0xE0)).toNat = v / 4096 + 0xE0 :=
      toNat_ofNat_of_lt (by omega)
    obtain ⟨low, high, announced, lower, upper⟩ : ∃ low high,
        lead? (v / 4096 + 0xE0) = some ⟨2, low, high, v / 4096⟩ ∧
          low ≤ v / 64 % 64 + 0x80 ∧ v / 64 % 64 + 0x80 ≤ high :=
      lead?_three (by omega) (by omega) (by omega) (by omega)
    rw [bits]
    refine ⟨_, ⟨2, low, high, v / 4096⟩,
      .ofNat (v / 64 % 64 + 0x80) :: .ofNat (v % 64 + 0x80) :: rest, rfl, by omega,
      first.symm ▸ announced, ?_⟩
    rw [follow_cons _ (by omega) lower upper, follow_continuation rest (by omega), follow,
      show (v / 4096 * 64 + v / 64 % 64) * 64 + v % 64 = v by omega]
  · have bits : v / 262144 % 8 = v / 262144 := by omega
    have first : (UInt8.ofNat (v / 262144 + 0xF0)).toNat = v / 262144 + 0xF0 :=
      toNat_ofNat_of_lt (by omega)
    obtain ⟨low, high, announced, lower, upper⟩ : ∃ low high,
        lead? (v / 262144 + 0xF0) = some ⟨3, low, high, v / 262144⟩ ∧
          low ≤ v / 4096 % 64 + 0x80 ∧ v / 4096 % 64 + 0x80 ≤ high :=
      lead?_four (by omega) (by omega) (by omega) (by omega)
    rw [bits]
    refine ⟨_, ⟨3, low, high, v / 262144⟩,
      .ofNat (v / 4096 % 64 + 0x80) :: .ofNat (v / 64 % 64 + 0x80) ::
        .ofNat (v % 64 + 0x80) :: rest, rfl, by omega, first.symm ▸ announced, ?_⟩
    rw [follow_cons _ (by omega) lower upper, follow_continuation _ (by omega),
      follow_continuation rest (by omega), follow,
      show ((v / 262144 * 64 + v / 4096 % 64) * 64 + v / 64 % 64) * 64 + v % 64 = v by omega]

theorem characters_utf8EncodeChar (c : Char) (rest : List UInt8) :
    characters (String.utf8EncodeChar c ++ rest) = some c :: characters rest := by
  by_cases short : c.val.toNat ≤ 0x7F
  · have first : (UInt8.ofNat c.val.toNat).toNat = c.val.toNat := toNat_ofNat_of_lt (by omega)
    rw [String.utf8EncodeChar]
    simp only [if_pos short, List.singleton_append]
    rw [characters, first, if_pos (by omega)]
    exact congrArg (some · :: _) (Char.ofNat_toNat c)
  · obtain ⟨a, l, tail, spelled, long, announced, followed⟩ := exists_lead short rest
    rw [spelled, characters, if_neg (by omega), announced]
    simp only [followed, Option.map_some]
    exact congrArg (some · :: _) (Char.ofNat_toNat c)

theorem eq_of_characters_cons {bytes : List UInt8} {c : Char} {cs : List (Option Char)}
    (spelled : characters bytes = some c :: cs) :
    ∃ rest, bytes = String.utf8EncodeChar c ++ rest ∧ cs = characters rest := by
  cases bytes with
  | nil => simp [characters] at spelled
  | cons a tail =>
    rw [characters] at spelled
    split_ifs at spelled with short
    · obtain ⟨rfl, rfl⟩ : Char.ofNat a.toNat = c ∧ characters tail = cs := by simpa using spelled
      exact ⟨tail, by rw [utf8EncodeChar_ofNat_one short]; rfl, rfl⟩
    · split at spelled
      · simp at spelled
      · next l announced =>
        generalize followed : follow l.following l.low l.high l.bits tail = out at spelled
        obtain ⟨code?, rest⟩ := out
        simp only [List.cons.injEq, Option.map_eq_some_iff] at spelled
        obtain ⟨⟨code, rfl, rfl⟩, rfl⟩ := spelled
        exact ⟨rest, eq_utf8EncodeChar_of_lead announced followed, rfl⟩

theorem eq_nil_of_characters {bytes : List UInt8} (nothing : characters bytes = []) :
    bytes = [] := by
  cases bytes with
  | nil => rfl
  | cons a tail =>
    rw [characters] at nothing
    repeat' split at nothing
    all_goals cases nothing

/-- Bytes spell unbroken characters exactly if they are the bytes of these, one after another. -/
theorem characters_eq_map_some_iff {bytes : List UInt8} {cs : List Char} :
    characters bytes = cs.map some ↔ bytes = cs.flatMap String.utf8EncodeChar := by
  induction cs generalizing bytes with
  | nil =>
    constructor
    · exact eq_nil_of_characters
    · rintro rfl
      rw [List.flatMap_nil, characters, List.map_nil]
  | cons c cs ih =>
    rw [List.map_cons, List.flatMap_cons]
    constructor
    · intro spelled
      obtain ⟨rest, rfl, tail⟩ := eq_of_characters_cons spelled
      rw [ih.mp tail.symm]
    · rintro rfl
      rw [characters_utf8EncodeChar, ih.mpr rfl]

/-! ## Texts -/

theorem mapM_id_eq_some_iff {α : Type} {xs : List (Option α)} {ys : List α} :
    xs.mapM id = some ys ↔ xs = ys.map some := by
  induction xs generalizing ys with
  | nil => cases ys <;> simp
  | cons x xs ih =>
    simp only [List.mapM_cons, id_eq, Option.bind_eq_bind, Option.bind_eq_some_iff, ih,
      Option.pure_def, Option.some.injEq, @eq_comm _ (x :: xs), List.map_eq_cons_iff]
    constructor
    · rintro ⟨y, rfl, zs, rfl, rfl⟩
      exact ⟨y, zs, rfl, rfl, rfl⟩
    · rintro ⟨y, zs, rfl, rfl, rfl⟩
      exact ⟨y, rfl, zs, rfl, rfl⟩

/-- Bytes are read as a text exactly if they are the bytes of it. -/
theorem decode?_eq_some_iff {bytes : List UInt8} {s : String} :
    decode? bytes = some s ↔ bytes = encode s := by
  simp only [decode?, Option.map_eq_some_iff, mapM_id_eq_some_iff, characters_eq_map_some_iff]
  constructor
  · rintro ⟨cs, rfl, rfl⟩
    rw [encode, String.toList_ofList]
  · intro spelled
    exact ⟨s.toList, spelled, String.ofList_toList⟩

theorem decode?_eq_none_iff {bytes : List UInt8} :
    decode? bytes = none ↔ ∀ s, bytes ≠ encode s := by
  simp only [Option.eq_none_iff_forall_ne_some, ne_eq, decode?_eq_some_iff]

/-- No character of a text is replaced. -/
@[simp]
theorem decodeLossy_encode (s : String) : decodeLossy (encode s) = s := by
  rw [decodeLossy, encode, characters_eq_map_some_iff.mpr rfl, List.map_map]
  exact (congrArg String.ofList (List.map_id s.toList)).trans String.ofList_toList

/-- The bytes of a text are those of its UTF-8 form. -/
theorem toUTF8_eq_iff {content : ByteArray} {s : String} :
    content = s.toUTF8 ↔ content.data.toList = encode s := by
  have bytes : s.toUTF8.data.toList = encode s := by
    rw [encode, String.toUTF8_eq_toByteArray]
    conv => lhs; rw [← String.ofList_toList (s := s)]
    exact List.toList_data_toByteArray
  rw [← bytes, Array.toList_inj]
  exact ⟨congrArg _, ByteArray.ext⟩

end PropertyTesting.Text
