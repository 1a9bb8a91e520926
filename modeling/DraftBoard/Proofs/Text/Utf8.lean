import Mathlib.Tactic.ByContra
import Mathlib.Tactic.SplitIfs
import DraftBoard.Proofs.Text.Percent
import DraftBoard.Text.Utf8

/-!
# Gaps in bytes

Bytes are read without a gap exactly where they are those of a text, and then as that text.
-/

namespace DraftBoard.Text

variable {byte : UInt8} {rest : List UInt8} {chars : List Char}

theorem readUtf8From_cons (opened : Option OpenChar) (byte : UInt8) (rest : List UInt8) :
    readUtf8From opened (byte :: rest) = (readByte opened byte.toNat).1 ++
      readUtf8From (readByte opened byte.toNat).2 rest := by
  rw [readUtf8From]

theorem readUtf8From_ascii (small : byte.toNat < 0x80) (rest : List UInt8) :
    readUtf8From none (byte :: rest) =
      some (Char.ofNat byte.toNat) :: readUtf8From none rest := by
  rw [readUtf8From_cons, readByte, startChar, if_pos small]
  rfl

theorem readUtf8From_first {opened : OpenChar} (large : ¬ byte.toNat < 0x80)
    (opens : openChar? byte.toNat = some opened) (rest : List UInt8) :
    readUtf8From none (byte :: rest) = readUtf8From (some opened) rest := by
  simp only [readUtf8From_cons, readByte, startChar, if_neg large, opens, List.nil_append]

theorem readUtf8From_next {due low high value : Nat}
    (fits : low ≤ byte.toNat ∧ byte.toNat ≤ high) (rest : List UInt8) :
    readUtf8From (some ⟨due + 2, low, high, value⟩) (byte :: rest) =
      readUtf8From (some ⟨due + 1, 0x80, 0xBF, 64 * value + (byte.toNat - 0x80)⟩) rest := by
  have more : due + 2 ≠ 1 := by omega
  simp only [readUtf8From_cons, readByte, if_pos fits, if_neg more, List.nil_append]
  rfl

theorem readUtf8From_last {low high value : Nat} (fits : low ≤ byte.toNat ∧ byte.toNat ≤ high)
    (rest : List UInt8) :
    readUtf8From (some ⟨1, low, high, value⟩) (byte :: rest) =
      some (Char.ofNat (64 * value + (byte.toNat - 0x80))) :: readUtf8From none rest := by
  simp only [readUtf8From_cons, readByte, if_pos fits, if_true]
  rfl

theorem toNat_ofNat_byte {value : Nat} (small : value < 256) :
    (UInt8.ofNat value).toNat = value := by
  rw [UInt8.toNat_ofNat', Nat.mod_eq_of_lt small]

theorem openChar?_two {byte : Nat} (first : 0xC2 ≤ byte ∧ byte ≤ 0xDF) :
    openChar? byte = some ⟨1, 0x80, 0xBF, byte - 0xC0⟩ := by
  rw [openChar?, if_pos first]

theorem openChar?_three {byte : Nat} (first : 0xE0 ≤ byte ∧ byte ≤ 0xEF) :
    openChar? byte = some ⟨2, if byte = 0xE0 then 0xA0 else 0x80,
      if byte = 0xED then 0x9F else 0xBF, byte - 0xE0⟩ := by
  rw [openChar?, if_neg (by omega), if_pos first]

theorem openChar?_four {byte : Nat} (first : 0xF0 ≤ byte ∧ byte ≤ 0xF4) :
    openChar? byte = some ⟨3, if byte = 0xF0 then 0x90 else 0x80,
      if byte = 0xF4 then 0x8F else 0xBF, byte - 0xF0⟩ := by
  rw [openChar?, if_neg (by omega), if_neg (by omega), if_pos first]

/-- The bytes of a character are read as that character. -/
theorem readUtf8From_encode (c : Char) (rest : List UInt8) :
    readUtf8From none (String.utf8EncodeChar c ++ rest) = some c :: readUtf8From none rest := by
  have valid : c.toNat < 0xD800 ∨ 0xDFFF < c.toNat ∧ c.toNat < 0x110000 := c.valid
  have reads : ∀ value, value = c.toNat → some (Char.ofNat value) = some c := by
    rintro value rfl
    rw [Char.ofNat_toNat]
  have number : c.val.toNat = c.toNat := rfl
  rw [String.utf8EncodeChar, number]
  generalize c.toNat = value at valid reads
  split_ifs with one two three
  · have byte := toNat_ofNat_byte (by omega : value < 256)
    rw [List.singleton_append, readUtf8From_ascii (by omega), byte, reads value rfl]
  · have first := toNat_ofNat_byte (by omega : value / 64 % 32 + 0xC0 < 256)
    have last := toNat_ofNat_byte (by omega : value % 64 + 0x80 < 256)
    rw [List.cons_append, List.singleton_append,
      readUtf8From_first (by omega) (openChar?_two (by omega)), readUtf8From_last (by omega),
      first, last, reads _ (by omega)]
  · have first := toNat_ofNat_byte (by omega : value / 4096 % 16 + 0xE0 < 256)
    have second := toNat_ofNat_byte (by omega : value / 64 % 64 + 0x80 < 256)
    have last := toNat_ofNat_byte (by omega : value % 64 + 0x80 < 256)
    rw [List.cons_append, List.cons_append, List.singleton_append,
      readUtf8From_first (by omega) (openChar?_three (by omega)), first,
      readUtf8From_next (by split_ifs <;> omega), second, readUtf8From_last (by omega), last,
      reads _ (by omega)]
  · have first := toNat_ofNat_byte (by omega : value / 262144 % 8 + 0xF0 < 256)
    have second := toNat_ofNat_byte (by omega : value / 4096 % 64 + 0x80 < 256)
    have third := toNat_ofNat_byte (by omega : value / 64 % 64 + 0x80 < 256)
    have last := toNat_ofNat_byte (by omega : value % 64 + 0x80 < 256)
    rw [List.cons_append, List.cons_append, List.cons_append, List.singleton_append,
      readUtf8From_first (by omega) (openChar?_four (by omega)), first,
      readUtf8From_next (by split_ifs <;> omega), second, readUtf8From_next (by omega), third,
      readUtf8From_last (by omega), last, reads _ (by omega)]

theorem readUtf8_encode (text : List Char) :
    readUtf8 (text.flatMap String.utf8EncodeChar) = text.map some := by
  induction text with
  | nil => rfl
  | cons c text ih =>
      rw [readUtf8] at ih ⊢
      rw [List.flatMap_cons, readUtf8From_encode, ih, List.map_cons]

theorem not_gapless {behind : List (Option Char)} (read : none :: behind = chars.map some) :
    False := by
  cases chars with
  | nil => cases read
  | cons c chars => cases read

theorem first_of_gapless (read : readUtf8From none (byte :: rest) = chars.map some) :
    (byte.toNat < 0x80 ∧ ∃ others, chars = Char.ofNat byte.toNat :: others ∧
      readUtf8From none rest = others.map some) ∨
    ∃ opened, openChar? byte.toNat = some opened ∧
      readUtf8From (some opened) rest = chars.map some := by
  by_cases small : byte.toNat < 0x80
  · rw [readUtf8From_ascii small] at read
    cases chars with
    | nil => cases read
    | cons c others =>
        rw [List.map_cons, List.cons.injEq, Option.some.injEq] at read
        exact .inl ⟨small, others, by rw [read.1], read.2⟩
  · cases opens : openChar? byte.toNat with
    | none =>
        simp only [readUtf8From_cons, readByte, startChar, if_neg small, opens] at read
        exact absurd read not_gapless
    | some opened =>
        rw [readUtf8From_first small opens] at read
        exact .inr ⟨opened, rfl, read⟩

theorem fits_of_gapless {bytes : List UInt8} {opened : OpenChar}
    (read : readUtf8From (some opened) bytes = chars.map some) :
    ∃ byte rest, bytes = byte :: rest ∧
      opened.low ≤ byte.toNat ∧ byte.toNat ≤ opened.high := by
  cases bytes with
  | nil => exact absurd read not_gapless
  | cons byte rest =>
      refine ⟨byte, rest, rfl, ?_⟩
      by_contra outside
      rw [readUtf8From_cons, readByte] at read
      simp only [if_neg outside] at read
      exact not_gapless read

theorem next_of_gapless {bytes : List UInt8} {due low high value : Nat}
    (read : readUtf8From (some ⟨due + 2, low, high, value⟩) bytes = chars.map some) :
    ∃ byte rest, bytes = byte :: rest ∧ (low ≤ byte.toNat ∧ byte.toNat ≤ high) ∧
      readUtf8From (some ⟨due + 1, 0x80, 0xBF, 64 * value + (byte.toNat - 0x80)⟩) rest =
        chars.map some := by
  obtain ⟨byte, rest, rfl, fits⟩ := fits_of_gapless read
  rw [readUtf8From_next fits] at read
  exact ⟨byte, rest, rfl, fits, read⟩

theorem last_of_gapless {bytes : List UInt8} {low high value : Nat}
    (read : readUtf8From (some ⟨1, low, high, value⟩) bytes = chars.map some) :
    ∃ byte rest others, bytes = byte :: rest ∧ (low ≤ byte.toNat ∧ byte.toNat ≤ high) ∧
      chars = Char.ofNat (64 * value + (byte.toNat - 0x80)) :: others ∧
      readUtf8From none rest = others.map some := by
  obtain ⟨byte, rest, rfl, fits⟩ := fits_of_gapless read
  rw [readUtf8From_last fits] at read
  cases chars with
  | nil => cases read
  | cons c others =>
      rw [List.map_cons, List.cons.injEq, Option.some.injEq] at read
      exact ⟨byte, rest, others, rfl, fits, by rw [read.1], read.2⟩

theorem toNat_ofNat_char {value : Nat}
    (valid : value < 0xD800 ∨ 0xDFFF < value ∧ value < 0x110000) :
    (Char.ofNat value).val.toNat = value := by
  rw [Char.ofNat, dif_pos valid]
  rfl

theorem byte_eq_ofNat {byte : UInt8} {value : Nat} (same : value = byte.toNat) :
    UInt8.ofNat value = byte := by
  rw [same, UInt8.ofNat_toNat]

theorem of_openChar? {byte : Nat} {opened : OpenChar} (opens : openChar? byte = some opened) :
    (0xC2 ≤ byte ∧ byte ≤ 0xDF) ∧ opened = ⟨1, 0x80, 0xBF, byte - 0xC0⟩ ∨
    (0xE0 ≤ byte ∧ byte ≤ 0xEF) ∧ opened = ⟨2, if byte = 0xE0 then 0xA0 else 0x80,
      if byte = 0xED then 0x9F else 0xBF, byte - 0xE0⟩ ∨
    (0xF0 ≤ byte ∧ byte ≤ 0xF4) ∧ opened = ⟨3, if byte = 0xF0 then 0x90 else 0x80,
      if byte = 0xF4 then 0x8F else 0xBF, byte - 0xF0⟩ := by
  rw [openChar?] at opens
  split at opens
  · next first => exact .inl ⟨first, (Option.some.inj opens).symm⟩
  split at opens
  · next first => exact .inr (.inl ⟨first, (Option.some.inj opens).symm⟩)
  split at opens
  · next first => exact .inr (.inr ⟨first, (Option.some.inj opens).symm⟩)
  · cases opens

/-- Bytes that begin without a gap begin with those of a character. -/
theorem encode_of_gapless (read : readUtf8From none (byte :: rest) = chars.map some) :
    ∃ c others behind, chars = c :: others ∧ byte :: rest = String.utf8EncodeChar c ++ behind ∧
      readUtf8From none behind = others.map some := by
  rcases first_of_gapless read with ⟨small, others, rfl, further⟩ | ⟨opened, opens, read⟩
  · refine ⟨_, others, rest, rfl, ?_, further⟩
    rw [String.utf8EncodeChar, toNat_ofNat_char (by omega), if_pos (by omega),
      byte_eq_ofNat rfl, List.singleton_append]
  rcases of_openChar? opens with ⟨first, rfl⟩ | ⟨first, rfl⟩ | ⟨first, rfl⟩
  · obtain ⟨last, behind, others, rfl, inside, rfl, further⟩ := last_of_gapless read
    refine ⟨_, others, behind, rfl, ?_, further⟩
    rw [String.utf8EncodeChar, toNat_ofNat_char (by omega), if_neg (by omega),
      if_pos (by omega), byte_eq_ofNat (by omega : _ = byte.toNat),
      byte_eq_ofNat (by omega : _ = last.toNat)]
    rfl
  · obtain ⟨second, rest, rfl, bounds, read⟩ := next_of_gapless read
    obtain ⟨last, behind, others, rfl, inside, rfl, further⟩ := last_of_gapless read
    have within : (0x80 ≤ second.toNat ∧ second.toNat ≤ 0xBF) ∧
        (byte.toNat = 0xE0 → 0xA0 ≤ second.toNat) ∧
        (byte.toNat = 0xED → second.toNat ≤ 0x9F) := by
      split_ifs at bounds <;> omega
    refine ⟨_, others, behind, rfl, ?_, further⟩
    rw [String.utf8EncodeChar, toNat_ofNat_char (by omega), if_neg (by omega),
      if_neg (by omega), if_pos (by omega), byte_eq_ofNat (by omega : _ = byte.toNat),
      byte_eq_ofNat (by omega : _ = second.toNat), byte_eq_ofNat (by omega : _ = last.toNat)]
    rfl
  · obtain ⟨second, rest, rfl, bounds, read⟩ := next_of_gapless read
    obtain ⟨third, rest, rfl, middle, read⟩ := next_of_gapless read
    obtain ⟨last, behind, others, rfl, inside, rfl, further⟩ := last_of_gapless read
    have within : (0x80 ≤ second.toNat ∧ second.toNat ≤ 0xBF) ∧
        (byte.toNat = 0xF0 → 0x90 ≤ second.toNat) ∧
        (byte.toNat = 0xF4 → second.toNat ≤ 0x8F) := by
      split_ifs at bounds <;> omega
    refine ⟨_, others, behind, rfl, ?_, further⟩
    rw [String.utf8EncodeChar, toNat_ofNat_char (by omega), if_neg (by omega),
      if_neg (by omega), if_neg (by omega), byte_eq_ofNat (by omega : _ = byte.toNat),
      byte_eq_ofNat (by omega : _ = second.toNat), byte_eq_ofNat (by omega : _ = third.toNat),
      byte_eq_ofNat (by omega : _ = last.toNat)]
    rfl

/-- Bytes are read without a gap if and only if they are those of the characters read. -/
theorem readUtf8_eq_map_some_iff {bytes : List UInt8} :
    readUtf8 bytes = chars.map some ↔ bytes = chars.flatMap String.utf8EncodeChar := by
  constructor
  · intro read
    rw [readUtf8] at read
    induction chars generalizing bytes with
    | nil =>
        cases bytes with
        | nil => rfl
        | cons byte rest =>
            obtain ⟨c, others, _, same, _⟩ := encode_of_gapless read
            cases same
    | cons c chars ih =>
        cases bytes with
        | nil => cases read
        | cons byte rest =>
            obtain ⟨d, others, behind, same, encoded, further⟩ := encode_of_gapless read
            obtain ⟨rfl, rfl⟩ := List.cons.inj same
            rw [encoded, ih further, List.flatMap_cons]
  · rintro rfl
    exact readUtf8_encode chars

end DraftBoard.Text
