import DraftBoard.Json.Printer
import DraftBoard.Json.Scalar

/-!
# Reading tokens back

A string or an integer that has been written in front of a text is read back, and
that text is left.  Behind a number the text must not go on like one.
-/

namespace DraftBoard.Json

theorem skipBlank_append {blanks : List Char} (blank : blanks.all isBlank = true)
    (text : List Char) : skipBlank (blanks ++ text) = skipBlank text := by
  induction blanks with
  | nil => rfl
  | cons c blanks ih =>
      rw [List.all_cons, Bool.and_eq_true] at blank
      rw [List.cons_append, skipBlank, List.dropWhile_cons, if_pos blank.1]
      exact ih blank.2

theorem skipBlank_cons {c : Char} (visible : isBlank c = false) (text : List Char) :
    skipBlank (c :: text) = c :: text := by
  simp [skipBlank, visible]

/-- A text that no digit sequence goes on with. -/
def EndsDigits (text : List Char) : Prop :=
  ∀ c, text.head? = some c → c.isDigit = false

theorem endsDigits_cons {c : Char} {text : List Char} (other : c.isDigit = false) :
    EndsDigits (c :: text) := by
  intro d found
  cases found
  exact other

/-- A text that no number goes on with. -/
def EndsNumber (text : List Char) : Prop :=
  ∀ c, text.head? = some c → c.isDigit = false ∧ c ≠ '.' ∧ c ≠ 'e' ∧ c ≠ 'E'

theorem EndsNumber.endsDigits {text : List Char} (ends : EndsNumber text) : EndsDigits text :=
  fun c found => (ends c found).1

theorem endsNumber_nil : EndsNumber [] := by
  intro c found
  cases found

theorem endsNumber_cons {c : Char} {text : List Char}
    (other : c.isDigit = false ∧ c ≠ '.' ∧ c ≠ 'e' ∧ c ≠ 'E') : EndsNumber (c :: text) := by
  intro d found
  cases found
  exact other

theorem takeWhile_digits {digits rest : List Char}
    (all : ∀ c ∈ digits, c.isDigit = true) (ends : EndsDigits rest) :
    (digits ++ rest).takeWhile Char.isDigit = digits ∧
      (digits ++ rest).dropWhile Char.isDigit = rest := by
  induction digits with
  | nil =>
      cases rest with
      | nil => exact ⟨rfl, rfl⟩
      | cons c rest =>
          have notDigit := ends c rfl
          simp [notDigit]
  | cons c digits ih =>
      have digit := all c List.mem_cons_self
      obtain ⟨taken, left⟩ := ih fun d member => all d (List.mem_cons_of_mem _ member)
      constructor
      · rw [List.cons_append, List.takeWhile_cons, if_pos digit, taken]
      · rw [List.cons_append, List.dropWhile_cons, if_pos digit, left]

theorem readDigits_append {mode : Mode} {digits rest : List Char}
    (all : ∀ c ∈ digits, c.isDigit = true) (nonempty : digits ≠ []) (ends : EndsDigits rest) :
    readDigits mode (digits ++ rest) = .ok (digits, rest) := by
  obtain ⟨taken, left⟩ := takeWhile_digits all ends
  unfold readDigits
  rw [taken, left]
  cases digits with
  | nil => exact absurd rfl nonempty
  | cons c digits => rfl

theorem readFraction_of_endsNumber {mode : Mode} {rest : List Char} (ends : EndsNumber rest) :
    readFraction mode rest = .ok (none, rest) := by
  unfold readFraction
  split
  · exact absurd rfl (ends '.' rfl).2.1
  · rfl

theorem readExponent_of_endsNumber {mode : Mode} {rest : List Char} (ends : EndsNumber rest) :
    readExponent mode rest = .ok (none, rest) := by
  cases rest with
  | nil => rfl
  | cons c rest =>
      obtain ⟨_, _, notLower, notUpper⟩ := ends c rfl
      simp [readExponent, notLower, notUpper]

theorem toDigits_head {n : Nat} (positive : 0 < n) :
    ∃ c digits, Nat.toDigits 10 n = c :: digits ∧ c ≠ '0' := by
  induction n using Nat.strongRecOn with
  | ind n ih =>
      by_cases small : n < 10
      · refine ⟨n.digitChar, [], Nat.toDigits_of_lt_base small, ?_⟩
        have cases : n = 1 ∨ n = 2 ∨ n = 3 ∨ n = 4 ∨ n = 5 ∨ n = 6 ∨ n = 7 ∨ n = 8 ∨ n = 9 := by
          omega
        rcases cases with rfl | rfl | rfl | rfl | rfl | rfl | rfl | rfl | rfl <;> decide
      · have large : 10 ≤ n := by omega
        obtain ⟨c, digits, above, nonzero⟩ := ih (n / 10) (by omega) (by omega)
        refine ⟨c, digits ++ [(n % 10).digitChar], ?_, nonzero⟩
        rw [Nat.toDigits_of_base_le (by decide) large, above, List.cons_append]

/-- Digits that may stand before a point: a zero alone, or digits that start otherwise. -/
def IsWhole (digits : List Char) : Prop :=
  digits = ['0'] ∨ ∃ c others, digits = c :: others ∧ c ≠ '0' ∧ ∀ d ∈ digits, d.isDigit = true

theorem isWhole_toDigits (n : Nat) : IsWhole (Nat.toDigits 10 n) := by
  by_cases zero : n = 0
  · subst n
    exact .inl (Nat.toDigits_zero 10)
  · obtain ⟨c, digits, written, nonzero⟩ := toDigits_head (Nat.pos_of_ne_zero zero)
    exact .inr ⟨c, digits, written, nonzero, fun d member =>
      Nat.isDigit_of_mem_toDigits (by decide) (by decide) member⟩

theorem readWhole_append {mode : Mode} {digits rest : List Char} (whole : IsWhole digits)
    (ends : EndsDigits rest) : readWhole mode (digits ++ rest) = .ok (digits, rest) := by
  rcases whole with rfl | ⟨c, others, rfl, nonzero, all⟩
  · cases rest with
    | nil => rfl
    | cons c rest =>
        have notDigit := ends c rfl
        simp [readWhole, notDigit]
  · have digitsRead : readDigits mode (c :: others ++ rest) = .ok (c :: others, rest) :=
      readDigits_append all (List.cons_ne_nil c others) ends
    unfold readWhole
    split
    · next same =>
        cases same
        exact absurd rfl nonzero
    · exact digitsRead

theorem le_ofDigitChars (digits : List Char) (value : Nat) :
    value ≤ Nat.ofDigitChars 10 digits value := by
  induction digits generalizing value with
  | nil => simp
  | cons c digits ih =>
      rw [Nat.ofDigitChars_cons]
      exact Nat.le_trans (by omega) (ih _)

theorem gather_eq {digits : List Char} {significand : Nat}
    (fits : Nat.ofDigitChars 10 digits significand < 0x10000000000000000) :
    gather significand digits = (Nat.ofDigitChars 10 digits significand, 0) := by
  induction digits generalizing significand with
  | nil => rw [gather, Nat.ofDigitChars_nil]
  | cons c digits ih =>
      rw [Nat.ofDigitChars_cons] at fits ⊢
      have small : 10 * significand + digitValue c < 0x10000000000000000 :=
        Nat.lt_of_le_of_lt (le_ofDigitChars digits _) fits
      rw [gather]
      simp only [small, if_true]
      exact ih fits

theorem gather_toDigits {n : Nat} (fits : n < 0x10000000000000000) :
    gather 0 (Nat.toDigits 10 n) = (n, 0) := by
  have value := Nat.ofDigitChars_ten_toDigits (n := n)
  rw [gather_eq (by rw [value]; exact fits), value]

theorem readNumberText_toDigits {mode : Mode} (negative : Bool) (n : Nat) {rest : List Char}
    (ends : EndsNumber rest) :
    readNumberText mode negative (Nat.toDigits 10 n ++ rest) =
      .ok (⟨negative, Nat.toDigits 10 n, none, none⟩, rest) := by
  simp only [readNumberText, readWhole_append (isWhole_toDigits n) ends.endsDigits,
    readFraction_of_endsNumber ends,
    readExponent_of_endsNumber ends, bind, Except.bind]

/-- Whether an integer is kept exactly: it fits into 64 bits, with or without a sign. -/
def Fits (n : Int) : Prop := -0x8000000000000000 ≤ n ∧ n < 0x10000000000000000

instance (n : Int) : Decidable (Fits n) := inferInstanceAs (Decidable (_ ∧ _))

theorem value?_natural {n : Nat} (fits : Fits n) :
    NumberText.value? ⟨false, Nat.toDigits 10 n, none, none⟩ = some (.integer n) := by
  have small : n < 0x10000000000000000 := by
    have high := fits.2
    omega
  simp [NumberText.value?, gather_toDigits small]

theorem value?_negative {n : Nat} (fits : Fits (.negSucc n)) :
    NumberText.value? ⟨true, Nat.toDigits 10 (n + 1), none, none⟩ =
      some (.integer (.negSucc n)) := by
  have low : n + 1 ≤ 0x8000000000000000 := by
    have low := fits.1
    omega
  have small : n + 1 < 0x10000000000000000 := by omega
  rw [NumberText.value?, gather_toDigits small, Int.negSucc_eq]
  simp only [low]
  simp

theorem readNumber_natural {mode : Mode} {n : Nat} (fits : Fits n) {rest : List Char}
    (ends : EndsNumber rest) :
    readNumber mode false (Nat.toDigits 10 n ++ rest) = .ok (.integer n, rest) := by
  simp only [readNumber, readNumberText_toDigits false n ends, bind, Except.bind,
    value?_natural fits]

theorem readNumber_negative {mode : Mode} {n : Nat} (fits : Fits (.negSucc n))
    {rest : List Char} (ends : EndsNumber rest) :
    readNumber mode true (Nat.toDigits 10 (n + 1) ++ rest) =
      .ok (.integer (.negSucc n), rest) := by
  simp only [readNumber, readNumberText_toDigits true (n + 1) ends, bind, Except.bind,
    value?_negative fits]

theorem fourBytesLeft_of_length {text : List Char} (long : 4 ≤ text.length) :
    fourBytesLeft text = true := by
  match text, long with
  | a :: b :: c :: d :: rest, _ =>
      have first := a.utf8Size_pos
      have second := b.utf8Size_pos
      have third := c.utf8Size_pos
      have fourth := d.utf8Size_pos
      simp [fourBytesLeft]
      omega

theorem hexValue?_lowerHex {value : Nat} (digit : value < 16) :
    Text.hexValue? (Text.lowerHex value) = some value := by
  revert value
  decide

theorem hexValue?_zero : Text.hexValue? '0' = some 0 := rfl

/-- A control character without a short escape is written as its number. -/
theorem readStringFrom_numbered {mode : Mode} {c : Char} (control : c.toNat < 0x20)
    (done rest : List Char) :
    readStringFrom mode .plain done
        ('\\' :: 'u' :: '0' :: '0' :: Text.lowerHex (c.toNat / 16) ::
          Text.lowerHex (c.toNat % 16) :: rest) =
      readStringFrom mode .plain (c :: done) rest := by
  have high : Text.hexValue? (Text.lowerHex (c.toNat / 16)) = some (c.toNat / 16) :=
    hexValue?_lowerHex (by omega)
  have low : Text.hexValue? (Text.lowerHex (c.toNat % 16)) = some (c.toNat % 16) :=
    hexValue?_lowerHex (by omega)
  have whole : 16 * (c.toNat / 16) + c.toNat % 16 = c.toNat := by omega
  have below : c.toNat < 0xD800 := by omega
  have due : fourBytesLeft ('0' :: '0' :: Text.lowerHex (c.toNat / 16) ::
      Text.lowerHex (c.toNat % 16) :: rest) = true :=
    fourBytesLeft_of_length (by simp)
  simp [readStringFrom, enterNumbered, due, hexValue?_zero, high, low, whole,
    finishNumbered, below]

/-- The characters that are written behind a backslash, with one more character. -/
def shortEscaped : List Char := ['"', '\\', '\x08', '\x0c', '\n', '\r', '\t']

/-- An escaped character is read as itself. -/
theorem readStringFrom_escapeChar {mode : Mode} (c : Char) (done rest : List Char) :
    readStringFrom mode .plain done (escapeChar c ++ rest) =
      readStringFrom mode .plain (c :: done) rest := by
  by_cases short : c ∈ shortEscaped
  · simp only [shortEscaped, List.mem_cons, List.not_mem_nil, or_false] at short
    rcases short with rfl | rfl | rfl | rfl | rfl | rfl | rfl <;>
      simp [escapeChar, readStringFrom, shortEscape?]
  · simp only [shortEscaped, List.mem_cons, List.not_mem_nil, or_false, not_or] at short
    obtain ⟨notQuote, notBackslash, notBack, notFeed, notLine, notReturn, notTab⟩ := short
    rw [escapeChar, if_neg notQuote, if_neg notBackslash]
    by_cases visible : 0x20 ≤ c.toNat
    · have plain : ¬ c.toNat < 0x20 := by omega
      rw [if_pos visible]
      simp [readStringFrom, notQuote, notBackslash, plain]
    · rw [if_neg visible, if_neg notBack, if_neg notFeed, if_neg notLine, if_neg notReturn,
        if_neg notTab]
      exact readStringFrom_numbered (by omega) done rest

theorem readString_writeString (mode : Mode) (text : String) (rest : List Char) :
    writeString text rest = '"' :: (writeString text rest).tail ∧
      readString mode (writeString text rest).tail = .ok (text, rest) := by
  have chars : ∀ (chars done : List Char),
      readStringFrom mode .plain done
          (chars.foldr (fun c rest => escapeChar c ++ rest) ('"' :: rest)) =
        .ok (done.reverse ++ chars, rest) := by
    intro chars
    induction chars with
    | nil =>
        intro done
        simp [readStringFrom]
    | cons c chars ih =>
        intro done
        rw [List.foldr_cons, readStringFrom_escapeChar, ih]
        simp
  refine ⟨rfl, ?_⟩
  simp only [readString, writeString, List.tail_cons, chars, bind, Except.bind,
    List.reverse_nil, List.nil_append, String.ofList_toList]

end DraftBoard.Json
