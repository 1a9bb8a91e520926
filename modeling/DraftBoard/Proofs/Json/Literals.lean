import DraftBoard.Proofs.Json.Tokens
import DraftBoard.Proofs.Number.ShortestDigits

/-!
# Number literals

The text of a number denotes a rational number, whatever the number is read as.
`Number.literal` is the text that a number is written as, in its parts; it is read back
as it stands.
-/

namespace DraftBoard.Json

namespace NumberText

variable {text : NumberText}

/-- The digits on both sides of the point. -/
def digits (text : NumberText) : List Char := text.whole ++ text.fraction.getD []

/-- The exponent with its sign. -/
def power (text : NumberText) : Int :=
  match text.exponent with
  | none => 0
  | some (true, digits) => -digitsValue digits
  | some (false, digits) => digitsValue digits

/-- The exponent of ten of the last digit. -/
def place (text : NumberText) : Int := text.power - (text.fraction.getD []).length

/-- The absolute value of the number that a literal denotes. -/
def magnitude (text : NumberText) : ℚ := digitsValue text.digits * 10 ^ text.place

/-- The number that a literal denotes. -/
def rational (text : NumberText) : ℚ := if text.negative then -text.magnitude else text.magnitude

end NumberText

theorem digitsValue_eq (digits : List Char) : digitsValue digits = Nat.ofDigitChars 10 digits 0 :=
  rfl

theorem digitsValue_append (left right : List Char) :
    digitsValue (left ++ right) = digitsValue left * 10 ^ right.length + digitsValue right := by
  rw [digitsValue_eq, digitsValue_eq, digitsValue_eq, Nat.ofDigitChars_append,
    Nat.ofDigitChars_eq_ofDigitChars_zero, Nat.mul_comm]

@[simp] theorem digitsValue_replicate (count : Nat) :
    digitsValue (List.replicate count '0') = 0 := by
  rw [digitsValue_eq, Nat.ofDigitChars_replicate_zero, Nat.mul_zero]

@[simp] theorem digitsValue_toDigits (n : Nat) : digitsValue (Nat.toDigits 10 n) = n :=
  Nat.ofDigitChars_ten_toDigits

namespace NumberText

variable {text : NumberText}

/-- The point and the digits behind it. -/
def fractionChars : Option (List Char) → List Char
  | none => []
  | some digits => '.' :: digits

/-- The exponent behind its mark. -/
def exponentChars : Option (Bool × List Char) → List Char
  | none => []
  | some (negative, digits) => 'e' :: (if negative then '-' else '+') :: digits

/-- A literal without its sign. -/
def body (text : NumberText) : List Char :=
  text.whole ++ (fractionChars text.fraction ++ exponentChars text.exponent)

/-- A literal as text. -/
def chars (text : NumberText) : List Char :=
  if text.negative then '-' :: text.body else text.body

/-- Digits that may stand behind a point or an exponent mark. -/
def IsDigits (digits : List Char) : Prop :=
  digits ≠ [] ∧ ∀ c ∈ digits, c.isDigit = true

/-- The parts of a literal that the grammar admits. -/
structure WellFormed (text : NumberText) : Prop where
  whole : IsWhole text.whole
  fraction : ∀ digits, text.fraction = some digits → IsDigits digits
  exponent : ∀ negative digits, text.exponent = some (negative, digits) → IsDigits digits

section

variable {mode : Mode} {rest : List Char}

theorem readFraction_append {fraction : Option (List Char)}
    (formed : ∀ digits, fraction = some digits → IsDigits digits) (ends : EndsDigits rest)
    (noPoint : rest.head? ≠ some '.') :
    readFraction mode (fractionChars fraction ++ rest) = .ok (fraction, rest) := by
  cases fraction with
  | none =>
      rw [fractionChars, List.nil_append]
      unfold readFraction
      split
      · exact absurd rfl noPoint
      · rfl
  | some digits =>
      obtain ⟨nonempty, all⟩ := formed digits rfl
      simp only [fractionChars, List.cons_append, readFraction,
        readDigits_append all nonempty ends, bind, Except.bind]

theorem readExponent_append {exponent : Option (Bool × List Char)}
    (formed : ∀ negative digits, exponent = some (negative, digits) → IsDigits digits)
    (ends : EndsNumber rest) :
    readExponent mode (exponentChars exponent ++ rest) = .ok (exponent, rest) := by
  cases exponent with
  | none => exact readExponent_of_endsNumber ends
  | some parts =>
      obtain ⟨negative, digits⟩ := parts
      obtain ⟨nonempty, all⟩ := formed negative digits rfl
      have read : readDigits mode (digits ++ rest) = .ok (digits, rest) :=
        readDigits_append all nonempty ends.endsDigits
      cases negative <;> simp [exponentChars, readExponent, readSign, read, bind, Except.bind]

theorem endsDigits_exponentChars (exponent : Option (Bool × List Char))
    (ends : EndsNumber rest) :
    EndsDigits (exponentChars exponent ++ rest) ∧
      (exponentChars exponent ++ rest).head? ≠ some '.' := by
  cases exponent with
  | none => exact ⟨ends.endsDigits, fun found => (ends '.' found).2.1 rfl⟩
  | some parts => exact ⟨endsDigits_cons rfl, by simp [exponentChars]⟩

/-- A literal is read back in its parts. -/
theorem WellFormed.readNumberText (formed : text.WellFormed) (ends : EndsNumber rest) :
    readNumberText mode text.negative (text.body ++ rest) = .ok (text, rest) := by
  obtain ⟨endsFraction, noPoint⟩ := endsDigits_exponentChars text.exponent ends
  have endsWhole : EndsDigits (fractionChars text.fraction ++
      (exponentChars text.exponent ++ rest)) := by
    cases text.fraction with
    | none => exact endsFraction
    | some digits => exact endsDigits_cons rfl
  have split : text.body ++ rest = text.whole ++ (fractionChars text.fraction ++
      (exponentChars text.exponent ++ rest)) := by
    simp only [body, List.append_assoc]
  rw [split]
  simp only [Json.readNumberText, readWhole_append formed.whole endsWhole,
    readFraction_append formed.fraction endsFraction noPoint,
    readExponent_append formed.exponent ends, bind, Except.bind]

end

end NumberText

/-- The parts of digits with a point behind the digit of exponent zero. -/
def positionalLiteral (negative : Bool) (digits : List Char) (first : Int) : NumberText :=
  if first < 0 then
    ⟨negative, ['0'], some (List.replicate (-first - 1).toNat '0' ++ digits), none⟩
  else
    let whole := first.toNat + 1
    if digits.length ≤ whole then
      ⟨negative, digits ++ List.replicate (whole - digits.length) '0', some ['0'], none⟩
    else ⟨negative, digits.take whole, some (digits.drop whole), none⟩

/-- The parts of digits with a point behind the first one and an exponent. -/
def scientificLiteral (negative : Bool) (digits : List Char) (first : Int) : NumberText :=
  ⟨negative, digits.take 1, if digits.length ≤ 1 then none else some (digits.drop 1),
    some (decide (first < 0), Nat.toDigits 10 first.natAbs)⟩

/-- The parts of the text of a floating-point number. -/
def floatLiteral (x : Binary64) : NumberText :=
  if x.isZero then positionalLiteral x.negative ['0'] 0
  else
    let (significand, place) := x.shortestDigits floatFormat.tie
    let digits := Nat.toDigits 10 significand
    let first := place + digits.length - 1
    if floatFormat.positional first then positionalLiteral x.negative digits first
    else scientificLiteral x.negative digits first

/-- The parts of the text of a number. -/
def Number.literal : Number → NumberText
  | .integer (.ofNat n) => ⟨false, Nat.toDigits 10 n, none, none⟩
  | .integer (.negSucc n) => ⟨true, Nat.toDigits 10 (n + 1), none, none⟩
  | .float x => floatLiteral x

section

variable {negative : Bool} {digits : List Char} {first : Int}

theorem positionalLiteral_body (negative : Bool) (digits : List Char) (first : Int) :
    (positionalLiteral negative digits first).negative = negative ∧
      (positionalLiteral negative digits first).body =
        floatFormat.layPositional digits first := by
  unfold positionalLiteral DecimalFormat.layPositional
  by_cases small : first < 0
  · simp [small, NumberText.body, NumberText.fractionChars, NumberText.exponentChars]
  · by_cases short : digits.length ≤ first.toNat + 1
    · simp [small, short, NumberText.body, NumberText.fractionChars,
        NumberText.exponentChars, floatFormat]
    · simp [small, short, NumberText.body, NumberText.fractionChars,
        NumberText.exponentChars]

theorem scientificLiteral_body (negative : Bool) (digits : List Char) (first : Int) :
    (scientificLiteral negative digits first).negative = negative ∧
      (scientificLiteral negative digits first).body =
        DecimalFormat.layScientific digits first := by
  unfold scientificLiteral DecimalFormat.layScientific
  by_cases short : digits.length ≤ 1
  · simp [short, NumberText.body, NumberText.fractionChars, NumberText.exponentChars]
  · simp [short, NumberText.body, NumberText.fractionChars, NumberText.exponentChars]

theorem floatLiteral_chars (x : Binary64) : (floatLiteral x).chars = floatFormat.write x := by
  unfold NumberText.chars floatLiteral DecimalFormat.write
  cases x.isZero with
  | true => simp [positionalLiteral_body]
  | false =>
      simp only [Bool.false_eq_true, if_false]
      split
      · simp only [positionalLiteral_body]
      · simp only [scientificLiteral_body]

/-- A number is written as its literal. -/
theorem Number.chars_eq (number : Number) : number.chars = number.literal.chars := by
  cases number with
  | integer n =>
      cases n with
      | ofNat n =>
          simp [Number.chars, literal, NumberText.chars, NumberText.body,
            NumberText.fractionChars, NumberText.exponentChars]
      | negSucc n =>
          simp [Number.chars, literal, NumberText.chars, NumberText.body,
            NumberText.fractionChars, NumberText.exponentChars]
  | float x => exact (floatLiteral_chars x).symm

theorem isDigit_of_mem_toDigits {n : Nat} {c : Char} (member : c ∈ Nat.toDigits 10 n) :
    c.isDigit = true :=
  Nat.isDigit_of_mem_toDigits (by decide) (by decide) member

theorem isDigits_toDigits (n : Nat) : NumberText.IsDigits (Nat.toDigits 10 n) :=
  ⟨Nat.toDigits_ne_nil, fun _ => isDigit_of_mem_toDigits⟩

theorem IsWhole.isDigits (whole : IsWhole digits) : NumberText.IsDigits digits := by
  rcases whole with rfl | ⟨c, others, rfl, _, all⟩
  · exact ⟨List.cons_ne_nil _ _, by simp⟩
  · exact ⟨List.cons_ne_nil _ _, all⟩

theorem positionalLiteral_wellFormed (negative : Bool) (whole : IsWhole digits)
    (zero : digits = ['0'] → first ≤ 0) :
    (positionalLiteral negative digits first).WellFormed := by
  obtain ⟨nonempty, all⟩ := whole.isDigits
  have noExponent : ∀ (negative : Bool) (exponent : List Char),
      none = some (negative, exponent) → NumberText.IsDigits exponent := by
    intro negative exponent same
    cases same
  unfold positionalLiteral
  by_cases small : first < 0
  · rw [if_pos small]
    refine ⟨.inl rfl, ?_, noExponent⟩
    intro fraction same
    cases same
    refine ⟨by simp [nonempty], ?_⟩
    intro c member
    rcases List.mem_append.mp member with zeros | digit
    · rw [List.eq_of_mem_replicate zeros]
      rfl
    · exact all c digit
  · rw [if_neg small]
    by_cases short : digits.length ≤ first.toNat + 1
    · simp only [short, if_true]
      refine ⟨?_, ?_, noExponent⟩
      · rcases whole with rfl | ⟨c, others, rfl, nonzero, all⟩
        · have none : first.toNat = 0 := by
            have atMost := zero rfl
            omega
          exact .inl (by simp [none])
        · refine .inr ⟨c, _, rfl, nonzero, ?_⟩
          intro d member
          rcases List.mem_append.mp member with digit | zeros
          · exact all d digit
          · rw [List.eq_of_mem_replicate zeros]
            rfl
      · intro fraction same
        cases same
        exact ⟨List.cons_ne_nil _ _, by simp⟩
    · simp only [short, if_false]
      refine ⟨?_, ?_, noExponent⟩
      · rcases whole with rfl | ⟨c, others, rfl, nonzero, all⟩
        · simp at short
        · exact .inr ⟨c, _, rfl, nonzero, fun d member => all d (List.mem_of_mem_take member)⟩
      · intro fraction same
        cases same
        refine ⟨?_, fun d member => all d (List.mem_of_mem_drop member)⟩
        rw [Ne, List.drop_eq_nil_iff]
        exact short

theorem scientificLiteral_wellFormed (negative : Bool) (whole : IsWhole digits) (first : Int) :
    (scientificLiteral negative digits first).WellFormed := by
  obtain ⟨_, all⟩ := whole.isDigits
  refine ⟨?_, ?_, ?_⟩
  · rcases whole with rfl | ⟨c, others, rfl, nonzero, all⟩
    · exact .inl rfl
    · refine .inr ⟨c, [], rfl, nonzero, ?_⟩
      intro d member
      exact all d (List.mem_of_mem_take member)
  · intro fraction same
    simp only [scientificLiteral] at same
    split at same
    · cases same
    · next long =>
        cases same
        refine ⟨?_, fun d member => all d (List.mem_of_mem_drop member)⟩
        rw [Ne, List.drop_eq_nil_iff]
        exact long
  · intro negative exponent same
    cases same
    exact isDigits_toDigits _

theorem floatLiteral_wellFormed (x : Binary64) : (floatLiteral x).WellFormed := by
  unfold floatLiteral
  by_cases zero : x.isZero = true
  · rw [if_pos zero]
    exact positionalLiteral_wellFormed _ (.inl rfl) (fun _ => le_rfl)
  · rw [if_neg zero]
    have positive : 0 < x.mantissa := by
      simp only [Binary64.isZero, beq_iff_eq] at zero
      omega
    have nothing := Binary64.shortestDigits_of_zero floatFormat.tie positive
    generalize x.shortestDigits floatFormat.tie = found at nothing
    obtain ⟨significand, place⟩ := found
    have whole := isWhole_toDigits significand
    simp only
    split
    · apply positionalLiteral_wellFormed _ whole
      intro alone
      have none : significand = 0 := by
        have value := congrArg digitsValue alone
        rwa [digitsValue_toDigits] at value
      rw [alone, show place = 0 from nothing none]
      simp
    · exact scientificLiteral_wellFormed _ whole _

theorem IsWhole.wellFormed (negative : Bool) (whole : IsWhole digits) :
    NumberText.WellFormed ⟨negative, digits, none, none⟩ := by
  refine ⟨whole, ?_, ?_⟩
  · intro fraction same
    cases same
  · intro negative exponent same
    cases same

theorem Number.literal_wellFormed (number : Number) : number.literal.WellFormed := by
  cases number with
  | integer n =>
      cases n with
      | ofNat n => exact (isWhole_toDigits n).wellFormed false
      | negSucc n => exact (isWhole_toDigits (n + 1)).wellFormed true
  | float x => exact floatLiteral_wellFormed x

end

section

variable {digits : List Char}

theorem NumberText.magnitude_eq {text : NumberText} {value : Nat} {place : Int}
    (digits : digitsValue text.digits = value) (placed : text.place = place) :
    text.magnitude = value * 10 ^ place := by
  rw [magnitude, digits, placed]

theorem positionalLiteral_magnitude (negative : Bool) (digits : List Char) (first : Int) :
    (positionalLiteral negative digits first).magnitude =
      digitsValue digits * 10 ^ (first + 1 - digits.length) := by
  unfold positionalLiteral
  by_cases small : first < 0
  · rw [if_pos small]
    apply NumberText.magnitude_eq
    · simp only [NumberText.digits, Option.getD_some, List.singleton_append]
      rw [← List.cons_append, digitsValue_append, ← List.replicate_succ, digitsValue_replicate,
        Nat.zero_mul, Nat.zero_add]
    · simp only [NumberText.place, NumberText.power, Option.getD_some, List.length_append,
        List.length_replicate]
      omega
  · rw [if_neg small]
    by_cases short : digits.length ≤ first.toNat + 1
    · obtain ⟨zeros, count⟩ : ∃ zeros, first.toNat + 1 = digits.length + zeros :=
        ⟨_, (Nat.add_sub_of_le short).symm⟩
      have exponent : first + 1 - digits.length = (zeros : Int) := by omega
      have padded : first.toNat + 1 - digits.length = zeros := by omega
      have value : digitsValue (digits ++ List.replicate zeros '0' ++ ['0']) =
          digitsValue digits * 10 ^ (zeros + 1) := by
        have ending : ['0'] = List.replicate 1 '0' := rfl
        rw [List.append_assoc, ending, List.replicate_append_replicate, digitsValue_append,
          digitsValue_replicate, List.length_replicate, Nat.add_zero]
      simp only [short, if_true, padded]
      have written : NumberText.magnitude
          ⟨negative, digits ++ List.replicate zeros '0', some ['0'], none⟩ =
            (digitsValue digits * 10 ^ (zeros + 1) : Nat) * 10 ^ (-1 : Int) :=
        NumberText.magnitude_eq value rfl
      rw [written, exponent, zpow_natCast, zpow_neg_one]
      push_cast
      rw [pow_succ]
      field_simp
    · simp only [short, if_false]
      apply NumberText.magnitude_eq
      · simp only [NumberText.digits, Option.getD_some, List.take_append_drop]
      · simp only [NumberText.place, NumberText.power, Option.getD_some, List.length_drop]
        omega

theorem scientificLiteral_magnitude (negative : Bool) (nonempty : digits ≠ []) (first : Int) :
    (scientificLiteral negative digits first).magnitude =
      digitsValue digits * 10 ^ (first + 1 - digits.length) := by
  have positive : 0 < digits.length := List.length_pos_iff.mpr nonempty
  have power : (scientificLiteral negative digits first).power = first := by
    simp only [NumberText.power, scientificLiteral]
    by_cases small : first < 0
    · simp only [small, decide_true, digitsValue_toDigits]
      omega
    · simp only [small, decide_false, digitsValue_toDigits]
      omega
  apply NumberText.magnitude_eq
  · simp only [NumberText.digits, scientificLiteral]
    split
    · next short => simp [List.take_of_length_le short]
    · rw [Option.getD_some, List.take_append_drop]
  · rw [NumberText.place, power]
    simp only [scientificLiteral]
    split
    · simp only [Option.getD_none, List.length_nil]
      omega
    · simp only [Option.getD_some, List.length_drop]
      omega

theorem floatLiteral_negative (x : Binary64) : (floatLiteral x).negative = x.negative := by
  unfold floatLiteral
  split
  · exact (positionalLiteral_body ..).1
  · simp only
    split
    · exact (positionalLiteral_body ..).1
    · rfl

/-- A nonzero number is written as the decimal that its shortest digits denote. -/
theorem floatLiteral_magnitude {x : Binary64} (nonzero : 0 < x.mantissa) :
    (floatLiteral x).magnitude =
      (x.shortestDigits floatFormat.tie).1 * 10 ^ (x.shortestDigits floatFormat.tie).2 := by
  have notZero : ¬ x.isZero = true := by
    simp only [Binary64.isZero, beq_iff_eq]
    omega
  unfold floatLiteral
  rw [if_neg notZero]
  generalize x.shortestDigits floatFormat.tie = found
  obtain ⟨significand, place⟩ := found
  have exponent : place + (Nat.toDigits 10 significand).length - 1 + 1 -
      (Nat.toDigits 10 significand).length = place := by omega
  simp only
  split
  · rw [positionalLiteral_magnitude, digitsValue_toDigits, exponent]
  · rw [scientificLiteral_magnitude _ Nat.toDigits_ne_nil, digitsValue_toDigits, exponent]

theorem floatLiteral_magnitude_of_zero {x : Binary64} (zero : x.mantissa = 0) :
    (floatLiteral x).magnitude = 0 := by
  have isZero : x.isZero = true := by simp [Binary64.isZero, zero]
  rw [floatLiteral, if_pos isZero, positionalLiteral_magnitude]
  simp [digitsValue, digitValue]

/-- An integer is written as itself. -/
theorem literal_rational_integer (n : Int) : (Number.integer n).literal.rational = n := by
  cases n with
  | ofNat n =>
      simp [Number.literal, NumberText.rational, NumberText.magnitude, NumberText.digits,
        NumberText.place, NumberText.power]
  | negSucc n =>
      simp [Number.literal, NumberText.rational, NumberText.magnitude, NumberText.digits,
        NumberText.place, NumberText.power]

end

end DraftBoard.Json
