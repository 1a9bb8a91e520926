import DraftBoard.Proofs.Json.Literals

/-!
# Numbers as they are read

A literal is read as an integer or as a canonical floating-point number, which covers
the decimal that it is written as.  That decimal is the one of the literal if it is an
integer of 64 bits, or if it has at most fifteen digits and a small enough exponent.
-/

namespace DraftBoard.Json

open Binary64

section

variable {up : Nat}

/-- Numbers far below the end of the range. -/
theorem lt_range {value : ℚ} (small : value < 2 ^ (200 : Int)) : value < 2 ^ (1000 : Int) :=
  lt_of_lt_of_le small (zpow_le_zpow_right₀ one_le_two (by decide))

/-- A power of ten with an odd part of at most 53 binary digits is rounded to itself. -/
theorem tenTo_spec (small : up ≤ 22) :
    (tenTo up).magnitude = 10 ^ up ∧ (tenTo up).negative = false ∧
      0 < (tenTo up).mantissa := by
  have value : ((Nat.pow 10 up : Nat) : ℚ) / (1 : Nat) = 10 ^ up := by
    rw [Nat.cast_one, div_one]
    exact Nat.cast_pow 10 up
  have inRange : ((Nat.pow 10 up : Nat) : ℚ) / (1 : Nat) < 2 ^ (1000 : Int) := by
    have bound : (10 : ℚ) ^ up ≤ 10 ^ 22 := pow_le_pow_right₀ (by norm_num) small
    rw [value]
    exact lt_range (lt_of_le_of_lt bound (by norm_num))
  obtain ⟨x, rounded⟩ := ofRatio_isSome false Nat.one_pos inRange
  obtain ⟨canonical, covers, sign⟩ := ofRatio_spec Nat.one_pos rounded
  have same : tenTo up = x := by rw [tenTo, rounded, Option.getD_some]
  have parts : (10 : ℚ) ^ up = (5 ^ up : Nat) * 2 ^ (up : Int) := by
    rw [zpow_natCast, Nat.cast_pow, Nat.cast_ofNat, ← mul_pow]
    norm_num
  have short : 5 ^ up < 2 ^ 53 :=
    lt_of_le_of_lt (Nat.pow_le_pow_right (by decide) small) (by norm_num)
  have least : leastExponent ≤ up := le_trans (by decide) (Int.natCast_nonneg up)
  rw [value, parts] at covers
  have exact := magnitude_eq_of_covers canonical short least covers
  rw [← parts] at exact
  rw [same]
  refine ⟨exact, sign, Nat.pos_of_ne_zero ?_⟩
  intro zero
  rw [magnitude, zero, Nat.cast_zero, zero_mul] at exact
  exact absurd exact.symm (by positivity)

/-- No power of ten that divides is zero. -/
theorem tenTo_pos : ∀ up ≤ 308, 0 < (tenTo up).mantissa := by
  decide +kernel

end

theorem scaleDown_canonical {steps exponent : Nat} {x y : Binary64} (canonical : x.Canonical)
    (enough : exponent ≤ 308 * (steps + 1)) (scaled : scaleDown x steps exponent = some y) :
    y.Canonical := by
  induction steps generalizing x exponent with
  | zero => exact (div_spec (tenTo_pos exponent (by omega)) scaled).1
  | succ steps ih =>
      rw [scaleDown] at scaled
      split at scaled
      · next last => exact (div_spec (tenTo_pos exponent last) scaled).1
      · split at scaled
        · obtain rfl := Option.some.inj scaled
          exact canonical
        · obtain ⟨z, divided, further⟩ := Option.bind_eq_some_iff.mp scaled
          exact ih (div_spec (tenTo_pos 308 le_rfl) divided).1 (by omega) further

/-- Whatever a literal is scaled to is canonical. -/
theorem scale_canonical {significand : Nat} {exponent : Int} {y : Binary64}
    (scaled : scale significand exponent = some y) : y.Canonical := by
  obtain ⟨x, rounded, scaled⟩ := Option.bind_eq_some_iff.mp scaled
  have canonical := (ofRatio_spec Nat.one_pos rounded).1
  cases exponent with
  | ofNat up =>
      simp only at scaled
      split at scaled
      · exact (mul_spec scaled).1
      · split at scaled
        · obtain rfl := Option.some.inj scaled
          exact canonical
        · cases scaled
  | negSucc down => exact scaleDown_canonical canonical (by omega) scaled

section

variable {significand : Nat} {exponent : Int}

/-- A number that covers a decimal of units or of few places behind the point has all its
binary digits. -/
theorem normal_of_covers {x : Binary64} (canonical : x.Canonical) (nonzero : 0 < significand)
    (few : -22 ≤ exponent) (covers : x.Covers (significand * 10 ^ exponent)) :
    2 ^ 52 ≤ x.mantissa := by
  by_contra subnormal
  have least : x.exponent = leastExponent := by
    by_contra other
    have above := canonical.least_le
    exact subnormal (canonical.normal (by omega))
  have high := covers.le.2
  rw [least] at high
  have mantissa : (x.mantissa : ℚ) + 1 ≤ 2 ^ 53 := by exact_mod_cast canonical.mantissa_lt
  have some : (1 : ℚ) ≤ significand := by exact_mod_cast nonzero
  have ten : (10 : ℚ) ^ (-22 : Int) ≤ 10 ^ exponent := zpow_le_zpow_right₀ (by norm_num) few
  have tiny : (2 : ℚ) ^ (-1021 : Int) < 10 ^ (-22 : Int) := by
    refine lt_of_lt_of_le (zpow_lt_zpow_right₀ one_lt_two (by decide : (-1021 : Int) < -100)) ?_
    exact two_zpow_le_ten_zpow (by decide) (by decide)
  have split : (2 : ℚ) ^ (-1021 : Int) = 2 ^ 53 * 2 ^ leastExponent := by
    rw [leastExponent, ← zpow_natCast, ← zpow_add₀ two_ne_zero]
    rfl
  have power := two_zpow_pos leastExponent
  have positive := ten_zpow_pos exponent
  nlinarith

/-- A significand of at most fifteen digits is exact. -/
theorem ofRatio_of_short (short : significand < 10 ^ 15) :
    ∃ x, ofRatio false significand 1 = some x ∧ x.magnitude = significand ∧
      x.negative = false := by
  have shortCast : (significand : ℚ) < 10 ^ 15 := by exact_mod_cast short
  have whole : (significand : ℚ) / (1 : Nat) = significand * 2 ^ (0 : Int) := by simp
  have inRange : (significand : ℚ) / (1 : Nat) < 2 ^ (1000 : Int) := by
    apply lt_range
    rw [whole]
    norm_num
    linarith
  obtain ⟨x, rounded⟩ := ofRatio_isSome false Nat.one_pos inRange
  obtain ⟨canonical, covers, sign⟩ := ofRatio_spec Nat.one_pos rounded
  rw [whole] at covers
  refine ⟨x, rounded, ?_, sign⟩
  rw [magnitude_eq_of_covers canonical (lt_trans short (by norm_num)) (by decide) covers,
    zpow_zero, mul_one]

/-- A significand of at most fifteen digits is scaled with one rounding, if the power of ten
is exact too. -/
theorem scale_of_short (short : significand < 10 ^ 15) (low : -22 ≤ exponent)
    (high : exponent ≤ 22) :
    ∃ x, scale significand exponent = some x ∧ x.negative = false ∧ x.Canonical ∧
      x.Covers (significand * 10 ^ exponent) := by
  obtain ⟨x, rounded, exact, sign⟩ := ofRatio_of_short short
  have shortCast : (significand : ℚ) < 10 ^ 15 := by exact_mod_cast short
  have bounded : (significand : ℚ) * 10 ^ exponent < 2 ^ (1000 : Int) := by
    apply lt_range
    have bound : (10 : ℚ) ^ exponent ≤ 10 ^ (22 : Int) := zpow_le_zpow_right₀ (by norm_num) high
    have positive := ten_zpow_pos exponent
    norm_num at bound ⊢
    nlinarith
  rw [scale, rounded]
  cases exponent with
  | ofNat up =>
      have few : up ≤ 22 := by simpa using high
      obtain ⟨power, powerSign, _⟩ := tenTo_spec few
      have product : x.magnitude * (tenTo up).magnitude =
          significand * 10 ^ (Int.ofNat up) := by
        rw [exact, power, Int.ofNat_eq_natCast, zpow_natCast]
      rw [← product] at bounded
      obtain ⟨y, result⟩ := mul_isSome bounded
      obtain ⟨canonical, covers, resultSign⟩ := mul_spec result
      rw [product] at covers
      rw [sign, powerSign] at resultSign
      have small : up ≤ 308 := by omega
      exact ⟨y, (if_pos small).trans result, resultSign, canonical, covers⟩
  | negSucc down =>
      have few : down + 1 ≤ 22 := by omega
      obtain ⟨power, powerSign, powerPositive⟩ := tenTo_spec few
      have quotient : x.magnitude / (tenTo (down + 1)).magnitude =
          significand * 10 ^ (Int.negSucc down) := by
        rw [exact, power, zpow_negSucc, div_eq_mul_inv]
      rw [← quotient] at bounded
      obtain ⟨y, result⟩ := div_isSome powerPositive bounded
      obtain ⟨canonical, covers, resultSign⟩ := div_spec powerPositive result
      rw [quotient] at covers
      rw [sign, powerSign] at resultSign
      have small : down + 1 ≤ 308 := by omega
      exact ⟨y, (if_pos small).trans result, resultSign, canonical, covers⟩

end

/-- A number with a mantissa in its form. -/
def Number.Canonical : Number → Prop
  | .integer _ => True
  | .float x => x.Canonical

/-- A number is the one nearest to a rational number; an integer is that number. -/
def Number.Covers : Number → ℚ → Prop
  | .integer n, value => value = n
  | .float x, value => x.Covers (if x.negative then -value else value)

/-- A number covers what its text denotes. -/
theorem Number.covers_literal {number : Number} (canonical : number.Canonical) :
    number.Covers number.literal.rational := by
  cases number with
  | integer n => exact literal_rational_integer n
  | float x =>
      have magnitude : (if x.negative then -(floatLiteral x).rational
          else (floatLiteral x).rational) = (floatLiteral x).magnitude := by
        rw [NumberText.rational, floatLiteral_negative]
        cases x.negative <;> simp
      rw [Covers, literal, magnitude]
      rcases Nat.eq_zero_or_pos x.mantissa with zero | nonzero
      · rw [floatLiteral_magnitude_of_zero zero]
        have covers := x.covers_magnitude
        rwa [Binary64.magnitude, zero, Nat.cast_zero, zero_mul] at covers
      · rw [floatLiteral_magnitude nonzero]
        exact covers_shortestDigits _ canonical nonzero

namespace NumberText

variable {text : NumberText} {number : Number}

theorem canonical_finish {negative : Bool} {x : Option Binary64}
    (canonical : ∀ y, x = some y → y.Canonical)
    (finished : value?.finish negative x = some number) : number.Canonical := by
  obtain ⟨y, isSome, rfl⟩ := Option.map_eq_some_iff.mp finished
  have formed := canonical y isSome
  cases negative with
  | false => exact formed
  | true => exact formed.negate

/-- A literal is read as a canonical number. -/
theorem canonical_value? (read : text.value? = some number) : number.Canonical := by
  have scaled : ∀ {negative : Bool} {significand : Nat} {exponent : Int},
      value?.finish negative (scale significand exponent) = some number →
      number.Canonical :=
    canonical_finish fun y => scale_canonical
  unfold value? at read
  simp only at read
  split at read
  · split at read
    · obtain rfl := Option.some.inj read
      trivial
    · split at read
      · obtain rfl := Option.some.inj read
        trivial
      · exact scaled read
  · exact scaled read

theorem gather_digits {whole fraction : List Char}
    (fits : digitsValue (whole ++ fraction) < 2 ^ 64) :
    gather 0 whole = (digitsValue whole, 0) ∧
      gather (digitsValue whole) fraction = (digitsValue (whole ++ fraction), 0) := by
  have together : digitsValue (whole ++ fraction) =
      Nat.ofDigitChars 10 fraction (digitsValue whole) := Nat.ofDigitChars_append 0
  have limit : (0x10000000000000000 : Nat) = 2 ^ 64 := by norm_num
  have most : digitsValue whole < 2 ^ 64 := by
    rw [together] at fits
    exact lt_of_le_of_lt (le_ofDigitChars fraction _) fits
  rw [together] at fits ⊢
  rw [← limit] at fits most
  exact ⟨gather_eq most, gather_eq fits⟩

/-- Neither a point nor an exponent. -/
def IsInteger (text : NumberText) : Prop := text.fraction = none ∧ text.exponent = none

instance (text : NumberText) : Decidable text.IsInteger :=
  inferInstanceAs (Decidable (_ ∧ _))

/-- A literal of integer form that fits into 64 bits is read as that integer, unless it is a
negative zero. -/
theorem value?_of_integer (form : text.IsInteger)
    (fits : digitsValue text.digits < 2 ^ 64)
    (signed : text.negative = true →
      0 < digitsValue text.digits ∧ digitsValue text.digits ≤ 2 ^ 63) :
    ∃ n : Int, text.value? = some (.integer n) ∧ text.rational = n := by
  obtain ⟨negative, whole, fraction, exponent⟩ := text
  obtain ⟨rfl, rfl⟩ := form
  have alone : digits ⟨negative, whole, none, none⟩ = whole := List.append_nil whole
  have gathered := (gather_digits fits).1
  simp only [alone] at signed
  cases negative with
  | false =>
      refine ⟨digitsValue whole, ?_, ?_⟩
      · simp [value?, gathered]
      · simp [rational, magnitude, alone, place, power]
  | true =>
      obtain ⟨positive, least⟩ := signed rfl
      have limit : (0x8000000000000000 : Nat) = 2 ^ 63 := by norm_num
      rw [← limit] at least
      refine ⟨-digitsValue whole, ?_, ?_⟩
      · simp [value?, gathered, positive, least]
      · simp [rational, magnitude, alone, place, power]

/-- Any other literal with so few digits is read as its digits, scaled. -/
theorem value?_of_decimal
    (form : text.IsInteger → text.negative = true ∧ digitsValue text.digits = 0)
    (fits : digitsValue text.digits < 2 ^ 64) :
    text.value? =
      value?.finish text.negative (scale (digitsValue text.digits) text.place) := by
  obtain ⟨negative, whole, fraction, exponent⟩ := text
  obtain ⟨first, second⟩ := gather_digits fits
  cases fraction with
  | none =>
      cases exponent with
      | none =>
          obtain ⟨rfl, zero⟩ := form ⟨rfl, rfl⟩
          have alone : digits ⟨true, whole, none, none⟩ = whole := List.append_nil whole
          rw [alone] at zero ⊢
          simp [value?, first, zero, place, power]
      | some parts =>
          obtain ⟨sign, exponent⟩ := parts
          simp only [value?, first, Option.getD_none]
          cases sign <;> simp [digits, place, power, gather]
  | some fraction =>
      simp only [Option.getD_some] at second
      cases exponent with
      | none =>
          simp only [value?, first, second, Option.getD_some]
          simp [digits, place, power]
      | some parts =>
          obtain ⟨sign, exponent⟩ := parts
          simp only [value?, first, second, Option.getD_some]
          cases sign <;> simp [digits, place, power, neg_add_eq_sub]

/-- A literal that is written back as a literal of the same number: an integer of 64 bits,
or a decimal of at most fifteen digits whose last place is at most 22 places away from the
point. -/
def Kept (text : NumberText) : Prop :=
  (text.IsInteger ∧
    digitsValue text.digits < if text.negative then 2 ^ 63 + 1 else 2 ^ 64) ∨
  (digitsValue text.digits < 10 ^ 15 ∧ -22 ≤ text.place ∧ text.place ≤ 22)

instance (text : NumberText) : Decidable text.Kept :=
  inferInstanceAs (Decidable (_ ∨ _))

theorem Kept.fits (kept : text.Kept) : digitsValue text.digits < 2 ^ 64 := by
  rcases kept with ⟨_, fits⟩ | ⟨short, _⟩
  · refine lt_of_lt_of_le fits ?_
    split <;> norm_num
  · exact lt_trans short (by norm_num)

/-- A float that covers a short decimal is written as it. -/
theorem floatLiteral_of_short {x : Binary64} {significand : Nat} {exponent : Int}
    (canonical : x.Canonical) (short : significand < 10 ^ 15) (low : -22 ≤ exponent)
    (covers : x.Covers (significand * 10 ^ exponent)) :
    (floatLiteral x).magnitude = significand * 10 ^ exponent := by
  rcases Nat.eq_zero_or_pos significand with rfl | nonzero
  · have zero : x.mantissa = 0 := by
      by_contra other
      exact absurd (pos_of_covers (Nat.pos_of_ne_zero other) covers) (lt_irrefl 0)
    rw [floatLiteral_magnitude_of_zero zero, Nat.cast_zero, zero_mul]
  · have normal := normal_of_covers canonical nonzero low covers
    rw [floatLiteral_magnitude (by omega),
      shortestDigits_eq _ canonical normal nonzero short covers]

/-- What is kept is read as a number that is written as the same one. -/
theorem Kept.rational_eq (kept : text.Kept) :
    ∃ number, text.value? = some number ∧ number.literal.rational = text.rational := by
  by_cases integer : text.IsInteger ∧
      (text.negative = true → 0 < digitsValue text.digits)
  · obtain ⟨form, positive⟩ := integer
    have most : text.negative = true → digitsValue text.digits ≤ 2 ^ 63 := by
      intro negative
      rcases kept with ⟨_, fits⟩ | ⟨short, _⟩
      · rw [if_pos negative] at fits
        omega
      · omega
    obtain ⟨n, read, value⟩ := value?_of_integer form kept.fits
      fun negative => ⟨positive negative, most negative⟩
    exact ⟨_, read, by rw [literal_rational_integer, value]⟩
  · have decimal : text.IsInteger → text.negative = true ∧ digitsValue text.digits = 0 := by
      intro form
      simp only [form, true_and, Classical.not_imp] at integer
      exact ⟨integer.1, by omega⟩
    have small : digitsValue text.digits < 10 ^ 15 ∧ -22 ≤ text.place ∧ text.place ≤ 22 := by
      rcases kept with ⟨form, _⟩ | small
      · obtain ⟨_, zero⟩ := decimal form
        obtain ⟨noFraction, noExponent⟩ := form
        simp [zero, place, power, noFraction, noExponent]
      · exact small
    obtain ⟨short, low, high⟩ := small
    obtain ⟨x, scaled, sign, canonical, covers⟩ := scale_of_short short low high
    rw [value?_of_decimal decimal kept.fits, scaled]
    refine ⟨_, rfl, ?_⟩
    rw [Number.literal, rational, rational, floatLiteral_negative]
    cases text.negative with
    | false =>
        have written : (floatLiteral x).magnitude = text.magnitude :=
          floatLiteral_of_short canonical short low covers
        simp [sign, written]
    | true =>
        have written : (floatLiteral x.negate).magnitude = text.magnitude :=
          floatLiteral_of_short canonical.negate short low covers
        have negated : x.negate.negative = true := by simp [negate, sign]
        simp [negated, written]

end NumberText

end DraftBoard.Json
