import DraftBoard.Number.Shortest
import Mathlib.Algebra.Order.Field.Power
import Mathlib.Data.Rat.Cast.Order
import Mathlib.Tactic.FieldSimp
import Mathlib.Tactic.Linarith
import Mathlib.Tactic.Positivity
import Mathlib.Tactic.Ring

/-!
# Rounding to floating-point numbers

`Covers` says that a floating-point number is the one nearest to a rational number, ties
going to the even mantissa.  Every result of the arithmetic is canonical and covers the
exact result.  A canonical number that covers a value with a short enough mantissa has
that value.
-/

namespace DraftBoard.Binary64

theorem pow_toNat (base : Nat) (positive : 0 < base) (exponent : Int) :
    ((Nat.pow base exponent.toNat : Nat) : ℚ) =
      (base : ℚ) ^ exponent * (Nat.pow base (-exponent).toNat : Nat) := by
  have nonzero : (base : ℚ) ≠ 0 := Nat.cast_ne_zero.mpr positive.ne'
  obtain ⟨n, rfl | rfl⟩ := exponent.eq_nat_or_neg
  · simp
  · simp [nonzero]

theorem powerAbove_eq (exponent : Int) :
    (powerAbove exponent : ℚ) = 2 ^ exponent * powerBelow exponent :=
  pow_toNat 2 (by decide) exponent

theorem powerBelow_pos (exponent : Int) : (0 : ℚ) < powerBelow exponent :=
  Nat.cast_pos.mpr (Nat.two_pow_pos _)

theorem two_zpow_pos (exponent : Int) : (0 : ℚ) < 2 ^ exponent := by positivity

/-- A quotient scaled by a power of two, both parts of the power in place. -/
theorem scaled_div (num den : Nat) (exponent : Int) :
    ((num * powerBelow exponent : Nat) : ℚ) / (den * powerAbove exponent : Nat) =
      num / den / 2 ^ exponent := by
  have below := (powerBelow_pos exponent).ne'
  push_cast
  rw [powerAbove_eq]
  field_simp

theorem two_pow_log2_le {n : Nat} (positive : 0 < n) : (2 : ℚ) ^ (n.log2 : Int) ≤ n := by
  rw [zpow_natCast]
  exact_mod_cast Nat.log2_self_le positive.ne'

theorem lt_two_pow_log2 (n : Nat) : (n : ℚ) < 2 ^ ((n.log2 : Int) + 1) := by
  have below : n < 2 ^ (n.log2 + 1) := Nat.lt_log2_self
  have exponent : ((n.log2 : Int) + 1) = ((n.log2 + 1 : Nat) : Int) := by push_cast; rfl
  rw [exponent, zpow_natCast]
  exact_mod_cast below

theorem binaryOrder_spec {num den : Nat} (above : 0 < num) (below : 0 < den) :
    (2 : ℚ) ^ binaryOrder num den ≤ num / den ∧
      (num : ℚ) / den < 2 ^ (binaryOrder num den + 1) := by
  have denPositive : (0 : ℚ) < den := by exact_mod_cast below
  let guess : Int := num.log2 - den.log2
  have fits : den * powerAbove guess ≤ num * powerBelow guess ↔
      (2 : ℚ) ^ guess ≤ num / den := by
    have power := powerBelow_pos guess
    rw [← Nat.cast_le (α := ℚ), Nat.cast_mul, Nat.cast_mul, powerAbove_eq, ← mul_assoc,
      mul_le_mul_iff_left₀ power, mul_comm, le_div_iff₀ denPositive]
  have high : (num : ℚ) / den < 2 ^ (guess + 1) := by
    rw [div_lt_iff₀ denPositive]
    calc (num : ℚ) < 2 ^ ((num.log2 : Int) + 1) := lt_two_pow_log2 num
      _ = 2 ^ (guess + 1) * 2 ^ (den.log2 : Int) := by
          rw [← zpow_add₀ two_ne_zero]
          congr 1
          simp only [guess]
          ring
      _ ≤ 2 ^ (guess + 1) * den :=
          mul_le_mul_of_nonneg_left (two_pow_log2_le below) (two_zpow_pos _).le
  have low : (2 : ℚ) ^ (guess - 1) ≤ num / den := by
    rw [le_div_iff₀ denPositive]
    calc (2 : ℚ) ^ (guess - 1) * den ≤ 2 ^ (guess - 1) * 2 ^ ((den.log2 : Int) + 1) :=
          mul_le_mul_of_nonneg_left (lt_two_pow_log2 den).le (two_zpow_pos _).le
      _ = 2 ^ (num.log2 : Int) := by
          rw [← zpow_add₀ two_ne_zero]
          congr 1
          simp only [guess]
          ring
      _ ≤ num := two_pow_log2_le above
  unfold binaryOrder
  by_cases least : den * powerAbove guess ≤ num * powerBelow guess
  · rw [if_pos least]
    exact ⟨fits.mp least, high⟩
  · rw [if_neg least]
    refine ⟨low, ?_⟩
    rw [show guess - 1 + 1 = guess from Int.sub_add_cancel ..]
    exact lt_of_not_ge fun reached => least (fits.mpr reached)

/-- A number lies between two others, which count themselves if `closed` says so. -/
def Between (closed : Bool) (low value high : ℚ) : Prop :=
  if closed then low ≤ value ∧ value ≤ high else low < value ∧ value < high

theorem Between.le {closed : Bool} {low value high : ℚ}
    (between : Between closed low value high) : low ≤ value ∧ value ≤ high := by
  cases closed with
  | false => exact ⟨between.1.le, between.2.le⟩
  | true => exact between

theorem Between.of_lt {closed : Bool} {low value high : ℚ} (above : low < value)
    (below : value < high) : Between closed low value high := by
  cases closed with
  | false => exact ⟨above, below⟩
  | true => exact ⟨above.le, below.le⟩

theorem Between.mul {closed : Bool} {low value high factor : ℚ}
    (between : Between closed low value high) (positive : 0 < factor) :
    Between closed (low * factor) (value * factor) (high * factor) := by
  cases closed with
  | false =>
      exact ⟨mul_lt_mul_of_pos_right between.1 positive,
        mul_lt_mul_of_pos_right between.2 positive⟩
  | true =>
      exact ⟨mul_le_mul_of_nonneg_right between.1 positive.le,
        mul_le_mul_of_nonneg_right between.2 positive.le⟩

/-- A quotient is rounded by at most one half, by a whole half to an even number only. -/
theorem between_roundHalfEven (num : Nat) {den : Nat} (positive : 0 < den) :
    Between (roundHalfEven num den % 2 == 0) (roundHalfEven num den - 1 / 2)
      ((num : ℚ) / den) (roundHalfEven num den + 1 / 2) := by
  have denPositive : (0 : ℚ) < den := by exact_mod_cast positive
  have split : den * (num / den) + num % den = num := Nat.div_add_mod num den
  have small : num % den < den := Nat.mod_lt num positive
  generalize quotientIs : num / den = quotient at split
  generalize restIs : num % den = rest at split small
  have value : (num : ℚ) / den = quotient + rest / den := by
    rw [← split]
    push_cast
    field_simp
  have restNonnegative : (0 : ℚ) ≤ (rest : ℚ) / den := by positivity
  have restLess : (rest : ℚ) / den < 1 := by
    rw [div_lt_one denPositive]
    exact_mod_cast small
  have half : ∀ left right : ℚ, (rest : ℚ) / den = left / right → 0 < right →
      (rest : ℚ) * right = left * den := by
    intro left right same rightPositive
    field_simp at same
    linarith
  rw [value]
  unfold roundHalfEven
  simp only [quotientIs, restIs]
  rcases Nat.lt_trichotomy (2 * rest) den with less | same | more
  · have lessHalf : (rest : ℚ) / den < 1 / 2 := by
      rw [div_lt_div_iff₀ denPositive two_pos]
      have cast : (2 : ℚ) * rest < den := by exact_mod_cast less
      linarith
    rw [if_pos (by simp [less])]
    exact .of_lt (by linarith) (by linarith)
  · have isHalf : (rest : ℚ) / den = 1 / 2 := by
      rw [div_eq_div_iff denPositive.ne' two_ne_zero]
      have cast : (2 : ℚ) * rest = den := by exact_mod_cast same
      linarith
    rw [isHalf]
    by_cases even : quotient % 2 = 0
    · rw [if_pos (by simp [same, even])]
      simp only [even, BEq.rfl, Between, if_true]
      constructor <;> linarith
    · have odd : (quotient + 1) % 2 = 0 := by omega
      rw [if_neg (by simp [same, even])]
      simp only [odd, BEq.rfl, Between, if_true]
      push_cast
      constructor <;> linarith
  · have moreHalf : 1 / 2 < (rest : ℚ) / den := by
      rw [div_lt_div_iff₀ two_pos denPositive]
      have cast : (den : ℚ) < 2 * rest := by exact_mod_cast more
      linarith
    have notLess : ¬ 2 * rest < den := by omega
    have notSame : 2 * rest ≠ den := by omega
    rw [if_neg (by simp [notLess, notSame])]
    push_cast
    exact .of_lt (by linarith) (by linarith)

/-- The absolute value of a number. -/
def magnitude (x : Binary64) : ℚ := x.mantissa * 2 ^ x.exponent

/-- A rational number lies in the interval of a floating-point number. -/
def Covers (x : Binary64) (value : ℚ) : Prop :=
  Between x.interval.closed (x.interval.low * 2 ^ (x.exponent - 2)) value
    (x.interval.high * 2 ^ (x.exponent - 2))

/-- The form in which a number is kept: the least exponent that its mantissa allows. -/
structure Canonical (x : Binary64) : Prop where
  mantissa_lt : x.mantissa < 2 ^ 53
  least_le : leastExponent ≤ x.exponent
  le_greatest : x.exponent ≤ greatestExponent
  normal : leastExponent < x.exponent → 2 ^ 52 ≤ x.mantissa

theorem Canonical.negate {x : Binary64} (canonical : x.Canonical) : x.negate.Canonical :=
  ⟨canonical.mantissa_lt, canonical.least_le, canonical.le_greatest, canonical.normal⟩

/-- A quarter of the last place of a number. -/
theorem quarter (exponent : Int) : (2 : ℚ) ^ (exponent - 2) = 2 ^ exponent / 4 := by
  rw [zpow_sub₀ two_ne_zero]
  norm_num

theorem Covers.le {x : Binary64} {value : ℚ} (covers : x.Covers value) :
    (x.mantissa - 1 / 2) * 2 ^ x.exponent ≤ value ∧
      value ≤ (x.mantissa + 1 / 2) * 2 ^ x.exponent := by
  obtain ⟨above, below⟩ := Between.le covers
  have power := two_zpow_pos x.exponent
  rw [quarter] at above below
  constructor
  · refine le_trans ?_ above
    have low : (4 : ℚ) * x.mantissa - 2 ≤ x.interval.low := by
      have natural : 4 * x.mantissa ≤ x.interval.low + 2 := by
        unfold interval
        dsimp only
        split <;> omega
      have cast : (4 : ℚ) * x.mantissa ≤ x.interval.low + 2 := by exact_mod_cast natural
      linarith
    nlinarith
  · refine le_trans below ?_
    simp only [interval]
    push_cast
    linarith

/-- At a power of two the interval ends closer below the number. -/
theorem Covers.le_of_power {x : Binary64} {value : ℚ} (covers : x.Covers value)
    (power : x.mantissa = 2 ^ 52) (normal : leastExponent < x.exponent) :
    (x.mantissa - 1 / 4) * 2 ^ x.exponent ≤ value := by
  have above := (Between.le covers).1
  rw [quarter] at above
  have low : x.interval.low = 4 * x.mantissa - 1 := by simp [interval, power, normal]
  rw [low, power] at above
  rw [power]
  push_cast at above ⊢
  linarith

/-- A number covers what is rounded to its mantissa; below a power of two the next number
may be closer. -/
theorem covers_of_between {x : Binary64} {value : ℚ} (nonnegative : 0 ≤ value)
    (between : Between (x.mantissa % 2 == 0) (x.mantissa - 1 / 2) (value / 2 ^ x.exponent)
      (x.mantissa + 1 / 2))
    (dense : x.mantissa = 2 ^ 52 → leastExponent < x.exponent →
      (x.mantissa : ℚ) - 1 / 4 ≤ value / 2 ^ x.exponent) :
    x.Covers value := by
  have power := two_zpow_pos x.exponent
  have scaled := between.mul power
  rw [div_mul_cancel₀ value power.ne'] at scaled
  have high : (x.interval.high : ℚ) * 2 ^ (x.exponent - 2) =
      (x.mantissa + 1 / 2) * 2 ^ x.exponent := by
    rw [quarter]
    simp only [interval]
    push_cast
    ring
  unfold Covers
  rw [high]
  by_cases atPower : x.mantissa = 2 ^ 52 ∧ leastExponent < x.exponent
  · have low : x.interval.low = 4 * x.mantissa - 1 := by simp [interval, atPower]
    have closed : x.interval.closed = true := by simp [interval, atPower.1]
    have reached := (le_div_iff₀ power).mp (dense atPower.1 atPower.2)
    rw [closed, low, quarter]
    refine ⟨?_, scaled.le.2⟩
    rw [atPower.1] at reached ⊢
    push_cast at reached ⊢
    linarith
  · have low : x.interval.low = 4 * x.mantissa - 2 := by
      simp only [interval]
      rw [if_neg (by simpa using atPower)]
    by_cases nothing : x.mantissa = 0
    · have closed : x.interval.closed = true := by simp [interval, nothing]
      rw [closed, low, nothing]
      refine ⟨by simpa using nonnegative, ?_⟩
      have below := scaled.le.2
      rwa [nothing] at below
    · have lowest : ((4 * x.mantissa - 2 : Nat) : ℚ) * 2 ^ (x.exponent - 2) =
          (x.mantissa - 1 / 2) * 2 ^ x.exponent := by
        rw [quarter, Nat.cast_sub (by omega)]
        push_cast
        ring
      rw [low, lowest]
      exact scaled

section

variable {negative : Bool} {num den : Nat} {x : Binary64}

/-- The exponent that a quotient is rounded at. -/
def roundingExponent (num den : Nat) : Int := max leastExponent (binaryOrder num den - 52)

/-- The mantissa that a quotient is rounded to, before a carry. -/
def roundedMantissa (num den : Nat) : Nat :=
  roundHalfEven (num * powerBelow (roundingExponent num den))
    (den * powerAbove (roundingExponent num den))

theorem roundedMantissa_between (num : Nat) (below : 0 < den) :
    Between (roundedMantissa num den % 2 == 0) (roundedMantissa num den - 1 / 2)
      ((num : ℚ) / den / 2 ^ roundingExponent num den) (roundedMantissa num den + 1 / 2) := by
  rw [← scaled_div]
  exact between_roundHalfEven _ (Nat.mul_pos below (Nat.two_pow_pos _))

/-- A scaled quotient has at most 53 binary digits. -/
theorem scaled_lt (above : 0 < num) (below : 0 < den) :
    (num : ℚ) / den / 2 ^ roundingExponent num den < 2 ^ 53 := by
  rw [div_lt_iff₀ (two_zpow_pos _)]
  refine lt_of_lt_of_le (binaryOrder_spec above below).2 ?_
  rw [← zpow_natCast (2 : ℚ) 53, ← zpow_add₀ two_ne_zero]
  apply zpow_le_zpow_right₀ one_le_two
  unfold roundingExponent
  push_cast
  omega

/-- Above the bottom of the range it has all of them. -/
theorem le_scaled (above : 0 < num) (below : 0 < den)
    (normal : leastExponent < roundingExponent num den) :
    (2 : ℚ) ^ 52 ≤ num / den / 2 ^ roundingExponent num den := by
  have exponent : roundingExponent num den = binaryOrder num den - 52 := by
    unfold roundingExponent at normal ⊢
    omega
  rw [le_div_iff₀ (two_zpow_pos _), exponent, ← zpow_natCast (2 : ℚ) 52,
    ← zpow_add₀ two_ne_zero]
  have order : ((52 : Nat) : Int) + (binaryOrder num den - 52) = binaryOrder num den := by
    push_cast
    ring
  rw [order]
  exact (binaryOrder_spec above below).1

theorem roundedMantissa_le (above : 0 < num) (below : 0 < den) :
    roundedMantissa num den ≤ 2 ^ 53 := by
  have low := (roundedMantissa_between num below).le.1
  have high := scaled_lt above below
  by_contra more
  have cast : (2 : ℚ) ^ 53 + 1 ≤ roundedMantissa num den := by
    exact_mod_cast Nat.lt_of_not_le more
  linarith

theorem le_roundedMantissa (above : 0 < num) (below : 0 < den)
    (normal : leastExponent < roundingExponent num den) :
    2 ^ 52 ≤ roundedMantissa num den := by
  have high := (roundedMantissa_between num below).le.2
  have low := le_scaled above below normal
  by_contra less
  have cast : (roundedMantissa num den : ℚ) + 1 ≤ 2 ^ 52 := by
    exact_mod_cast Nat.lt_of_not_le less
  linarith

/-- A rounded quotient, with and without a carry. -/
theorem ofRatio_eq_some (above : 0 < num) (rounded : ofRatio negative num den = some x) :
    x.exponent ≤ greatestExponent ∧
      (roundedMantissa num den = 2 ^ 53 ∧
          x = ⟨negative, 2 ^ 52, roundingExponent num den + 1⟩ ∨
        roundedMantissa num den ≠ 2 ^ 53 ∧
          x = ⟨negative, roundedMantissa num den, roundingExponent num den⟩) := by
  have carry : (0x20000000000000 : Nat) = 2 ^ 53 := by norm_num
  have half : (0x10000000000000 : Nat) = 2 ^ 52 := by norm_num
  have exponent : max leastExponent (binaryOrder num den - 52) = roundingExponent num den := rfl
  have mantissa : roundHalfEven (num * powerBelow (roundingExponent num den))
      (den * powerAbove (roundingExponent num den)) = roundedMantissa num den := rfl
  simp only [ofRatio, if_neg above.ne', exponent, mantissa, carry, half] at rounded
  by_cases carried : roundedMantissa num den = 2 ^ 53
  · rw [if_pos carried] at rounded
    obtain ⟨fits, result⟩ := Option.ite_none_right_eq_some.mp rounded
    obtain rfl := Option.some.inj result
    exact ⟨fits, .inl ⟨carried, rfl⟩⟩
  · rw [if_neg carried] at rounded
    obtain ⟨fits, result⟩ := Option.ite_none_right_eq_some.mp rounded
    obtain rfl := Option.some.inj result
    exact ⟨fits, .inr ⟨carried, rfl⟩⟩

/-- A quotient is rounded to the nearest canonical number with the sign asked for. -/
theorem ofRatio_spec (below : 0 < den) (rounded : ofRatio negative num den = some x) :
    x.Canonical ∧ x.Covers (num / den) ∧ x.negative = negative := by
  rcases Nat.eq_zero_or_pos num with rfl | above
  · obtain rfl : zero negative = x := by simpa [ofRatio] using rounded
    refine ⟨⟨by simp [zero], le_rfl, by simp [zero, leastExponent, greatestExponent], ?_⟩, ?_,
      rfl⟩
    · intro normal
      exact absurd normal (lt_irrefl _)
    · exact covers_of_between (by simp) (by simp [zero, Between]) (by simp [zero])
  · have between := roundedMantissa_between num below
    have scaledLt := scaled_lt above below
    have value : (0 : ℚ) ≤ num / den := by positivity
    have least : leastExponent ≤ roundingExponent num den := le_max_left _ _
    obtain ⟨fits, ⟨carried, rfl⟩ | ⟨plain, rfl⟩⟩ := ofRatio_eq_some above rounded
    · refine ⟨⟨by norm_num, by simp only; omega, fits, fun _ => le_rfl⟩, ?_, rfl⟩
      have double : (2 : ℚ) ^ (roundingExponent num den + 1) =
          2 ^ roundingExponent num den * 2 := zpow_add_one₀ two_ne_zero _
      have low := between.le.1
      rw [carried] at low
      push_cast at low
      refine covers_of_between value ?_ ?_ <;>
        simp only [double, ← div_div] <;> push_cast
      · exact .of_lt (by linarith) (by linarith)
      · intro _ _
        linarith
    · have bounded := roundedMantissa_le above below
      refine ⟨⟨by simp only; omega, least, fits, le_roundedMantissa above below⟩, ?_, rfl⟩
      refine covers_of_between value between ?_
      intro power normal
      simp only at power normal ⊢
      rw [power]
      have reached := le_scaled above below normal
      push_cast
      linarith

/-- A quotient in the range of the finite numbers is rounded to one. -/
theorem ofRatio_isSome (negative : Bool) (below : 0 < den)
    (small : (num : ℚ) / den < 2 ^ (1000 : Int)) : ∃ x, ofRatio negative num den = some x := by
  rcases Nat.eq_zero_or_pos num with rfl | above
  · exact ⟨zero negative, by simp [ofRatio]⟩
  · have order : binaryOrder num den < 1000 := by
      have low := lt_of_le_of_lt (binaryOrder_spec above below).1 small
      exact (zpow_lt_zpow_iff_right₀ one_lt_two).mp low
    have fits : roundingExponent num den + 1 ≤ greatestExponent := by
      simp only [roundingExponent, leastExponent, greatestExponent]
      omega
    have exponent : max leastExponent (binaryOrder num den - 52) = roundingExponent num den := rfl
    simp only [ofRatio, if_neg above.ne', exponent]
    refine ⟨_, if_pos ?_⟩
    split
    · exact fits
    · exact le_trans (Int.le_add_one le_rfl) fits

end

/-- A canonical number that covers an integer of at most 53 binary digits, scaled by a power
of two, has that value. -/
theorem magnitude_eq_of_covers {x : Binary64} {n : Nat} {exponent : Int}
    (canonical : x.Canonical) (short : n < 2 ^ 53) (least : leastExponent ≤ exponent)
    (covers : x.Covers (n * 2 ^ exponent)) : x.magnitude = n * 2 ^ exponent := by
  have power := two_zpow_pos x.exponent
  have shortCast : (n : ℚ) + 1 ≤ 2 ^ 53 := by exact_mod_cast short
  have finer : x.exponent ≤ exponent := by
    by_contra coarser
    have more : exponent + 1 ≤ x.exponent := by omega
    have normal : leastExponent < x.exponent := by omega
    have whole : (2 : ℚ) ^ (exponent + 1) ≤ 2 ^ x.exponent :=
      zpow_le_zpow_right₀ one_le_two more
    rw [zpow_add_one₀ two_ne_zero] at whole
    have reached : (2 ^ 52 - 1 / 4 : ℚ) * 2 ^ x.exponent ≤ n * 2 ^ exponent := by
      rcases Nat.lt_or_eq_of_le (canonical.normal normal) with larger | same
      · have cast : (2 : ℚ) ^ 52 + 1 ≤ x.mantissa := by exact_mod_cast larger
        refine le_trans ?_ covers.le.1
        nlinarith
      · have cast : (x.mantissa : ℚ) = 2 ^ 52 := by rw [← same]; norm_num
        have low := covers.le_of_power same.symm normal
        rwa [cast] at low
    have small := two_zpow_pos exponent
    nlinarith
  obtain ⟨gap, rfl⟩ : ∃ gap : Nat, exponent = x.exponent + gap :=
    ⟨(exponent - x.exponent).toNat, by omega⟩
  have split : (n : ℚ) * 2 ^ (x.exponent + gap) = (n * 2 ^ gap : Nat) * 2 ^ x.exponent := by
    rw [zpow_add₀ two_ne_zero, zpow_natCast]
    push_cast
    ring
  rw [split] at covers ⊢
  have low := le_of_mul_le_mul_right covers.le.1 power
  have high := le_of_mul_le_mul_right covers.le.2 power
  have above : x.mantissa < n * 2 ^ gap + 1 := by
    have cast : (x.mantissa : ℚ) < (n * 2 ^ gap : Nat) + 1 := by linarith
    exact_mod_cast cast
  have below : n * 2 ^ gap < x.mantissa + 1 := by
    have cast : ((n * 2 ^ gap : Nat) : ℚ) < x.mantissa + 1 := by linarith
    exact_mod_cast cast
  have same : x.mantissa = n * 2 ^ gap := by omega
  rw [magnitude, same]

section

variable {x y z : Binary64}

theorem mul_ratio (x y : Binary64) :
    ((x.mantissa * y.mantissa * powerAbove (x.exponent + y.exponent) : Nat) : ℚ) /
      powerBelow (x.exponent + y.exponent) = x.magnitude * y.magnitude := by
  have below := (powerBelow_pos (x.exponent + y.exponent)).ne'
  push_cast
  rw [powerAbove_eq, ← mul_assoc, mul_div_cancel_right₀ _ below, zpow_add₀ two_ne_zero,
    magnitude, magnitude]
  ring

theorem mul_spec (product : x.mul y = some z) :
    z.Canonical ∧ z.Covers (x.magnitude * y.magnitude) ∧
      z.negative = (x.negative != y.negative) := by
  rw [← mul_ratio]
  exact ofRatio_spec (Nat.two_pow_pos _) product

theorem mul_isSome (small : x.magnitude * y.magnitude < 2 ^ (1000 : Int)) :
    ∃ z, x.mul y = some z := by
  rw [← mul_ratio] at small
  exact ofRatio_isSome _ (Nat.two_pow_pos _) small

theorem div_ratio (x y : Binary64) :
    ((x.mantissa * powerAbove (x.exponent - y.exponent) : Nat) : ℚ) /
      (y.mantissa * powerBelow (x.exponent - y.exponent) : Nat) =
        x.magnitude / y.magnitude := by
  have below := (powerBelow_pos (x.exponent - y.exponent)).ne'
  push_cast
  rw [powerAbove_eq, zpow_sub₀ two_ne_zero, magnitude, magnitude]
  field_simp

theorem div_spec (nonzero : 0 < y.mantissa) (quotient : x.div y = some z) :
    z.Canonical ∧ z.Covers (x.magnitude / y.magnitude) ∧
      z.negative = (x.negative != y.negative) := by
  rw [← div_ratio]
  exact ofRatio_spec (Nat.mul_pos nonzero (Nat.two_pow_pos _)) quotient

theorem div_isSome (nonzero : 0 < y.mantissa)
    (small : x.magnitude / y.magnitude < 2 ^ (1000 : Int)) : ∃ z, x.div y = some z := by
  rw [← div_ratio] at small
  exact ofRatio_isSome _ (Nat.mul_pos nonzero (Nat.two_pow_pos _)) small

end

end DraftBoard.Binary64
