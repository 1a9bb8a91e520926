import DraftBoard.Proofs.Number.Rounding

/-!
# Shortest digits

The shortest digits of a number denote a decimal that the number covers.  A decimal of at
most fifteen digits that a number covers is the one that is found: no other one on a grid
as coarse fits into the interval.
-/

namespace DraftBoard.Binary64

variable {tie : Tie} {x : Binary64} {place : Int}

theorem ten_zpow_pos (exponent : Int) : (0 : ℚ) < 10 ^ exponent := by positivity

/-- A comparison of two powers carries over to all exponents in that proportion. -/
theorem zpow_le_zpow_of_pow_le {p q : ℚ} (pPositive : 0 < p) (qLarge : 1 ≤ q) {i j : Nat}
    (some : i ≠ 0) (powers : p ^ i ≤ q ^ j) {n k : Int} (nonnegative : 0 ≤ n)
    (proportion : j * n ≤ i * k) : p ^ n ≤ q ^ k := by
  have qPositive : 0 < q := lt_of_lt_of_le one_pos qLarge
  rw [← pow_le_pow_iff_left₀ (zpow_pos pPositive n).le (zpow_pos qPositive k).le some]
  calc (p ^ n) ^ i = (p ^ i) ^ n := by
        rw [← zpow_natCast, zpow_comm, zpow_natCast]
    _ ≤ (q ^ j) ^ n := zpow_le_zpow_left₀ nonnegative (pow_pos pPositive i).le powers
    _ = q ^ (j * n) := by rw [← zpow_natCast, ← zpow_mul]
    _ ≤ q ^ (i * k) := zpow_le_zpow_right₀ qLarge proportion
    _ = (q ^ k) ^ i := by rw [mul_comm, zpow_mul, zpow_natCast]

theorem zpow_le_of_neg_le {p q : ℚ} (pPositive : 0 < p) (qPositive : 0 < q) {n k : Int}
    (inverse : q ^ (-k) ≤ p ^ (-n)) : p ^ n ≤ q ^ k := by
  rw [zpow_neg, zpow_neg] at inverse
  exact (inv_le_inv₀ (zpow_pos qPositive k) (zpow_pos pPositive n)).mp inverse

/-- Ten lies between `2 ^ (93 / 28)` and `2 ^ (10 / 3)`. -/
theorem ten_zpow_le_two_zpow {ten two : Int} (up : 0 ≤ ten → 10 * ten ≤ 3 * two)
    (down : ten < 0 → 93 * ten ≤ 28 * two) : (10 : ℚ) ^ ten ≤ 2 ^ two := by
  rcases Int.lt_or_le ten 0 with negative | nonnegative
  · rcases Int.lt_or_le two 0 with both | opposite
    · apply zpow_le_of_neg_le (by norm_num) two_pos
      have proportion := down negative
      exact zpow_le_zpow_of_pow_le two_pos (by norm_num) (by decide)
        (by norm_num : (2 : ℚ) ^ 93 ≤ 10 ^ 28) (by omega) (by push_cast; omega)
    · exact le_trans (zpow_le_one_of_nonpos₀ (by norm_num) negative.le)
        (one_le_zpow₀ one_le_two opposite)
  · have proportion := up nonnegative
    exact zpow_le_zpow_of_pow_le (by norm_num) one_le_two (by decide)
      (by norm_num : (10 : ℚ) ^ 3 ≤ 2 ^ 10) nonnegative (by push_cast; omega)

theorem two_zpow_le_ten_zpow {two ten : Int} (up : 0 ≤ two → 28 * two ≤ 93 * ten)
    (down : two < 0 → 3 * two ≤ 10 * ten) : (2 : ℚ) ^ two ≤ 10 ^ ten := by
  rcases Int.lt_or_le two 0 with negative | nonnegative
  · rcases Int.lt_or_le ten 0 with both | opposite
    · apply zpow_le_of_neg_le two_pos (by norm_num)
      have proportion := down negative
      exact zpow_le_zpow_of_pow_le (by norm_num) one_le_two (by decide)
        (by norm_num : (10 : ℚ) ^ 3 ≤ 2 ^ 10) (by omega) (by push_cast; omega)
    · exact le_trans (zpow_le_one_of_nonpos₀ one_le_two negative.le)
        (one_le_zpow₀ (by norm_num) opposite)
  · have proportion := up nonnegative
    exact zpow_le_zpow_of_pow_le two_pos (by norm_num) (by decide)
      (by norm_num : (2 : ℚ) ^ 93 ≤ 10 ^ 28) nonnegative (by push_cast; omega)

theorem Between.convex {closed : Bool} {low first value second high : ℚ}
    (above : Between closed low first high) (below : Between closed low second high)
    (firstLe : first ≤ value) (leSecond : value ≤ second) : Between closed low value high := by
  cases closed with
  | false => exact ⟨lt_of_lt_of_le above.1 firstLe, lt_of_le_of_lt leSecond below.2⟩
  | true => exact ⟨le_trans above.1 firstLe, le_trans leSecond below.2⟩

/-- A number covers itself. -/
theorem covers_magnitude (x : Binary64) : x.Covers x.magnitude := by
  have power := two_zpow_pos x.exponent
  have nonnegative : 0 ≤ x.magnitude := by
    unfold magnitude
    positivity
  have same : x.magnitude / 2 ^ x.exponent = x.mantissa :=
    mul_div_cancel_right₀ _ power.ne'
  apply covers_of_between nonnegative
  · rw [same]
    exact .of_lt (by linarith) (by linarith)
  · intro _ _
    rw [same]
    linarith

/-- The scale of an interval over that of a grid, above the fraction bar. -/
def gridAbove (x : Binary64) (place : Int) : Nat :=
  powerAbove (x.exponent - 2) * Nat.pow 10 (-place).toNat

/-- The same below the fraction bar. -/
def gridBelow (x : Binary64) (place : Int) : Nat :=
  powerBelow (x.exponent - 2) * Nat.pow 10 place.toNat

/-- The index of the last grid point up to a number. -/
def gridFloor (x : Binary64) (place : Int) : Nat :=
  x.interval.value * x.gridAbove place / x.gridBelow place

/-- Whether a grid point is in the interval of a number. -/
def gridInside (x : Binary64) (place : Int) (n : Nat) : Bool :=
  if x.interval.closed then
    x.interval.low * x.gridAbove place ≤ n * x.gridBelow place &&
      n * x.gridBelow place ≤ x.interval.high * x.gridAbove place
  else
    x.interval.low * x.gridAbove place < n * x.gridBelow place &&
      n * x.gridBelow place < x.interval.high * x.gridAbove place

theorem onGrid_eq (tie : Tie) (x : Binary64) (place : Int) :
    x.onGrid tie place =
      match x.gridInside place (x.gridFloor place),
        x.gridInside place (x.gridFloor place + 1) with
      | true, true =>
          let rest := 2 * (x.interval.value * x.gridAbove place % x.gridBelow place)
          let above := x.gridBelow place < rest ||
            (rest == x.gridBelow place && (tie == .up || x.gridFloor place % 2 == 1))
          some (if above then x.gridFloor place + 1 else x.gridFloor place, place)
      | true, false => some (x.gridFloor place, place)
      | false, true => some (x.gridFloor place + 1, place)
      | false, false => none :=
  rfl

/-- What the two sides of a comparison on the grid have in common. -/
theorem grid_scale (x : Binary64) (place : Int) :
    ∃ common : ℚ, 0 < common ∧
      (x.gridAbove place : ℚ) = 2 ^ (x.exponent - 2) * common ∧
      (x.gridBelow place : ℚ) = 10 ^ place * common := by
  refine ⟨powerBelow (x.exponent - 2) * (Nat.pow 10 (-place).toNat : Nat), ?_, ?_, ?_⟩
  · exact mul_pos (powerBelow_pos _) (Nat.cast_pos.mpr (Nat.pow_pos (by decide)))
  · rw [gridAbove, Nat.cast_mul, powerAbove_eq, mul_assoc]
  · rw [gridBelow, Nat.cast_mul, pow_toNat 10 (by decide)]
    push_cast
    ring

theorem gridInside_iff {n : Nat} :
    x.gridInside place n = true ↔ x.Covers (n * 10 ^ place) := by
  obtain ⟨common, positive, above, below⟩ := grid_scale x place
  have le : ∀ left right : Nat, left * x.gridAbove place ≤ right * x.gridBelow place ↔
      (left : ℚ) * 2 ^ (x.exponent - 2) ≤ right * 10 ^ place := by
    intro left right
    rw [← Nat.cast_le (α := ℚ), Nat.cast_mul, Nat.cast_mul, above, below, ← mul_assoc,
      ← mul_assoc, mul_le_mul_iff_left₀ positive]
  have ge : ∀ left right : Nat, right * x.gridBelow place ≤ left * x.gridAbove place ↔
      (right : ℚ) * 10 ^ place ≤ left * 2 ^ (x.exponent - 2) := by
    intro left right
    rw [← Nat.cast_le (α := ℚ), Nat.cast_mul, Nat.cast_mul, above, below, ← mul_assoc,
      ← mul_assoc, mul_le_mul_iff_left₀ positive]
  unfold gridInside Covers Between
  cases x.interval.closed with
  | true => simp [le, ge]
  | false => simp [← not_le, le, ge]

/-- The two grid points around a number. -/
theorem gridFloor_spec (x : Binary64) (place : Int) :
    (x.gridFloor place : ℚ) * 10 ^ place ≤ x.magnitude ∧
      x.magnitude < (x.gridFloor place + 1 : Nat) * 10 ^ place := by
  obtain ⟨common, positive, above, below⟩ := grid_scale x place
  have value : ((x.interval.value * x.gridAbove place : Nat) : ℚ) = x.magnitude * common := by
    rw [Nat.cast_mul, above, quarter, magnitude]
    simp only [interval]
    push_cast
    ring
  have divisor : 0 < x.gridBelow place := by
    have cast : (0 : ℚ) < x.gridBelow place := by
      rw [below]
      exact mul_pos (ten_zpow_pos place) positive
    exact_mod_cast cast
  have low : x.gridFloor place * x.gridBelow place ≤ x.interval.value * x.gridAbove place :=
    Nat.div_mul_le_self _ _
  have high : x.interval.value * x.gridAbove place <
      (x.gridFloor place + 1) * x.gridBelow place :=
    (Nat.div_lt_iff_lt_mul divisor).mp (Nat.lt_succ_self _)
  constructor
  · have cast : ((x.gridFloor place * x.gridBelow place : Nat) : ℚ) ≤
        (x.interval.value * x.gridAbove place : Nat) := by exact_mod_cast low
    rw [value, Nat.cast_mul, below, ← mul_assoc] at cast
    exact le_of_mul_le_mul_right cast positive
  · have cast : ((x.interval.value * x.gridAbove place : Nat) : ℚ) <
        ((x.gridFloor place + 1) * x.gridBelow place : Nat) := by exact_mod_cast high
    rw [value, Nat.cast_mul, below, ← mul_assoc] at cast
    exact lt_of_mul_lt_mul_right cast positive.le

/-- Zero is not in the interval of any other number. -/
theorem pos_of_covers {n : Nat} (positive : 0 < x.mantissa)
    (covers : x.Covers (n * 10 ^ place)) : 0 < n := by
  have low := covers.le.1
  have some : (1 : ℚ) ≤ x.mantissa := by exact_mod_cast positive
  have power := two_zpow_pos x.exponent
  rcases Nat.eq_zero_or_pos n with rfl | nonzero
  · push_cast at low
    nlinarith
  · exact nonzero

/-- A grid point that is found is in the interval. -/
theorem covers_of_onGrid {found : Nat × Int} (result : x.onGrid tie place = some found) :
    found.2 = place ∧ x.Covers (found.1 * 10 ^ place) := by
  rw [onGrid_eq] at result
  split at result
  · next first second =>
      obtain rfl := Option.some.inj result
      refine ⟨rfl, ?_⟩
      simp only
      split
      · exact gridInside_iff.mp second
      · exact gridInside_iff.mp first
  · next first second =>
      obtain rfl := Option.some.inj result
      exact ⟨rfl, gridInside_iff.mp first⟩
  · next first second =>
      obtain rfl := Option.some.inj result
      exact ⟨rfl, gridInside_iff.mp second⟩
  · cases result

/-- One is found wherever there is one: of those around the number one is as close. -/
theorem onGrid_of_covers (tie : Tie) {n : Nat} (covers : x.Covers (n * 10 ^ place)) :
    ∃ found, x.onGrid tie place = some found := by
  have power := ten_zpow_pos place
  obtain ⟨floorLe, ltNext⟩ := gridFloor_spec x place
  have inside : x.gridInside place (x.gridFloor place) = true ∨
      x.gridInside place (x.gridFloor place + 1) = true := by
    rcases Nat.lt_or_ge (x.gridFloor place) n with above | below
    · right
      have le : ((x.gridFloor place + 1 : Nat) : ℚ) * 10 ^ place ≤ n * 10 ^ place :=
        mul_le_mul_of_nonneg_right (by exact_mod_cast above) power.le
      exact gridInside_iff.mpr (x.covers_magnitude.convex covers ltNext.le le)
    · left
      have le : (n : ℚ) * 10 ^ place ≤ x.gridFloor place * 10 ^ place :=
        mul_le_mul_of_nonneg_right (by exact_mod_cast below) power.le
      exact gridInside_iff.mpr (covers.convex x.covers_magnitude le floorLe)
  rw [onGrid_eq]
  split
  · exact ⟨_, rfl⟩
  · exact ⟨_, rfl⟩
  · exact ⟨_, rfl⟩
  · next first second =>
      rw [first, second] at inside
      simp at inside

/-- The search ends on the first grid with a point in the interval. -/
theorem shortestDigits_spec (tie : Tie) {n step : Nat} (few : step < 24)
    (covers : x.Covers (n * 10 ^ (x.coarsestPlace - step))) :
    x.coarsestPlace - step ≤ (x.shortestDigits tie).2 ∧
      x.Covers ((x.shortestDigits tie).1 * 10 ^ (x.shortestDigits tie).2) := by
  have found : ∃ result, (List.range 24).findSome?
      (fun step => x.onGrid tie (x.coarsestPlace - (step : Nat))) = some result := by
    obtain ⟨here, isHere⟩ := onGrid_of_covers tie covers
    have member : (List.range 24).findSome?
        (fun step => x.onGrid tie (x.coarsestPlace - (step : Nat))) ≠ none := by
      intro nothing
      have missing := List.findSome?_eq_none_iff.mp nothing step (List.mem_range.mpr few)
      rw [isHere] at missing
      cases missing
    exact Option.ne_none_iff_exists'.mp member
  obtain ⟨result, search⟩ := found
  have same : x.shortestDigits tie = result := by rw [shortestDigits, search, Option.getD_some]
  obtain ⟨before, first, behind, range, isFirst, earlier⟩ :=
    List.findSome?_eq_some_iff.mp search
  obtain ⟨placed, covered⟩ := covers_of_onGrid isFirst
  rw [same, placed]
  refine ⟨?_, covered⟩
  have listed : step ∈ before ++ first :: behind := by
    rw [← range]
    exact List.mem_range.mpr few
  have ascending : (before ++ first :: behind).Pairwise (· < ·) := by
    rw [← range]
    exact List.pairwise_lt_range
  rcases List.mem_append.mp listed with early | later
  · obtain ⟨here, isHere⟩ := onGrid_of_covers tie covers
    rw [earlier step early] at isHere
    cases isHere
  · rcases List.mem_cons.mp later with rfl | late
    · exact le_rfl
    · have order := (List.pairwise_cons.mp (List.pairwise_append.mp ascending).2.1).1 step late
      omega

/-- The exponent of the first binary digit of a number. -/
def leadingExponent (x : Binary64) : Int := x.mantissa.log2 + x.exponent

theorem coarsestPlace_spec (x : Binary64) :
    100000 * (x.coarsestPlace - 2) ≤ 30103 * x.leadingExponent ∧
      30103 * x.leadingExponent < 100000 * (x.coarsestPlace - 1) := by
  unfold coarsestPlace leadingExponent
  omega

theorem Canonical.leadingExponent_bounds (canonical : x.Canonical) (positive : 0 < x.mantissa) :
    x.exponent ≤ x.leadingExponent ∧ x.leadingExponent ≤ x.exponent + 52 ∧
      -1074 ≤ x.leadingExponent ∧ x.leadingExponent ≤ 1023 := by
  have digits : x.mantissa.log2 < 53 := (Nat.log2_lt positive.ne').mpr canonical.mantissa_lt
  have least := canonical.least_le
  have greatest := canonical.le_greatest
  simp only [leastExponent, greatestExponent] at least greatest
  unfold leadingExponent
  omega

/-- The finest grid is finer than a quarter of the last place. -/
theorem finest_le_quarter (canonical : x.Canonical) (positive : 0 < x.mantissa) :
    (10 : ℚ) ^ (x.coarsestPlace - (23 : Nat)) ≤ 2 ^ (x.exponent - 2) := by
  obtain ⟨low, _⟩ := x.coarsestPlace_spec
  have bounds := canonical.leadingExponent_bounds positive
  apply ten_zpow_le_two_zpow <;> intro sign <;> push_cast at sign ⊢ <;> omega

/-- A grid that is so fine has a point in the interval. -/
theorem covers_gridFloor (positive : 0 < x.mantissa)
    (fine : (10 : ℚ) ^ place ≤ 2 ^ (x.exponent - 2)) :
    x.Covers (x.gridFloor place * 10 ^ place) := by
  obtain ⟨floorLe, ltNext⟩ := gridFloor_spec x place
  have quarters := two_zpow_pos (x.exponent - 2)
  have value : x.magnitude = 4 * x.mantissa * 2 ^ (x.exponent - 2) := by
    rw [magnitude, quarter]
    ring
  have low : (x.interval.low : ℚ) ≤ 4 * x.mantissa - 1 := by
    have natural : x.interval.low + 1 ≤ 4 * x.mantissa := by
      simp only [interval]
      split <;> omega
    have cast : (x.interval.low : ℚ) + 1 ≤ 4 * x.mantissa := by exact_mod_cast natural
    linarith
  rw [value] at floorLe ltNext
  apply Between.of_lt
  · push_cast at ltNext
    nlinarith
  · simp only [interval]
    push_cast
    nlinarith

/-- A nonzero number covers the decimal that its shortest digits denote. -/
theorem covers_shortestDigits (tie : Tie) (canonical : x.Canonical)
    (positive : 0 < x.mantissa) :
    x.Covers ((x.shortestDigits tie).1 * 10 ^ (x.shortestDigits tie).2) :=
  (shortestDigits_spec tie (by decide)
    (covers_gridFloor positive (finest_le_quarter canonical positive))).2

/-- The digits of a number other than zero are zero only where none have been found. -/
theorem shortestDigits_of_zero (tie : Tie) (positive : 0 < x.mantissa)
    (zero : (x.shortestDigits tie).1 = 0) : (x.shortestDigits tie).2 = 0 := by
  unfold shortestDigits at zero ⊢
  cases search : (List.range 24).findSome?
      (fun step => x.onGrid tie (x.coarsestPlace - (step : Nat))) with
  | none => rfl
  | some found =>
      rw [search, Option.getD_some] at zero
      obtain ⟨_, _, _, _, isFound, _⟩ := List.findSome?_eq_some_iff.mp search
      have covered := (covers_of_onGrid isFound).2
      exact absurd zero (pos_of_covers positive covered).ne'

section

variable {n : Nat}

theorem two_zpow_leadingExponent (positive : 0 < x.mantissa) :
    (2 : ℚ) ^ x.leadingExponent ≤ x.mantissa * 2 ^ x.exponent ∧
      ((x.mantissa : ℚ) + 1) * 2 ^ x.exponent ≤ 2 ^ (x.leadingExponent + 1) := by
  have power := (two_zpow_pos x.exponent).le
  have low := two_pow_log2_le positive
  have high : x.mantissa + 1 ≤ 2 ^ (x.mantissa.log2 + 1) := Nat.lt_log2_self
  have highCast : (x.mantissa : ℚ) + 1 ≤ 2 ^ ((x.mantissa.log2 : Int) + 1) := by
    have cast : (x.mantissa : ℚ) + 1 ≤ 2 ^ (x.mantissa.log2 + 1) := by exact_mod_cast high
    rwa [← zpow_natCast, Nat.cast_add, Nat.cast_one] at cast
  unfold leadingExponent
  constructor
  · rw [zpow_add₀ two_ne_zero]
    exact mul_le_mul_of_nonneg_right low power
  · rw [add_right_comm, zpow_add₀ two_ne_zero]
    exact mul_le_mul_of_nonneg_right highCast power

/-- The grid of a decimal of at most fifteen digits is among those that are searched. -/
theorem place_in_range (canonical : x.Canonical) (positive : 0 < x.mantissa)
    (nonzero : 0 < n) (short : n < 10 ^ 15) (covers : x.Covers (n * 10 ^ place)) :
    x.coarsestPlace - 23 ≤ place ∧ place ≤ x.coarsestPlace := by
  obtain ⟨low, high⟩ := x.coarsestPlace_spec
  have bounds := canonical.leadingExponent_bounds positive
  obtain ⟨above, below⟩ := two_zpow_leadingExponent positive
  have power := two_zpow_pos x.exponent
  have ten := ten_zpow_pos place
  have some : (1 : ℚ) ≤ x.mantissa := by exact_mod_cast positive
  have nonzeroCast : (1 : ℚ) ≤ n := by exact_mod_cast nonzero
  have shortCast : (n : ℚ) < 10 ^ 15 := by exact_mod_cast short
  have less : (10 : ℚ) ^ place < 2 ^ (x.leadingExponent + 1) := by
    have covered := covers.le.2
    nlinarith
  have more : (2 : ℚ) ^ (x.leadingExponent - 1) < 10 ^ (place + 15) := by
    have covered := covers.le.1
    have split : (10 : ℚ) ^ (place + 15) = 10 ^ place * 10 ^ 15 := by
      rw [zpow_add₀ (by norm_num)]
      rfl
    rw [zpow_sub_one₀ two_ne_zero, split]
    nlinarith
  constructor
  · by_contra outside
    apply absurd more
    rw [not_lt]
    apply ten_zpow_le_two_zpow <;> intro sign <;> omega
  · by_contra outside
    apply absurd less
    rw [not_lt]
    apply two_zpow_le_ten_zpow <;> intro sign <;> omega

/-- The interval of a number with all its binary digits is narrower than the grid of a
decimal of at most fifteen digits in it. -/
theorem lastPlace_lt (normal : 2 ^ 52 ≤ x.mantissa) (short : n < 10 ^ 15)
    (covers : x.Covers (n * 10 ^ place)) : (2 : ℚ) ^ x.exponent < 10 ^ place := by
  have power := two_zpow_pos x.exponent
  have ten := ten_zpow_pos place
  have normalCast : (2 : ℚ) ^ 52 ≤ x.mantissa := by exact_mod_cast normal
  have shortCast : (n : ℚ) < 10 ^ 15 := by exact_mod_cast short
  have covered := covers.le.1
  nlinarith

/-- A decimal of at most fifteen digits that a number covers is what its shortest digits
denote. -/
theorem shortestDigits_eq (tie : Tie) (canonical : x.Canonical) (normal : 2 ^ 52 ≤ x.mantissa)
    (nonzero : 0 < n) (short : n < 10 ^ 15) (covers : x.Covers (n * 10 ^ place)) :
    ((x.shortestDigits tie).1 : ℚ) * 10 ^ (x.shortestDigits tie).2 = n * 10 ^ place := by
  have positive : 0 < x.mantissa := by omega
  obtain ⟨fine, coarse⟩ := place_in_range canonical positive nonzero short covers
  obtain ⟨step, searched⟩ : ∃ step : Nat, place = x.coarsestPlace - step :=
    ⟨(x.coarsestPlace - place).toNat, by omega⟩
  have few : step < 24 := by omega
  rw [searched] at covers
  obtain ⟨coarser, covered⟩ := shortestDigits_spec tie few covers
  rw [← searched] at covers coarser
  generalize (x.shortestDigits tie).1 = found at covered ⊢
  generalize (x.shortestDigits tie).2 = foundPlace at coarser covered ⊢
  -- Both decimals are multiples of the finer power of ten.
  obtain ⟨gap, rfl⟩ : ∃ gap : Nat, foundPlace = place + gap :=
    ⟨(foundPlace - place).toNat, by omega⟩
  have split : (found : ℚ) * 10 ^ (place + gap) = (found * 10 ^ gap : Nat) * 10 ^ place := by
    rw [zpow_add₀ (by norm_num), zpow_natCast]
    push_cast
    ring
  rw [split] at covered ⊢
  have ten := ten_zpow_pos place
  have narrow := lastPlace_lt normal short covers
  have first := covers.le
  have second := covered.le
  have above : n < found * 10 ^ gap + 1 := by
    have cast : (n : ℚ) < (found * 10 ^ gap : Nat) + 1 := by nlinarith
    exact_mod_cast cast
  have below : found * 10 ^ gap < n + 1 := by
    have cast : ((found * 10 ^ gap : Nat) : ℚ) < n + 1 := by nlinarith
    exact_mod_cast cast
  have same : found * 10 ^ gap = n := by omega
  rw [same]

end

end DraftBoard.Binary64
