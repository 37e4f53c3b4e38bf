import Mathlib.Algebra.Order.Floor.Ring
import Mathlib.Data.Int.ConditionallyCompleteOrder
import Mathlib.Data.Int.Log
import Mathlib.Data.Rat.Floor
import Mathlib.Tactic.FieldSimp
import Mathlib.Tactic.Linarith
import Mathlib.Tactic.Positivity

/-! # Rounding rationals

Rounding to multiples of a unit, to significant digits, and to both: what two roundings in a
row leave is not moved by the same two roundings again, whichever way they round.
-/

namespace Foundation

/-- A way of rounding to integers. -/
structure Rounding where
  toInt : ℚ → ℤ
  toInt_intCast : ∀ number : ℤ, toInt number = number
  monotone : Monotone toInt

namespace Rounding

/-- To the nearest integer, and to the even one of two that are as near. -/
def nearestEven (number : ℚ) : ℤ :=
  if number - ⌊number⌋ < 1 / 2 then ⌊number⌋
  else if 1 / 2 < number - ⌊number⌋ then ⌊number⌋ + 1
  else if ⌊number⌋ % 2 = 0 then ⌊number⌋
  else ⌊number⌋ + 1

/-- An integer is its own nearest one. -/
theorem nearestEven_intCast (number : ℤ) : nearestEven number = number := by
  rw [nearestEven, Int.floor_intCast, sub_self, if_pos (by norm_num)]

/-- The nearest integer is the floor or the one above it. -/
theorem floor_le_nearestEven (number : ℚ) : ⌊number⌋ ≤ nearestEven number := by
  unfold nearestEven
  split_ifs <;> omega

/-- The nearest integer is at most one above the floor. -/
theorem nearestEven_le_floor (number : ℚ) : nearestEven number ≤ ⌊number⌋ + 1 := by
  unfold nearestEven
  split_ifs <;> omega

/-- Rounding to the nearest integer is monotone. -/
theorem nearestEven_monotone : Monotone nearestEven := by
  intro less more below
  rcases (Int.floor_le_floor below).lt_or_eq with apart | level
  · exact (nearestEven_le_floor less).trans (le_trans apart (floor_le_nearestEven more))
  · unfold nearestEven
    rw [← level]
    split_ifs <;> first | omega | linarith

/-- Bankers' rounding. -/
def halfEven : Rounding := ⟨nearestEven, nearestEven_intCast, nearestEven_monotone⟩

def down : Rounding := ⟨Int.floor, Int.floor_intCast, Int.floor_mono⟩

def up : Rounding := ⟨Int.ceil, Int.ceil_intCast, Int.ceil_mono⟩

variable (rounding : Rounding) {unit number : ℚ} {digits : ℕ}

/-! ## Multiples of a unit -/

/-- A multiple of the unit. -/
def toUnit (unit number : ℚ) : ℚ := rounding.toInt (number / unit) * unit

/-- A multiple is not moved. -/
theorem toUnit_multiple (positive : 0 < unit) (times : ℤ) :
    rounding.toUnit unit (times * unit) = times * unit := by
  rw [toUnit, mul_div_cancel_right₀ _ positive.ne', rounding.toInt_intCast]

/-- Rounding stays within a multiple of the unit. -/
theorem toUnit_within (positive : 0 < unit) {times : ℤ} (within : |number| ≤ times * unit) :
    |rounding.toInt (number / unit)| ≤ times := by
  obtain ⟨low, high⟩ := abs_le.mp within
  have above : number / unit ≤ times := (div_le_iff₀ positive).mpr high
  have below : ((-times : ℤ) : ℚ) ≤ number / unit := by
    rw [le_div_iff₀ positive, Int.cast_neg, neg_mul]
    exact low
  have upper := rounding.monotone above
  have lower := rounding.monotone below
  rw [rounding.toInt_intCast] at upper lower
  exact abs_le.mpr ⟨lower, upper⟩

/-! ## Significant digits -/

/-- The unit of the last significant digit. -/
def lastUnit (digits : ℕ) (number : ℚ) : ℚ := (10 : ℚ) ^ (Int.log 10 |number| - digits + 1)

theorem power_pos (exponent : ℤ) : (0 : ℚ) < 10 ^ exponent := zpow_pos (by norm_num) exponent

theorem lastUnit_pos (digits : ℕ) (number : ℚ) : 0 < lastUnit digits number := power_pos _

/-- Rounded to a number of significant digits. -/
def toSignificant (digits : ℕ) (number : ℚ) : ℚ :=
  if number = 0 then 0 else rounding.toUnit (lastUnit digits number) number

/-- No more than the digits are significant. -/
def Significant (digits : ℕ) (number : ℚ) : Prop :=
  ∃ (coefficient exponent : ℤ), |coefficient| ≤ 10 ^ digits ∧
    number = coefficient * (10 : ℚ) ^ exponent

/-- What is rounded to some digits has no more than those. -/
theorem toSignificant_significant (number : ℚ) :
    Significant digits (rounding.toSignificant digits number) := by
  unfold toSignificant
  split
  · exact ⟨0, 0, by simp, by simp⟩
  · rename_i nonzero
    refine ⟨rounding.toInt (number / lastUnit digits number), _, ?_, rfl⟩
    have size := Int.lt_zpow_succ_log_self (b := 10) (by norm_num) |number|
    have last : ((10 ^ digits : ℤ) : ℚ) * lastUnit digits number =
        (10 : ℚ) ^ (Int.log 10 |number| + 1) := by
      rw [lastUnit, Int.cast_pow, Int.cast_ofNat, ← zpow_natCast, ← zpow_add₀ (by norm_num)]
      congr 1
      omega
    refine rounding.toUnit_within (lastUnit_pos digits number) ?_
    rw [last]
    exact size.le

/-- A larger power of ten is a multiple of a smaller one. -/
theorem multiple_of_le {small large : ℤ} (below : small ≤ large) :
    ∃ times : ℤ, (10 : ℚ) ^ large = times * (10 : ℚ) ^ small := by
  obtain ⟨gap, rfl⟩ := Int.le.dest below
  refine ⟨10 ^ gap, ?_⟩
  rw [zpow_add₀ (by norm_num), zpow_natCast, Int.cast_pow, Int.cast_ofNat, mul_comm]

/-- A number of no more digits is not moved. -/
theorem toSignificant_of_significant (some : 0 < digits) (significant : Significant digits number) :
    rounding.toSignificant digits number = number := by
  obtain ⟨coefficient, exponent, small, rfl⟩ := significant
  unfold toSignificant
  split
  · rename_i zero
    exact zero.symm
  · rename_i nonzero
    generalize same : (coefficient : ℚ) * (10 : ℚ) ^ exponent = number at nonzero ⊢
    have low := Int.zpow_log_le_self (b := 10) (by norm_num) (abs_pos.mpr nonzero)
    have high : |number| ≤ (10 : ℚ) ^ (digits + exponent : ℤ) := by
      rw [← same, abs_mul, abs_of_pos (power_pos exponent),
        zpow_add₀ (by norm_num), zpow_natCast]
      refine mul_le_mul_of_nonneg_right ?_ (power_pos exponent).le
      rw [← Int.cast_abs]
      exact_mod_cast small
    -- either the last digit is no larger than the unit, or the number is a power of ten
    rcases le_or_gt (Int.log 10 |number| - digits + 1) exponent with fine | coarse
    · obtain ⟨times, split⟩ := multiple_of_le fine
      have multiple : number = ((coefficient * times : ℤ) : ℚ) * lastUnit digits number := by
        rw [Int.cast_mul, mul_assoc, lastUnit, ← split, same]
      have fixed := rounding.toUnit_multiple (lastUnit_pos digits number)
        (coefficient * times)
      rwa [← multiple] at fixed
    · have power : |number| = (10 : ℚ) ^ (digits + exponent : ℤ) := by
        refine le_antisymm high (le_trans ?_ low)
        exact zpow_le_zpow_right₀ (by norm_num) (by omega)
      have log : Int.log 10 |number| = digits + exponent := by
        rw [power]
        exact_mod_cast Int.log_zpow (R := ℚ) (b := 10) (by norm_num) (digits + exponent)
      have unit : |number| = ((10 ^ (digits - 1) : ℤ) : ℚ) * lastUnit digits number := by
        rw [lastUnit, log, power, Int.cast_pow, Int.cast_ofNat, ← zpow_natCast,
          ← zpow_add₀ (by norm_num)]
        congr 1
        omega
      rcases abs_choice number with plain | negated
      · have fixed := rounding.toUnit_multiple (lastUnit_pos digits number)
          (10 ^ (digits - 1))
        rwa [← unit, plain] at fixed
      · have fixed := rounding.toUnit_multiple (lastUnit_pos digits number)
          (-10 ^ (digits - 1))
        rwa [Int.cast_neg, neg_mul, ← unit, negated, neg_neg] at fixed

/-! ## Both roundings -/

/-- The unit of a number of fraction digits. -/
def place (places : ℕ) : ℚ := (10 : ℚ) ^ (-(places : ℤ))

theorem place_pos (places : ℕ) : 0 < place places := power_pos _

/-- An integer has no fraction digits. -/
theorem toUnit_intCast (places : ℕ) (whole : ℤ) :
    rounding.toUnit (place places) whole = whole := by
  obtain ⟨times, split⟩ := multiple_of_le (show -(places : ℤ) ≤ 0 by omega)
  have fixed := rounding.toUnit_multiple (place_pos places) (whole * times)
  rwa [Int.cast_mul, mul_assoc, place, ← split, zpow_zero, mul_one] at fixed

/-- To significant digits first and to fraction digits then. -/
def toPlaces (digits places : ℕ) (number : ℚ) : ℚ :=
  rounding.toUnit (place places) (rounding.toSignificant digits number)

/-- To fraction digits, a number keeps its significant digits. -/
theorem toUnit_significant {places : ℕ} (significant : Significant digits number) :
    Significant digits (rounding.toUnit (place places) number) := by
  obtain ⟨coefficient, exponent, small, rfl⟩ := significant
  rcases le_or_gt (-(places : ℤ)) exponent with fine | coarse
  · obtain ⟨times, split⟩ := multiple_of_le fine
    refine ⟨coefficient, exponent, small, ?_⟩
    have fixed := rounding.toUnit_multiple (place_pos places) (coefficient * times)
    rwa [Int.cast_mul, mul_assoc, place, ← split] at fixed
  · refine ⟨_, -(places : ℤ), rounding.toUnit_within (place_pos places) ?_, rfl⟩
    rw [abs_mul, abs_of_pos (power_pos exponent), ← Int.cast_abs]
    refine mul_le_mul (by exact_mod_cast small) ?_ (power_pos exponent).le (by positivity)
    exact zpow_le_zpow_right₀ (by norm_num) coarse.le

/-- **Rounding twice is rounding once.** -/
theorem toPlaces_idem (some : 0 < digits) (places : ℕ) (number : ℚ) :
    rounding.toPlaces digits places (rounding.toPlaces digits places number) =
      rounding.toPlaces digits places number := by
  have significant : Significant digits (rounding.toUnit (place places)
      (rounding.toSignificant digits number)) :=
    rounding.toUnit_significant (rounding.toSignificant_significant number)
  have kept := rounding.toSignificant_of_significant some significant
  rw [toPlaces, toPlaces, kept, toUnit]
  exact rounding.toUnit_multiple (place_pos places) _

/-! ## Order -/

/-- Rounding to a unit is monotone, in every mode. -/
theorem toUnit_mono (positive : 0 < unit) {less more : ℚ} (below : less ≤ more) :
    rounding.toUnit unit less ≤ rounding.toUnit unit more := by
  have quotients : less / unit ≤ more / unit := div_le_div_of_nonneg_right below positive.le
  exact mul_le_mul_of_nonneg_right (Int.cast_le.mpr (rounding.monotone quotients)) positive.le

/-- A multiple below a number stays below it. -/
theorem le_toUnit (positive : 0 < unit) {times : ℤ} (below : times * unit ≤ number) :
    times * unit ≤ rounding.toUnit unit number := by
  have grows := rounding.toUnit_mono positive below
  rwa [rounding.toUnit_multiple positive] at grows

/-- Rounding does not pass a multiple of the unit above the number. -/
theorem toUnit_le (positive : 0 < unit) {times : ℤ} (above : number ≤ times * unit) :
    rounding.toUnit unit number ≤ times * unit := by
  have grows := rounding.toUnit_mono positive above
  rwa [rounding.toUnit_multiple positive] at grows

/-- The power of ten at the first digit, in units of the last one. -/
theorem power_eq_lastUnit (some : 0 < digits) (number : ℚ) :
    (10 : ℚ) ^ Int.log 10 |number| = ((10 ^ (digits - 1) : ℤ) : ℚ) * lastUnit digits number := by
  rw [lastUnit, Int.cast_pow, Int.cast_ofNat, ← zpow_natCast, ← zpow_add₀ (by norm_num)]
  congr 1
  omega

/-- The power above a number is all of its last units: there are as many as its digits allow. -/
theorem next_power_eq_lastUnit (digits : ℕ) (number : ℚ) :
    (10 : ℚ) ^ (Int.log 10 |number| + 1) = ((10 ^ digits : ℤ) : ℚ) * lastUnit digits number := by
  rw [lastUnit, Int.cast_pow, Int.cast_ofNat, ← zpow_natCast, ← zpow_add₀ (by norm_num)]
  congr 1
  omega

/-- A number that is not zero is rounded to its own last unit. -/
theorem toSignificant_of_ne (nonzero : number ≠ 0) :
    rounding.toSignificant digits number = rounding.toUnit (lastUnit digits number) number :=
  if_neg nonzero

/-- A rounded number keeps its sign. -/
theorem toSignificant_nonneg (positive : 0 ≤ number) :
    0 ≤ rounding.toSignificant digits number := by
  rcases positive.eq_or_lt with rfl | positive
  · rw [toSignificant, if_pos rfl]
  · rw [rounding.toSignificant_of_ne positive.ne']
    have zero : ((0 : ℤ) : ℚ) * lastUnit digits number ≤ number := by
      rw [Int.cast_zero, zero_mul]
      exact positive.le
    have above := rounding.le_toUnit (lastUnit_pos digits number) zero
    rwa [Int.cast_zero, zero_mul] at above

/-- Rounding keeps a number that is not positive so. -/
theorem toSignificant_nonpos (negative : number ≤ 0) :
    rounding.toSignificant digits number ≤ 0 := by
  rcases negative.eq_or_lt with rfl | negative
  · rw [toSignificant, if_pos rfl]
  · rw [rounding.toSignificant_of_ne negative.ne]
    have zero : number ≤ ((0 : ℤ) : ℚ) * lastUnit digits number := by
      rw [Int.cast_zero, zero_mul]
      exact negative.le
    have below := rounding.toUnit_le (lastUnit_pos digits number) zero
    rwa [Int.cast_zero, zero_mul] at below

/-- A positive number is rounded between the powers of ten around it. -/
theorem toSignificant_of_pos (some : 0 < digits) (positive : 0 < number) :
    (10 : ℚ) ^ Int.log 10 |number| ≤ rounding.toSignificant digits number ∧
      rounding.toSignificant digits number ≤ (10 : ℚ) ^ (Int.log 10 |number| + 1) := by
  have low := Int.zpow_log_le_self (b := 10) (by norm_num) (abs_pos.mpr positive.ne')
  have high := (Int.lt_zpow_succ_log_self (b := 10) (by norm_num) |number|).le
  rw [Nat.cast_ofNat, power_eq_lastUnit some, abs_of_pos positive] at low
  rw [Nat.cast_ofNat, next_power_eq_lastUnit digits, abs_of_pos positive] at high
  rw [rounding.toSignificant_of_ne positive.ne', power_eq_lastUnit some,
    next_power_eq_lastUnit digits]
  exact ⟨rounding.le_toUnit (lastUnit_pos digits number) low,
    rounding.toUnit_le (lastUnit_pos digits number) high⟩

/-- A rounded negative number stays within its own order of magnitude, the power above it
included. -/
theorem toSignificant_of_neg (some : 0 < digits) (negative : number < 0) :
    -(10 : ℚ) ^ (Int.log 10 |number| + 1) ≤ rounding.toSignificant digits number ∧
      rounding.toSignificant digits number ≤ -(10 : ℚ) ^ Int.log 10 |number| := by
  have low := Int.zpow_log_le_self (b := 10) (by norm_num) (abs_pos.mpr negative.ne)
  have high := (Int.lt_zpow_succ_log_self (b := 10) (by norm_num) |number|).le
  rw [Nat.cast_ofNat, power_eq_lastUnit some, abs_of_neg negative] at low
  rw [Nat.cast_ofNat, next_power_eq_lastUnit digits, abs_of_neg negative] at high
  have low' : number ≤ ((-10 ^ (digits - 1) : ℤ) : ℚ) * lastUnit digits number := by
    rw [Int.cast_neg, neg_mul]
    linarith
  have high' : ((-10 ^ digits : ℤ) : ℚ) * lastUnit digits number ≤ number := by
    rw [Int.cast_neg, neg_mul]
    linarith
  have below := rounding.toUnit_le (lastUnit_pos digits number) low'
  have above := rounding.le_toUnit (lastUnit_pos digits number) high'
  rw [rounding.toSignificant_of_ne negative.ne, power_eq_lastUnit some,
    next_power_eq_lastUnit digits, ← neg_mul, ← neg_mul, ← Int.cast_neg, ← Int.cast_neg]
  exact ⟨above, below⟩

/-- **Rounding to significant digits is monotone,** across the powers of ten too. -/
theorem toSignificant_mono (some : 0 < digits) :
    Monotone (rounding.toSignificant digits) := by
  intro less more below
  have same : Int.log 10 |less| = Int.log 10 |more| → less ≠ 0 → more ≠ 0 →
      rounding.toSignificant digits less ≤ rounding.toSignificant digits more := by
    intro level nonzero nonzero'
    have units : lastUnit digits less = lastUnit digits more := by rw [lastUnit, lastUnit, level]
    rw [rounding.toSignificant_of_ne nonzero, rounding.toSignificant_of_ne nonzero', units]
    exact rounding.toUnit_mono (lastUnit_pos digits more) below
  rcases le_or_gt less 0 with negative | positive
  · rcases le_or_gt 0 more with positive' | negative'
    · exact (rounding.toSignificant_nonpos negative).trans
        (rounding.toSignificant_nonneg positive')
    · have negative := below.trans_lt negative'
      have sizes : |more| ≤ |less| := by
        rw [abs_of_neg negative, abs_of_neg negative']
        linarith
      rcases (Int.log_mono_right (b := 10) (abs_pos.mpr negative'.ne) sizes).eq_or_lt with
        level | apart
      · exact same level.symm negative.ne negative'.ne
      · have powers : (10 : ℚ) ^ (Int.log 10 |more| + 1) ≤ 10 ^ Int.log 10 |less| :=
          zpow_le_zpow_right₀ (by norm_num) (by omega)
        have first := (rounding.toSignificant_of_neg some negative).2
        have second := (rounding.toSignificant_of_neg some negative').1
        linarith
  · have positive' := positive.trans_le below
    have sizes : |less| ≤ |more| := by
      rw [abs_of_pos positive, abs_of_pos positive']
      exact below
    rcases (Int.log_mono_right (b := 10) (abs_pos.mpr positive.ne') sizes).eq_or_lt with
      level | apart
    · exact same level positive.ne' positive'.ne'
    · have powers : (10 : ℚ) ^ (Int.log 10 |less| + 1) ≤ 10 ^ Int.log 10 |more| :=
        zpow_le_zpow_right₀ (by norm_num) (by omega)
      have first := (rounding.toSignificant_of_pos some positive).2
      have second := (rounding.toSignificant_of_pos some positive').1
      linarith

/-! ## The numbers of a format -/

/-- No more than the digits are significant, and no more than the places are fractions. -/
structure Fits (digits places : ℕ) (number : ℚ) : Prop where
  significant : Significant digits number
  multiple : ∃ times : ℤ, number = times * place places

/-- What is rounded to digits and places has no more of either. -/
theorem fits_toPlaces (digits places : ℕ) (number : ℚ) :
    Fits digits places (rounding.toPlaces digits places number) :=
  ⟨rounding.toUnit_significant (rounding.toSignificant_significant number), _, rfl⟩

/-- A number that has no more digits and places is its own rounding. -/
theorem toPlaces_of_fits {places : ℕ} (some : 0 < digits) (fits : Fits digits places number) :
    rounding.toPlaces digits places number = number := by
  obtain ⟨times, multiple⟩ := fits.multiple
  rw [toPlaces, rounding.toSignificant_of_significant some fits.significant, multiple]
  exact rounding.toUnit_multiple (place_pos places) times

/-- Rounding to digits and places is monotone. -/
theorem toPlaces_mono (some : 0 < digits) (places : ℕ) :
    Monotone (rounding.toPlaces digits places) :=
  fun _ _ below => rounding.toUnit_mono (place_pos places) (rounding.toSignificant_mono some below)

/-- Rounding down does not rise. -/
theorem down_toUnit_le (positive : 0 < unit) : down.toUnit unit number ≤ number := by
  have floor := Int.floor_le (number / unit)
  exact (le_div_iff₀ positive).mp floor

/-- Rounding up does not fall. -/
theorem le_up_toUnit (positive : 0 < unit) : number ≤ up.toUnit unit number := by
  have ceil := Int.le_ceil (number / unit)
  exact (div_le_iff₀ positive).mp ceil

/-- Rounding down to some digits does not rise. -/
theorem down_toSignificant_le (digits : ℕ) (number : ℚ) :
    down.toSignificant digits number ≤ number := by
  unfold toSignificant
  split
  case isTrue zero => exact zero.ge
  case isFalse => exact down_toUnit_le (lastUnit_pos digits number)

/-- Rounding up to some digits does not fall. -/
theorem le_up_toSignificant (digits : ℕ) (number : ℚ) :
    number ≤ up.toSignificant digits number := by
  unfold toSignificant
  split
  case isTrue zero => exact zero.le
  case isFalse => exact le_up_toUnit (lastUnit_pos digits number)

/-- **Rounded down twice, a number becomes the greatest of the format that is no greater.** -/
theorem down_toPlaces_isGreatest (some : 0 < digits) (places : ℕ) (number : ℚ) :
    IsGreatest {other | Fits digits places other ∧ other ≤ number}
      (down.toPlaces digits places number) := by
  refine ⟨⟨down.fits_toPlaces digits places number, ?_⟩, fun other ⟨fits, below⟩ => ?_⟩
  · exact (down_toUnit_le (place_pos places)).trans (down_toSignificant_le digits number)
  · rw [← down.toPlaces_of_fits some fits]
    exact down.toPlaces_mono some places below

/-- **Rounded up twice, it becomes the least that is no less.** -/
theorem up_toPlaces_isLeast (some : 0 < digits) (places : ℕ) (number : ℚ) :
    IsLeast {other | Fits digits places other ∧ number ≤ other}
      (up.toPlaces digits places number) := by
  refine ⟨⟨up.fits_toPlaces digits places number, ?_⟩, fun other ⟨fits, above⟩ => ?_⟩
  · exact (le_up_toSignificant digits number).trans (le_up_toUnit (place_pos places))
  · rw [← up.toPlaces_of_fits some fits]
    exact up.toPlaces_mono some places above

end Rounding

end Foundation
