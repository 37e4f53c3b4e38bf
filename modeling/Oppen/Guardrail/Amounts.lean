import Oppen.Foundation.Rounding
import Oppen.Guardrail.Evidence

/-! # Amounts the guardrails measure

Decimals with their division and their roundings.
-/

namespace Oppen.Guardrail

open Foundation Oppen.Ledger

/-- The strategies of `RoundingStrategy` in use. -/
inductive RoundingStrategy where
  | midpointNearestEven
  | toNegativeInfinity
  | toPositiveInfinity
  deriving DecidableEq

def RoundingStrategy.rounding : RoundingStrategy → Rounding
  | .midpointNearestEven => .halfEven
  | .toNegativeInfinity => .down
  | .toPositiveInfinity => .up

/-- What the guardrails use of `rust_decimal`: a coefficient and a number of fraction digits,
rounded as documented. -/
structure RiskDecimals extends EvidenceDecimals where
  mantissa : Decimal → ℤ
  scale : Decimal → ℕ
  /-- `Decimal::normalize`: trailing zeros stripped. -/
  normalize : Decimal → Decimal
  /-- `Decimal::round_dp_with_strategy`. -/
  roundDp : RoundingStrategy → ℕ → Decimal → Decimal
  /-- `Decimal::round_sf_with_strategy`, with `none` for a result that is not representable. -/
  roundSf : RoundingStrategy → ℕ → Decimal → Option Decimal
  /-- `Decimal::checked_div`. -/
  checkedDiv : Decimal → Decimal → Option Decimal
  /-- An integer over `1_000_000`. -/
  millionths : ℕ → Decimal
  value_parts : ∀ decimal, value decimal = mantissa decimal / 10 ^ scale decimal
  value_normalize : ∀ decimal, value (normalize decimal) = value decimal
  value_roundDp : ∀ strategy places decimal, value (roundDp strategy places decimal) =
    strategy.rounding.toUnit (Rounding.place places) (value decimal)
  value_roundSf : ∀ strategy digits decimal rounded,
    roundSf strategy digits decimal = some rounded →
    value rounded = strategy.rounding.toSignificant digits (value decimal)
  /-- What is too large to be rounded has no fraction. -/
  roundSf_none : ∀ strategy digits decimal, roundSf strategy digits decimal = none →
    ∃ whole : ℤ, value decimal = whole
  roundSf_none_of_same : ∀ strategy digits decimal other, value decimal = value other →
    roundSf strategy digits decimal = none → roundSf strategy digits other = none
  value_millionths : ∀ count, value (millionths count) = count / 1000000
  /-- A quotient has twenty-eight digits. -/
  value_checkedDiv : ∀ left right quotient, checkedDiv left right = some quotient →
    value right ≠ 0 ∧
      |value quotient - value left / value right| ≤ Max.max 1 |value quotient| / 10 ^ 28

namespace RiskDecimals

variable (dec : RiskDecimals)

/-- `Decimal::ONE`. -/
def one : dec.Decimal := dec.ofInt 1

/-- `Ord::min`. -/
def min (left right : dec.Decimal) : dec.Decimal :=
  if dec.value right < dec.value left then right else left

/-- `Decimal::saturating_add`. -/
def saturatingSum (left right : dec.Decimal) : dec.Decimal :=
  (dec.checkedAdd left right).getD
    (if dec.value left < 0 ∧ dec.value right < 0 then dec.neg dec.ceiling else dec.ceiling)

/-- `Decimal::saturating_sub`. -/
def saturatingSub (left right : dec.Decimal) : dec.Decimal :=
  (dec.checkedSub left right).getD
    (if dec.value left < 0 ∧ 0 ≤ dec.value right then dec.neg dec.ceiling else dec.ceiling)

/-- `Decimal::saturating_mul`. -/
def saturatingMul (left right : dec.Decimal) : dec.Decimal :=
  (dec.checkedMul left right).getD
    (if (dec.value left < 0) = (dec.value right < 0) then dec.ceiling else dec.neg dec.ceiling)

@[simp] theorem value_one : dec.value dec.one = 1 := by
  rw [one, dec.value_ofInt, Int.cast_one]

/-- The smaller of two amounts has the smaller value. -/
theorem value_min (left right : dec.Decimal) :
    dec.value (dec.min left right) = Min.min (dec.value left) (dec.value right) := by
  unfold min
  split
  · rename_i below
    exact (min_eq_right below.le).symm
  · rename_i above
    exact (min_eq_left (not_lt.mp above)).symm

/-- The size of an amount is the size of its value. -/
@[simp] theorem value_abs (amount : dec.Decimal) :
    dec.value (dec.abs amount) = |dec.value amount| := by
  unfold EvidenceDecimals.abs
  split
  · rename_i negative
    rw [dec.value_neg, abs_of_neg negative]
  · rename_i positive
    exact (abs_of_nonneg (not_lt.mp positive)).symm

/-- An amount carries the negative sign exactly if its value is negative. -/
@[simp] theorem isSignNegative_iff (amount : dec.Decimal) :
    dec.isSignNegative amount = true ↔ dec.value amount < 0 := decide_eq_true_iff

end RiskDecimals

/-! ## Decimals of unbounded width -/

/-- Trailing zeros of a fraction stripped. -/
def stripZeros (coefficient : ℤ) : ℕ → FixedPoint
  | 0 => ⟨coefficient, 0⟩
  | scale + 1 =>
      if coefficient % 10 = 0 then stripZeros (coefficient / 10) scale
      else ⟨coefficient, scale + 1⟩

/-- Stripping the trailing zeros of a decimal keeps its value. -/
theorem value_stripZeros (coefficient : ℤ) (scale : ℕ) :
    (stripZeros coefficient scale).value = FixedPoint.value ⟨coefficient, scale⟩ := by
  induction scale generalizing coefficient with
  | zero => rfl
  | succ scale ih =>
      unfold stripZeros
      split
      · rename_i divides
        obtain ⟨tenth, rfl⟩ := Int.dvd_of_emod_eq_zero divides
        rw [ih, Int.mul_ediv_cancel_left _ (by decide), FixedPoint.value, FixedPoint.value,
          pow_succ']
        push_cast
        rw [mul_div_mul_left _ _ (by norm_num)]
      · rfl

/-- A multiple of a power of ten. -/
def ofPower (coefficient exponent : ℤ) : FixedPoint :=
  if 0 ≤ exponent then ⟨coefficient * 10 ^ exponent.toNat, 0⟩
  else ⟨coefficient, (-exponent).toNat⟩

/-- A coefficient with a power of ten, of either sign, has that value as a decimal. -/
theorem value_ofPower (coefficient exponent : ℤ) :
    (ofPower coefficient exponent).value = coefficient * (10 : ℚ) ^ exponent := by
  unfold ofPower
  split
  · rename_i positive
    obtain ⟨power, rfl⟩ := Int.eq_ofNat_of_zero_le positive
    simp only [FixedPoint.value, Int.toNat_natCast, pow_zero, div_one, zpow_natCast]
    push_cast
    rfl
  · rename_i negative
    obtain ⟨power, same⟩ := Int.eq_ofNat_of_zero_le (a := -exponent) (by omega)
    obtain rfl : exponent = -power := by omega
    simp only [FixedPoint.value, neg_neg, Int.toNat_natCast, zpow_neg, zpow_natCast,
      div_eq_mul_inv]

/-- Rounded to significant digits. -/
def significantPart (strategy : RoundingStrategy) (digits : ℕ) (decimal : FixedPoint) :
    FixedPoint :=
  if decimal.coefficient = 0 then ⟨0, 0⟩
  else
    ofPower (strategy.rounding.toInt (decimal.value / Rounding.lastUnit digits decimal.value))
      (Int.log 10 |decimal.value| - digits + 1)

/-- Keeping some digits of a decimal rounds its value to those digits. -/
theorem value_significantPart (strategy : RoundingStrategy) (digits : ℕ) (decimal : FixedPoint) :
    (significantPart strategy digits decimal).value =
      strategy.rounding.toSignificant digits decimal.value := by
  have zero : decimal.value = 0 ↔ decimal.coefficient = 0 := by
    rw [FixedPoint.value, div_eq_zero_iff, Int.cast_eq_zero]
    exact or_iff_left (by positivity)
  unfold significantPart Rounding.toSignificant
  by_cases none : decimal.coefficient = 0
  · rw [if_pos none, if_pos (zero.mpr none), FixedPoint.value, Int.cast_zero, zero_div]
  · rw [if_neg none, if_neg (mt zero.mp none), value_ofPower]
    rfl

/-- A quotient with twenty-eight fraction digits. -/
def quotient (left right : FixedPoint) : FixedPoint :=
  ⟨Rounding.nearestEven (left.value / right.value * 10 ^ 28), 28⟩

/-- The quotient is off by at most the last of its 28 places. -/
theorem value_quotient (left right : FixedPoint) :
    |(quotient left right).value - left.value / right.value| ≤ 1 / 10 ^ 28 := by
  rw [quotient, FixedPoint.value]
  dsimp only
  generalize left.value / right.value = ratio
  have low : ((⌊ratio * 10 ^ 28⌋ : ℤ) : ℚ) ≤ Rounding.nearestEven (ratio * 10 ^ 28) := by
    exact_mod_cast Rounding.floor_le_nearestEven _
  have high : (Rounding.nearestEven (ratio * 10 ^ 28) : ℚ) ≤ ⌊ratio * 10 ^ 28⌋ + 1 := by
    exact_mod_cast Rounding.nearestEven_le_floor _
  have below := Int.floor_le (ratio * 10 ^ 28)
  have above := Int.lt_floor_add_one (ratio * 10 ^ 28)
  have apart : (Rounding.nearestEven (ratio * 10 ^ 28) : ℚ) / 10 ^ 28 - ratio =
      (Rounding.nearestEven (ratio * 10 ^ 28) - ratio * 10 ^ 28) / 10 ^ 28 := by
    field_simp
  rw [apart, abs_div, abs_of_pos (by positivity : (0 : ℚ) < 10 ^ 28)]
  refine div_le_div_of_nonneg_right ?_ (by positivity)
  exact abs_le.mpr ⟨by linarith, by linarith⟩

/-- Decimals of unbounded width. -/
def RiskDecimals.reference : RiskDecimals where
  toEvidenceDecimals := .reference
  mantissa := FixedPoint.coefficient
  scale := FixedPoint.scale
  normalize decimal := stripZeros decimal.coefficient decimal.scale
  roundDp strategy places decimal :=
    ⟨strategy.rounding.toInt (decimal.value * 10 ^ places), places⟩
  roundSf strategy digits decimal := some (significantPart strategy digits decimal)
  checkedDiv left right :=
    if right.coefficient = 0 then none else some (quotient left right)
  millionths count := ⟨count, 6⟩
  value_parts _ := rfl
  value_normalize decimal := value_stripZeros _ _
  value_roundDp strategy places decimal := by
    simp only [Rounding.toUnit, Rounding.place, zpow_neg, zpow_natCast, div_inv_eq_mul]
    rfl
  value_roundSf strategy digits decimal rounded same := by
    cases same
    exact value_significantPart strategy digits decimal
  roundSf_none _ _ _ none := nomatch none
  roundSf_none_of_same _ _ _ _ _ none := nomatch none
  value_millionths count := by
    change FixedPoint.value ⟨count, 6⟩ = _
    norm_num [FixedPoint.value]
  value_checkedDiv left right result same := by
    split at same
    · exact nomatch same
    · rename_i nonzero
      cases same
      refine ⟨?_, (value_quotient left right).trans ?_⟩
      · exact div_ne_zero (Int.cast_ne_zero.mpr nonzero) (by positivity)
      · exact div_le_div_of_nonneg_right (le_max_left _ _) (by positivity)

end Oppen.Guardrail
