import Oppen.Guardrail.Order

/-! # Market prices within the slippage

A market order is priced at the slippage and rounded towards the mid. With exact decimals the
price is the best one of the format that does not go beyond the slippage; it passes the checks of
a price, and rounding it once more does not move it.
-/

namespace Oppen.Guardrail

open Foundation Oppen.Ledger

variable {dec : RiskDecimals}

/-! ## Exact decimals -/

/-- Decimals without a bound on their width, and with one normal form for each value. -/
structure RiskDecimals.Exact (dec : RiskDecimals) : Prop where
  add : ∀ left right, (dec.checkedAdd left right).isSome = true
  sub : ∀ left right, (dec.checkedSub left right).isSome = true
  mul : ∀ left right, (dec.checkedMul left right).isSome = true
  roundSf : ∀ strategy digits decimal, (dec.roundSf strategy digits decimal).isSome = true
  stripped : ∀ decimal, dec.scale (dec.normalize decimal) ≠ 0 →
    ¬ (10 : ℤ) ∣ dec.mantissa (dec.normalize decimal)
  canonical : ∀ decimal other, dec.value decimal = dec.value other →
    dec.normalize decimal = dec.normalize other

/-- A decimal that was stripped ends in no zero, unless it is whole. -/
theorem stripZeros_stripped (coefficient : ℤ) (scale : ℕ) :
    (stripZeros coefficient scale).scale ≠ 0 →
      ¬ (10 : ℤ) ∣ (stripZeros coefficient scale).coefficient := by
  induction scale generalizing coefficient with
  | zero => exact fun none => absurd rfl none
  | succ scale ih =>
      unfold stripZeros
      split
      case isTrue => exact ih _
      case isFalse kept => exact fun _ divides => kept (Int.emod_eq_zero_of_dvd divides)

/-- Two decimals without trailing zeros are one if their values are. -/
theorem FixedPoint.eq_of_value {first second : FixedPoint} (same : first.value = second.value)
    (stripped : first.scale ≠ 0 → ¬ (10 : ℤ) ∣ first.coefficient)
    (stripped' : second.scale ≠ 0 → ¬ (10 : ℤ) ∣ second.coefficient) : first = second := by
  obtain ⟨coefficient, scale⟩ := first
  obtain ⟨coefficient', scale'⟩ := second
  simp only [FixedPoint.value] at same
  rw [div_eq_div_iff (by positivity) (by positivity)] at same
  have whole : coefficient * 10 ^ scale' = coefficient' * 10 ^ scale := by exact_mod_cast same
  -- the decimal with more places would have a trailing zero
  have equal : ∀ {first second : ℤ} {less more : ℕ}, first * 10 ^ more = second * 10 ^ less →
      (more ≠ 0 → ¬ (10 : ℤ) ∣ second) → more ≤ less := by
    intro first second less more crossed kept
    by_contra longer
    obtain ⟨gap, rfl⟩ := Nat.exists_eq_add_of_lt (not_le.mp longer)
    refine kept (by omega) ?_
    have split : second = first * 10 ^ gap * 10 := by
      have power : (10 : ℤ) ^ less ≠ 0 := by positivity
      refine mul_right_cancel₀ power ?_
      rw [← crossed, pow_add, pow_add, pow_one]
      ring
    exact ⟨first * 10 ^ gap, by rw [split, mul_comm]⟩
  obtain rfl : scale = scale' :=
    le_antisymm (equal whole.symm stripped) (equal whole stripped')
  have power : (10 : ℤ) ^ scale ≠ 0 := by positivity
  rw [mul_right_cancel₀ power whole]

/-- The decimals of the reference are exact. -/
theorem RiskDecimals.reference_exact : RiskDecimals.reference.Exact where
  add _ _ := rfl
  sub _ _ := rfl
  mul _ _ := rfl
  roundSf _ _ _ := rfl
  stripped decimal := stripZeros_stripped decimal.coefficient decimal.scale
  canonical decimal other same := by
    have values := (RiskDecimals.reference.value_normalize decimal).trans
      (same.trans (RiskDecimals.reference.value_normalize other).symm)
    exact FixedPoint.eq_of_value values (stripZeros_stripped _ _) (stripZeros_stripped _ _)

/-! ## Prices of the format -/

section Prices

variable (asset : Asset) {price : dec.Decimal}

/-- The significant figures and the decimals that a price of an asset may have. -/
def Asset.FitsPrice (number : ℚ) : Prop :=
  Rounding.Fits priceSigFigs asset.maxPriceDecimals number

/-- The scale of a price of the format is within its decimals. -/
theorem scale_le_of_multiple (exact : dec.Exact) {places : ℕ} {times : ℤ}
    (multiple : dec.value price = times * Rounding.place places) :
    dec.scale (dec.normalize price) ≤ places := by
  by_contra longer
  obtain ⟨gap, more⟩ := Nat.exists_eq_add_of_lt (not_le.mp longer)
  refine exact.stripped price (by omega) ⟨times * 10 ^ gap, ?_⟩
  have parts := dec.value_parts (dec.normalize price)
  rw [dec.value_normalize, multiple, Rounding.place, zpow_neg, zpow_natCast, more,
    eq_div_iff (by positivity)] at parts
  have whole : (dec.mantissa (dec.normalize price) : ℚ) = 10 * (times * 10 ^ gap) := by
    rw [← parts, pow_add, pow_add, pow_one]
    field_simp
  exact_mod_cast whole

/-- A price of the format that is not whole has no more digits than are significant. -/
theorem significantFigures_le (exact : dec.Exact) {digits : ℕ} (some : 0 < digits)
    (fraction : dec.scale (dec.normalize price) ≠ 0)
    (significant : Rounding.Significant digits (dec.value price)) :
    dec.significantFigures price ≤ digits := by
  have stripped := exact.stripped price fraction
  obtain ⟨coefficient, exponent, small, same⟩ := significant
  have parts := dec.value_parts (dec.normalize price)
  rw [dec.value_normalize, same, eq_div_iff (by positivity)] at parts
  rw [RiskDecimals.significantFigures]
  generalize dec.mantissa (dec.normalize price) = mantissa at parts stripped ⊢
  obtain ⟨scale, more⟩ := Nat.exists_eq_succ_of_ne_zero fraction
  rw [more] at parts
  -- the mantissa is the coefficient, but for trailing zeros of the latter
  have shorter : ∃ gap : ℕ, coefficient = mantissa * 10 ^ gap := by
    rcases le_or_gt (-((scale + 1 : ℕ) : ℤ)) exponent with fine | coarse
    · obtain ⟨zeros, sum⟩ := Int.le.dest fine
      have whole : mantissa = coefficient * 10 ^ zeros := by
        have value : (mantissa : ℚ) = coefficient * 10 ^ zeros := by
          rw [← parts, mul_assoc, ← zpow_natCast, ← zpow_natCast, ← zpow_add₀ (by norm_num)]
          congr 2
          omega
        exact_mod_cast value
      cases zeros with
      | zero => exact ⟨0, by rw [whole, pow_zero, mul_one, mul_one]⟩
      | succ zeros =>
          refine absurd ⟨coefficient * 10 ^ zeros, ?_⟩ stripped
          rw [whole, pow_succ]
          ring
    · obtain ⟨gap, sum⟩ := Int.le.dest coarse.le
      refine ⟨gap, ?_⟩
      have value : (coefficient : ℚ) = mantissa * 10 ^ gap := by
        rw [← parts, mul_assoc, mul_assoc, ← zpow_natCast, ← zpow_natCast,
          ← zpow_add₀ (by norm_num), ← zpow_add₀ (by norm_num)]
        have none : exponent + (((scale.succ : ℕ) : ℤ) + gap) = 0 := by omega
        rw [none, zpow_zero, mul_one]
      exact_mod_cast value
  obtain ⟨gap, rfl⟩ := shorter
  have bounded : mantissa.natAbs ≤ 10 ^ digits := by
    rw [abs_mul, abs_of_pos (by positivity : (0 : ℤ) < 10 ^ gap)] at small
    have first : |mantissa| * 1 ≤ |mantissa| * 10 ^ gap :=
      mul_le_mul_of_nonneg_left (one_le_pow₀ (by norm_num)) (abs_nonneg mantissa)
    rw [mul_one] at first
    have whole : |mantissa| ≤ 10 ^ digits := first.trans small
    rw [Int.abs_eq_natAbs] at whole
    exact_mod_cast whole
  have strict : mantissa.natAbs < 10 ^ digits := by
    refine bounded.lt_of_ne fun power => stripped (Int.natCast_dvd.mpr ?_)
    rw [power]
    exact dvd_pow_self 10 some.ne'
  split
  case isTrue => exact Nat.zero_le digits
  case isFalse => exact (Nat.length_toDigits_le_iff (by decide) some).mpr strict

/-- A positive price of the format passes the check. -/
theorem validatePrice_of_fits (exact : dec.Exact) (positive : 0 < dec.value price)
    (fits : asset.FitsPrice (dec.value price)) : asset.validatePrice dec price = .ok () := by
  have again : dec.normalize (dec.normalize price) = dec.normalize price :=
    exact.canonical _ _ (dec.value_normalize price)
  obtain ⟨times, multiple⟩ := fits.multiple
  rw [Asset.validatePrice, refuseIf, if_neg (not_le.mpr positive)]
  change (if _ then _ else _) = _
  split
  case isTrue => rfl
  case isFalse fraction =>
    have places := scale_le_of_multiple exact multiple
    have significant : Rounding.Significant priceSigFigs (dec.value (dec.normalize price)) := by
      rw [dec.value_normalize]
      exact fits.significant
    have figures := significantFigures_le exact (by decide) (by rwa [again]) significant
    rw [refuseIf, if_neg (not_lt.mpr places)]
    change refuseIf _ _ = _
    rw [refuseIf, if_neg (not_lt.mpr figures)]

/-- Rounding does not move a price of the format, if it has no trailing zeros. -/
theorem roundPrice_of_fits (exact : dec.Exact) {number : dec.Decimal}
    (normal : price = dec.normalize number) (fits : asset.FitsPrice (dec.value price)) :
    asset.roundPrice dec price = price := by
  obtain ⟨sf, some⟩ := Option.isSome_iff_exists.mp
    (exact.roundSf .midpointNearestEven priceSigFigs price)
  have fixed : Rounding.halfEven.toPlaces priceSigFigs asset.maxPriceDecimals (dec.value price) =
      dec.value price := Rounding.halfEven.toPlaces_of_fits (by decide) fits
  rw [Asset.roundPrice, some, Option.getD_some]
  conv_rhs => rw [normal]
  refine exact.canonical _ _ ?_
  rw [dec.value_roundDp, dec.value_roundSf _ _ _ _ some]
  refine fixed.trans ?_
  rw [normal, dec.value_normalize]

end Prices

/-! ## Market prices -/

/-- The price at the slippage, above the mid for a buy and below it for a sell. -/
def furthestPrice (isBuy : Bool) (mid slippage : ℚ) : ℚ :=
  if isBuy then mid * (1 + slippage) else mid * (1 - slippage)

/-- The price of the format that comes closest to a limit without going beyond it. -/
def Asset.Tightest (asset : Asset) (isBuy : Bool) (limit number : ℚ) : Prop :=
  if isBuy then IsGreatest {other | asset.FitsPrice other ∧ other ≤ limit} number
  else IsLeast {other | asset.FitsPrice other ∧ limit ≤ other} number

/-- The tightest price is of the format. -/
theorem Asset.Tightest.fits {asset : Asset} {isBuy : Bool} {limit number : ℚ}
    (tightest : asset.Tightest isBuy limit number) : asset.FitsPrice number := by
  cases isBuy with
  | true => exact tightest.1.1
  | false => exact tightest.1.1

/-- A wider limit has a wider tightest price. -/
theorem Asset.Tightest.mono {asset : Asset} {isBuy : Bool} {limit limit' number number' : ℚ}
    (tightest : asset.Tightest isBuy limit number)
    (tightest' : asset.Tightest isBuy limit' number') (below : limit ≤ limit') :
    number ≤ number' := by
  cases isBuy with
  | true => exact tightest'.2 ⟨tightest.1.1, tightest.1.2.trans below⟩
  | false => exact tightest.2 ⟨tightest'.1.1, below.trans tightest'.1.2⟩

/-- With exact decimals there is a price, and it is the tightest one. -/
theorem slippagePriceBounded_tightest (exact : dec.Exact) (asset : Asset) (isBuy : Bool)
    (mid slippage : dec.Decimal) : ∃ price number,
      asset.slippagePriceBounded dec mid isBuy slippage = some price ∧
        price = dec.normalize number ∧
        asset.Tightest isBuy (furthestPrice isBuy (dec.value mid) (dec.value slippage))
          (dec.value price) := by
  obtain ⟨factor, factored, value⟩ : ∃ factor,
      (if isBuy then dec.checkedAdd dec.one slippage else dec.checkedSub dec.one slippage) =
        some factor ∧ dec.value factor = furthestPrice isBuy 1 (dec.value slippage) := by
    cases isBuy with
    | true =>
        obtain ⟨factor, same⟩ := Option.isSome_iff_exists.mp (exact.add dec.one slippage)
        refine ⟨factor, same, ?_⟩
        rw [dec.value_checkedAdd _ _ _ same, dec.value_one]
        exact (one_mul _).symm
    | false =>
        obtain ⟨factor, same⟩ := Option.isSome_iff_exists.mp (exact.sub dec.one slippage)
        refine ⟨factor, same, ?_⟩
        rw [dec.value_checkedSub _ _ _ same, dec.value_one]
        exact (one_mul _).symm
  obtain ⟨raw, multiplied⟩ := Option.isSome_iff_exists.mp (exact.mul mid factor)
  have product : dec.value raw =
      furthestPrice isBuy (dec.value mid) (dec.value slippage) := by
    rw [dec.value_checkedMul _ _ _ multiplied, value, furthestPrice, furthestPrice]
    split <;> rw [one_mul]
  obtain ⟨sf, rounded⟩ := Option.isSome_iff_exists.mp (exact.roundSf
    (if isBuy then .toNegativeInfinity else .toPositiveInfinity) priceSigFigs raw)
  refine ⟨_, dec.roundDp (if isBuy then .toNegativeInfinity else .toPositiveInfinity)
    asset.maxPriceDecimals sf, ?_, rfl, ?_⟩
  · have chained : asset.slippagePriceBounded dec mid isBuy slippage =
        (if isBuy then dec.checkedAdd dec.one slippage else dec.checkedSub dec.one slippage).bind
          fun factor => (dec.checkedMul mid factor).bind fun raw =>
            some (dec.normalize (dec.roundDp
              (if isBuy then .toNegativeInfinity else .toPositiveInfinity) asset.maxPriceDecimals
              ((dec.roundSf (if isBuy then .toNegativeInfinity else .toPositiveInfinity)
                priceSigFigs raw).getD raw))) := by
      cases isBuy <;> rfl
    rw [chained, factored, Option.bind_some, multiplied, Option.bind_some, rounded,
      Option.getD_some]
  · rw [dec.value_normalize, dec.value_roundDp, dec.value_roundSf _ _ _ _ rounded, product]
    cases isBuy with
    | true => exact Rounding.down_toPlaces_isGreatest (by decide) _ _
    | false => exact Rounding.up_toPlaces_isLeast (by decide) _ _

/-- A market price: the tightest one for its mid and slippage, a valid one if it is positive, and
one that rounding leaves. -/
structure MarketPrice (asset : Asset) (isBuy : Bool) (mid slippage price : dec.Decimal) : Prop where
  tightest : asset.Tightest isBuy (furthestPrice isBuy (dec.value mid) (dec.value slippage))
    (dec.value price)
  adverse : (if isBuy then dec.value price - dec.value mid else dec.value mid - dec.value price) ≤
    dec.value mid * dec.value slippage
  valid : 0 < dec.value price → asset.validatePrice dec price = .ok ()
  fixed : asset.roundPrice dec price = price

/-- How a price moves with the slippage, and with the mid: against the latter only for a sell
beyond the whole mid. -/
structure MovesWith (asset : Asset) (isBuy : Bool) (mid slippage price : dec.Decimal) : Prop where
  withSlippage : ∀ slippage' price', dec.value slippage ≤ dec.value slippage' →
    asset.slippagePriceBounded dec mid isBuy slippage' = some price' →
      if isBuy then dec.value price ≤ dec.value price' else dec.value price' ≤ dec.value price
  withMid : ∀ mid' price', dec.value mid ≤ dec.value mid' →
    asset.slippagePriceBounded dec mid' isBuy slippage = some price' →
      (isBuy = true ∨ dec.value slippage ≤ 1 → dec.value price ≤ dec.value price') ∧
        (isBuy = false → 1 ≤ dec.value slippage → dec.value price' ≤ dec.value price)

/-- **A market price is the best price within the slippage.** The price is the furthest one of the
asset's format that is still within the slippage, so rounding never takes an order past its bound.
Its own rounding and validation leave it as it is. -/
theorem slippagePriceBounded_spec (exact : dec.Exact) (asset : Asset) (isBuy : Bool)
    {mid slippage : dec.Decimal} (positive : 0 < dec.value mid)
    (nonneg : 0 ≤ dec.value slippage) : ∃ price,
      asset.slippagePriceBounded dec mid isBuy slippage = some price ∧
        MarketPrice asset isBuy mid slippage price ∧ MovesWith asset isBuy mid slippage price := by
  have other : ∀ mid' slippage' price',
      asset.slippagePriceBounded dec mid' isBuy slippage' = some price' →
        asset.Tightest isBuy (furthestPrice isBuy (dec.value mid') (dec.value slippage'))
          (dec.value price') := by
    intro mid' slippage' price' priced
    obtain ⟨same, _, priced', -, tightest⟩ :=
      slippagePriceBounded_tightest exact asset isBuy mid' slippage'
    obtain rfl := Option.some.inj (priced.symm.trans priced')
    exact tightest
  obtain ⟨price, number, priced, normal, tightest⟩ :=
    slippagePriceBounded_tightest exact asset isBuy mid slippage
  refine ⟨price, priced, ⟨tightest, ?_, ?_, ?_⟩, ⟨?_, ?_⟩⟩
  case refine_1 =>
    cases isBuy with
    | true =>
        have within : dec.value price ≤ dec.value mid * (1 + dec.value slippage) := tightest.1.2
        simp only [↓reduceIte]
        linarith
    | false =>
        have within : dec.value mid * (1 - dec.value slippage) ≤ dec.value price := tightest.1.2
        simp only [Bool.false_eq_true, ↓reduceIte]
        linarith
  case refine_2 => exact fun above => validatePrice_of_fits asset exact above tightest.fits
  case refine_3 => exact roundPrice_of_fits asset exact normal tightest.fits
  case refine_4 =>
    intro slippage' price' wider priced'
    have tightest' := other _ _ _ priced'
    have scaled := mul_le_mul_of_nonneg_left wider positive.le
    cases isBuy with
    | true => exact tightest.mono tightest' (by simp only [furthestPrice, ↓reduceIte]; linarith)
    | false =>
        refine tightest'.mono tightest ?_
        simp only [furthestPrice, Bool.false_eq_true, ↓reduceIte]
        linarith
  case refine_5 =>
    intro mid' price' higher priced'
    have tightest' := other _ _ _ priced'
    cases isBuy with
    | true =>
        refine ⟨fun _ => tightest.mono tightest' ?_, nofun⟩
        exact mul_le_mul_of_nonneg_right higher (by linarith)
    | false =>
        refine ⟨fun within => tightest.mono tightest' ?_, fun _ past => tightest'.mono tightest ?_⟩
        · have factor := within.resolve_left nofun
          exact mul_le_mul_of_nonneg_right higher (by linarith)
        · exact mul_le_mul_of_nonpos_right higher (by linarith)

/-- A perp with two decimals of size, and four of price. -/
def twoDecimals : Asset := ⟨1, ⟨"ETH", 2, 25, false⟩⟩

/-- On an asset of two decimals the bounded price is the market's, and it moves with the
slippage. -/
theorem slippagePriceBounded_twoDecimals : ∃ price,
    twoDecimals.slippagePriceBounded .reference ⟨20001, 1⟩ true ⟨5, 3⟩ = some price ∧
      @MarketPrice .reference twoDecimals true ⟨20001, 1⟩ ⟨5, 3⟩ price ∧
      @MovesWith .reference twoDecimals true ⟨20001, 1⟩ ⟨5, 3⟩ price :=
  slippagePriceBounded_spec RiskDecimals.reference_exact twoDecimals true
    (by change (0 : ℚ) < FixedPoint.value ⟨20001, 1⟩; norm_num [FixedPoint.value])
    (by change (0 : ℚ) ≤ FixedPoint.value ⟨5, 3⟩; norm_num [FixedPoint.value])

end Oppen.Guardrail
