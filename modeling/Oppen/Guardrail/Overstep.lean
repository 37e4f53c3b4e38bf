import Oppen.Guardrail.SlippagePrice
import Oppen.Guardrail.SlippageRefusals

/-! # Bounded from one price and measured from another

A price is bounded from the price an order crosses from, and its slippage is measured from that
price as the engine rounds it. With exact decimals it is refused exactly if a price of the format
is within the one bound and beyond the other.
-/

namespace Oppen.Guardrail

open Foundation Oppen.Ledger

variable {dec : RiskDecimals}

/-! ## Quotients -/

/-- Quotients that are rounded as their ratios are, and keep the order of these. -/
structure RiskDecimals.RoundsRatios (dec : RiskDecimals) (ratio : ℚ → ℚ) : Prop where
  divides : ∀ left right, dec.value right ≠ 0 → ∃ quotient,
    dec.checkedDiv left right = some quotient ∧
      dec.value quotient = ratio (dec.value left / dec.value right)
  monotone : Monotone ratio
  zero : ratio 0 = 0

/-- A ratio to twenty-eight fraction digits. -/
def ratioDigits (number : ℚ) : ℚ := (Rounding.nearestEven (number * 10 ^ 28) : ℚ) / 10 ^ 28

/-- The decimals of the reference round their ratios as the named digits have it. -/
theorem RiskDecimals.reference_roundsRatios : RiskDecimals.reference.RoundsRatios ratioDigits where
  divides left right nonzero := by
    have coefficient : right.coefficient ≠ 0 := by
      intro zero
      refine nonzero ?_
      change (right.coefficient : ℚ) / 10 ^ right.scale = 0
      rw [zero, Int.cast_zero, zero_div]
    exact ⟨quotient left right, if_neg coefficient, rfl⟩
  monotone less more below := by
    have scaled : less * 10 ^ 28 ≤ more * 10 ^ 28 :=
      mul_le_mul_of_nonneg_right below (by positivity)
    exact div_le_div_of_nonneg_right
      (Int.cast_le.mpr (Rounding.nearestEven_monotone scaled)) (by positivity)
  zero := by
    rw [ratioDigits, zero_mul]
    have whole : Rounding.nearestEven ((0 : ℤ) : ℚ) = 0 := Rounding.nearestEven_intCast 0
    rw [Int.cast_zero] at whole
    rw [whole, Int.cast_zero, zero_div]

/-! ## Slippage -/

/-- What a price costs more than another: a buy above it, a sell below it. -/
def adverseMove (isBuy : Bool) (px reference : ℚ) : ℚ :=
  if isBuy then px - reference else reference - px

/-- The slippage of a price in basis points. -/
def slippageOf (ratio : ℚ → ℚ) (isBuy : Bool) (px reference : ℚ) : ℚ :=
  ratio (adverseMove isBuy px reference / reference) * 10000

/-- A price of the format is within the slippage of one price, and beyond it when measured from
another. -/
def Asset.Oversteps (asset : Asset) (ratio : ℚ → ℚ) (isBuy : Bool) (sent measured bps : ℚ) : Prop :=
  ∃ px, asset.FitsPrice px ∧ adverseMove isBuy px sent ≤ sent * ratio (bps / 10000) ∧
    bps < slippageOf ratio isBuy px measured

/-- A price is within its slippage exactly if it is not past the furthest price, on either side. -/
theorem within_furthestPrice (isBuy : Bool) (px sent slippage : ℚ) :
    adverseMove isBuy px sent ≤ sent * slippage ↔
      if isBuy then px ≤ furthestPrice isBuy sent slippage
      else furthestPrice isBuy sent slippage ≤ px := by
  cases isBuy with
  | true =>
      simp only [adverseMove, furthestPrice, ↓reduceIte, mul_add, mul_one]
      exact sub_le_iff_le_add'
  | false =>
      simp only [adverseMove, furthestPrice, Bool.false_eq_true, ↓reduceIte, mul_sub, mul_one]
      exact sub_le_comm

/-- A price that costs more has more slippage. -/
theorem slippageOf_mono {ratio : ℚ → ℚ} (monotone : Monotone ratio) {isBuy : Bool}
    {px px' reference : ℚ} (positive : 0 < reference)
    (dearer : adverseMove isBuy px reference ≤ adverseMove isBuy px' reference) :
    slippageOf ratio isBuy px reference ≤ slippageOf ratio isBuy px' reference :=
  mul_le_mul_of_nonneg_right (monotone (div_le_div_of_nonneg_right dearer positive.le))
    (by norm_num)

/-- The tightest price costs the most within its bound: it is beyond the other bound if any
price is. -/
theorem Asset.Tightest.oversteps_iff {asset : Asset} {ratio : ℚ → ℚ} {isBuy : Bool}
    {sent measured bps px : ℚ} (monotone : Monotone ratio) (positive : 0 < measured)
    (tightest : asset.Tightest isBuy (furthestPrice isBuy sent (ratio (bps / 10000))) px) :
    asset.Oversteps ratio isBuy sent measured bps ↔ bps < slippageOf ratio isBuy px measured := by
  constructor
  · rintro ⟨other, fits, within, beyond⟩
    rw [within_furthestPrice] at within
    refine beyond.trans_le (slippageOf_mono monotone positive ?_)
    cases isBuy with
    | true =>
        have highest : other ≤ px := tightest.2 ⟨fits, within⟩
        exact sub_le_sub_right highest measured
    | false =>
        have lowest : px ≤ other := tightest.2 ⟨fits, within⟩
        exact sub_le_sub_left lowest measured
  · intro beyond
    refine ⟨px, tightest.fits, ?_, beyond⟩
    rw [within_furthestPrice]
    cases isBuy with
    | true => exact tightest.1.2
    | false => exact tightest.1.2

/-! ## The cap -/

variable {config : AgentGuardrails dec.Decimal} {intent : OrderIntent dec.Decimal}
  {referencePx : dec.Decimal} {order : Rounded dec.Decimal}

/-- The cap refuses more slippage than its limit. -/
theorem checkSlippage_refuses_iff (exact : dec.Exact) {ratio : ℚ → ℚ}
    (rounds : dec.RoundsRatios ratio) (nonneg : 0 ≤ dec.value (slippageLimit config intent))
    (positive : 0 < dec.value (order.kind.slippageReference referencePx)) :
    (∃ refusal, checkSlippage config intent referencePx order = .error refusal ∧
        refusal.ForSlippage) ↔
      dec.value (slippageLimit config intent) < slippageOf ratio intent.isBuy
        (dec.value order.px) (dec.value (order.kind.slippageReference referencePx)) := by
  generalize same : order.kind.slippageReference referencePx = reference at positive ⊢
  obtain ⟨slippage, measured, compares⟩ : ∃ slippage,
      adverseSlippageBps intent.isBuy order.px reference = some slippage ∧
        (dec.value (slippageLimit config intent) < dec.value slippage ↔
          dec.value (slippageLimit config intent) <
            slippageOf ratio intent.isBuy (dec.value order.px) (dec.value reference)) := by
    obtain ⟨moved, moves, value⟩ : ∃ moved,
        (if intent.isBuy then dec.checkedSub order.px reference
          else dec.checkedSub reference order.px) = some moved ∧
          dec.value moved = adverseMove intent.isBuy (dec.value order.px)
            (dec.value reference) := by
      cases intent.isBuy with
      | true =>
          obtain ⟨moved, moves⟩ := Option.isSome_iff_exists.mp (exact.sub order.px reference)
          exact ⟨moved, moves, dec.value_checkedSub _ _ _ moves⟩
      | false =>
          obtain ⟨moved, moves⟩ := Option.isSome_iff_exists.mp (exact.sub reference order.px)
          exact ⟨moved, moves, dec.value_checkedSub _ _ _ moves⟩
    have chained : adverseSlippageBps intent.isBuy order.px reference =
        (if intent.isBuy then dec.checkedSub order.px reference
          else dec.checkedSub reference order.px).bind fun moved =>
            if dec.value moved ≤ 0 then some dec.zero
            else (dec.checkedDiv moved reference).bind fun quotient =>
              dec.checkedMul quotient (dec.ofInt 10000) := by
      unfold adverseSlippageBps
      cases intent.isBuy <;> rfl
    rw [chained, moves, Option.bind_some, slippageOf, ← value]
    by_cases favourable : dec.value moved ≤ 0
    · have below : ratio (dec.value moved / dec.value reference) ≤ 0 := by
        rw [← rounds.zero]
        exact rounds.monotone (div_nonpos_of_nonpos_of_nonneg favourable positive.le)
      refine ⟨dec.zero, if_pos favourable, ?_⟩
      rw [dec.value_zero]
      exact ⟨fun under => absurd under (not_lt.mpr nonneg), fun under => by linarith⟩
    · obtain ⟨quotient, divided, rounded⟩ := rounds.divides moved reference positive.ne'
      obtain ⟨product, multiplied⟩ :=
        Option.isSome_iff_exists.mp (exact.mul quotient (dec.ofInt 10000))
      refine ⟨product, ?_, ?_⟩
      · rw [if_neg favourable, divided, Option.bind_some, multiplied]
      · rw [dec.value_checkedMul _ _ _ multiplied, dec.value_ofInt, rounded]
        norm_num
  have step : checkSlippage config intent referencePx order = (do
      refuseIf (dec.value (slippageLimit config intent) < dec.value slippage)
        (.slippage intent.symbol slippage (slippageLimit config intent) reference)
      return slippage) := by
    unfold checkSlippage
    dsimp only
    rw [same, measured]
    rfl
  rw [step, ← compares]
  constructor
  · rintro ⟨refusal, refused, -⟩
    rcases bind_eq_error refused with refused | ⟨_, -, finished⟩
    · exact (refuseIf_error refused).1
    · exact nomatch finished
  · intro beyond
    refine ⟨.slippage intent.symbol slippage (slippageLimit config intent) reference, ?_, trivial⟩
    rw [refuseIf, if_pos beyond]
    rfl

end Oppen.Guardrail
