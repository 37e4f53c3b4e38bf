import Oppen.Guardrail.Amounts

/-! # Orders

What an agent asks for, rounded to the rules of an asset, validated and put on the wire.
-/

namespace Oppen.Guardrail

open Foundation Oppen.Ledger Oppen.Signing

/-! ## Assets -/

structure AssetInfo where
  name : String
  szDecimals : ℕ
  maxLeverage : UInt32
  isDelisted : Bool
  deriving DecidableEq

/-- One tradable perp with its numeric asset id. -/
structure Asset where
  index : UInt32
  info : AssetInfo
  deriving DecidableEq

/-- `PERP_MAX_DECIMALS`. -/
def perpMaxDecimals : ℕ := 6

/-- `PRICE_SIG_FIGS`. -/
def priceSigFigs : ℕ := 5

/-- `WIRE_DECIMALS`. -/
def wireDecimals : ℕ := 8

inductive ValidationError (Decimal : Type) where
  | delisted (name : String)
  | nonPositivePrice (px : Decimal)
  | nonPositiveSize (sz : Decimal)
  | priceSigFigs (px : Decimal)
  | priceDecimals (px : Decimal) (max : ℕ)
  | sizeDecimals (sz : Decimal) (szDecimals : ℕ)
  | minNotional (notional : Decimal)
  deriving DecidableEq

/-- `WireError`, as far as an order meets it. -/
inductive WireError (Decimal : Type) where
  | tooManyDecimals (number : Decimal)
  deriving DecidableEq

inductive OrderError (Decimal : Type) where
  | validation (error : ValidationError Decimal)
  | wire (error : WireError Decimal)
  deriving DecidableEq

inductive OrderKind (Decimal : Type) where
  | limit (tif : Tif)
  | trigger (isMarket : Bool) (triggerPx : Decimal) (tpsl : Tpsl)
  deriving DecidableEq

/-- The time in force of a limit order. -/
def OrderKind.tif {Decimal : Type} : OrderKind Decimal → Option Tif
  | .limit tif => some tif
  | .trigger _ _ _ => none

/-- What an operator or agent asks for, in decimals. -/
structure OrderSpec (Decimal : Type) where
  isBuy : Bool
  px : Decimal
  sz : Decimal
  kind : OrderKind Decimal
  reduceOnly : Bool
  cloid : Option Cloid
  deriving DecidableEq

section Orders

variable (dec : RiskDecimals)

/-- `MIN_NOTIONAL_USD`. -/
def RiskDecimals.minNotionalUsd : dec.Decimal := dec.ofInt 10

/-- The operator `*`; it panics where this is the ceiling. -/
def RiskDecimals.mul (left right : dec.Decimal) : dec.Decimal :=
  (dec.checkedMul left right).getD dec.ceiling

/-- `significant_figures`. -/
def RiskDecimals.significantFigures (number : dec.Decimal) : ℕ :=
  let coefficient := (dec.mantissa (dec.normalize number)).natAbs
  if coefficient = 0 then 0 else (Nat.toDigits 10 coefficient).length

namespace Asset

variable (asset : Asset)

def maxPriceDecimals : ℕ := perpMaxDecimals - asset.info.szDecimals

/-- `round_price`: significant figures first, then decimals. -/
def roundPrice (px : dec.Decimal) : dec.Decimal :=
  let sf := (dec.roundSf .midpointNearestEven priceSigFigs px).getD px
  dec.normalize (dec.roundDp .midpointNearestEven asset.maxPriceDecimals sf)

def roundSize (sz : dec.Decimal) : dec.Decimal :=
  dec.normalize (dec.roundDp .midpointNearestEven asset.info.szDecimals sz)

/-- `slippage_price_bounded`, with `none` where it panics. -/
def slippagePriceBounded (mid : dec.Decimal) (isBuy : Bool) (slippage : dec.Decimal) :
    Option dec.Decimal := do
  let factor ← if isBuy then dec.checkedAdd dec.one slippage else dec.checkedSub dec.one slippage
  let towardMid : RoundingStrategy := if isBuy then .toNegativeInfinity else .toPositiveInfinity
  let raw ← dec.checkedMul mid factor
  let sf := (dec.roundSf towardMid priceSigFigs raw).getD raw
  return dec.normalize (dec.roundDp towardMid asset.maxPriceDecimals sf)

/-- `validate_price`: integers always pass. -/
def validatePrice (px : dec.Decimal) : Except (ValidationError dec.Decimal) Unit := do
  refuseIf (dec.value px ≤ 0) (.nonPositivePrice px)
  let px := dec.normalize px
  if dec.scale px = 0 then return
  refuseIf (asset.maxPriceDecimals < dec.scale px) (.priceDecimals px asset.maxPriceDecimals)
  refuseIf (priceSigFigs < dec.significantFigures px) (.priceSigFigs px)

def validateSize (sz : dec.Decimal) : Except (ValidationError dec.Decimal) Unit := do
  refuseIf (dec.value sz ≤ 0) (.nonPositiveSize sz)
  let sz := dec.normalize sz
  refuseIf (asset.info.szDecimals < dec.scale sz) (.sizeDecimals sz asset.info.szDecimals)

/-- `validate_order`: the full check of a limit order. -/
def validateOrder (px sz : dec.Decimal) : Except (ValidationError dec.Decimal) Unit := do
  refuseIf (asset.info.isDelisted = true) (.delisted asset.info.name)
  asset.validatePrice dec px
  asset.validateSize dec sz
  let notional := dec.mul px sz
  refuseIf (dec.value notional < dec.value dec.minNotionalUsd)
    (.minNotional (dec.normalize notional))

end Asset

/-- `float_to_wire`. -/
def floatToWire (number : dec.Decimal) : Except (WireError dec.Decimal) String := do
  let normal := dec.normalize number
  refuseIf (wireDecimals < dec.scale normal) (.tooManyDecimals number)
  if dec.value normal = 0 then return "0" else return dec.display normal

/-- `WireFloat::from_decimal`. -/
def wireFloat (number : dec.Decimal) : Except (WireError dec.Decimal) WireFloat := do
  return ⟨← floatToWire dec number⟩

/-- What a price or size on the wire is read back as. -/
def decodeWire (wire : WireFloat) : Option dec.Decimal := dec.deserialize wire.text

namespace OrderSpec

variable {dec} (spec : OrderSpec dec.Decimal) (asset : Asset)

/-- A full reduce-only close, which may leave the minimum to the venue. -/
def fullClose (sz position : dec.Decimal) : Prop :=
  spec.reduceOnly = true ∧ spec.kind.tif = some .ioc ∧ dec.value position ≠ 0 ∧
    spec.isBuy = dec.isSignNegative position ∧ dec.value sz = dec.value (dec.abs position)

instance (sz position : dec.Decimal) : Decidable (spec.fullClose sz position) :=
  inferInstanceAs (Decidable (_ ∧ _ ∧ _ ∧ _ ∧ _))

/-- The verdict on price and size, which a full close takes without the minimum. -/
def validated (px sz position : dec.Decimal) : Except (ValidationError dec.Decimal) Unit :=
  match asset.validateOrder dec px sz with
  | .error (.minNotional notional) =>
      if spec.fullClose sz position then .ok () else .error (.minNotional notional)
  | result => result

/-- The type of order on the wire. -/
def wireKind : Except (OrderError dec.Decimal) Signing.OrderType :=
  match spec.kind with
  | .limit tif => .ok (.limit tif)
  | .trigger isMarket triggerPx tpsl => do
      let triggerPx := asset.roundPrice dec triggerPx
      mapError .validation (asset.validatePrice dec triggerPx)
      return .trigger isMarket (← mapError .wire (wireFloat dec triggerPx)) tpsl

/-- `to_wire_for_position`: rounds, validates and builds the wire order. -/
def toWireForPosition (position : dec.Decimal) : Except (OrderError dec.Decimal) OrderWire := do
  let px := asset.roundPrice dec spec.px
  let sz := asset.roundSize dec spec.sz
  mapError .validation (spec.validated asset px sz position)
  let kind ← spec.wireKind asset
  let p ← mapError .wire (wireFloat dec px)
  let s ← mapError .wire (wireFloat dec sz)
  return ⟨asset.index, spec.isBuy, p, s, spec.reduceOnly, kind, spec.cloid⟩

end OrderSpec

end Orders

/-! ## Requests -/

inductive RequestedOrderKind (Decimal : Type) where
  | limit (limitPx : Decimal) (tif : Tif)
  | market (slippageBps : Decimal)
  | stopMarket (triggerPx : Decimal) (tpsl : Tpsl) (slippageBps : Decimal)
  | closePosition (positionSize slippageBps : Decimal)
  deriving DecidableEq

/-- What was asked for before it was normalized; evidence only. -/
structure OriginalRequest (Decimal : Type) where
  kind : RequestedOrderKind Decimal
  referencePx : Option Decimal
  referenceAtMs : UInt64
  deriving DecidableEq

/-- What an agent is asking to do, before anything is rounded. -/
structure OrderIntent (Decimal : Type) where
  original : Option (OriginalRequest Decimal)
  symbol : String
  isBuy : Bool
  px : Decimal
  sz : Decimal
  kind : OrderKind Decimal
  reduceOnly : Bool
  cloid : Option Cloid
  grouping : Grouping
  builder : Option BuilderInfo
  maxSlippageBps : Option Decimal
  reason : String
  deriving DecidableEq

namespace OriginalRequest

variable {dec : RiskDecimals} (original : OriginalRequest dec.Decimal)
  (intent : OrderIntent dec.Decimal)

/-- A trigger order to market at a price, by value. -/
def StopsAt (triggerPx : dec.Decimal) (tpsl : Tpsl) : OrderKind dec.Decimal → Prop
  | .trigger isMarket actual actualTpsl =>
      isMarket = true ∧ dec.value actual = dec.value triggerPx ∧ actualTpsl = tpsl
  | .limit _ => False

instance (triggerPx : dec.Decimal) (tpsl : Tpsl) :
    ∀ kind : OrderKind dec.Decimal, Decidable (StopsAt triggerPx tpsl kind)
  | .trigger _ _ _ => inferInstanceAs (Decidable (_ ∧ _ ∧ _))
  | .limit _ => inferInstanceAs (Decidable False)

/-- `OriginalRequest::matches_intent`. -/
def matchesIntent : Bool :=
  if (∃ px ∈ original.referencePx, dec.value px ≤ 0) ∨
      2 ^ 63 ≤ original.referenceAtMs.toNat then false
  else
    match original.kind with
    | .limit limitPx tif =>
        decide (0 < dec.value limitPx ∧ dec.value intent.px = dec.value limitPx ∧
          intent.kind.tif = some tif)
    | .market slippageBps =>
        decide (0 ≤ dec.value slippageBps ∧ original.referencePx.isSome = true ∧
          intent.kind.tif = some .ioc)
    | .stopMarket triggerPx tpsl slippageBps =>
        decide (0 < dec.value triggerPx ∧ 0 ≤ dec.value slippageBps ∧
          StopsAt triggerPx tpsl intent.kind)
    | .closePosition positionSize slippageBps =>
        decide (dec.value positionSize ≠ 0 ∧ 0 ≤ dec.value slippageBps ∧
          original.referencePx.isSome = true ∧ intent.reduceOnly = true ∧
          dec.value intent.sz = dec.value (dec.abs positionSize) ∧
          intent.isBuy = dec.isSignNegative positionSize ∧ intent.kind.tif = some .ioc)

/-- The intent has the price bound that a reference and a slippage give. -/
def bounded (asset : Asset) (px slippageBps : dec.Decimal) : Option Bool := do
  let slippage ← dec.checkedDiv slippageBps (dec.ofInt 10000)
  let factor ←
    if intent.isBuy then dec.checkedAdd dec.one slippage else dec.checkedSub dec.one slippage
  let raw ← dec.checkedMul px factor
  if dec.value raw ≤ 0 then return false
  let bound ← asset.slippagePriceBounded dec px intent.isBuy slippage
  return decide (dec.value bound = dec.value intent.px)

/-- `OriginalRequest::matches_normalization`. -/
def matchesNormalization (asset : Asset) : Bool :=
  original.matchesIntent intent &&
    match original.kind with
    | .limit _ _ => true
    | .market slippageBps | .closePosition _ slippageBps =>
        (original.referencePx.bind fun px => bounded intent asset px slippageBps).getD false
    | .stopMarket triggerPx _ slippageBps =>
        (bounded intent asset triggerPx slippageBps).getD false

end OriginalRequest

/-! ## Rounding twice -/

section Rounded

variable {dec : RiskDecimals} (asset : Asset)

/-- A rounded price, in terms of what its significant digits are. -/
theorem Asset.value_roundPrice (px sf : dec.Decimal)
    (same : (dec.roundSf .midpointNearestEven priceSigFigs px).getD px = sf) :
    dec.value (asset.roundPrice dec px) =
      Rounding.halfEven.toUnit (Rounding.place asset.maxPriceDecimals) (dec.value sf) := by
  rw [Asset.roundPrice, same, dec.value_normalize, dec.value_roundDp]
  rfl

/-- A price too large for its digits to be rounded is an integer. -/
theorem Asset.value_roundPrice_none {px : dec.Decimal}
    (none : dec.roundSf .midpointNearestEven priceSigFigs px = none) :
    dec.value (asset.roundPrice dec px) = dec.value px := by
  obtain ⟨whole, integer⟩ := dec.roundSf_none _ _ _ none
  rw [asset.value_roundPrice px px (by rw [none]; rfl), integer, Rounding.toUnit_intCast]

/-- **Rounding a price again changes nothing.** -/
theorem Asset.value_roundPrice_twice (px : dec.Decimal) :
    dec.value (asset.roundPrice dec (asset.roundPrice dec px)) =
      dec.value (asset.roundPrice dec px) := by
  cases again : dec.roundSf .midpointNearestEven priceSigFigs (asset.roundPrice dec px) with
  | none => exact asset.value_roundPrice_none again
  | some sf' =>
      cases rounded : dec.roundSf .midpointNearestEven priceSigFigs px with
      | none =>
          have unmoved := asset.value_roundPrice_none rounded
          have kept := dec.roundSf_none_of_same _ _ _ _ unmoved.symm rounded
          exact nomatch kept.symm.trans again
      | some sf =>
          have first := asset.value_roundPrice px sf (by rw [rounded]; rfl)
          have second := asset.value_roundPrice _ sf' (by rw [again]; rfl)
          rw [dec.value_roundSf _ _ _ _ rounded] at first
          rw [second, dec.value_roundSf _ _ _ _ again, first]
          exact Rounding.halfEven.toPlaces_idem (by decide) asset.maxPriceDecimals (dec.value px)

/-- Rounding a size again changes nothing. -/
theorem Asset.value_roundSize_twice (sz : dec.Decimal) :
    dec.value (asset.roundSize dec (asset.roundSize dec sz)) =
      dec.value (asset.roundSize dec sz) := by
  simp only [Asset.roundSize, dec.value_normalize, dec.value_roundDp]
  exact Rounding.toUnit_multiple _ (Rounding.place_pos _) _

end Rounded

end Oppen.Guardrail
