import Oppen.Guardrail.Checks

/-! # What an order is measured against

The rounded order, the worst position it can lead to, and the caps on notional, position,
exposure, leverage and slippage.
-/

namespace Oppen.Guardrail

open Oppen.Ledger Oppen.Signing

/-! ## Working sizes -/

/-- Sizes working on a symbol, those of reductions apart. -/
structure Sides (Amount : Type) where
  buys : Amount
  sells : Amount
  reduceBuys : Amount
  reduceSells : Amount
  deriving DecidableEq

/-- The sizes with one of them changed: that of an order's side. -/
def Sides.modify {Amount : Type} (sides : Sides Amount) (isBuy reduceOnly : Bool)
    (change : Amount → Amount) : Sides Amount :=
  match isBuy, reduceOnly with
  | true, false => { sides with buys := change sides.buys }
  | false, false => { sides with sells := change sides.sells }
  | true, true => { sides with reduceBuys := change sides.reduceBuys }
  | false, true => { sides with reduceSells := change sides.reduceSells }

/-- The size on an order's side. -/
def Sides.at {Amount : Type} (sides : Sides Amount) (isBuy reduceOnly : Bool) : Amount :=
  match isBuy, reduceOnly with
  | true, false => sides.buys
  | false, false => sides.sells
  | true, true => sides.reduceBuys
  | false, true => sides.reduceSells

section Measures

variable {dec : RiskDecimals}

/-- What works on a symbol. -/
def RestingExposure.sides (resting : RestingExposure dec.Decimal) (symbol : String) :
    Sides dec.Decimal :=
  ⟨BySymbol.amount dec resting.buys symbol, BySymbol.amount dec resting.sells symbol,
    BySymbol.amount dec resting.reduceBuys symbol, BySymbol.amount dec resting.reduceSells symbol⟩

/-- The sizes that are checked not to be negative. -/
def Sides.checkSigns (sides : Sides dec.Decimal) : Except (Refusal dec.Decimal) Unit :=
  refuseIf (dec.value sides.buys < 0 ∨ dec.value sides.sells < 0 ∨
      dec.value sides.reduceBuys < 0 ∨ dec.value sides.reduceSells < 0)
    (.unevaluable (.inputMismatch "resting size" "non-negative sizes on both sides"
      (dec.display sides.buys ++ "/" ++ dec.display sides.sells ++ "/" ++
        dec.display sides.reduceBuys ++ "/" ++ dec.display sides.reduceSells)))

/-- `worst_position`: for each extreme the offset is reduced first, then the opening side fills. -/
def worstPosition (positionSzi : dec.Decimal) (sides : Sides dec.Decimal) :
    Except (Refusal dec.Decimal) dec.Decimal := do
  let long ← checked (do
    let reduced ← dec.checkedAdd positionSzi
      (dec.min sides.reduceBuys (dec.max (dec.neg positionSzi) dec.zero))
    dec.checkedAdd reduced sides.buys) "post-fill long"
  let short ← checked (do
    let reduced ← dec.checkedSub positionSzi
      (dec.min sides.reduceSells (dec.max positionSzi dec.zero))
    dec.checkedSub reduced sides.sells) "post-fill short"
  return dec.max (dec.abs long) (dec.abs short)

/-! ## Exposure of the account -/

/-- What a symbol's opening orders contribute to the working notional. -/
def openingNotional (resting : RestingExposure dec.Decimal) (symbol : String) :
    Except (Refusal dec.Decimal) dec.Decimal := do
  let opening := BySymbol.amount dec resting.notionalBySymbol symbol
  refuseIf (dec.value opening < 0 ∨ dec.value resting.notionalUsd < dec.value opening)
    (.unevaluable (.inputMismatch "resting notional"
      ("symbol contribution between 0 and " ++ dec.display resting.notionalUsd)
      (dec.display opening)))
  return opening

/-- The notional of a symbol, filled at the reference price and working. -/
def symbolBeforeUsd (positionSzi referencePx opening : dec.Decimal) :
    Except (Refusal dec.Decimal) dec.Decimal :=
  checked (do
    let filled ← dec.checkedMul (dec.abs positionSzi) referencePx
    dec.checkedAdd filled opening) "current symbol notional"

/-- The notional of the account as its snapshot has it. -/
def accountBeforeUsd (account : AccountSnapshot dec.Decimal)
    (resting : RestingExposure dec.Decimal) : Except (Refusal dec.Decimal) dec.Decimal :=
  checked (dec.checkedAdd account.totalPositionNotionalUsd resting.notionalUsd)
    "current account notional"

/-- The notional an order opens. -/
def openingUsd (intent : OrderIntent dec.Decimal) (sz referencePx : dec.Decimal) :
    Except (Refusal dec.Decimal) dec.Decimal :=
  if intent.reduceOnly then .ok dec.zero
  else checked (dec.checkedMul sz referencePx) "candidate opening notional"

/-- The cap on gross exposure, when there is one. -/
def checkOpenExposure (config : AgentGuardrails dec.Decimal) (genuineReduction : Bool)
    (intent : OrderIntent dec.Decimal) (sz referencePx accountBefore : dec.Decimal) :
    Except (Refusal dec.Decimal) Unit :=
  match config.risk.maxOpenExposureUsd with
  | none => .ok ()
  | some limitUsd =>
      if genuineReduction then .ok ()
      else do
        let opening ← openingUsd intent sz referencePx
        let observedUsd ← checked (dec.checkedAdd accountBefore opening)
          "gross account open exposure"
        refuseIf (dec.value limitUsd < dec.value observedUsd) (.openExposure observedUsd limitUsd)

/-- The account notional with a symbol's contribution replaced by its worst position. -/
def totalAfterUsd (accountBefore symbolBefore positionAfterUsd : dec.Decimal) :
    Except (Refusal dec.Decimal) dec.Decimal := do
  let total ← checked (do
    let others ← dec.checkedSub accountBefore symbolBefore
    dec.checkedAdd others positionAfterUsd) "post-fill account notional"
  return dec.max total dec.zero

/-- The operator's cap on leverage, or the venue's for the asset. -/
def leverageCap (config : AgentGuardrails dec.Decimal) (asset : Asset) : UInt32 :=
  if asset.info.maxLeverage < config.risk.maxLeverage then asset.info.maxLeverage
  else config.risk.maxLeverage

/-- The tighter of the agent's own bound and the operator's. -/
def slippageLimit (config : AgentGuardrails dec.Decimal) (intent : OrderIntent dec.Decimal) :
    dec.Decimal :=
  match intent.maxSlippageBps with
  | some agentLimit => dec.min config.maxSlippageBps agentLimit
  | none => config.maxSlippageBps

/-! ## One order -/

/-- The kind of an order with its trigger price rounded. -/
def OrderKind.round (asset : Asset) : OrderKind dec.Decimal → OrderKind dec.Decimal
  | .limit tif => .limit tif
  | .trigger isMarket triggerPx tpsl => .trigger isMarket (asset.roundPrice dec triggerPx) tpsl

/-- The price slippage is measured from. -/
def OrderKind.slippageReference (referencePx : dec.Decimal) : OrderKind dec.Decimal → dec.Decimal
  | .limit _ => referencePx
  | .trigger _ triggerPx _ => triggerPx

/-- An order with everything that was measured of it. -/
structure Measured (Decimal : Type) where
  px : Decimal
  sz : Decimal
  kind : OrderKind Decimal
  notionalUsd : Decimal
  wire : OrderWire
  positionAfterUsd : Decimal
  volScaled : Option (VolScaledCap Decimal)
  leverage : Decimal
  slippageBps : Decimal
  slippageReference : Decimal

/-- The worst positions before and after an order. -/
structure Positions (Decimal : Type) where
  szi : Decimal
  signedSz : Decimal
  before : Decimal
  after : Decimal

/-- A flagged order against a position, which does not raise the worst case. -/
def Positions.genuineReduction (positions : Positions dec.Decimal)
    (intent : OrderIntent dec.Decimal) : Bool :=
  intent.reduceOnly && decide (dec.value positions.szi ≠ 0) &&
    (dec.isSignNegative positions.szi != dec.isSignNegative positions.signedSz) &&
    decide (dec.value positions.after ≤ dec.value positions.before)

/-- The order on its own: rounded, put on the wire and within the cap on its notional. -/
structure Rounded (Decimal : Type) where
  px : Decimal
  sz : Decimal
  kind : OrderKind Decimal
  notionalUsd : Decimal
  wire : OrderWire
  sides : Sides Decimal
  resting : RestingExposure Decimal

/-- `evaluate`, from the rounding to the cap on the order's notional. -/
def roundOrder (config : AgentGuardrails dec.Decimal) (account : AccountSnapshot dec.Decimal)
    (asset : Asset) (intent : OrderIntent dec.Decimal) :
    Except (Refusal dec.Decimal) (Rounded dec.Decimal) := do
  let px := asset.roundPrice dec intent.px
  let sz := asset.roundSize dec intent.sz
  let kind := intent.kind.round asset
  let spec : OrderSpec dec.Decimal := ⟨intent.isBuy, px, sz, kind, intent.reduceOnly, intent.cloid⟩
  let notionalUsd ← checked (dec.checkedMul px sz) "order notional"
  let positionSzi := account.positionSzi intent.symbol
  let wire ← mapError (fun error => .venueRule (.ofOrderError error))
    (spec.toWireForPosition asset positionSzi)
  match account.resting with
  | none => .error (.unevaluable .missingRestingOrders)
  | some resting => do
      let sides := resting.sides intent.symbol
      sides.checkSigns
      if config.reduceOnly = true then
        checkReduceOnly intent positionSzi (if intent.isBuy then sz else dec.neg sz) sz
      refuseIf (dec.value config.maxOrderUsd < dec.value notionalUsd)
        (.orderNotional intent.symbol notionalUsd config.maxOrderUsd)
      return ⟨px, sz, kind, notionalUsd, wire, sides, resting⟩

/-- The worst positions without an order and with it. -/
def worstPositions (account : AccountSnapshot dec.Decimal) (intent : OrderIntent dec.Decimal)
    (sides : Sides dec.Decimal) (sz : dec.Decimal) :
    Except (Refusal dec.Decimal) (Positions dec.Decimal) := do
  let positionSzi := account.positionSzi intent.symbol
  let before ← worstPosition positionSzi sides
  let grown ← checked (dec.checkedAdd (sides.at intent.isBuy intent.reduceOnly) sz)
    "candidate working size"
  let after ← worstPosition positionSzi
    (sides.modify intent.isBuy intent.reduceOnly fun _ => grown)
  return ⟨positionSzi, if intent.isBuy then sz else dec.neg sz, before, after⟩

/-- The cap on the worst position, and the one scaled by volatility. -/
def checkPosition (config : AgentGuardrails dec.Decimal) (market : MarketRef dec.Decimal)
    (intent : OrderIntent dec.Decimal) (referencePx : dec.Decimal) (sides : Sides dec.Decimal)
    (positions : Positions dec.Decimal) :
    Except (Refusal dec.Decimal) (dec.Decimal × Option (VolScaledCap dec.Decimal)) := do
  let positionAfterUsd ← checked (dec.checkedMul (dec.abs positions.after) referencePx)
    "post-fill position notional"
  let restingUsd ← checked (do
    let working ← dec.checkedAdd sides.buys sides.sells
    dec.checkedMul working referencePx) "resting notional"
  refuseIf (positions.genuineReduction intent = false ∧
      dec.value config.maxPositionUsd < dec.value positionAfterUsd)
    (.positionNotional intent.symbol positionAfterUsd restingUsd config.maxPositionUsd)
  let volScaled ← volScaledCap config market intent.symbol
  let filledPosition ← checked (dec.checkedAdd positions.szi positions.signedSz) "filled position"
  -- it binds only on orders that grow the position
  let reducesPosition := positions.genuineReduction intent ||
    (!intent.reduceOnly && decide (dec.value positions.after ≤ dec.value positions.before) &&
      decide (dec.value (dec.abs filledPosition) < dec.value (dec.abs positions.szi)))
  match volScaled with
  | some cap =>
      refuseIf (reducesPosition = false ∧
          dec.value cap.effectiveCapUsd < dec.value positionAfterUsd)
        (.volScaledPositionNotional intent.symbol positionAfterUsd cap.effectiveCapUsd
          cap.riskBudgetUsd (dec.saturatingMul cap.sigmaDay (dec.ofInt 100)) cap.volScale)
  | none => .ok ()
  return (positionAfterUsd, volScaled)

/-- The caps on exposure and leverage; it returns the leverage. -/
def checkLeverage (config : AgentGuardrails dec.Decimal) (account : AccountSnapshot dec.Decimal)
    (asset : Asset) (intent : OrderIntent dec.Decimal) (referencePx : dec.Decimal)
    (order : Rounded dec.Decimal) (positions : Positions dec.Decimal)
    (positionAfterUsd : dec.Decimal) : Except (Refusal dec.Decimal) dec.Decimal := do
  let opening ← openingNotional order.resting intent.symbol
  let symbolBefore ← symbolBeforeUsd positions.szi referencePx opening
  let accountBefore ← accountBeforeUsd account order.resting
  checkOpenExposure config (positions.genuineReduction intent) intent order.sz referencePx
    accountBefore
  let totalAfter ← totalAfterUsd accountBefore symbolBefore positionAfterUsd
  let leverage ← checked (dec.checkedDiv totalAfter account.equityUsd) "leverage"
  refuseIf (positions.genuineReduction intent = false ∧
      ((leverageCap config asset).toNat : ℚ) < dec.value leverage)
    (.leverage leverage (leverageCap config asset) account.equityUsd totalAfter)
  return leverage

/-- The cap on slippage; it returns the slippage. -/
def checkSlippage (config : AgentGuardrails dec.Decimal) (intent : OrderIntent dec.Decimal)
    (referencePx : dec.Decimal) (order : Rounded dec.Decimal) :
    Except (Refusal dec.Decimal) dec.Decimal := do
  let reference := order.kind.slippageReference referencePx
  let slippageBps ← checked (adverseSlippageBps intent.isBuy order.px reference) "slippage"
  refuseIf (dec.value (slippageLimit config intent) < dec.value slippageBps)
    (.slippage intent.symbol slippageBps (slippageLimit config intent) reference)
  return slippageBps

/-- Everything of `evaluate` that only measures the order. -/
def measure (config : AgentGuardrails dec.Decimal) (account : AccountSnapshot dec.Decimal)
    (asset : Asset) (market : MarketRef dec.Decimal) (intent : OrderIntent dec.Decimal)
    (referencePx : dec.Decimal) : Except (Refusal dec.Decimal) (Measured dec.Decimal) := do
  let order ← roundOrder config account asset intent
  let positions ← worstPositions account intent order.sides order.sz
  let (positionAfterUsd, volScaled) ←
    checkPosition config market intent referencePx order.sides positions
  let leverage ← checkLeverage config account asset intent referencePx order positions
    positionAfterUsd
  let slippageBps ← checkSlippage config intent referencePx order
  return ⟨order.px, order.sz, order.kind, order.notionalUsd, order.wire, positionAfterUsd,
    volScaled, leverage, slippageBps, order.kind.slippageReference referencePx⟩

end Measures

end Oppen.Guardrail
