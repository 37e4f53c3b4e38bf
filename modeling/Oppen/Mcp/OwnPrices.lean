import Oppen.Guardrail.Measuring
import Oppen.Guardrail.Overstep
import Oppen.Mcp.DayLoss

/-! # Orders the gateway prices

A market order, a stop to market and a close have no price of their own: the gateway bounds one by
the operator's slippage, and the engine measures it against the same slippage. The two agree
unless the engine rounds a trigger to where a price of the format is within the one bound and
beyond the other.
-/

namespace Oppen.Mcp

open Foundation Oppen.Ledger Oppen.Guardrail Oppen.Signing

/-- `PlaceKind`. -/
inductive PlaceKind where
  | limit (limitPx : String) (tif : Tif)
  | market
  | stopMarket (triggerPx : String) (tpsl : Tpsl)
  deriving DecidableEq

/-- `PlaceParams`; the cloid is supplied or minted. -/
structure PlaceParams where
  symbol : String
  isBuy : Bool
  size : String
  order : PlaceKind
  reason : String
  reduceOnly : Bool
  deriving DecidableEq

/-- How the building of an order stops. -/
inductive NoOrder where
  | stopped (stop : Stop)
  | invalid (field detail : String)

variable {dec : RiskDecimals}

/-- `slippage_price_bounded` at a slippage in basis points. -/
def crossingPrice (asset : Asset) (px : dec.Decimal) (isBuy : Bool) (slippageBps : dec.Decimal) :
    Except NoOrder dec.Decimal :=
  mapError .stopped <| orPanic do
    let slippage ← dec.checkedDiv slippageBps (dec.ofInt 10000)
    asset.slippagePriceBounded dec px isBuy slippage

section Normalizing

variable (fromStr : String → Except String dec.Decimal)

/-- The price, the kind on the wire and the kind asked for. -/
def PlaceKind.priced (order : PlaceKind) (isBuy : Bool) (asset : Asset)
    (market : MarketRef dec.Decimal) (slippage : Except ToolError dec.Decimal) :
    Except NoOrder (dec.Decimal × OrderKind dec.Decimal × RequestedOrderKind dec.Decimal) :=
  match order with
  | .limit limitPx tif => do
      let limitPx ← mapError (.invalid "limit_px") (fromStr limitPx)
      return (limitPx, .limit tif, .limit limitPx tif)
  | .market =>
      match market.referencePx with
      | none => .error (.stopped (.refused (.unavailable "reference price"
          ("no mid for " ++ market.symbol ++ "; refusing to price a market order"))))
      | some mid => do
          let slippageBps ← mapError (.stopped ∘ .refused) slippage
          let px ← crossingPrice asset mid isBuy slippageBps
          return (px, .limit .ioc, .market slippageBps)
  | .stopMarket triggerPx tpsl => do
      let triggerPx ← mapError (.invalid "trigger_px") (fromStr triggerPx)
      let slippageBps ← mapError (.stopped ∘ .refused) slippage
      -- a stop crosses from its trigger, which is not rounded here
      let px ← crossingPrice asset triggerPx isBuy slippageBps
      return (px, .trigger true triggerPx tpsl, .stopMarket triggerPx tpsl slippageBps)

/-- `normalize_place_order`. -/
def normalizePlaceOrder (order : PlaceKind) (isBuy : Bool) (asset : Asset)
    (market : MarketRef dec.Decimal) (slippage : Except ToolError dec.Decimal) :
    Except NoOrder (dec.Decimal × OrderKind dec.Decimal × OriginalRequest dec.Decimal) := do
  let (px, kind, requested) ← order.priced fromStr isBuy asset market slippage
  return (px, kind, ⟨requested, market.referencePx, market.asOfMs⟩)

/-- The intent of `place`. -/
def placeIntent (params : PlaceParams) (cloid : Except NoOrder Cloid) (asset : Asset)
    (market : MarketRef dec.Decimal) (slippage : Except ToolError dec.Decimal) :
    Except NoOrder (OrderIntent dec.Decimal) := do
  let sz ← mapError (.invalid "size") (fromStr params.size)
  let cloid ← cloid
  let (px, kind, original) ←
    normalizePlaceOrder fromStr params.order params.isBuy asset market slippage
  return {
    original := some original
    symbol := params.symbol
    isBuy := params.isBuy
    px, sz, kind
    reduceOnly := params.reduceOnly
    cloid := some cloid
    grouping := .na
    builder := none
    maxSlippageBps := none
    reason := params.reason }

end Normalizing

/-- `close_intent`: closing a long is a sell, and closing a short a buy. -/
def closeIntent (symbol reason : String) (positionSize referencePx : dec.Decimal)
    (referenceAtMs : UInt64) (maxSlippageBps : dec.Decimal) (asset : Asset) (cloid : Cloid) :
    Except NoOrder (OrderIntent dec.Decimal) := do
  let isBuy := dec.isSignNegative positionSize
  let px ← crossingPrice asset referencePx isBuy maxSlippageBps
  return {
    original := some ⟨.closePosition positionSize maxSlippageBps, some referencePx, referenceAtMs⟩
    symbol, isBuy, px
    sz := dec.abs positionSize
    kind := .limit .ioc
    reduceOnly := true
    cloid := some cloid
    grouping := .na
    builder := none
    maxSlippageBps := none
    reason }

/-! ## What an order crosses from -/

/-- An intent that the gateway prices at a slippage: the price it bounds the order from, and the
one the engine measures the slippage from. -/
inductive OwnPriced (fromStr : String → Except String dec.Decimal) (asset : Asset)
    (market : MarketRef dec.Decimal) (slippageBps : dec.Decimal)
    (intent : OrderIntent dec.Decimal) : dec.Decimal → dec.Decimal → Prop
  | market {params : PlaceParams} {cloid : Except NoOrder Cloid} {mid : dec.Decimal}
      (asked : params.order = .market) (quoted : market.referencePx = some mid)
      (built : placeIntent fromStr params cloid asset market (.ok slippageBps) = .ok intent) :
      OwnPriced fromStr asset market slippageBps intent mid mid
  | stop {params : PlaceParams} {cloid : Except NoOrder Cloid} {text : String} {tpsl : Tpsl}
      {triggerPx : dec.Decimal} (asked : params.order = .stopMarket text tpsl)
      (read : fromStr text = .ok triggerPx)
      (built : placeIntent fromStr params cloid asset market (.ok slippageBps) = .ok intent) :
      OwnPriced fromStr asset market slippageBps intent triggerPx (asset.roundPrice dec triggerPx)
  | close {symbol reason : String} {positionSize referencePx : dec.Decimal} {cloid : Cloid}
      (quoted : market.referencePx = some referencePx)
      (built : closeIntent symbol reason positionSize referencePx market.asOfMs slippageBps asset
        cloid = .ok intent) :
      OwnPriced fromStr asset market slippageBps intent referencePx referencePx

/-- What the engine is handed of such an intent. -/
structure Crosses (asset : Asset) (market : MarketRef dec.Decimal) (slippageBps : dec.Decimal)
    (intent : OrderIntent dec.Decimal) (sent measured : dec.Decimal) : Prop where
  priced : crossingPrice asset sent intent.isBuy slippageBps = .ok intent.px
  unbounded : intent.maxSlippageBps = none
  reference : ∀ referencePx, market.referencePx = some referencePx →
    (intent.kind.round asset).slippageReference referencePx = measured

section Crossing

variable {fromStr : String → Except String dec.Decimal} {asset : Asset}
  {market : MarketRef dec.Decimal} {slippageBps sent measured : dec.Decimal}
  {intent : OrderIntent dec.Decimal}

/-- The price and the kind of an intent of `place` are those of its request. -/
theorem placeIntent_ok {params : PlaceParams} {cloid : Except NoOrder Cloid}
    {slippage : Except ToolError dec.Decimal}
    (built : placeIntent fromStr params cloid asset market slippage = .ok intent) :
    intent.isBuy = params.isBuy ∧ intent.maxSlippageBps = none ∧ ∃ requested,
      params.order.priced fromStr params.isBuy asset market slippage =
        .ok (intent.px, intent.kind, requested) := by
  obtain ⟨sz, -, built⟩ := bind_eq_ok built
  obtain ⟨cloid, -, built⟩ := bind_eq_ok built
  obtain ⟨⟨px, kind, original⟩, normalized, built⟩ := bind_eq_ok built
  obtain ⟨⟨px', kind', requested⟩, priced, same⟩ := bind_eq_ok normalized
  cases same
  cases built
  exact ⟨rfl, rfl, requested, priced⟩

/-- An order at the program's own price crosses the market as it was asked to. -/
theorem OwnPriced.crosses
    (own : OwnPriced fromStr asset market slippageBps intent sent measured) :
    Crosses asset market slippageBps intent sent measured := by
  cases own with
  | @market params cloid mid asked quoted built =>
      obtain ⟨side, unbounded, requested, priced⟩ := placeIntent_ok built
      rw [asked, PlaceKind.priced, quoted] at priced
      obtain ⟨bps, same, priced⟩ := bind_eq_ok priced
      obtain rfl := Except.ok.inj same
      obtain ⟨px, bounded, same⟩ := bind_eq_ok priced
      obtain ⟨same, kinds⟩ := Prod.mk.inj (Except.ok.inj same)
      obtain ⟨kind, -⟩ := Prod.mk.inj kinds
      refine ⟨by rw [side, bounded, same], unbounded, fun referencePx held => ?_⟩
      rw [← kind]
      exact Option.some.inj (held.symm.trans quoted)
  | @stop params cloid text tpsl triggerPx asked read built =>
      obtain ⟨side, unbounded, requested, priced⟩ := placeIntent_ok built
      rw [asked, PlaceKind.priced, read] at priced
      obtain ⟨trigger, same, priced⟩ := bind_eq_ok priced
      obtain rfl := Except.ok.inj same
      obtain ⟨bps, same, priced⟩ := bind_eq_ok priced
      obtain rfl := Except.ok.inj same
      obtain ⟨px, bounded, same⟩ := bind_eq_ok priced
      obtain ⟨same, kinds⟩ := Prod.mk.inj (Except.ok.inj same)
      obtain ⟨kind, -⟩ := Prod.mk.inj kinds
      refine ⟨by rw [side, bounded, same], unbounded, fun referencePx _ => ?_⟩
      rw [← kind]
      rfl
  | close quoted built =>
      obtain ⟨px, bounded, same⟩ := bind_eq_ok built
      cases same
      exact ⟨bounded, rfl, fun referencePx held => Option.some.inj (held.symm.trans quoted)⟩

/-- The price is the tightest one for the slippage, and the engine's rounding leaves it. -/
theorem crossingPrice_ok (exact : dec.Exact) {ratio : ℚ → ℚ} (rounds : dec.RoundsRatios ratio)
    {isBuy : Bool} {px : dec.Decimal}
    (bounded : crossingPrice asset sent isBuy slippageBps = .ok px) :
    asset.Tightest isBuy
        (furthestPrice isBuy (dec.value sent) (ratio (dec.value slippageBps / 10000)))
        (dec.value px) ∧
      asset.roundPrice dec px = px := by
  have basis : dec.value (dec.ofInt 10000) = 10000 := by
    rw [dec.value_ofInt]
    norm_num
  obtain ⟨slippage, divided, value⟩ := rounds.divides slippageBps (dec.ofInt 10000)
    (by rw [basis]; norm_num)
  obtain ⟨price, number, priced, normal, tightest⟩ :=
    slippagePriceBounded_tightest exact asset isBuy sent slippage
  obtain rfl : price = px := by
    rw [crossingPrice, divided] at bounded
    change mapError _ (orPanic (asset.slippagePriceBounded dec sent isBuy slippage)) = _ at bounded
    rw [priced] at bounded
    exact Except.ok.inj bounded
  rw [value, basis] at tightest
  exact ⟨tightest, roundPrice_of_fits asset exact normal tightest.fits⟩

end Crossing

/-! ## Refused for the slippage it was priced at -/

section Evaluating

variable {setup : EngineSetup} {answers : Answers dec.Decimal} {ask : Evaluation dec.Decimal}
  {state : OrderState dec.Decimal} {fromStr : String → Except String dec.Decimal}
  {slippageBps sent measured : dec.Decimal}

/-- The trigger of an order on the wire is positive. -/
theorem toWireForPosition_trigger {asset : Asset} {spec : OrderSpec dec.Decimal}
    {position triggerPx : dec.Decimal} {isMarket : Bool} {tpsl : Tpsl} {wire : OrderWire}
    (trigger : spec.kind = .trigger isMarket triggerPx tpsl)
    (run : spec.toWireForPosition asset position = .ok wire) :
    0 < dec.value (asset.roundPrice dec triggerPx) := by
  obtain ⟨_, -, run⟩ := bind_eq_ok run
  obtain ⟨_, kind, -⟩ := bind_eq_ok run
  rw [OrderSpec.wireKind, trigger] at kind
  obtain ⟨_, valid, -⟩ := bind_eq_ok kind
  exact validatePrice_ok (mapError_eq_ok valid)

/-- What slippage is measured from is positive, once the order is rounded. -/
theorem slippageReference_positive {config : AgentGuardrails dec.Decimal}
    {account : AccountSnapshot dec.Decimal} {asset : Asset} {intent : OrderIntent dec.Decimal}
    {referencePx : dec.Decimal} {order : Rounded dec.Decimal}
    (rounded : RoundsTo config account asset intent order)
    (positive : 0 < dec.value referencePx) :
    0 < dec.value (order.kind.slippageReference referencePx) := by
  have wire := rounded.wire
  have kind := rounded.kind
  cases asked : intent.kind with
  | limit tif =>
      rw [kind, asked]
      exact positive
  | trigger isMarket triggerPx tpsl =>
      rw [asked] at kind
      have above := toWireForPosition_trigger kind wire
      rw [kind]
      rwa [asset.value_roundPrice_twice] at above

/-- **An order the gateway prices is refused for its slippage** exactly if it is measured, and a
price of the format is within the slippage of the price it crosses from and beyond that of the
price it is measured from. -/
theorem ownPriced_slippage_iff (exact : dec.Exact) {ratio : ℚ → ℚ}
    (rounds : dec.RoundsRatios ratio) (plain : answers.Unevaluated)
    (configured : ∀ config, (state.refreshPolicy answers).2.engine.policy.guardrails.get ask.agent =
      some config → config.maxSlippageBps = slippageBps)
    (own : OwnPriced fromStr ask.asset ask.market slippageBps ask.intent sent measured) :
    RefusedForSlippage (evaluate setup answers ask state).1 ↔
      (∃ config referencePx order,
          ReachesSlippage setup answers ask state config referencePx order) ∧
        ask.asset.Oversteps ratio ask.intent.isBuy (dec.value sent) (dec.value measured)
          (dec.value slippageBps) := by
  obtain ⟨bounded, unbounded, reference⟩ := own.crosses
  obtain ⟨tightest, fixed⟩ := crossingPrice_ok exact rounds bounded
  -- the cap compares the gateway's own price and reference
  have caps : ∀ config referencePx order,
      ReachesSlippage setup answers ask state config referencePx order →
        ((∃ refusal, checkSlippage config ask.intent referencePx order = .error refusal ∧
            refusal.ForSlippage) ↔
          ask.asset.Oversteps ratio ask.intent.isBuy (dec.value sent) (dec.value measured)
            (dec.value slippageBps)) := by
    intro config referencePx order reaches
    obtain ⟨route, admitted⟩ := reaches.admitted
    obtain ⟨held, valid, -⟩ := checkAdmission_config admitted
    obtain ⟨quoted, positive⟩ := checkMarket_ok reaches.market
    have rounded := roundOrder_ok reaches.capped.rounded
    have above := slippageReference_positive rounded positive
    have limit : slippageLimit config ask.intent = slippageBps := by
      rw [slippageLimit, unbounded]
      exact configured config held
    have nonneg : 0 ≤ dec.value (slippageLimit config ask.intent) := by
      rw [slippageLimit, unbounded]
      exact validate_slippage valid
    have compares := checkSlippage_refuses_iff exact rounds nonneg above
    rw [limit, rounded.px, fixed, rounded.kind, reference referencePx quoted] at compares
    rw [rounded.kind, reference referencePx quoted] at above
    rw [compares, tightest.oversteps_iff rounds.monotone above]
  rw [evaluate_slippage_iff plain state]
  constructor
  · rintro ⟨config, referencePx, order, reaches, refused⟩
    exact ⟨⟨config, referencePx, order, reaches⟩, (caps _ _ _ reaches).mp refused⟩
  · rintro ⟨⟨config, referencePx, order, reaches⟩, oversteps⟩
    exact ⟨config, referencePx, order, reaches, (caps _ _ _ reaches).mpr oversteps⟩

end Evaluating

/-! ## A stop that is refused -/

namespace ProtectiveStop

open OneSymbol

def fromStr (text : String) : Except String OneSymbol.dec.Decimal :=
  match FixedPoint.parse text with
  | some number => .ok number
  | none => .error "Invalid decimal: unknown character"

def cloid : Cloid := ⟨"0x000102030405060708090a0b0c0d0e0f", by decide⟩

/-- A stop with a trigger of seven digits, two more than a price of the format has. -/
def params : PlaceParams := ⟨"BTC", true, "1", .stopMarket "101.8049" .sl, "protect", false⟩

def number (coefficient : ℤ) (scale : ℕ) : OneSymbol.dec.Decimal :=
  (⟨coefficient, scale⟩ : FixedPoint)

def quoted : Evaluation OneSymbol.dec.Decimal :=
  OneSymbol.ask (snapshot (dollars 0) (dollars 0)) (dollars 100) (dollars 1) 0

/-- What the gateway makes of the stop, at the fifty basis points of the operator. -/
def intent : OrderIntent OneSymbol.dec.Decimal where
  original := some ⟨.stopMarket (number 1018049 4) .sl (dollars 50), some (dollars 100), 0⟩
  symbol := "BTC"
  isBuy := true
  px := number 10231 2
  sz := dollars 1
  kind := .trigger true (number 1018049 4) .sl
  reduceOnly := false
  cloid := some cloid
  grouping := .na
  builder := none
  maxSlippageBps := none
  reason := "protect"

def ask : Evaluation OneSymbol.dec.Decimal := { quoted with intent }

def state : OrderState OneSymbol.dec.Decimal := OneSymbol.state guardrails ⟨⟨2, 1000⟩, 1⟩

/-- The tool builds the stop of the sample. -/
theorem intent_built : placeIntent fromStr params (.ok cloid) ask.asset ask.market
    (.ok (dollars 50)) = .ok intent :=
  eq_ok_of_some (by decide +kernel)

/-- The stop of the sample is at the program's own price. -/
theorem stop_priced : OwnPriced fromStr ask.asset ask.market (dollars 50) ask.intent
    (number 1018049 4) (ask.asset.roundPrice OneSymbol.dec (number 1018049 4)) :=
  @OwnPriced.stop OneSymbol.dec fromStr _ _ _ _ params (.ok cloid) _ _ _ rfl rfl intent_built

/-- The configuration that is read has the slippage of the sample. -/
theorem read_configured (config : AgentGuardrails OneSymbol.dec.Decimal)
    (read : (state.refreshPolicy (answers guardrails)).2.engine.policy.guardrails.get ask.agent =
      some config) : config.maxSlippageBps = dollars 50 := by
  have held : (state.refreshPolicy (answers guardrails)).2.engine.policy.guardrails.get ask.agent =
      some guardrails := by decide +kernel
  rw [← Option.some.inj (held.symm.trans read)]
  rfl

/-- The registry and the feed of the sample refuse nothing. -/
theorem answers_unevaluated : (answers guardrails).Unevaluated := ⟨nofun, nofun, nofun⟩

/-- The same stop with a trigger of the format, and what the gateway makes of it. -/
def roundParams : PlaceParams := ⟨"BTC", true, "1", .stopMarket "101.80" .sl, "protect", false⟩

def roundIntent : OrderIntent OneSymbol.dec.Decimal :=
  { intent with
    original := some ⟨.stopMarket (number 10180 2) .sl (dollars 50), some (dollars 100), 0⟩
    px := number 1023 1
    kind := .trigger true (number 10180 2) .sl }

def roundAsk : Evaluation OneSymbol.dec.Decimal := { quoted with intent := roundIntent }

/-- The tool builds the stop on a price of the format. -/
theorem roundIntent_built : placeIntent fromStr roundParams (.ok cloid) roundAsk.asset
    roundAsk.market (.ok (dollars 50)) = .ok roundIntent :=
  eq_ok_of_some (by decide +kernel)

/-- That stop is at the program's own price. -/
theorem round_priced : OwnPriced fromStr roundAsk.asset roundAsk.market (dollars 50)
    roundAsk.intent (number 10180 2) (roundAsk.asset.roundPrice OneSymbol.dec (number 10180 2)) :=
  @OwnPriced.stop OneSymbol.dec fromStr _ _ _ _ roundParams (.ok cloid) _ _ _ rfl rfl
    roundIntent_built

/-- Whether the stop is refused for its slippage, by its trigger as it was sent and as it is
rounded. -/
def Decides (ask : Evaluation OneSymbol.dec.Decimal) (trigger : OneSymbol.dec.Decimal) : Prop :=
  ¬ RefusedForSlippage (evaluate setup (answers guardrails) ask state).1 ↔
    ((∃ config referencePx order,
        ReachesSlippage setup (answers guardrails) ask state config referencePx order) →
      ¬ ask.asset.Oversteps ratioDigits ask.intent.isBuy (OneSymbol.dec.value trigger)
        (OneSymbol.dec.value (ask.asset.roundPrice OneSymbol.dec trigger))
        (OneSymbol.dec.value (dollars 50)))

end ProtectiveStop

end Oppen.Mcp
