import Oppen.Guardrail.Costs

/-! # What was measured of a cleared order

Each check of `evaluate` that returns, in terms of the amounts it compared.
-/

namespace Oppen.Guardrail

open Foundation Oppen.Ledger Oppen.Signing

/-! ## Arithmetic that did not overflow -/

section Sums

variable {dec : RiskDecimals} {first second third : dec.Decimal} {field : String}

/-- A product and a sum that are answered are exact. -/
theorem checked_add_mul {result : dec.Decimal}
    (run : checked (do
      let product ← dec.checkedMul first second
      dec.checkedAdd product third) field = .ok result) :
    dec.value result = dec.value first * dec.value second + dec.value third := by
  obtain ⟨product, multiplied, added⟩ := Option.bind_eq_some_iff.mp (checked_ok run)
  rw [dec.value_checkedAdd _ _ _ added, dec.value_checkedMul _ _ _ multiplied]

/-- Two sums that are answered are exact. -/
theorem checked_add_add {result : dec.Decimal}
    (run : checked (do
      let sum ← dec.checkedAdd first second
      dec.checkedAdd sum third) field = .ok result) :
    dec.value result = dec.value first + dec.value second + dec.value third := by
  obtain ⟨sum, once, twice⟩ := Option.bind_eq_some_iff.mp (checked_ok run)
  rw [dec.value_checkedAdd _ _ _ twice, dec.value_checkedAdd _ _ _ once]

/-- Two differences that are answered are exact. -/
theorem checked_sub_sub {result : dec.Decimal}
    (run : checked (do
      let difference ← dec.checkedSub first second
      dec.checkedSub difference third) field = .ok result) :
    dec.value result = dec.value first - dec.value second - dec.value third := by
  obtain ⟨difference, once, twice⟩ := Option.bind_eq_some_iff.mp (checked_ok run)
  rw [dec.value_checkedSub _ _ _ twice, dec.value_checkedSub _ _ _ once]

/-- A difference and a sum that are answered are exact. -/
theorem checked_sub_add {result : dec.Decimal}
    (run : checked (do
      let difference ← dec.checkedSub first second
      dec.checkedAdd difference third) field = .ok result) :
    dec.value result = dec.value first - dec.value second + dec.value third := by
  obtain ⟨difference, once, twice⟩ := Option.bind_eq_some_iff.mp (checked_ok run)
  rw [dec.value_checkedAdd _ _ _ twice, dec.value_checkedSub _ _ _ once]

end Sums

section Measuring

variable {dec : RiskDecimals} {config : AgentGuardrails dec.Decimal}
  {account : AccountSnapshot dec.Decimal} {asset : Asset} {market : MarketRef dec.Decimal}
  {intent : OrderIntent dec.Decimal} {referencePx : dec.Decimal}

/-! ## The order on its own -/

/-- A price that the asset's format admits is positive. -/
theorem validatePrice_ok {px : dec.Decimal} {done : Unit}
    (run : asset.validatePrice dec px = .ok done) : 0 < dec.value px := by
  obtain ⟨_, positive, -⟩ := bind_eq_ok run
  exact not_le.mp (refuseIf_ok positive)

/-- A size that the asset's format admits is positive. -/
theorem validateSize_ok {sz : dec.Decimal} {done : Unit}
    (run : asset.validateSize dec sz = .ok done) : 0 < dec.value sz := by
  obtain ⟨_, positive, -⟩ := bind_eq_ok run
  exact not_le.mp (refuseIf_ok positive)

/-- Neither the price nor the size is refused for the minimum. -/
theorem validatePrice_notional {px notional : dec.Decimal} :
    asset.validatePrice dec px ≠ .error (.minNotional notional) := by
  intro run
  rcases bind_eq_error run with refused | ⟨_, -, run⟩
  · cases (refuseIf_error refused).2
  · dsimp only at run
    split at run
    · cases run
    · rcases bind_eq_error run with refused | ⟨_, -, run⟩
      · cases (refuseIf_error refused).2
      · cases (refuseIf_error run).2

/-- A size alone is never refused for its notional. -/
theorem validateSize_notional {sz notional : dec.Decimal} :
    asset.validateSize dec sz ≠ .error (.minNotional notional) := by
  intro run
  rcases bind_eq_error run with refused | ⟨_, -, run⟩
  · cases (refuseIf_error refused).2
  · cases (refuseIf_error run).2

/-- An order that is valid, but for the minimum of a full close, has a price and a size. -/
theorem validated_positive {spec : OrderSpec dec.Decimal}
    {px sz position : dec.Decimal} {done : Unit}
    (run : spec.validated asset px sz position = .ok done) :
    0 < dec.value px ∧ 0 < dec.value sz := by
  unfold OrderSpec.validated at run
  split at run
  · rename_i notional refused
    rcases bind_eq_error refused with refused | ⟨_, -, refused⟩
    · exact nomatch (refuseIf_error refused).2
    · rcases bind_eq_error refused with refused | ⟨_, price, refused⟩
      · exact absurd refused validatePrice_notional
      · rcases bind_eq_error refused with refused | ⟨_, size, -⟩
        · exact absurd refused validateSize_notional
        · exact ⟨validatePrice_ok price, validateSize_ok size⟩
  · obtain ⟨_, -, run⟩ := bind_eq_ok run
    obtain ⟨_, price, run⟩ := bind_eq_ok run
    obtain ⟨_, size, -⟩ := bind_eq_ok run
    exact ⟨validatePrice_ok price, validateSize_ok size⟩

/-- An order on the wire has a price and a size. -/
theorem toWireForPosition_positive {spec : OrderSpec dec.Decimal} {position : dec.Decimal}
    {wire : OrderWire} (run : spec.toWireForPosition asset position = .ok wire) :
    0 < dec.value (asset.roundPrice dec spec.px) ∧ 0 < dec.value (asset.roundSize dec spec.sz) := by
  obtain ⟨_, valid, -⟩ := bind_eq_ok run
  exact validated_positive (mapError_eq_ok valid)

/-- What an order went through up to the cap on its notional. -/
structure RoundsTo (config : AgentGuardrails dec.Decimal) (account : AccountSnapshot dec.Decimal)
    (asset : Asset) (intent : OrderIntent dec.Decimal) (order : Rounded dec.Decimal) : Prop where
  px : order.px = asset.roundPrice dec intent.px
  sz : order.sz = asset.roundSize dec intent.sz
  kind : order.kind = intent.kind.round asset
  wire : (⟨intent.isBuy, order.px, order.sz, order.kind, intent.reduceOnly, intent.cloid⟩ :
    OrderSpec dec.Decimal).toWireForPosition asset (account.positionSzi intent.symbol) =
      .ok order.wire
  resting : account.resting = some order.resting
  sides : order.sides = order.resting.sides intent.symbol
  positive : ∀ buys reduces, 0 ≤ dec.value (order.sides.at buys reduces)
  notional : dec.value order.notionalUsd = dec.value order.px * dec.value order.sz
  capped : dec.value order.notionalUsd ≤ dec.value config.maxOrderUsd

/-- Resting totals that pass are not negative on any side. -/
theorem checkSigns_ok {sides : Sides dec.Decimal} {done : Unit} (run : sides.checkSigns = .ok done)
    (buys reduces : Bool) : 0 ≤ dec.value (sides.at buys reduces) := by
  have signs := refuseIf_ok run
  simp only [not_or, not_lt] at signs
  obtain ⟨bought, sold, raised, lowered⟩ := signs
  cases buys <;> cases reduces <;> assumption

/-- An order that could be rounded is rounded as `RoundsTo` says, before anything is measured. -/
theorem roundOrder_ok {order : Rounded dec.Decimal}
    (run : roundOrder config account asset intent = .ok order) :
    RoundsTo config account asset intent order := by
  unfold roundOrder at run
  dsimp only at run
  obtain ⟨notionalUsd, notional, run⟩ := bind_eq_ok run
  obtain ⟨wire, built, run⟩ := bind_eq_ok run
  cases held : account.resting with
  | none =>
      rw [held] at run
      exact nomatch run
  | some resting =>
      rw [held] at run
      obtain ⟨_, signs, run⟩ := bind_eq_ok run
      have finish {done : Except (Refusal dec.Decimal) (Rounded dec.Decimal)}
          (same : done = .ok order)
          (run : (do
            refuseIf (dec.value config.maxOrderUsd < dec.value notionalUsd)
              (.orderNotional intent.symbol notionalUsd config.maxOrderUsd)
            return (⟨asset.roundPrice dec intent.px, asset.roundSize dec intent.sz,
              intent.kind.round asset, notionalUsd, wire, resting.sides intent.symbol, resting⟩ :
              Rounded dec.Decimal)) = done) : RoundsTo config account asset intent order := by
        rw [same] at run
        obtain ⟨_, capped, run⟩ := bind_eq_ok run
        cases run
        exact ⟨rfl, rfl, rfl, mapError_eq_ok built, held, rfl, checkSigns_ok signs,
          dec.value_checkedMul _ _ _ (checked_ok notional), not_lt.mp (refuseIf_ok capped)⟩
      split at run
      · obtain ⟨_, -, run⟩ := bind_eq_ok run
        exact finish run rfl
      · exact finish run rfl

/-- A rounded order has a positive size. -/
theorem RoundsTo.sz_positive {order : Rounded dec.Decimal}
    (rounds : RoundsTo config account asset intent order) : 0 < dec.value order.sz := by
  have positive := (toWireForPosition_positive rounds.wire).2
  dsimp only at positive
  rw [rounds.sz, Asset.value_roundSize_twice, ← rounds.sz] at positive
  exact positive

/-! ## The worst positions -/

/-- The sizes with the candidate's are the ones that work with it. -/
structure WorstOf (account : AccountSnapshot dec.Decimal) (intent : OrderIntent dec.Decimal)
    (sides grown : Sides dec.Decimal) (sz : dec.Decimal) (positions : Positions dec.Decimal) :
    Prop where
  szi : positions.szi = account.positionSzi intent.symbol
  signedSz : positions.signedSz = if intent.isBuy then sz else dec.neg sz
  before : worstPosition positions.szi sides = .ok positions.before
  grows : ∃ size, dec.checkedAdd (sides.at intent.isBuy intent.reduceOnly) sz = some size ∧
    grown = sides.modify intent.isBuy intent.reduceOnly fun _ => size
  after : worstPosition positions.szi grown = .ok positions.after

/-- The worst positions that are answered grow by the order's own size, each from its own total. -/
theorem worstPositions_ok {sides : Sides dec.Decimal} {sz : dec.Decimal}
    {positions : Positions dec.Decimal}
    (run : worstPositions account intent sides sz = .ok positions) :
    ∃ grown, WorstOf account intent sides grown sz positions := by
  obtain ⟨before, alone, run⟩ := bind_eq_ok run
  obtain ⟨size, added, run⟩ := bind_eq_ok run
  obtain ⟨after, together, run⟩ := bind_eq_ok run
  cases run
  exact ⟨_, rfl, rfl, alone, ⟨size, checked_ok added, rfl⟩, together⟩

/-! ## The caps -/

/-- A position that passes is within its cap, in the worst of the orders that could fill. -/
theorem checkPosition_ok {sides : Sides dec.Decimal} {positions : Positions dec.Decimal}
    {positionAfterUsd : dec.Decimal} {volScaled : Option (VolScaledCap dec.Decimal)}
    (run : checkPosition config market intent referencePx sides positions =
      .ok (positionAfterUsd, volScaled)) :
    dec.value positionAfterUsd = |dec.value positions.after| * dec.value referencePx ∧
      (positions.genuineReduction intent = false →
        dec.value positionAfterUsd ≤ dec.value config.maxPositionUsd) := by
  obtain ⟨afterUsd, product, run⟩ := bind_eq_ok run
  obtain ⟨restingUsd, -, run⟩ := bind_eq_ok run
  obtain ⟨_, capped, run⟩ := bind_eq_ok run
  obtain ⟨scaled, -, run⟩ := bind_eq_ok run
  obtain ⟨filled, -, run⟩ := bind_eq_ok run
  have same : afterUsd = positionAfterUsd := by
    dsimp only at run
    split at run
    · obtain ⟨_, -, run⟩ := bind_eq_ok run
      exact (Prod.mk.inj (Except.ok.inj run)).1
    · exact (Prod.mk.inj (Except.ok.inj run)).1
  subst same
  refine ⟨?_, fun exposed => ?_⟩
  · rw [dec.value_checkedMul _ _ _ (checked_ok product), RiskDecimals.value_abs]
  · have within := refuseIf_ok capped
    exact not_lt.mp fun above => within ⟨exposed, above⟩

/-- What the caps on exposure and leverage compared. -/
structure Levered (config : AgentGuardrails dec.Decimal) (account : AccountSnapshot dec.Decimal)
    (asset : Asset) (intent : OrderIntent dec.Decimal) (referencePx : dec.Decimal)
    (order : Rounded dec.Decimal) (positions : Positions dec.Decimal)
    (positionAfterUsd leverage total : dec.Decimal) : Prop where
  opening : 0 ≤ dec.value (BySymbol.amount dec order.resting.notionalBySymbol intent.symbol) ∧
    dec.value (BySymbol.amount dec order.resting.notionalBySymbol intent.symbol) ≤
      dec.value order.resting.notionalUsd
  exposure : positions.genuineReduction intent = false →
    ∀ limitUsd, config.risk.maxOpenExposureUsd = some limitUsd →
      dec.value account.totalPositionNotionalUsd + dec.value order.resting.notionalUsd +
        (if intent.reduceOnly then 0 else dec.value order.sz * dec.value referencePx) ≤
      dec.value limitUsd
  replaced : dec.value total = max
    (dec.value account.totalPositionNotionalUsd + dec.value order.resting.notionalUsd -
      (|dec.value positions.szi| * dec.value referencePx +
        dec.value (BySymbol.amount dec order.resting.notionalBySymbol intent.symbol)) +
      dec.value positionAfterUsd) 0
  divided : dec.checkedDiv total account.equityUsd = some leverage
  capped : positions.genuineReduction intent = false →
    dec.value leverage ≤ ((leverageCap config asset).toNat : ℚ)

/-- An order that is no reduction passes only within the cap on what may be open. -/
theorem checkOpenExposure_ok {genuineReduction : Bool}
    {sz accountBefore : dec.Decimal} {done : Unit}
    (run : checkOpenExposure config genuineReduction intent sz referencePx accountBefore = .ok done)
    (exposed : genuineReduction = false) {limitUsd : dec.Decimal}
    (limited : config.risk.maxOpenExposureUsd = some limitUsd) :
    dec.value accountBefore +
        (if intent.reduceOnly then 0 else dec.value sz * dec.value referencePx) ≤
      dec.value limitUsd := by
  unfold checkOpenExposure at run
  rw [limited, exposed] at run
  dsimp only at run
  rw [if_neg Bool.false_ne_true] at run
  obtain ⟨opening, opened, run⟩ := bind_eq_ok run
  obtain ⟨observed, added, run⟩ := bind_eq_ok run
  have within := not_lt.mp (refuseIf_ok run)
  rw [dec.value_checkedAdd _ _ _ (checked_ok added)] at within
  unfold openingUsd at opened
  split at opened
  · rename_i reduces
    cases opened
    rw [if_pos reduces]
    rw [Decimals.value_zero] at within
    exact within
  · rename_i opens
    rw [if_neg opens]
    rw [dec.value_checkedMul _ _ _ (checked_ok opened)] at within
    exact within

/-- An order passes only within its leverage, as `Levered` has it. -/
theorem checkLeverage_ok {order : Rounded dec.Decimal} {positions : Positions dec.Decimal}
    {positionAfterUsd leverage : dec.Decimal}
    (run : checkLeverage config account asset intent referencePx order positions positionAfterUsd =
      .ok leverage) :
    ∃ total, Levered config account asset intent referencePx order positions positionAfterUsd
      leverage total := by
  obtain ⟨opening, attributed, run⟩ := bind_eq_ok run
  obtain ⟨symbolBefore, symbol, run⟩ := bind_eq_ok run
  obtain ⟨accountBefore, whole, run⟩ := bind_eq_ok run
  obtain ⟨_, exposure, run⟩ := bind_eq_ok run
  obtain ⟨total, replaced, run⟩ := bind_eq_ok run
  obtain ⟨ratio, divided, run⟩ := bind_eq_ok run
  obtain ⟨_, capped, run⟩ := bind_eq_ok run
  cases run
  obtain ⟨_, signs, attributed⟩ := bind_eq_ok attributed
  cases attributed
  have bounds := refuseIf_ok signs
  simp only [not_or, not_lt] at bounds
  have accountValue := dec.value_checkedAdd _ _ _ (checked_ok whole)
  refine ⟨total, bounds, ?_, ?_, checked_ok divided, ?_⟩
  · intro exposed limitUsd limited
    rw [← accountValue]
    exact checkOpenExposure_ok exposure exposed limited
  · obtain ⟨sum, summed, replaced⟩ := bind_eq_ok replaced
    cases replaced
    rw [Decimals.value_max, checked_sub_add summed, checked_add_mul symbol, accountValue,
      RiskDecimals.value_abs, Decimals.value_zero]
  · intro exposed
    have within := refuseIf_ok capped
    exact not_lt.mp fun above => within ⟨exposed, above⟩

/-! ## Everything -/

/-- What an order went through that was measured. -/
structure Measures (config : AgentGuardrails dec.Decimal) (account : AccountSnapshot dec.Decimal)
    (asset : Asset) (market : MarketRef dec.Decimal) (intent : OrderIntent dec.Decimal)
    (referencePx : dec.Decimal) (measured : Measured dec.Decimal) where
  order : Rounded dec.Decimal
  positions : Positions dec.Decimal
  grown : Sides dec.Decimal
  total : dec.Decimal
  rounds : RoundsTo config account asset intent order
  worst : WorstOf account intent order.sides grown order.sz positions
  afterUsd : dec.value measured.positionAfterUsd =
    |dec.value positions.after| * dec.value referencePx
  capped : positions.genuineReduction intent = false →
    dec.value measured.positionAfterUsd ≤ dec.value config.maxPositionUsd
  levered : Levered config account asset intent referencePx order positions
    measured.positionAfterUsd measured.leverage total
  slipped : checkSlippage config intent referencePx order = .ok measured.slippageBps
  px : measured.px = order.px
  sz : measured.sz = order.sz
  kind : measured.kind = order.kind
  wire : measured.wire = order.wire
  notional : measured.notionalUsd = order.notionalUsd

/-- **A measured order passed every cap.** -/
theorem measure_ok {measured : Measured dec.Decimal}
    (run : measure config account asset market intent referencePx = .ok measured) :
    Nonempty (Measures config account asset market intent referencePx measured) := by
  obtain ⟨order, rounded, run⟩ := bind_eq_ok run
  obtain ⟨positions, worst, run⟩ := bind_eq_ok run
  obtain ⟨⟨positionAfterUsd, volScaled⟩, position, run⟩ := bind_eq_ok run
  obtain ⟨leverage, levered, run⟩ := bind_eq_ok run
  obtain ⟨slippageBps, slipped, run⟩ := bind_eq_ok run
  cases run
  obtain ⟨grown, worst⟩ := worstPositions_ok worst
  obtain ⟨afterUsd, capped⟩ := checkPosition_ok position
  obtain ⟨total, levered⟩ := checkLeverage_ok levered
  exact ⟨⟨order, positions, grown, total, roundOrder_ok rounded, worst, afterUsd, capped, levered,
    slipped, rfl, rfl, rfl, rfl, rfl⟩⟩

end Measuring

/-! ## A cleared order -/

section Clearing

variable {dec : RiskDecimals} {setup : EngineSetup} {answers : Answers dec.Decimal} {mode : Mode}
  {ask : Evaluation dec.Decimal} {before after : OrderState dec.Decimal}

/-- A market that passes has a positive reference price. -/
theorem checkMarket_ok {market : MarketRef dec.Decimal} {config : AgentGuardrails dec.Decimal}
    {nowMs : UInt64} {px : dec.Decimal} (run : checkMarket market config nowMs = .ok px) :
    market.referencePx = some px ∧ 0 < dec.value px := by
  obtain ⟨_, -, run⟩ := bind_eq_ok run
  obtain ⟨_, -, run⟩ := bind_eq_ok run
  obtain ⟨_, -, run⟩ := bind_eq_ok run
  obtain ⟨_, -, run⟩ := bind_eq_ok run
  exact referencePrice_ok run

/-- An order that passes every cap was measured, and each of its measures is within its cap. -/
theorem checkCaps_ok {config : AgentGuardrails dec.Decimal} {referencePx : dec.Decimal}
    {measured : Measured dec.Decimal} (run : checkCaps config ask = .ok (referencePx, measured)) :
    ask.market.referencePx = some referencePx ∧ 0 < dec.value referencePx ∧
      measure config ask.exposure.agent ask.asset ask.market ask.intent referencePx =
        .ok measured := by
  obtain ⟨px, market, run⟩ := bind_eq_ok run
  obtain ⟨_, -, run⟩ := bind_eq_ok run
  obtain ⟨found, measures, run⟩ := bind_eq_ok run
  cases run
  obtain ⟨reference, positive⟩ := checkMarket_ok market
  exact ⟨reference, positive, measures⟩

/-- What an order went through that was cleared. Every cap below is read off these comparisons. -/
structure Clears (ask : Evaluation dec.Decimal) (cleared : Cleared dec.Decimal)
    (after : OrderState dec.Decimal) where
  config : AgentGuardrails dec.Decimal
  referencePx : dec.Decimal
  measured : Measured dec.Decimal
  configured : after.engine.policy.guardrails.get ask.agent = some config
  valid : config.validate dec.toPolicyDecimals = .ok ()
  reference : ask.market.referencePx = some referencePx
  positive : 0 < dec.value referencePx
  equity : 0 < dec.value ask.exposure.agent.equityUsd
  measures : Measures config ask.exposure.agent ask.asset ask.market ask.intent referencePx measured
  action : cleared.action = .order [measured.wire] ask.intent.grouping ask.intent.builder

/-- **A cleared order was measured**, under its agent's guardrails and at the market's price. -/
theorem decideOrder_clears {cleared : Cleared dec.Decimal}
    (run : decideOrder setup answers mode ask before = (.ok cleared, after)) :
    Nonempty (Clears ask cleared after) := by
  obtain ⟨clearing⟩ := decideOrder_ok run
  obtain ⟨configured, valid, equity⟩ := checkAdmission_config clearing.passes.admission
  obtain ⟨reference, positive, measures⟩ := checkCaps_ok clearing.passes.caps
  obtain ⟨measures⟩ := measure_ok measures
  refine ⟨⟨clearing.passed.config, clearing.passed.referencePx, clearing.passed.measured, ?_, valid,
    reference, positive, equity, measures, ?_⟩⟩
  · have engine : after.engine = clearing.engine := congrArg OrderState.engine clearing.result
    rw [engine]
    exact configured
  · exact congrArg Cleared.action clearing.clearance

end Clearing

end Oppen.Guardrail
