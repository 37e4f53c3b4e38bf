import Oppen.Guardrail.WorstCase

/-! # The notional that leverage is measured on

A symbol's part of the account's notional is taken out at the reference price, and was put in at
the venue's value. What is compared with the cap is the account's exposure only where the first
is not more than the second.
-/

namespace Oppen.Guardrail

open Foundation Oppen.Ledger Oppen.Signing

section Leverage

variable {dec : RiskDecimals}

/-- The account notional that `evaluate` compares with the leverage cap, put together of the steps
that `checkLeverage` takes. -/
def comparedNotional (account : AccountSnapshot dec.Decimal) (resting : RestingExposure dec.Decimal)
    (symbol : String) (referencePx positionAfterUsd : dec.Decimal) :
    Except (Refusal dec.Decimal) dec.Decimal := do
  let opening ← openingNotional resting symbol
  let symbolBefore ← symbolBeforeUsd (account.positionSzi symbol) referencePx opening
  let accountBefore ← accountBeforeUsd account resting
  totalAfterUsd accountBefore symbolBefore positionAfterUsd

/-- What the venue has the positions of some symbols for. -/
def AccountState.venueUsd (view : AccountState dec.Decimal) (counts : String → Bool) : ℚ :=
  ((view.positions.filter fun position => counts position.symbol).map fun position =>
    |dec.value position.positionValueUsd|).sum

/-- The notional of everything but a symbol's own position and orders. -/
def othersUsd (view : AccountState dec.Decimal) (resting : RestingExposure dec.Decimal)
    (symbol : String) : ℚ :=
  view.venueUsd (· ≠ symbol) +
    (dec.value resting.notionalUsd -
      dec.value (BySymbol.amount dec resting.notionalBySymbol symbol))

/-! ## The producer -/

/-- A sum that does not panic is the sum. -/
theorem RiskDecimals.value_sum {amounts : List dec.Decimal} {total : dec.Decimal}
    (run : dec.sum amounts = some total) : dec.value total = (amounts.map dec.value).sum := by
  suffices added : ∀ start, amounts.foldlM dec.checkedAdd start = some total →
      dec.value total = dec.value start + (amounts.map dec.value).sum by
    rw [added dec.zero run, Decimals.value_zero, zero_add]
  clear run
  induction amounts with
  | nil =>
      intro start run
      cases run
      exact (add_zero _).symm
  | cons amount amounts ih =>
      intro start run
      obtain ⟨next, added, rest⟩ := Option.bind_eq_some_iff.mp run
      rw [ih next rest, dec.value_checkedAdd _ _ _ added, List.map_cons, List.sum_cons, add_assoc]

/-- A symbol's own positions and those of the others are all. -/
theorem AccountState.venueUsd_split (view : AccountState dec.Decimal) (symbol : String) :
    view.venueUsd (· = symbol) + view.venueUsd (· ≠ symbol) =
      (view.positions.map fun position => |dec.value position.positionValueUsd|).sum := by
  unfold venueUsd
  induction view.positions with
  | nil => exact add_zero 0
  | cons position positions ih =>
      rw [List.map_cons, List.sum_cons, ← ih]
      by_cases own : position.symbol = symbol
      · simp only [own, List.filter_cons, decide_true, if_true, ne_eq, not_true_eq_false,
          decide_false, Bool.false_eq_true, if_false, List.map_cons, List.sum_cons]
        ring
      · simp only [own, List.filter_cons, decide_false, ne_eq, not_false_eq_true, decide_true,
          Bool.false_eq_true, if_false, if_true, List.map_cons, List.sum_cons]
        ring

variable {view : AccountState dec.Decimal} {realizedPnlTodayUsd : dec.Decimal}
  {peakEquityUsd : Option dec.Decimal} {reconciled : Bool} {dayStartMs : UInt64}
  {exposure : Exposure dec.Decimal}

/-- The producer adds the venue's own values. -/
theorem exposureFrom_total
    (produced : exposureFrom view realizedPnlTodayUsd peakEquityUsd reconciled dayStartMs =
      some exposure) (symbol : String) :
    dec.value exposure.agent.totalPositionNotionalUsd =
      view.venueUsd (· = symbol) + view.venueUsd (· ≠ symbol) := by
  obtain ⟨unrealized, -, produced⟩ := Option.bind_eq_some_iff.mp produced
  obtain ⟨total, summed, produced⟩ := Option.bind_eq_some_iff.mp produced
  cases produced
  rw [AccountState.venueUsd_split, RiskDecimals.value_sum summed, List.map_map]
  congr 2
  funext position
  exact RiskDecimals.value_abs dec _

/-- What the venue holds of an account is never negative, as a sum of sizes. -/
theorem AccountState.venueUsd_nonneg (view : AccountState dec.Decimal) (counts : String → Bool) :
    0 ≤ view.venueUsd counts := by
  apply List.sum_nonneg
  intro amount member
  obtain ⟨position, -, rfl⟩ := List.mem_map.mp member
  exact abs_nonneg _

/-! ## The comparison -/

variable {config : AgentGuardrails dec.Decimal} {asset : Asset} {market : MarketRef dec.Decimal}
  {intent : OrderIntent dec.Decimal} {referencePx : dec.Decimal}

/-- Sizes that are not negative are those of some orders. -/
theorem Sides.covered {sides : Sides dec.Decimal}
    (positive : ∀ buys reduces, 0 ≤ dec.value (sides.at buys reduces)) :
    ∃ orders, sides.Covers orders := by
  refine ⟨[⟨true, true, _, positive true true⟩, ⟨true, false, _, positive true false⟩,
    ⟨false, true, _, positive false true⟩, ⟨false, false, _, positive false false⟩], ?_⟩
  intro buys reduces
  cases buys <;> cases reduces <;>
    simp [Working.counted]

/-- What the cap on leverage compares is what it compares in terms of the amounts. -/
theorem comparedNotional_ok {account : AccountSnapshot dec.Decimal}
    {resting : RestingExposure dec.Decimal} {symbol : String} {positionAfterUsd total : dec.Decimal}
    (run : comparedNotional account resting symbol referencePx positionAfterUsd = .ok total) :
    0 ≤ dec.value (BySymbol.amount dec resting.notionalBySymbol symbol) ∧
      dec.value (BySymbol.amount dec resting.notionalBySymbol symbol) ≤
        dec.value resting.notionalUsd ∧
      dec.value total = max
        (dec.value account.totalPositionNotionalUsd + dec.value resting.notionalUsd -
          (|dec.value (account.positionSzi symbol)| * dec.value referencePx +
            dec.value (BySymbol.amount dec resting.notionalBySymbol symbol)) +
          dec.value positionAfterUsd) 0 := by
  obtain ⟨opening, attributed, others⟩ := bind_eq_ok run
  obtain ⟨_, signs, same⟩ := bind_eq_ok attributed
  obtain rfl := Except.ok.inj same
  obtain ⟨symbolBefore, before, others⟩ := bind_eq_ok others
  obtain ⟨accountBefore, whole, others⟩ := bind_eq_ok others
  have bounds := refuseIf_ok signs
  simp only [not_or, not_lt] at bounds
  obtain ⟨sum, summed, replaced⟩ := bind_eq_ok others
  obtain rfl := Except.ok.inj replaced
  refine ⟨bounds.1, bounds.2, ?_⟩
  rw [Decimals.value_max, checked_sub_add summed, checked_add_mul before,
    dec.value_checkedAdd _ _ _ (checked_ok whole), RiskDecimals.value_abs, Decimals.value_zero]

/-- A checked amount is refused for its own field, as an overflow. -/
theorem checked_error {amount : Option dec.Decimal} {field : String} {refusal : Refusal dec.Decimal}
    (run : checked amount field = .error refusal) :
    refusal = .unevaluable (.arithmeticOverflow field) := by
  cases amount with
  | none => exact (Except.error.inj run).symm
  | some amount => exact nomatch run

/-- The cap on exposure does not refuse for leverage. -/
theorem checkOpenExposure_leverage {genuineReduction : Bool} {sz accountBefore : dec.Decimal}
    {leverage equity total : dec.Decimal} {limit : UInt32} :
    checkOpenExposure config genuineReduction intent sz referencePx accountBefore ≠
      .error (.leverage leverage limit equity total) := by
  intro run
  unfold checkOpenExposure at run
  split at run
  · cases run
  · split at run
    · cases run
    · rcases bind_eq_error run with refused | ⟨opening, -, run⟩
      · unfold openingUsd at refused
        split at refused
        · cases refused
        · cases checked_error refused
      · rcases bind_eq_error run with refused | ⟨observed, -, run⟩
        · cases checked_error refused
        · cases (refuseIf_error run).2

/-- The cap on leverage compares this notional, whether it refuses or not. -/
theorem checkLeverage_compares {account : AccountSnapshot dec.Decimal} {order : Rounded dec.Decimal}
    {positions : Positions dec.Decimal} {positionAfterUsd : dec.Decimal}
    (szi : positions.szi = account.positionSzi intent.symbol) :
    (∀ leverage, checkLeverage config account asset intent referencePx order positions
        positionAfterUsd = .ok leverage →
      ∃ total, comparedNotional account order.resting intent.symbol referencePx positionAfterUsd =
          .ok total ∧ dec.checkedDiv total account.equityUsd = some leverage) ∧
    (∀ leverage limit equity total, checkLeverage config account asset intent referencePx order
        positions positionAfterUsd = .error (.leverage leverage limit equity total) →
      comparedNotional account order.resting intent.symbol referencePx positionAfterUsd =
        .ok total) := by
  unfold comparedNotional
  rw [← szi]
  constructor
  · intro leverage run
    obtain ⟨opening, attributed, run⟩ := bind_eq_ok run
    obtain ⟨symbolBefore, before, run⟩ := bind_eq_ok run
    obtain ⟨accountBefore, whole, run⟩ := bind_eq_ok run
    obtain ⟨_, -, run⟩ := bind_eq_ok run
    obtain ⟨total, replaced, run⟩ := bind_eq_ok run
    obtain ⟨ratio, divided, run⟩ := bind_eq_ok run
    obtain ⟨_, -, run⟩ := bind_eq_ok run
    obtain rfl := Except.ok.inj run
    refine ⟨total, ?_, checked_ok divided⟩
    simp only [attributed, before, whole, bind, Except.bind]
    exact replaced
  · intro leverage limit equity total run
    rcases bind_eq_error run with refused | ⟨opening, attributed, run⟩
    · rcases bind_eq_error refused with refused | ⟨_, -, refused⟩
      · exact nomatch (refuseIf_error refused).2
      · exact nomatch refused
    rcases bind_eq_error run with refused | ⟨symbolBefore, before, run⟩
    · exact nomatch checked_error refused
    rcases bind_eq_error run with refused | ⟨accountBefore, whole, run⟩
    · exact nomatch checked_error refused
    rcases bind_eq_error run with refused | ⟨_, -, run⟩
    · exact absurd refused checkOpenExposure_leverage
    rcases bind_eq_error run with refused | ⟨sum, replaced, run⟩
    · rcases bind_eq_error refused with refused | ⟨_, -, refused⟩
      · exact nomatch checked_error refused
      · exact nomatch refused
    rcases bind_eq_error run with refused | ⟨ratio, -, run⟩
    · exact nomatch checked_error refused
    rcases bind_eq_error run with refused | ⟨_, -, run⟩
    · cases (refuseIf_error refused).2
      simp only [attributed, before, whole, bind, Except.bind]
      exact replaced
    · exact nomatch run

/-- **Exactly when the cap on leverage sees the account's exposure**: where the position is worth no
more at the reference price than the venue has it for. The check takes the symbol out of the account
at the reference price, and the venue put it in at its own; the two cancel only where they agree. -/
theorem compared_notional_iff {positions : Positions dec.Decimal} {order : Rounded dec.Decimal}
    {positionAfterUsd total : dec.Decimal} {volScaled : Option (VolScaledCap dec.Decimal)}
    (produced : exposureFrom view realizedPnlTodayUsd peakEquityUsd reconciled dayStartMs =
      some exposure)
    (positive : 0 < dec.value referencePx)
    (rounded : roundOrder config exposure.agent asset intent = .ok order)
    (worst : worstPositions exposure.agent intent order.sides order.sz = .ok positions)
    (position : checkPosition config market intent referencePx order.sides positions =
      .ok (positionAfterUsd, volScaled))
    (compared : comparedNotional exposure.agent order.resting intent.symbol referencePx
      positionAfterUsd = .ok total) :
    othersUsd view order.resting intent.symbol + dec.value positionAfterUsd ≤ dec.value total ↔
      |dec.value (exposure.agent.positionSzi intent.symbol)| * dec.value referencePx ≤
        view.venueUsd (· = intent.symbol) := by
  have rounds := roundOrder_ok rounded
  obtain ⟨grown, worst⟩ := worstPositions_ok worst
  obtain ⟨afterUsd, -⟩ := checkPosition_ok position
  obtain ⟨opening, attributed, compared⟩ := comparedNotional_ok compared
  have others := view.venueUsd_nonneg (· ≠ intent.symbol)
  have venue := view.venueUsd_nonneg (· = intent.symbol)
  rw [compared, exposureFrom_total produced intent.symbol, othersUsd]
  -- the worst position is no smaller than the one that is held
  have held : |dec.value (exposure.agent.positionSzi intent.symbol)| * dec.value referencePx ≤
      dec.value positionAfterUsd := by
    obtain ⟨orders, covers⟩ := Sides.covered rounds.positive
    let candidate : Working ℚ :=
      ⟨intent.isBuy, intent.reduceOnly, dec.value order.sz, rounds.sz_positive.le⟩
    have reached := (Holding.mk (dec.value (exposure.agent.positionSzi intent.symbol))
      (candidate :: orders)).abs_position_le_worst
    have worstAfter := (worst.values covers (rfl : candidate.buys = intent.isBuy) rfl rfl).2
    rw [← worstAfter] at reached
    rw [afterUsd]
    exact mul_le_mul_of_nonneg_right (reached.trans (le_abs_self _)) positive.le
  generalize |dec.value (exposure.agent.positionSzi intent.symbol)| * dec.value referencePx =
    marked at *
  generalize dec.value (BySymbol.amount dec order.resting.notionalBySymbol intent.symbol) = own at *
  generalize view.venueUsd (· = intent.symbol) = valued at *
  generalize view.venueUsd (· ≠ intent.symbol) = rest at *
  constructor
  · intro above
    by_contra less
    -- an account without any exposure holds no position either
    rcases le_max_iff.mp above with seen | none <;> linarith
  · intro less
    exact le_max_of_le_left (by linarith)

end Leverage

namespace OneSymbol

/-- An account with ten, which the venue has at a hundred dollars each. -/
def view : AccountState dec.Decimal :=
  ⟨account, 0, dollars 1000, [⟨"BTC", dollars 10, dollars 1000, dollars 0⟩], []⟩

/-- The account as the guardrails read it. -/
def produced : Exposure dec.Decimal :=
  (exposureFrom view (dollars 0) none true 0).get (by decide +kernel)

/-- The exposure of the sample is produced from its view. -/
theorem view_produces : exposureFrom view (dollars 0) none true 0 = some produced :=
  (Option.some_get _).symm

/-- Guardrails that allow twice the equity. -/
def levered : AgentGuardrails dec.Decimal :=
  { guardrails with
    maxPositionUsd := dollars 3000
    risk := ⟨2, .cross, some (dollars 5000), none⟩ }

/-- An order to buy one at a price. -/
def another (px : dec.Decimal) : Evaluation dec.Decimal := ask produced.agent px (dollars 1) 0

/-- At twice the venue's price one more is cleared: leverage is measured on twelve hundred dollars,
and the position alone is worth twenty-two hundred. -/
theorem leverage_understated :
    (evaluate setup (answers levered) (another (dollars 200)) (state levered loose)).1.isOk =
        true ∧
      (measure levered produced.agent asset (another (dollars 200)).market
        (another (dollars 200)).intent
        (dollars 200)).toOption.map (fun measured =>
          (dec.value measured.positionAfterUsd, dec.value measured.leverage)) =
        some (2200, 1200 / 1000) ∧
      (comparedNotional produced.agent (.empty dec) "BTC" (dollars 200) (dollars 2200)).toOption.map
        dec.value = some 1200 ∧
      ¬ othersUsd view (.empty dec) "BTC" + 2200 ≤ 1200 := by
  decide +kernel

/-- The notional that one more is measured on at the venue's price. -/
def seen : Except (Refusal dec.Decimal) dec.Decimal := do
  let intent := (another (dollars 100)).intent
  let order ← roundOrder levered produced.agent asset intent
  let positions ← worstPositions produced.agent intent order.sides order.sz
  let caps ← checkPosition levered (another (dollars 100)).market intent (dollars 100) order.sides
    positions
  comparedNotional produced.agent order.resting intent.symbol (dollars 100) caps.1

/-- At the venue's price the whole account is seen. -/
theorem leverage_seen : ∃ (order : Rounded dec.Decimal) (positionAfterUsd total : dec.Decimal),
    comparedNotional produced.agent order.resting "BTC" (dollars 100) positionAfterUsd = .ok total ∧
      othersUsd view order.resting "BTC" + dec.value positionAfterUsd ≤ dec.value total := by
  have run : seen = .ok _ := ok_get (by decide +kernel)
  obtain ⟨order, rounded, run⟩ := bind_eq_ok run
  obtain ⟨positions, worst, run⟩ := bind_eq_ok run
  obtain ⟨⟨positionAfterUsd, volScaled⟩, position, run⟩ := bind_eq_ok run
  refine ⟨order, positionAfterUsd, _, run, ?_⟩
  exact (compared_notional_iff view_produces (by decide +kernel) rounded worst position run).mpr
    (by decide +kernel)

end OneSymbol

end Oppen.Guardrail
