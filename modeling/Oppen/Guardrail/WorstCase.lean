import Oppen.Foundation.Holding
import Oppen.Guardrail.Measuring

/-! # The worst position

What `evaluate` computes as the worst position of a symbol is the largest one that fills of its
working orders can reach.
-/

namespace Oppen.Guardrail

open Foundation Oppen.Ledger Oppen.Signing

section Worst

variable {dec : RiskDecimals}

/-- Sizes that are those of working orders. -/
def Sides.Covers (sides : Sides dec.Decimal) (orders : List (Working ℚ)) : Prop :=
  ∀ buys reduces, dec.value (sides.at buys reduces) = Working.total orders buys reduces

/-- **The formula is the extreme.** -/
theorem worstPosition_ok {szi worst : dec.Decimal} {sides : Sides dec.Decimal}
    {orders : List (Working ℚ)} (covers : sides.Covers orders)
    (run : worstPosition szi sides = .ok worst) :
    dec.value worst = Holding.worst ⟨dec.value szi, orders⟩ := by
  obtain ⟨long, longest, run⟩ := bind_eq_ok run
  obtain ⟨short, shortest, run⟩ := bind_eq_ok run
  cases run
  have buys := covers true false
  have sells := covers false false
  have raises := covers true true
  have lowers := covers false true
  dsimp only [Sides.at] at buys sells raises lowers
  rw [Decimals.value_max, RiskDecimals.value_abs, RiskDecimals.value_abs, checked_add_add longest,
    checked_sub_sub shortest, RiskDecimals.value_min, RiskDecimals.value_min, Decimals.value_max,
    Decimals.value_max, dec.value_neg, Decimals.value_zero, buys, sells, raises, lowers]
  rfl

/-- Changing one side's total leaves the other three. -/
theorem Sides.at_modify {Amount : Type} (sides : Sides Amount) (isBuy reduceOnly : Bool)
    (change : Amount → Amount) (buys reduces : Bool) :
    (sides.modify isBuy reduceOnly change).at buys reduces =
      if isBuy = buys ∧ reduceOnly = reduces then change (sides.at buys reduces)
      else sides.at buys reduces := by
  cases isBuy <;> cases reduceOnly <;> cases buys <;> cases reduces <;> rfl

/-- A candidate's size joins the ones that work. -/
theorem Sides.Covers.join {sides : Sides dec.Decimal} {orders : List (Working ℚ)}
    {size sz : dec.Decimal} {order : Working ℚ} (covers : sides.Covers orders)
    (added : dec.checkedAdd (sides.at order.buys order.reduces) sz = some size)
    (same : order.size = dec.value sz) :
    (sides.modify order.buys order.reduces fun _ => size).Covers (order :: orders) := by
  intro buys reduces
  rw [Working.total_cons, Working.counted, Sides.at_modify]
  by_cases matched : order.buys = buys ∧ order.reduces = reduces
  · obtain ⟨rfl, rfl⟩ := matched
    rw [if_pos ⟨rfl, rfl⟩, if_pos ⟨rfl, rfl⟩, dec.value_checkedAdd _ _ _ added, covers, ← same]
    exact add_comm _ _
  · rw [if_neg matched, if_neg matched, zero_add]
    exact covers buys reduces

/-- What is computed is the worst case without the candidate and with it. -/
theorem WorstOf.values {account : AccountSnapshot dec.Decimal} {intent : OrderIntent dec.Decimal}
    {sides grown : Sides dec.Decimal} {sz : dec.Decimal} {positions : Positions dec.Decimal}
    {orders : List (Working ℚ)} {order : Working ℚ}
    (worst : WorstOf account intent sides grown sz positions) (covers : sides.Covers orders)
    (side : order.buys = intent.isBuy) (kind : order.reduces = intent.reduceOnly)
    (size : order.size = dec.value sz) :
    dec.value positions.before =
        Holding.worst ⟨dec.value (account.positionSzi intent.symbol), orders⟩ ∧
      dec.value positions.after =
        Holding.worst ⟨dec.value (account.positionSzi intent.symbol), order :: orders⟩ := by
  obtain ⟨szi, -, before, ⟨total, added, grows⟩, after⟩ := worst
  rw [szi] at before after
  refine ⟨worstPosition_ok covers before, worstPosition_ok ?_ after⟩
  rw [grows]
  rw [← side, ← kind] at added ⊢
  exact covers.join added size

/-- The order that an evaluation asks for, as it works once it is cleared. -/
structure Asks (ask : Evaluation dec.Decimal) (order : Working ℚ) : Prop where
  side : order.buys = ask.intent.isBuy
  kind : order.reduces = ask.intent.reduceOnly
  size : order.size = dec.value (ask.asset.roundSize dec ask.intent.sz)

/-- The order is one that may only reduce, and its side does. -/
def Reduction (ask : Evaluation dec.Decimal) : Prop :=
  ask.intent.reduceOnly = true ∧
    if ask.intent.isBuy then dec.value (ask.exposure.agent.positionSzi ask.intent.symbol) < 0
    else 0 < dec.value (ask.exposure.agent.positionSzi ask.intent.symbol)

/-- The symbol as a snapshot has it, with some orders working on it. -/
def Evaluation.holding (ask : Evaluation dec.Decimal) (orders : List (Working ℚ)) : Holding ℚ :=
  ⟨dec.value (ask.exposure.agent.positionSzi ask.intent.symbol), orders⟩

variable {config : AgentGuardrails dec.Decimal} {ask : Evaluation dec.Decimal}
  {referencePx : dec.Decimal} {measured : Measured dec.Decimal} {orders : List (Working ℚ)}
  {order : Working ℚ}

/-- What is measured is the worst case without the order and with it. -/
theorem Measures.worst_values
    (measures : Measures config ask.exposure.agent ask.asset ask.market ask.intent referencePx
      measured)
    (covers : measures.order.sides.Covers orders) (asks : Asks ask order) :
    dec.value measures.positions.before = (ask.holding orders).worst ∧
      dec.value measures.positions.after = (ask.holding (order :: orders)).worst := by
  refine measures.worst.values covers asks.side asks.kind ?_
  rw [measures.rounds.sz, asks.size]

/-- An exempted order reduces, and does not raise the worst case. -/
theorem Measures.exempted
    (measures : Measures config ask.exposure.agent ask.asset ask.market ask.intent referencePx
      measured)
    (genuine : measures.positions.genuineReduction ask.intent = true) :
    Reduction ask ∧ dec.value measures.positions.after ≤ dec.value measures.positions.before := by
  have positive := measures.rounds.sz_positive
  unfold Positions.genuineReduction at genuine
  simp only [Bool.and_eq_true, decide_eq_true_eq, bne_iff_ne, measures.worst.szi,
    measures.worst.signedSz] at genuine
  obtain ⟨⟨⟨flagged, isOpen⟩, opposite⟩, kept⟩ := genuine
  refine ⟨⟨flagged, ?_⟩, kept⟩
  by_cases buys : ask.intent.isBuy = true
  · rw [if_pos buys]
    rw [if_pos buys] at opposite
    by_contra long
    refine opposite ?_
    rw [Bool.eq_iff_iff, RiskDecimals.isSignNegative_iff, RiskDecimals.isSignNegative_iff]
    exact iff_of_false long (not_lt.mpr positive.le)
  · rw [if_neg buys]
    rw [if_neg buys] at opposite
    by_contra short
    refine opposite ?_
    rw [Bool.eq_iff_iff, RiskDecimals.isSignNegative_iff, RiskDecimals.isSignNegative_iff,
      dec.value_neg]
    exact iff_of_true (lt_of_le_of_ne (not_lt.mp short) isOpen) (neg_neg_of_pos positive)

/-- **What a cleared order can lead to**: it is within the cap, or reduces without raising the
worst case. -/
theorem Clears.worst_case {cleared : Cleared dec.Decimal} {after : OrderState dec.Decimal}
    (clears : Clears ask cleared after)
    (covers : clears.measures.order.sides.Covers orders) (asks : Asks ask order) :
    (ask.holding (order :: orders)).worst * dec.value clears.referencePx ≤
        dec.value clears.config.maxPositionUsd ∨
      Reduction ask ∧ (ask.holding (order :: orders)).worst ≤ (ask.holding orders).worst := by
  obtain ⟨first, second⟩ := clears.measures.worst_values covers asks
  by_cases genuine : clears.measures.positions.genuineReduction ask.intent = true
  · obtain ⟨reduces, kept⟩ := clears.measures.exempted genuine
    rw [first, second] at kept
    exact .inr ⟨reduces, kept⟩
  · have within := clears.measures.capped (Bool.eq_false_of_not_eq_true genuine)
    have reached := Holding.abs_position_le_worst (ask.holding (order :: orders))
    rw [clears.measures.afterUsd, second, abs_of_nonneg ((abs_nonneg _).trans reached)] at within
    exact .inl within

/-- **The worst position.** What `evaluate` computes from the position and the working sizes is
the largest absolute position that fills can reach. An order that is cleared keeps all of them
within the cap at the reference price, or it reduces the position, and whatever fills reach with
it they reach as much without it. -/
theorem worst_position_exact :
    (∀ (szi worst : dec.Decimal) (sides : Sides dec.Decimal) (orders : List (Working ℚ)),
      sides.Covers orders → worstPosition szi sides = .ok worst →
      IsGreatest {amount | ∃ after, Holding.Fills ⟨dec.value szi, orders⟩ after ∧
        amount = |after.position|} (dec.value worst)) ∧
    (∀ (setup : EngineSetup) (answers : Answers dec.Decimal) (ask : Evaluation dec.Decimal)
      (before after : OrderState dec.Decimal) (cleared : Cleared dec.Decimal)
      (resting : RestingExposure dec.Decimal) (orders : List (Working ℚ)) (order : Working ℚ),
      evaluate setup answers ask before = (.ok cleared, after) →
      ask.exposure.agent.resting = some resting →
      (resting.sides ask.intent.symbol).Covers orders → Asks ask order →
      ∃ config referencePx, after.engine.policy.guardrails.get ask.agent = some config ∧
        ask.market.referencePx = some referencePx ∧
        ((∀ filled, Holding.Fills (ask.holding (order :: orders)) filled →
            |filled.position| * dec.value referencePx ≤ dec.value config.maxPositionUsd) ∨
          Reduction ask ∧
            ∀ filled, Holding.Fills (ask.holding (order :: orders)) filled →
              ∃ other, Holding.Fills (ask.holding orders) other ∧
                |filled.position| ≤ |other.position|)) := by
  constructor
  · intro szi worst sides orders covers run
    rw [worstPosition_ok covers run]
    exact Holding.worst_isGreatest _
  · intro setup answers ask before after cleared resting orders order run known covers asks
    obtain ⟨clears⟩ := decideOrder_clears (evaluate_ok run)
    have found := clears.measures.rounds.resting
    rw [known] at found
    have same : clears.measures.order.sides = resting.sides ask.intent.symbol := by
      rw [clears.measures.rounds.sides, Option.some.inj found]
    refine ⟨clears.config, clears.referencePx, clears.configured, clears.reference, ?_⟩
    have most := (Holding.worst_isGreatest (ask.holding (order :: orders))).2
    rcases clears.worst_case (same ▸ covers) asks with within | ⟨reduces, kept⟩
    · refine .inl fun filled fills => ?_
      exact (mul_le_mul_of_nonneg_right (most ⟨filled, fills, rfl⟩) clears.positive.le).trans within
    · refine .inr ⟨reduces, fun filled fills => ?_⟩
      obtain ⟨other, reached, same⟩ := (Holding.worst_isGreatest (ask.holding orders)).1
      exact ⟨other, reached, (most ⟨filled, fills, rfl⟩).trans (kept.trans_eq same)⟩

end Worst

namespace OneSymbol

/-- An order to buy one. -/
def one : Working ℚ := ⟨true, false, 1, zero_le_one⟩

/-- Nothing works for a flat account. -/
theorem empty_covers : ((RestingExposure.empty dec).sides "BTC").Covers [] := by
  intro buys reduces
  cases buys <;> cases reduces <;> exact dec.value_zero

/-- The sample's exposure asks for the one order it shows. -/
theorem single_asks : Asks (single 0) one := ⟨rfl, rfl, by decide +kernel⟩

/-- Whatever fills of the order that is cleared, a flat account stays within its cap of a thousand
dollars. -/
theorem single_within :
    ∀ filled, Holding.Fills ⟨0, [one]⟩ filled → |filled.position| * 100 ≤ 1000 := by
  intro filled fills
  have cleared : (evaluate setup (answers guardrails) (single 0)
      (state guardrails loose)).1.isOk = true := by decide +kernel
  have configured : (evaluate setup (answers guardrails) (single 0)
      (state guardrails loose)).2.engine.policy.guardrails.get "maker" = some guardrails := by
    decide +kernel
  have flat : (single 0).holding [one] = ⟨0, [one]⟩ := by
    rw [Evaluation.holding]
    exact congrArg (Holding.mk · [one]) (by decide +kernel)
  generalize same : evaluate setup (answers guardrails) (single 0) (state guardrails loose) = result
    at cleared configured
  obtain ⟨outcome, after⟩ := result
  cases outcome with
  | error refusal => exact nomatch cleared
  | ok order =>
      obtain ⟨config, px, held, reference, within | ⟨reduces, -⟩⟩ :=
        worst_position_exact.2 _ _ _ _ _ _ _ [] one same rfl empty_covers single_asks
      · obtain rfl : guardrails = config := Option.some.inj (configured.symm.trans held)
        obtain rfl : dollars 100 = px := Option.some.inj reference
        rw [flat] at within
        have bound := within filled fills
        have price : dec.value (dollars 100) = 100 := by decide +kernel
        have limit : dec.value guardrails.maxPositionUsd = 1000 := by decide +kernel
        rw [price, limit] at bound
        exact bound
      · exact nomatch reduces.1

end OneSymbol

end Oppen.Guardrail
