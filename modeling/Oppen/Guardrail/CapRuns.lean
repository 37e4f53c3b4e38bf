import Mathlib.Algebra.BigOperators.Group.Finset.Basic
import Mathlib.Algebra.Order.BigOperators.Group.Finset
import Oppen.Foundation.Run
import Oppen.Guardrail.WorstCase

/-! # Caps along runs

An account of many symbols, whose orders are cleared one by one and fill and are cancelled in
between. No cap is passed that was not passed before: neither by a position that some
continuation of fills reaches, nor by the gross exposure, nor by the sum of the worst positions,
which leverage is measured on.
-/

namespace Oppen.Guardrail

open Foundation Oppen.Ledger Oppen.Signing

/-- The account: of each symbol its position and the orders that work on it. -/
abbrev Book := String → Holding ℚ

/-- The size of a symbol that may still open. -/
def opening (holding : Holding ℚ) : ℚ :=
  Working.total holding.orders true false + Working.total holding.orders false false

/-- What stays as it is in a run: a price for each symbol, those that are traded, and the equity. -/
structure Terms where
  price : String → ℚ
  positive : ∀ symbol, 0 < price symbol
  symbols : Finset String
  equity : ℚ

namespace Terms

variable (terms : Terms)

/-- The positions and the orders that open, at their prices. -/
def grossUsd (book : Book) : ℚ :=
  ∑ symbol ∈ terms.symbols, (book symbol).gross * terms.price symbol

/-- The worst positions, at their prices. -/
def worstUsd (book : Book) : ℚ :=
  ∑ symbol ∈ terms.symbols, (book symbol).worst * terms.price symbol

/-- A snapshot equal to the account, by value. -/
structure Shows {dec : RiskDecimals} (book : Book) (account : AccountSnapshot dec.Decimal)
    (resting : RestingExposure dec.Decimal) : Prop where
  equity : dec.value account.equityUsd = terms.equity
  position : ∀ symbol, dec.value (account.positionSzi symbol) = (book symbol).position
  positionsUsd : dec.value account.totalPositionNotionalUsd =
    ∑ symbol ∈ terms.symbols, |(book symbol).position| * terms.price symbol
  known : account.resting = some resting
  covers : ∀ symbol, (resting.sides symbol).Covers (book symbol).orders
  openingUsd : ∀ symbol, dec.value (BySymbol.amount dec resting.notionalBySymbol symbol) =
    opening (book symbol) * terms.price symbol
  restingUsd : dec.value resting.notionalUsd =
    ∑ symbol ∈ terms.symbols, opening (book symbol) * terms.price symbol

end Terms

/-- The book with one more order on a symbol. -/
def Book.place (book : Book) (symbol : String) (order : Working ℚ) : Book :=
  Function.update book symbol ⟨(book symbol).position, order :: (book symbol).orders⟩

/-- What happens to an account. A fill moves the size it takes from the order into the position. -/
inductive CapAct where
  | placed
  | approved
  | filled
  | cancelled
  deriving DecidableEq

/-- An order that was cleared on a snapshot equal to the account, under the configuration and at
the symbol's price. -/
structure Placed {dec : RiskDecimals} (config : AgentGuardrails dec.Decimal) (terms : Terms)
    (book : Book) (ask : Evaluation dec.Decimal) (after : OrderState dec.Decimal)
    (resting : RestingExposure dec.Decimal) (order : Working ℚ) : Prop where
  configured : after.engine.policy.guardrails.get ask.agent = some config
  traded : ask.intent.symbol ∈ terms.symbols
  priced : ∀ px ∈ ask.market.referencePx, dec.value px = terms.price ask.intent.symbol
  shown : terms.Shows book ask.exposure.agent resting
  asks : Asks ask order

/-- One step of an account: an order is cleared, by an evaluation or as the proposal an operator
approved, an order fills in part, or one is cancelled. -/
inductive CapStep (dec : RiskDecimals) (config : AgentGuardrails dec.Decimal) (terms : Terms) :
    Book → CapAct → Book → Prop
  | placed (book : Book) (setup : EngineSetup) (answers : Answers dec.Decimal)
      (ask : Evaluation dec.Decimal) (before after : OrderState dec.Decimal)
      (cleared : Cleared dec.Decimal) (resting : RestingExposure dec.Decimal) (order : Working ℚ)
      (decided : evaluate setup answers ask before = (.ok cleared, after))
      (placed : Placed config terms book ask after resting order) :
      CapStep dec config terms book .placed (book.place ask.intent.symbol order)
  | approved (book : Book) (setup : EngineSetup) (answers : Answers dec.Decimal)
      (route : AuthorizedRoute) (ask : Evaluation dec.Decimal)
        (before after : OrderState dec.Decimal)
      (cleared : Cleared dec.Decimal) (resting : RestingExposure dec.Decimal) (order : Working ℚ)
      (decided : decideOrder setup answers (.approved route) ask before = (.ok cleared, after))
      (placed : Placed config terms book ask after resting order) :
      CapStep dec config terms book .approved (book.place ask.intent.symbol order)
  | filled (book : Book) (symbol : String) (holding : Holding ℚ)
      (fill : Holding.Fill (book symbol) holding) :
      CapStep dec config terms book .filled (Function.update book symbol holding)
  | cancelled (book : Book) (symbol : String) (position : ℚ) (done todo : List (Working ℚ))
      (order : Working ℚ) (held : book symbol = ⟨position, done ++ order :: todo⟩) :
      CapStep dec config terms book .cancelled
        (Function.update book symbol ⟨position, done ++ todo⟩)

namespace Terms

variable {terms : Terms} {book : Book} {symbol : String} {holding : Holding ℚ}

/-! ## Changes of one symbol -/

/-- A sum over the symbols where one of them changed. -/
theorem sum_update (measure : Holding ℚ → ℚ) (traded : symbol ∈ terms.symbols) :
    ∑ other ∈ terms.symbols, measure (Function.update book symbol holding other) *
        terms.price other =
      ∑ other ∈ terms.symbols, measure (book other) * terms.price other +
        (measure holding - measure (book symbol)) * terms.price symbol := by
  rw [← Finset.add_sum_erase _ _ traded, ← Finset.add_sum_erase _ _ traded, Function.update_self]
  have same : ∑ other ∈ terms.symbols.erase symbol,
      measure (Function.update book symbol holding other) * terms.price other =
      ∑ other ∈ terms.symbols.erase symbol, measure (book other) * terms.price other := by
    apply Finset.sum_congr rfl
    intro other member
    rw [Function.update_of_ne (Finset.ne_of_mem_erase member)]
  rw [same]
  ring

/-- A measure that gets no larger on one symbol gets no larger. -/
theorem sum_update_le (measure : Holding ℚ → ℚ) (less : measure holding ≤ measure (book symbol)) :
    ∑ other ∈ terms.symbols, measure (Function.update book symbol holding other) *
        terms.price other ≤
      ∑ other ∈ terms.symbols, measure (book other) * terms.price other := by
  apply Finset.sum_le_sum
  intro other _
  by_cases same : other = symbol
  · subst same
    rw [Function.update_self]
    exact mul_le_mul_of_nonneg_right less (terms.positive other).le
  · rw [Function.update_of_ne same]

/-! ## What the caps compare -/

/-- The gross exposure is that of the positions and that of the orders that open, symbol by
symbol. -/
theorem grossUsd_eq (terms : Terms) (book : Book) :
    terms.grossUsd book =
      ∑ symbol ∈ terms.symbols, |(book symbol).position| * terms.price symbol +
        ∑ symbol ∈ terms.symbols, opening (book symbol) * terms.price symbol := by
  rw [grossUsd, ← Finset.sum_add_distrib]
  apply Finset.sum_congr rfl
  intro symbol _
  rw [Holding.gross, opening]
  ring

/-- The other symbols' worst positions are within their gross size. -/
theorem others_le (terms : Terms) (book : Book) (traded : symbol ∈ terms.symbols) :
    terms.worstUsd book - (book symbol).worst * terms.price symbol ≤
      terms.grossUsd book - (book symbol).gross * terms.price symbol := by
  have within : ∀ other ∈ terms.symbols,
      0 ≤ ((book other).gross - (book other).worst) * terms.price other := by
    intro other _
    exact mul_nonneg (sub_nonneg.mpr (book other).worst_le_gross) (terms.positive other).le
  have one := Finset.single_le_sum within traded
  have whole : ∑ other ∈ terms.symbols, ((book other).gross - (book other).worst) *
      terms.price other = terms.grossUsd book - terms.worstUsd book := by
    rw [grossUsd, worstUsd, ← Finset.sum_sub_distrib]
    apply Finset.sum_congr rfl
    intro other _
    exact sub_mul _ _ _
  rw [whole, sub_mul] at one
  linarith

end Terms

/-- An order that opens adds its size to the gross one. -/
theorem gross_cons (position : ℚ) (orders : List (Working ℚ)) (order : Working ℚ) :
    Holding.gross ⟨position, order :: orders⟩ =
      Holding.gross ⟨position, orders⟩ + if order.reduces then 0 else order.size := by
  unfold Holding.gross
  simp only [Working.total_cons, Working.counted]
  cases order.buys <;> cases order.reduces <;>
    simp only [Bool.false_eq_true, Bool.true_eq_false, and_true, and_false, if_true, if_false] <;>
    ring

section Placing

variable {dec : RiskDecimals}

/-- What a leverage within a limit says of the notional: the quotient has twenty-eight digits. -/
theorem leverage_bound {total equity leverage : dec.Decimal} {limit : ℚ}
    (divided : dec.checkedDiv total equity = some leverage) (positive : 0 < dec.value equity)
    (notional : 0 ≤ dec.value total) (least : 1 ≤ limit) (within : dec.value leverage ≤ limit) :
    dec.value total ≤ limit * (1 + 1 / 10 ^ 28) * dec.value equity := by
  obtain ⟨-, near⟩ := dec.value_checkedDiv _ _ _ divided
  have sign : 0 ≤ dec.value total / dec.value equity := div_nonneg notional positive.le
  rw [← div_le_iff₀ positive]
  generalize dec.value total / dec.value equity = ratio at *
  generalize dec.value leverage = rounded at *
  obtain ⟨low, high⟩ := abs_le.mp near
  -- a rounded quotient is hardly negative
  have size : max 1 |rounded| ≤ limit := by
    refine max_le least ?_
    rcases abs_cases rounded with ⟨same, -⟩ | ⟨same, negative⟩
    · rw [same]
      exact within
    · by_contra large
      rw [same] at large low
      have most : max 1 (-rounded) = -rounded := max_eq_right (by linarith)
      rw [most] at low
      linarith
  have bound : max 1 |rounded| / 10 ^ 28 ≤ limit / 10 ^ 28 :=
    div_le_div_of_nonneg_right size (by positivity)
  rw [mul_add, mul_one, mul_one_div]
  linarith

/-- The cap of an asset is at most the configured one, since the asset's own limit can only lower
it. -/
theorem leverageCap_le (config : AgentGuardrails dec.Decimal) (asset : Asset) :
    ((leverageCap config asset).toNat : ℚ) ≤ config.risk.maxLeverage.toNat := by
  unfold leverageCap
  split
  · rename_i below
    exact_mod_cast (UInt32.lt_iff_toNat_lt.mp below).le
  · exact le_rfl

/-- A valid configuration allows a leverage of at least one. -/
theorem validate_leverage {config : AgentGuardrails dec.Decimal}
    (valid : config.validate dec.toPolicyDecimals = .ok ()) :
    (1 : ℚ) ≤ config.risk.maxLeverage.toNat := by
  unfold AgentGuardrails.validate at valid
  obtain ⟨_, -, valid⟩ := bind_eq_ok valid
  obtain ⟨_, -, valid⟩ := bind_eq_ok valid
  obtain ⟨_, -, valid⟩ := bind_eq_ok valid
  obtain ⟨_, -, valid⟩ := bind_eq_ok valid
  obtain ⟨_, -, valid⟩ := bind_eq_ok valid
  obtain ⟨_, leverage, -⟩ := bind_eq_ok valid
  have some := refuseIf_ok leverage
  have positive : config.risk.maxLeverage.toNat ≠ 0 := fun zero =>
    some (UInt32.toNat_inj.mp zero)
  exact_mod_cast Nat.one_le_iff_ne_zero.mpr positive

/-- The most that a leverage within the cap allows of a notional. -/
def leverageCeiling (config : AgentGuardrails dec.Decimal) (terms : Terms) : ℚ :=
  config.risk.maxLeverage.toNat * (1 + 1 / 10 ^ 28) * terms.equity

variable {config : AgentGuardrails dec.Decimal} {terms : Terms} {book : Book}
  {ask : Evaluation dec.Decimal} {after : OrderState dec.Decimal} {cleared : Cleared dec.Decimal}
  {resting : RestingExposure dec.Decimal} {order : Working ℚ}

/-- The three measures of a book, and how far a step may take them. -/
structure Kept (config : AgentGuardrails dec.Decimal) (terms : Terms)
    (before after : Book) : Prop where
  position : ∀ symbol, (after symbol).worst * terms.price symbol ≤
    max (dec.value config.maxPositionUsd) ((before symbol).worst * terms.price symbol)
  exposure : ∀ limitUsd, config.risk.maxOpenExposureUsd = some limitUsd →
    terms.grossUsd after ≤ max (dec.value limitUsd) (terms.grossUsd before)
  leverage : terms.worstUsd after ≤ max (leverageCeiling config terms) (terms.worstUsd before)

/-- A change that raises neither measure of its symbol keeps the caps. -/
theorem Kept.of_le {symbol : String} {holding : Holding ℚ}
    (worst : holding.worst ≤ (book symbol).worst) (gross : holding.gross ≤ (book symbol).gross) :
    Kept config terms book (Function.update book symbol holding) where
  position other := by
    refine le_max_of_le_right (mul_le_mul_of_nonneg_right ?_ (terms.positive other).le)
    by_cases same : other = symbol
    · subst same
      rw [Function.update_self]
      exact worst
    · rw [Function.update_of_ne same]
  exposure _ _ := le_max_of_le_right (Terms.sum_update_le Holding.gross gross)
  leverage := le_max_of_le_right (Terms.sum_update_le Holding.worst worst)

/-- **A cleared order keeps the caps.** -/
theorem Placed.kept (placed : Placed config terms book ask after resting order)
    (clears : Clears ask cleared after) :
    Kept config terms book (book.place ask.intent.symbol order) := by
  obtain ⟨configured, traded, priced, shown, asks⟩ := placed
  obtain rfl : clears.config = config := Option.some.inj (clears.configured.symm.trans configured)
  have price := priced _ clears.reference
  obtain rfl : clears.measures.order.resting = resting :=
    Option.some.inj (clears.measures.rounds.resting.symm.trans shown.known)
  have covers : clears.measures.order.sides.Covers (book ask.intent.symbol).orders := by
    rw [clears.measures.rounds.sides]
    exact shown.covers ask.intent.symbol
  obtain ⟨first, second⟩ := clears.measures.worst_values covers asks
  rw [Evaluation.holding, shown.position] at first second
  have levered := clears.measures.levered
  have opens := gross_cons (book ask.intent.symbol).position (book ask.intent.symbol).orders order
  rw [asks.kind, asks.size, ← clears.measures.rounds.sz] at opens
  generalize placed : Holding.mk (book ask.intent.symbol).position
    (order :: (book ask.intent.symbol).orders) = next at second opens
  rw [Book.place, placed]
  by_cases genuine : clears.measures.positions.genuineReduction ask.intent = true
  · obtain ⟨⟨reduces, -⟩, kept⟩ := clears.measures.exempted genuine
    rw [first, second] at kept
    rw [if_pos reduces, add_zero] at opens
    exact .of_le kept opens.le
  have exposed := Bool.eq_false_of_not_eq_true genuine
  have reached := (abs_nonneg _).trans next.abs_position_le_worst
  have afterUsd := clears.measures.afterUsd
  rw [second, abs_of_nonneg reached, price] at afterUsd
  constructor
  case position =>
    intro other
    by_cases same : other = ask.intent.symbol
    · subst same
      rw [Function.update_self, ← afterUsd]
      exact le_max_of_le_left (clears.measures.capped exposed)
    · rw [Function.update_of_ne same]
      exact le_max_right _ _
  case exposure =>
    intro limitUsd limited
    have within := levered.exposure exposed limitUsd limited
    rw [shown.positionsUsd, shown.restingUsd, ← Terms.grossUsd_eq, price] at within
    refine le_max_of_le_left (le_trans (le_of_eq ?_) within)
    rw [Terms.grossUsd, Terms.sum_update Holding.gross traded, ← Terms.grossUsd, opens]
    split
    · ring
    · ring
  case leverage =>
    have others := terms.others_le book traded
    have notional := levered.replaced
    have size : (book ask.intent.symbol).gross =
        |(book ask.intent.symbol).position| + opening (book ask.intent.symbol) :=
      add_assoc _ _ _
    rw [shown.positionsUsd, shown.restingUsd, ← Terms.grossUsd_eq, clears.measures.worst.szi,
      shown.position, shown.openingUsd, price, afterUsd] at notional
    have bound := leverage_bound levered.divided clears.equity (notional ▸ le_max_right _ _)
      (validate_leverage clears.valid) ((levered.capped exposed).trans (leverageCap_le _ _))
    rw [shown.equity] at bound
    refine le_max_of_le_left (le_trans ?_ bound)
    rw [notional, Terms.worstUsd, Terms.sum_update Holding.worst traded, ← Terms.worstUsd]
    refine le_max_of_le_left ?_
    rw [size, add_mul] at others
    linarith

/-! ## Runs -/

/-- **One step.** -/
theorem CapStep.kept {before after : Book} {act : CapAct}
    (step : CapStep dec config terms before act after) : Kept config terms before after := by
  cases step with
  | placed setup answers ask _ _ cleared resting order decided placed =>
      obtain ⟨clears⟩ := decideOrder_clears (evaluate_ok decided)
      exact placed.kept clears
  | approved setup answers route ask _ _ cleared resting order decided placed =>
      obtain ⟨clears⟩ := decideOrder_clears decided
      exact placed.kept clears
  | filled symbol holding fill =>
      exact .of_le (Holding.worst_le fill.long_le fill.short_le) fill.gross_le
  | cancelled symbol position done todo order held =>
      have less := Holding.cancel_le position done todo order
      rw [← held] at less
      exact .of_le less.1 less.2

/-- What two runs of fills each keep, they keep together. -/
theorem Kept.trans {before middle after : Book} (one : Kept config terms before middle)
    (two : Kept config terms middle after) : Kept config terms before after where
  position symbol := by
    refine (two.position symbol).trans (max_le (le_max_left _ _) ?_)
    exact one.position symbol
  exposure limitUsd limited := by
    refine (two.exposure limitUsd limited).trans (max_le (le_max_left _ _) ?_)
    exact one.exposure limitUsd limited
  leverage := two.leverage.trans (max_le (le_max_left _ _) one.leverage)

/-- **Caps along runs.** However orders are cleared, fill and are cancelled on any symbols, no
position that fills can reach, no gross exposure and no sum of worst positions passes its cap, or
what it was at the start. The caps are checked when an order is cleared only, so what holds along a
run is that no fill takes the account further than the checks already counted. -/
theorem caps_hold {start last : Book} {acts : List CapAct}
    (run : Run (CapStep dec config terms) start acts last) :
    (∀ symbol filled, Holding.Fills (last symbol) filled →
      |filled.position| * terms.price symbol ≤
        max (dec.value config.maxPositionUsd) ((start symbol).worst * terms.price symbol)) ∧
    (∀ limitUsd, config.risk.maxOpenExposureUsd = some limitUsd →
      terms.grossUsd last ≤ max (dec.value limitUsd) (terms.grossUsd start)) ∧
    terms.worstUsd last ≤ max (leverageCeiling config terms) (terms.worstUsd start) := by
  have kept : Kept config terms start last := run.relates (Kept config terms)
    (fun book => ⟨fun _ => le_max_right _ _, fun _ _ => le_max_right _ _, le_max_right _ _⟩)
    (fun _ _ _ => Kept.trans) fun _ _ _ step => step.kept
  refine ⟨fun symbol filled fills => ?_, kept.exposure, kept.leverage⟩
  refine le_trans ?_ (kept.position symbol)
  refine mul_le_mul_of_nonneg_right ?_ (terms.positive symbol).le
  exact (Holding.worst_isGreatest (last symbol)).2 ⟨filled, fills, rfl⟩

end Placing

namespace OneSymbol

/-- A price of twenty-seven digits. Thirty and a speck still fit the ninety-six bits of a decimal,
so that their sum is exact; its quotient by thirty is not. -/
def speck : dec.Decimal := (⟨1, 27⟩ : FixedPoint)

/-- An account of thirty dollars that holds one of something worth a speck. -/
def speckled : AccountSnapshot dec.Decimal :=
  { snapshot (dollars 0) speck with
    equityUsd := dollars 30
    peakEquityUsd := dollars 30
    positions := Function.update (fun _ => none) "DUST" (some (dollars 1)) }

/-- Guardrails that allow the equity once. -/
def unlevered : AgentGuardrails dec.Decimal :=
  { guardrails with risk := ⟨1, .cross, some (dollars 5000), none⟩ }

/-- An order to buy for all of the equity. -/
def everything : Evaluation dec.Decimal := ask speckled (dollars 1) (dollars 30) 0

def terms : Terms where
  price symbol := if symbol = "DUST" then 1 / 10 ^ 27 else 1
  positive symbol := by split <;> positivity
  symbols := {"BTC", "DUST"}
  equity := 30

/-- The account before the order. -/
def speckBook : Book := Function.update (fun _ => ⟨0, []⟩) "DUST" ⟨1, []⟩

/-- An order to buy thirty. -/
def thirty : Working ℚ := ⟨true, false, 30, by norm_num⟩

/-- The sample's account has no order open. -/
theorem speckBook_orders (symbol : String) : (speckBook symbol).orders = [] := by
  unfold speckBook
  by_cases dust : symbol = "DUST"
  · rw [dust, Function.update_self]
  · rw [Function.update_of_ne dust]

theorem speckBook_opening (symbol : String) : opening (speckBook symbol) = 0 := by
  rw [opening, speckBook_orders]
  exact add_zero 0

/-- The sample's account is what its terms show. -/
theorem speckled_shown : terms.Shows speckBook speckled (RestingExposure.empty dec) where
  equity := by decide +kernel
  position symbol := by
    unfold speckBook AccountSnapshot.positionSzi BySymbol.amount
    dsimp only [speckled]
    by_cases dust : symbol = "DUST"
    · rw [dust, Function.update_self, Function.update_self]
      exact (by decide +kernel : dec.value (dollars 1) = 1)
    · rw [Function.update_of_ne dust, Function.update_of_ne dust]
      exact dec.value_zero
  positionsUsd := by decide +kernel
  known := rfl
  covers symbol := by
    intro buys reduces
    rw [speckBook_orders]
    cases buys <;> cases reduces <;> exact dec.value_zero
  openingUsd symbol := by
    rw [speckBook_opening, zero_mul]
    exact dec.value_zero
  restingUsd := by
    simp only [speckBook_opening, zero_mul, Finset.sum_const_zero]
    exact dec.value_zero

/-- The order is cleared and works. -/
theorem everything_runs :
    Run (CapStep dec unlevered terms) speckBook [.placed] (speckBook.place "BTC" thirty) := by
  have cleared : (evaluate setup (answers unlevered) everything
      (state unlevered loose)).1.isOk = true := by decide +kernel
  have configured : (evaluate setup (answers unlevered) everything
      (state unlevered loose)).2.engine.policy.guardrails.get "maker" = some unlevered := by
    decide +kernel
  generalize same : evaluate setup (answers unlevered) everything (state unlevered loose) = result
    at cleared configured
  obtain ⟨outcome, after⟩ := result
  cases outcome with
  | error refusal => exact nomatch cleared
  | ok order =>
      refine .single (.placed _ _ _ everything _ _ _ (.empty dec) thirty same ?_)
      refine ⟨configured, by decide +kernel, ?_, speckled_shown, rfl, rfl, by decide +kernel⟩
      intro px priced
      obtain rfl : dollars 1 = px := Option.some.inj priced
      decide +kernel

/-- All of the equity and a speck are worth more than the equity, and were not at the start. -/
theorem speck_beyond :
    Run (CapStep dec unlevered terms) speckBook [.placed] (speckBook.place "BTC" thirty) ∧
      ¬ terms.worstUsd (speckBook.place "BTC" thirty) ≤
        max (unlevered.risk.maxLeverage.toNat * terms.equity) (terms.worstUsd speckBook) :=
  ⟨everything_runs, by decide +kernel⟩

/-- The order keeps the position, the exposure and, but for one part in the twenty-eight digits of
the quotient, the leverage. -/
theorem speck_within :
    (∀ symbol filled, Holding.Fills (speckBook.place "BTC" thirty symbol) filled →
      |filled.position| * terms.price symbol ≤
        max (dec.value unlevered.maxPositionUsd) ((speckBook symbol).worst * terms.price symbol)) ∧
    (∀ limitUsd, unlevered.risk.maxOpenExposureUsd = some limitUsd →
      terms.grossUsd (speckBook.place "BTC" thirty) ≤
        max (dec.value limitUsd) (terms.grossUsd speckBook)) ∧
    terms.worstUsd (speckBook.place "BTC" thirty) ≤
      max (leverageCeiling unlevered terms) (terms.worstUsd speckBook) :=
  caps_hold everything_runs

end OneSymbol

end Oppen.Guardrail
