import Oppen.Guardrail.Order

/-! # Snapshots the guardrails reason from

One symbol's market and one account at one instant, and how an account that was read from the
venue becomes the exposure the caps are measured against.
-/

namespace Oppen.Guardrail

open Oppen.Ledger

inductive FeedQuality where
  | ok
  | warmup
  | degraded
  | unusable
  deriving DecidableEq

/-- A reference to a stored book snapshot. -/
structure MarketSnapshotRef where
  id : String
  hash : String
  deriving DecidableEq

/-- The market's view of one symbol at one instant. -/
structure MarketRef (Decimal : Type) where
  symbol : String
  referencePx : Option Decimal
  asOfMs : UInt64
  quality : FeedQuality
  markDivergenceBps : Option Decimal
  markDivergentSinceMs : Option UInt64
  snapshot : Option MarketSnapshotRef
  sigmaDay : Option Decimal
  volRatio : Option Decimal
  deriving DecidableEq

/-- A `BTreeMap` from symbols to amounts. -/
abbrev BySymbol (Decimal : Type) := String → Option Decimal

/-- Sizes working on each side, and the notional of those that open. -/
structure RestingExposure (Decimal : Type) where
  buys : BySymbol Decimal
  sells : BySymbol Decimal
  reduceBuys : BySymbol Decimal
  reduceSells : BySymbol Decimal
  notionalBySymbol : BySymbol Decimal
  notionalUsd : Decimal

/-- One sub-account's state at one instant; the positions are signed sizes. -/
structure AccountSnapshot (Decimal : Type) where
  asOfMs : UInt64
  reconciled : Bool
  equityUsd : Decimal
  peakEquityUsd : Decimal
  realizedPnlTodayUsd : Decimal
  unrealizedPnlUsd : Decimal
  dayStartMs : UInt64
  totalPositionNotionalUsd : Decimal
  positions : BySymbol Decimal
  resting : Option (RestingExposure Decimal)

/-- What is known of an agent when it is measured: its account, what works for it, and the fleet's
account if there is one. -/
structure Exposure (Decimal : Type) where
  account : Address
  agent : AccountSnapshot Decimal
  fleet : Option (AccountSnapshot Decimal)

/-- `DAY_MS`. -/
def dayMs : ℕ := 86400000

section Snapshots

variable (dec : RiskDecimals)

/-- An amount that is zero where there is none. -/
def BySymbol.amount (amounts : BySymbol dec.Decimal) (symbol : String) : dec.Decimal :=
  (amounts symbol).getD dec.zero

namespace AccountSnapshot

variable {dec} (account : AccountSnapshot dec.Decimal)

/-- `day_pnl_usd`: mark-to-market PnL of the day. -/
def dayPnlUsd : dec.Decimal :=
  dec.saturatingSum account.realizedPnlTodayUsd account.unrealizedPnlUsd

/-- `position_szi`: zero when flat. -/
def positionSzi (symbol : String) : dec.Decimal := BySymbol.amount dec account.positions symbol

/-- `covers_day_of`: the day starts at the UTC midnight before the clock. -/
def coversDayOf (nowMs : UInt64) : Prop :=
  account.dayStartMs.toNat ≤ nowMs.toNat ∧ account.dayStartMs.toNat % dayMs = 0 ∧
    nowMs.toNat - account.dayStartMs.toNat < dayMs

instance (nowMs : UInt64) : Decidable (account.coversDayOf nowMs) :=
  inferInstanceAs (Decidable (_ ∧ _ ∧ _))

end AccountSnapshot

/-! ## The account as the venue reports it -/

/-- `PositionView`, as far as the guardrails read it. -/
structure PositionView (Decimal : Type) where
  symbol : String
  size : Decimal
  positionValueUsd : Decimal
  unrealizedPnlUsd : Decimal

/-- `OrderView`, as far as the guardrails read it. -/
structure OrderView (Decimal : Type) where
  symbol : String
  isBuy : Bool
  reduceOnly : Bool
  size : Decimal
  referencePx : Option Decimal

/-- `AccountState`, as far as the guardrails read it. -/
structure AccountState (Decimal : Type) where
  address : Address
  asOfMs : UInt64
  equityUsd : Decimal
  positions : List (PositionView Decimal)
  orders : List (OrderView Decimal)

/-- A sum, with `none` where it panics. -/
def RiskDecimals.sum (amounts : List dec.Decimal) : Option dec.Decimal :=
  amounts.foldlM dec.checkedAdd dec.zero

namespace RestingExposure

/-- `RestingExposure::default`. -/
def empty : RestingExposure dec.Decimal :=
  ⟨fun _ => none, fun _ => none, fun _ => none, fun _ => none, fun _ => none, dec.zero⟩

variable {dec} (resting : RestingExposure dec.Decimal)

/-- An amount added to what a symbol has. -/
def grow (amounts : BySymbol dec.Decimal) (symbol : String) (amount : dec.Decimal) :
    BySymbol dec.Decimal :=
  Function.update amounts symbol
    (some (dec.saturatingSum (BySymbol.amount dec amounts symbol) amount))

/-- The size of an order, counted on its side. -/
def count (order : OrderView dec.Decimal) : RestingExposure dec.Decimal :=
  let size := dec.abs order.size
  match order.isBuy, order.reduceOnly with
  | true, false => { resting with buys := grow resting.buys order.symbol size }
  | false, false => { resting with sells := grow resting.sells order.symbol size }
  | true, true => { resting with reduceBuys := grow resting.reduceBuys order.symbol size }
  | false, true => { resting with reduceSells := grow resting.reduceSells order.symbol size }

/-- One working order more; an opening one without a price makes the book unknown. -/
def reserve (order : OrderView dec.Decimal) : Option (RestingExposure dec.Decimal) := do
  let counted := resting.count order
  if order.reduceOnly = false ∧ dec.value order.size ≠ 0 then
    let referencePx ← order.referencePx.filter fun px => 0 < dec.value px
    let notional := dec.abs (dec.saturatingMul order.size referencePx)
    return { counted with
      notionalUsd := dec.saturatingSum counted.notionalUsd notional
      notionalBySymbol := grow counted.notionalBySymbol order.symbol notional }
  else return counted

end RestingExposure

/-- `exposure_from`, with `none` where a sum panics. -/
def exposureFrom {dec : RiskDecimals} (state : AccountState dec.Decimal)
    (realizedPnlTodayUsd : dec.Decimal) (peakEquityUsd : Option dec.Decimal) (reconciled : Bool)
    (dayStartMs : UInt64) : Option (Exposure dec.Decimal) := do
  let unrealized ← dec.sum (state.positions.map (·.unrealizedPnlUsd))
  let total ← dec.sum (state.positions.map fun position => dec.abs position.positionValueUsd)
  let agent : AccountSnapshot dec.Decimal := {
    asOfMs := state.asOfMs
    reconciled
    equityUsd := state.equityUsd
    peakEquityUsd := dec.max (peakEquityUsd.getD state.equityUsd) state.equityUsd
    realizedPnlTodayUsd
    unrealizedPnlUsd := unrealized
    dayStartMs
    totalPositionNotionalUsd := total
    positions := state.positions.foldl
      (fun held position => Function.update held position.symbol (some position.size)) fun _ => none
    resting := state.orders.foldlM RestingExposure.reserve (.empty dec) }
  return { account := state.address, agent, fleet := some agent }

end Snapshots

end Oppen.Guardrail
