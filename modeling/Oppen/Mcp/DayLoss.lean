import Mathlib.Data.List.Perm.Subperm
import Oppen.Guardrail.Checks
import Oppen.Guardrail.Leverage
import Oppen.Reconcile.Source

/-! # The realised loss of the day

What the gateway gathers before an order is evaluated, and before the loss budget is reported.
The realised PnL of the day is summed from one answer of the venue, which has at most a page of
fills: it is the day's where the day fits on the page.
-/

namespace Oppen.Mcp

open Oppen.Ledger Oppen.Guardrail Oppen.Reconcile

/-- The decimals the venue's fills are read with. -/
def fillDecimals (dec : RiskDecimals) : Quotients := ⟨dec.toDecimals, dec.checkedDiv⟩

variable {dec : RiskDecimals} {Universe VenueError : Type}

/-! ## Gathering the inputs -/

/-- Why a call is answered with no result, as far as gathering the inputs goes. -/
inductive ToolError where
  | unavailable (what detail : String)
  | workerFailed (what detail : String)
  deriving DecidableEq

/-- How gathering stops. -/
inductive Stop where
  | refused (error : ToolError)
  | panics

/-- What the reads of one call are answered. -/
structure GatewayReads (dec : RiskDecimals) (Universe VenueError : Type) where
  route : Except ToolError Unit
  /-- `universe`. -/
  assets : Except ToolError Universe
  state : Except ToolError (AccountState dec.Decimal)
  /-- `InfoClient::user_fills_by_time`: the fills of a window, its end included. -/
  userFillsByTime : Address → (startMs : Nat) → (endMs : Option Nat) →
    Except VenueError (List (Fill (fillDecimals dec)))
  /-- `InfoClient::portfolio`, with the peak of its day. -/
  portfolio : Address → Except VenueError (Option dec.Decimal)
  reconciled : Bool
  referencePxs : Except ToolError (String → Option dec.Decimal)
  /-- The daily sigma and the volatility ratio. -/
  volatility : Option (dec.Decimal × Option dec.Decimal)
  /-- Whether the agent has a volatility-scaled cap. -/
  volScaled : Bool
  display : VenueError → String

/-- The inputs of an evaluation. -/
structure EvaluationContext (dec : RiskDecimals) (Universe : Type) where
  assets : Universe
  state : AccountState dec.Decimal
  exposure : Exposure dec.Decimal
  market : MarketRef dec.Decimal

/-- `utc_day_start_ms`. -/
def utcDayStartMs (nowMs : UInt64) : UInt64 := nowMs - nowMs % .ofNat dayMs

/-- `realized_pnl_since`, with `none` where it panics. -/
def realizedPnlSince (fills : List (Fill (fillDecimals dec))) (sinceMs : UInt64) :
    Option dec.Decimal := do
  let amounts ← (fills.filter fun fill => sinceMs.toNat ≤ fill.time).mapM fun fill =>
    dec.checkedSub fill.closedPnl fill.fee
  dec.sum amounts

def orPanic {α : Type} : Option α → Except Stop α
  | some value => .ok value
  | none => .error .panics

section Gathering

variable (reads : GatewayReads dec Universe VenueError) (account : Address) (nowMs : UInt64)

/-- The venue could not be read. -/
def venueRefusal (what : String) (error : VenueError) : Stop :=
  .refused (.unavailable what (reads.display error))

/-- `evaluation_context`. -/
def evaluationContext (symbol : String) : Except Stop (EvaluationContext dec Universe) := do
  mapError .refused reads.route
  let assets ← mapError .refused reads.assets
  let state ← mapError .refused reads.state
  let dayStartMs := utcDayStartMs nowMs
  let fills ← mapError (venueRefusal reads "fills")
    (reads.userFillsByTime account dayStartMs.toNat (some nowMs.toNat))
  let peak ← mapError (venueRefusal reads "portfolio") (reads.portfolio account)
  let realized ← orPanic (realizedPnlSince fills dayStartMs)
  let exposure ← orPanic (exposureFrom state realized peak reads.reconciled dayStartMs)
  let referencePxs ← mapError .refused reads.referencePxs
  let volatility := if reads.volScaled = true then reads.volatility else none
  return {
    assets, state, exposure
    market := {
      symbol
      referencePx := referencePxs symbol
      asOfMs := nowMs
      quality := .ok
      markDivergenceBps := none
      markDivergentSinceMs := none
      snapshot := none
      sigmaDay := volatility.map (·.1)
      volRatio := volatility.bind (·.2) } }

/-- `add_loss_budget`: the exposure the budgets are reported for, with `none` where they are left
out or a sum panics. -/
def addLossBudget (state : AccountState dec.Decimal) : Option (Exposure dec.Decimal) := do
  let dayStartMs := utcDayStartMs nowMs
  let fills ← (reads.userFillsByTime account dayStartMs.toNat (some nowMs.toNat)).toOption
  let peak ← (reads.portfolio account).toOption
  let realized ← realizedPnlSince fills dayStartMs
  exposureFrom state realized peak reads.reconciled dayStartMs

end Gathering

/-! ## The fills of the day -/

/-- The fills since an instant. -/
def fillsSince (startMs : Nat) (history : List (Fill (fillDecimals dec))) :
    List (Fill (fillDecimals dec)) :=
  history.filter fun fill => startMs ≤ fill.time

/-- The fills of a window, both ends included. -/
def fillsWithin (startMs : Nat) (endMs : Option Nat) (history : List (Fill (fillDecimals dec))) :
    List (Fill (fillDecimals dec)) :=
  (fillsSince startMs history).filter fun fill => endMs.all (fill.time ≤ ·)

/-- What fills realised, net of their fees. -/
def netPnl (fills : List (Fill (fillDecimals dec))) : ℚ :=
  (fills.map fun fill => dec.value fill.closedPnl - dec.value fill.fee).sum

/-- The venue answers with rows of the window, as many as there are up to a limit. -/
def AnswersCapped (limit : Nat) (history : Address → List (Fill (fillDecimals dec)))
    (reads : GatewayReads dec Universe VenueError) : Prop :=
  ∀ account startMs endMs page, reads.userFillsByTime account startMs endMs = .ok page →
    page.Subperm (fillsWithin startMs endMs (history account)) ∧
      page.length = min limit (fillsWithin startMs endMs (history account)).length

/-- Amounts that were computed for every fill have the net profit as their sum. -/
theorem value_mapM {fills : List (Fill (fillDecimals dec))} {amounts : List dec.Decimal}
    (run : (fills.mapM fun fill => dec.checkedSub fill.closedPnl fill.fee) = some amounts) :
    (amounts.map dec.value).sum = netPnl fills := by
  induction fills generalizing amounts with
  | nil =>
      cases run
      rfl
  | cons fill fills ih =>
      rw [List.mapM_cons] at run
      obtain ⟨amount, net, run⟩ := Option.bind_eq_some_iff.mp run
      obtain ⟨rest, others, same⟩ := Option.bind_eq_some_iff.mp run
      obtain rfl := Option.some.inj same
      rw [List.map_cons, List.sum_cons, ih others, dec.value_checkedSub _ _ _ net, netPnl, netPnl,
        List.map_cons, List.sum_cons]

/-- What is summed is what the fills since the instant realised. -/
theorem value_realizedPnlSince {fills : List (Fill (fillDecimals dec))} {sinceMs : UInt64}
    {realized : dec.Decimal} (run : realizedPnlSince fills sinceMs = some realized) :
    dec.value realized = netPnl (fillsSince sinceMs.toNat fills) := by
  obtain ⟨amounts, nets, total⟩ := Option.bind_eq_some_iff.mp run
  rw [dec.value_sum total, value_mapM nets, fillsSince]

/-- The net profit does not depend on the order of the fills. -/
theorem netPnl_perm {first second : List (Fill (fillDecimals dec))} (same : first.Perm second) :
    netPnl first = netPnl second :=
  (same.map _).sum_eq

/-! ## Whether the day is counted -/

/-- The accounts whose loss is measured: the agent's, and the fleet's. -/
def measured (exposure : Exposure dec.Decimal) : List (AccountSnapshot dec.Decimal) :=
  exposure.agent :: exposure.fleet.toList

/-- The loss breaker is given what every fill since the day began realised, and never what a
page that leaves some of them out did. -/
structure CountsDay (history page : List (Fill (fillDecimals dec))) (startMs : Nat)
    (exposure : Exposure dec.Decimal) : Prop where
  whole : ∀ account ∈ measured exposure,
    dec.value account.realizedPnlTodayUsd = netPnl (fillsSince startMs history)
  never_page : page.length < (fillsSince startMs history).length →
    ∀ account ∈ measured exposure, dec.value account.realizedPnlTodayUsd ≠ netPnl page

/-- The fills of the day up to the clock fit one answer, and none is stamped after it. -/
def FitsPage (limit startMs nowMs : Nat) (history : List (Fill (fillDecimals dec))) : Prop :=
  (fillsWithin startMs (some nowMs) history).length ≤ limit ∧
    ∀ fill ∈ fillsSince startMs history, fill.time ≤ nowMs

/-- No fill is later than the end exactly if leaving out the later ones leaves none out. -/
theorem length_fillsWithin {startMs nowMs : Nat} {history : List (Fill (fillDecimals dec))} :
    (fillsWithin startMs (some nowMs) history).length = (fillsSince startMs history).length ↔
      ∀ fill ∈ fillsSince startMs history, fill.time ≤ nowMs := by
  rw [fillsWithin, List.length_filter_eq_length_iff]
  exact forall₂_congr fun fill _ => decide_eq_true_iff

section Counting

variable {limit startMs nowMs : Nat} {history page : List (Fill (fillDecimals dec))}
  {exposure : Exposure dec.Decimal}

/-- **What is passed is the day's exactly where the day fits one answer.** -/
theorem countsDay_iff
    (rows : page.Subperm (fillsWithin startMs (some nowMs) history))
    (full : page.length = min limit (fillsWithin startMs (some nowMs) history).length)
    (passed : ∀ account ∈ measured exposure,
      dec.value account.realizedPnlTodayUsd = netPnl page) :
    CountsDay history page startMs exposure ↔ FitsPage limit startMs nowMs history := by
  have shorter : (fillsWithin startMs (some nowMs) history).length ≤
      (fillsSince startMs history).length := List.length_filter_le _ _
  constructor
  · intro counts
    have everything : (fillsSince startMs history).length ≤ page.length := by
      by_contra missing
      exact counts.never_page (not_le.mp missing) exposure.agent List.mem_cons_self
        (passed exposure.agent List.mem_cons_self)
    refine ⟨by omega, length_fillsWithin.mp (by omega)⟩
  · rintro ⟨fits, past⟩
    have same := length_fillsWithin.mpr past
    have window : fillsWithin startMs (some nowMs) history = fillsSince startMs history :=
      List.filter_sublist.eq_of_length same
    have answered : page.Perm (fillsSince startMs history) := by
      rw [← window]
      exact rows.perm_of_length_le (by omega)
    refine ⟨fun account member => ?_, fun missing => ?_⟩
    · rw [passed account member, netPnl_perm answered]
    · exact absurd answered.length_eq missing.ne

/-- The rows of a window are all since its start. -/
theorem fillsSince_of_subperm {endMs : Option Nat}
    (rows : page.Subperm (fillsWithin startMs endMs history)) : fillsSince startMs page = page := by
  refine List.filter_eq_self.mpr fun fill member => ?_
  have within := rows.subset member
  exact (List.mem_filter.mp (List.mem_filter.mp within).1).2

/-- The exposure that is produced measures the account by what was read for it. -/
theorem exposureFrom_measured {state : AccountState dec.Decimal} {realized : dec.Decimal}
    {peak : Option dec.Decimal} {reconciled : Bool} {dayStartMs : UInt64}
    (produced : exposureFrom state realized peak reconciled dayStartMs = some exposure) :
    ∀ account ∈ measured exposure, account.realizedPnlTodayUsd = realized := by
  obtain ⟨unrealized, -, produced⟩ := Option.bind_eq_some_iff.mp produced
  obtain ⟨total, -, produced⟩ := Option.bind_eq_some_iff.mp produced
  obtain rfl := Option.some.inj produced
  intro account member
  rcases List.mem_cons.mp member with rfl | member
  · rfl
  · rw [List.mem_singleton.mp member]

end Counting

section Passed

variable {reads : GatewayReads dec Universe VenueError} {account : Address} {nowMs : UInt64}
  {symbol : String} {history : Address → List (Fill (fillDecimals dec))} {limit : Nat}

/-- A result that did not panic is the one that was computed. -/
theorem orPanic_ok {α : Type} {result : Option α} {value : α}
    (run : orPanic result = .ok value) : result = some value := by
  cases result with
  | none => cases run
  | some held => rw [Except.ok.inj run]

/-- What an evaluation is given of the day: the rows of one answer, summed. -/
theorem evaluationContext_ok {context : EvaluationContext dec Universe}
    (ran : evaluationContext reads account nowMs symbol = .ok context) :
    ∃ page realized peak, reads.userFillsByTime account (utcDayStartMs nowMs).toNat
        (some nowMs.toNat) = .ok page ∧
      realizedPnlSince page (utcDayStartMs nowMs) = some realized ∧
      exposureFrom context.state realized peak reads.reconciled (utcDayStartMs nowMs) =
        some context.exposure := by
  obtain ⟨done, -, ran⟩ := bind_eq_ok ran
  obtain ⟨assets, -, ran⟩ := bind_eq_ok ran
  obtain ⟨state, -, ran⟩ := bind_eq_ok ran
  obtain ⟨page, answered, ran⟩ := bind_eq_ok ran
  obtain ⟨peak, -, ran⟩ := bind_eq_ok ran
  obtain ⟨realized, summed, ran⟩ := bind_eq_ok ran
  obtain ⟨exposure, produced, ran⟩ := bind_eq_ok ran
  obtain ⟨referencePxs, -, ran⟩ := bind_eq_ok ran
  obtain rfl := Except.ok.inj ran
  exact ⟨page, realized, peak, mapError_eq_ok answered, orPanic_ok summed, orPanic_ok produced⟩

/-- A budget that was added was computed from one page of the day's fills, and the peak kept for the
account. -/
theorem addLossBudget_some {state : AccountState dec.Decimal} {exposure : Exposure dec.Decimal}
    (ran : addLossBudget reads account nowMs state = some exposure) :
    ∃ page realized peak, reads.userFillsByTime account (utcDayStartMs nowMs).toNat
        (some nowMs.toNat) = .ok page ∧
      realizedPnlSince page (utcDayStartMs nowMs) = some realized ∧
      exposureFrom state realized peak reads.reconciled (utcDayStartMs nowMs) = some exposure := by
  obtain ⟨page, answered, ran⟩ := Option.bind_eq_some_iff.mp ran
  obtain ⟨peak, -, ran⟩ := Option.bind_eq_some_iff.mp ran
  obtain ⟨realized, summed, produced⟩ := Option.bind_eq_some_iff.mp ran
  refine ⟨page, realized, peak, ?_, summed, produced⟩
  cases answer : reads.userFillsByTime account (utcDayStartMs nowMs).toNat (some nowMs.toNat) with
  | error error =>
      rw [answer] at answered
      cases answered
  | ok rows =>
      rw [answer] at answered
      rw [Option.some.inj answered]

/-- The exposure that one answer leads to counts the day exactly where the day fits. -/
theorem countsDay_answer (capped : AnswersCapped limit history reads)
    {page : List (Fill (fillDecimals dec))} {realized : dec.Decimal} {peak : Option dec.Decimal}
    {state : AccountState dec.Decimal} {exposure : Exposure dec.Decimal}
    (answered : reads.userFillsByTime account (utcDayStartMs nowMs).toNat (some nowMs.toNat) =
      .ok page) (summed : realizedPnlSince page (utcDayStartMs nowMs) = some realized)
    (produced : exposureFrom state realized peak reads.reconciled (utcDayStartMs nowMs) =
      some exposure) :
    CountsDay (history account) page (utcDayStartMs nowMs).toNat exposure ↔
      FitsPage limit (utcDayStartMs nowMs).toNat nowMs.toNat (history account) := by
  obtain ⟨rows, full⟩ := capped account _ _ page answered
  refine countsDay_iff rows full fun measured member => ?_
  rw [exposureFrom_measured produced measured member, value_realizedPnlSince summed,
    fillsSince_of_subperm rows]

/-- **The daily loss counts every fill of the day exactly where the day fits one answer of the
venue**, for an evaluation that is not refused and for a loss budget that is reported. The loss is
summed over one answer, and the venue cuts an answer at its limit without saying so. -/
theorem dailyLoss_counts_iff (capped : AnswersCapped limit history reads) :
    (∀ context page, evaluationContext reads account nowMs symbol = .ok context →
      reads.userFillsByTime account (utcDayStartMs nowMs).toNat (some nowMs.toNat) = .ok page →
        (CountsDay (history account) page (utcDayStartMs nowMs).toNat context.exposure ↔
          FitsPage limit (utcDayStartMs nowMs).toNat nowMs.toNat (history account))) ∧
    ∀ state exposure page, addLossBudget reads account nowMs state = some exposure →
      reads.userFillsByTime account (utcDayStartMs nowMs).toNat (some nowMs.toNat) = .ok page →
        (CountsDay (history account) page (utcDayStartMs nowMs).toNat exposure ↔
          FitsPage limit (utcDayStartMs nowMs).toNat nowMs.toNat (history account)) := by
  constructor
  · intro context page ran answered
    obtain ⟨page', realized, peak, answered', summed, produced⟩ := evaluationContext_ok ran
    obtain rfl := Except.ok.inj (answered.symm.trans answered')
    exact countsDay_answer capped answered summed produced
  · intro state exposure page ran answered
    obtain ⟨page', realized, peak, answered', summed, produced⟩ := addLossBudget_some ran
    obtain rfl := Except.ok.inj (answered.symm.trans answered')
    exact countsDay_answer capped answered summed produced

end Passed

/-! ## Days of losing trades -/

/-- A fill of no size that realised an amount. -/
def flatFill (time : Nat) (closedPnl : ℤ) (tid : UInt64) :
    Fill (fillDecimals RiskDecimals.reference) where
  coin := "BTC"
  px := RiskDecimals.reference.ofInt 60000
  sz := RiskDecimals.reference.ofInt 1
  side := .sell
  time := time
  startPosition := RiskDecimals.reference.ofInt 1
  dir := "Close Long"
  closedPnl := RiskDecimals.reference.ofInt closedPnl
  hash := "0x00"
  oid := 1
  crossed := true
  fee := RiskDecimals.reference.ofInt 0
  feeToken := "USDC"
  builderFee := none
  tid := tid
  cloid := none

/-- Reads answered from fills held oldest first, a page at a time. -/
def pagedReads (limit : Nat) (fills : List (Fill (fillDecimals RiskDecimals.reference))) :
    GatewayReads RiskDecimals.reference Unit Unit where
  route := .ok ()
  assets := .ok ()
  state := .ok ⟨Address.zero, 1728003600000, RiskDecimals.reference.ofInt 100000, [], []⟩
  userFillsByTime _ startMs endMs := .ok ((fillsWithin startMs endMs fills).take limit)
  portfolio _ := .ok none
  reconciled := true
  referencePxs := .ok fun _ => none
  volatility := none
  volScaled := false
  display _ := ""

/-- The reads of the sample answer a page of at most the limit. -/
theorem pagedReads_capped (limit : Nat)
    (fills : List (Fill (fillDecimals RiskDecimals.reference))) :
    AnswersCapped limit (fun _ => fills) (pagedReads limit fills) := by
  intro account startMs endMs page answered
  obtain rfl := Except.ok.inj answered
  exact ⟨(List.take_sublist _ _).subperm, List.length_take⟩

/-- The decimals of the reference never overflow in the sum of the fills. -/
theorem reference_realizedPnlSince (fills : List (Fill (fillDecimals RiskDecimals.reference)))
    (sinceMs : UInt64) : ∃ realized, realizedPnlSince fills sinceMs = some realized := by
  have nets : ∀ rows : List (Fill (fillDecimals RiskDecimals.reference)),
      (rows.mapM fun fill => RiskDecimals.reference.checkedSub fill.closedPnl fill.fee) =
        some (rows.map fun fill => FixedPoint.add fill.closedPnl (FixedPoint.neg fill.fee)) :=
    fun rows => List.mapM_pure
  have sums : ∀ amounts, RiskDecimals.reference.sum amounts =
      some (amounts.foldl FixedPoint.add RiskDecimals.reference.zero) :=
    fun amounts => List.foldlM_pure
  rw [realizedPnlSince, nets]
  exact ⟨_, sums _⟩

/-- Nothing is refused. -/
theorem pagedReads_context (limit : Nat) (fills : List (Fill (fillDecimals RiskDecimals.reference)))
    (account : Address) (nowMs : UInt64) (symbol : String) :
    ∃ context, evaluationContext (pagedReads limit fills) account nowMs symbol = .ok context ∧
      context.state.positions = [] := by
  obtain ⟨realized, summed⟩ := reference_realizedPnlSince
    ((fillsWithin (utcDayStartMs nowMs).toNat (some nowMs.toNat) fills).take limit)
    (utcDayStartMs nowMs)
  have stages : evaluationContext (pagedReads limit fills) account nowMs symbol =
      orPanic (realizedPnlSince ((fillsWithin (utcDayStartMs nowMs).toNat (some nowMs.toNat)
        fills).take limit) (utcDayStartMs nowMs)) >>= fun realized => _ := rfl
  rw [stages, summed]
  exact ⟨_, rfl, rfl⟩

/-- A trade that realised a loss of one dollar. -/
def lossFill (trade : Nat) : Fill (fillDecimals RiskDecimals.reference) :=
  flatFill (1728000001000 + trade) (-1) (.ofNat trade)

/-- The sample's fills lose one dollar each. -/
theorem netPnl_lossFills (count : Nat) : netPnl ((List.range count).map lossFill) = -count := by
  have each : ∀ trade, RiskDecimals.reference.value (lossFill trade).closedPnl -
      RiskDecimals.reference.value (lossFill trade).fee = -1 := by
    intro trade
    rw [lossFill, flatFill, RiskDecimals.reference.value_ofInt, RiskDecimals.reference.value_ofInt]
    norm_num
  rw [netPnl, List.map_map]
  change ((List.range count).map fun trade => _ - _).sum = _
  simp only [each]
  rw [List.map_const', List.sum_replicate, List.length_range, nsmul_eq_mul, mul_neg_one]

/-- Losing trades are all of the day, however many there are. -/
theorem fillsSince_lossFills (count : Nat) :
    fillsSince 1728000000000 ((List.range count).map lossFill) =
      (List.range count).map lossFill := by
  refine List.filter_eq_self.mpr fun fill member => ?_
  obtain ⟨trade, -, rfl⟩ := List.mem_map.mp member
  exact decide_eq_true (Nat.le_add_right_of_le (by decide))

/-- As many as there are milliseconds to the check are stamped before it. -/
theorem time_lossFills {count : Nat} (few : count ≤ 3599000)
    {fill : Fill (fillDecimals RiskDecimals.reference)}
    (member : fill ∈ (List.range count).map lossFill) : fill.time ≤ 1728003600000 := by
  obtain ⟨trade, inside, rfl⟩ := List.mem_map.mp member
  have below := List.mem_range.mp inside
  exact show 1728000001000 + trade ≤ 1728003600000 by omega

/-- So they are the whole of the window that the gateway reads. -/
theorem fillsWithin_lossFills {count : Nat} (few : count ≤ 3599000) :
    fillsWithin 1728000000000 (some 1728003600000) ((List.range count).map lossFill) =
      (List.range count).map lossFill := by
  rw [fillsWithin, fillsSince_lossFills]
  exact List.filter_eq_self.mpr fun fill member => decide_eq_true (time_lossFills few member)

/-- A profit of the day before, and a page full of losing trades. -/
def fullDay : List (Fill (fillDecimals RiskDecimals.reference)) :=
  flatFill 1727999999000 500 5000 :: (List.range 2000).map lossFill

/-- The profit is not of the day. -/
theorem fillsSince_fullDay :
    fillsSince 1728000000000 fullDay = (List.range 2000).map lossFill := by
  rw [fullDay, fillsSince, List.filter_cons_of_neg (by decide)]
  exact fillsSince_lossFills 2000

/-- **A day that just fits is counted**: as many trades as a page holds lost a dollar each, and the
profit of the day before does not make up for them. -/
theorem full_day_counts :
    ∃ context page,
      evaluationContext (pagedReads 2000 fullDay) Address.zero 1728003600000 "BTC" =
        .ok context ∧
      (pagedReads 2000 fullDay).userFillsByTime Address.zero
        (utcDayStartMs 1728003600000).toNat (some 1728003600000) = .ok page ∧
      CountsDay fullDay page (utcDayStartMs 1728003600000).toNat context.exposure ∧
      RiskDecimals.reference.value context.exposure.agent.realizedPnlTodayUsd = -2000 := by
  have start : (utcDayStartMs 1728003600000).toNat = 1728000000000 := by decide
  obtain ⟨context, ran, -⟩ := pagedReads_context 2000 fullDay Address.zero 1728003600000 "BTC"
  have fits : FitsPage 2000 (utcDayStartMs 1728003600000).toNat 1728003600000 fullDay := by
    rw [start, FitsPage, fillsWithin, fillsSince_fullDay]
    refine ⟨(List.length_filter_le _ _).trans ?_, fun fill => time_lossFills (by decide)⟩
    rw [List.length_map, List.length_range]
  have counts := ((dailyLoss_counts_iff (pagedReads_capped 2000 fullDay)).1 context _ ran rfl).mpr
    fits
  refine ⟨context, _, ran, rfl, counts, ?_⟩
  rw [counts.whole _ List.mem_cons_self, start, fillsSince_fullDay, netPnl_lossFills]
  norm_num

/-- Two thousand and one losing trades within an hour of midnight. -/
def busyDay : List (Fill (fillDecimals RiskDecimals.reference)) := (List.range 2001).map lossFill

/-- A daily limit is measured on what was lost, realised or not. -/
theorem reference_consumedUsd (account : AccountSnapshot RiskDecimals.reference.Decimal) :
    RiskDecimals.reference.value (consumedUsd account .daily) =
      -(RiskDecimals.reference.value account.realizedPnlTodayUsd +
        RiskDecimals.reference.value account.unrealizedPnlUsd) := by
  have day : RiskDecimals.reference.value account.dayPnlUsd =
      RiskDecimals.reference.value account.realizedPnlTodayUsd +
        RiskDecimals.reference.value account.unrealizedPnlUsd :=
    RiskDecimals.reference.value_checkedAdd _ _ _ rfl
  have consumed : RiskDecimals.reference.value (consumedUsd account .daily) =
      RiskDecimals.reference.value RiskDecimals.reference.zero -
        RiskDecimals.reference.value account.dayPnlUsd :=
    RiskDecimals.reference.value_checkedSub _ _ _ rfl
  rw [consumed, day, Decimals.value_zero, zero_sub]

/-- A loss below its limit is no breach. -/
theorem checkBudget_none {scope : KillScope} {account : AccountSnapshot dec.Decimal}
    {kind : LossKind} {limitUsd : dec.Decimal}
    (below : dec.value (consumedUsd account kind) < dec.value limitUsd) :
    checkBudget scope account kind (some limitUsd) = none :=
  if_neg (not_le.mpr below)

/-- **A loss the breaker does not see**: a day of 2001 trades that lost a dollar each is measured
as 2000, and a limit of 2001 dollars is not reached. -/
theorem loss_past_the_page :
    ∃ context page,
      evaluationContext (pagedReads 2000 busyDay) Address.zero 1728003600000 "BTC" =
        .ok context ∧
      (pagedReads 2000 busyDay).userFillsByTime Address.zero
        (utcDayStartMs 1728003600000).toNat (some 1728003600000) = .ok page ∧
      ¬ CountsDay busyDay page (utcDayStartMs 1728003600000).toNat context.exposure ∧
      RiskDecimals.reference.value context.exposure.agent.realizedPnlTodayUsd = -2000 ∧
      netPnl (fillsSince (utcDayStartMs 1728003600000).toNat busyDay) = -2001 ∧
      checkAll "agent-1" ⟨some (RiskDecimals.reference.ofInt 2001), none⟩ context.exposure.agent
        ⟨none, none⟩ context.exposure.fleet = none := by
  have start : (utcDayStartMs 1728003600000).toNat = 1728000000000 := by decide
  obtain ⟨context, ran, flat⟩ := pagedReads_context 2000 busyDay Address.zero 1728003600000 "BTC"
  obtain ⟨page, realized, peak, answered, summed, produced⟩ := evaluationContext_ok ran
  have served := answered
  change Except.ok ((fillsWithin (utcDayStartMs 1728003600000).toNat (some 1728003600000)
    busyDay).take 2000) = _ at served
  rw [start, busyDay, fillsWithin_lossFills (by decide), ← List.map_take, List.take_range] at served
  obtain rfl := Except.ok.inj served
  have passed : RiskDecimals.reference.value context.exposure.agent.realizedPnlTodayUsd =
      -2000 := by
    obtain ⟨rows, -⟩ := pagedReads_capped 2000 busyDay Address.zero _ _ _ answered
    rw [exposureFrom_measured produced _ List.mem_cons_self, value_realizedPnlSince summed,
      fillsSince_of_subperm rows, netPnl_lossFills]
    norm_num
  have day : netPnl (fillsSince (utcDayStartMs 1728003600000).toNat busyDay) = -2001 := by
    rw [start, busyDay, fillsSince_lossFills, netPnl_lossFills]
    norm_num
  refine ⟨context, _, ran, answered, fun counts => ?_, passed, day, ?_⟩
  · have whole := counts.whole _ List.mem_cons_self
    rw [passed, day] at whole
    norm_num at whole
  · obtain ⟨unrealized, sum, produced⟩ := Option.bind_eq_some_iff.mp produced
    obtain ⟨total, -, produced⟩ := Option.bind_eq_some_iff.mp produced
    obtain exposure := Option.some.inj produced
    rw [flat] at sum
    obtain rfl := Option.some.inj sum
    have unmoved : RiskDecimals.reference.value context.exposure.agent.unrealizedPnlUsd = 0 := by
      rw [← exposure]
      exact Decimals.value_zero _
    have within : RiskDecimals.reference.value (consumedUsd context.exposure.agent .daily) <
        RiskDecimals.reference.value (RiskDecimals.reference.ofInt 2001) := by
      rw [reference_consumedUsd, passed, unmoved, RiskDecimals.reference.value_ofInt]
      norm_num
    rw [checkAll, checkLoss, checkBudget_none within, ← exposure]
    rfl

end Oppen.Mcp
