import Oppen.Guardrail.Refusal

/-! # The checks of an evaluation

What has to be true of a reason, an account and a market before a limit is measured, the loss
breaker, and the limits that are measured on their own.
-/

namespace Oppen.Guardrail

open Oppen.Ledger

/-- `MAX_REASON_BYTES`. -/
def maxReasonBytes : ℕ := 2048

/-- `char::is_whitespace`. -/
def isWhiteSpace (char : Char) : Bool :=
  let code := char.toNat
  decide ((9 ≤ code ∧ code ≤ 13) ∨ code = 0x20 ∨ code = 0x85 ∨ code = 0xa0 ∨ code = 0x1680 ∨
    (0x2000 ≤ code ∧ code ≤ 0x200a) ∨ code = 0x2028 ∨ code = 0x2029 ∨ code = 0x202f ∨
    code = 0x205f ∨ code = 0x3000)

/-- `char::is_control`. -/
def isControl (char : Char) : Bool :=
  decide (char.toNat < 32 ∨ (127 ≤ char.toNat ∧ char.toNat < 160))

/-- The first control character that is no newline or tab, with its byte. -/
def controlCharacter : ℕ → List Char → Option (ℕ × ℕ)
  | _, [] => none
  | atByte, char :: rest =>
      if isControl char = true ∧ char ≠ '\n' ∧ char ≠ '\t' then some (atByte, char.toNat)
      else controlCharacter (atByte + char.utf8Size) rest

section Checks

variable (dec : RiskDecimals)

/-- `check_reason`. -/
def checkReason (reason : String) : Except (Refusal dec.Decimal) Unit := do
  refuseIf (reason.toList.all isWhiteSpace = true) .missingReason
  refuseIf (maxReasonBytes < reason.utf8ByteSize)
    (.reasonTooLong reason.utf8ByteSize maxReasonBytes)
  match controlCharacter 0 reason.toList with
  | some (atByte, codepoint) => .error (.reasonControlCharacter atByte codepoint)
  | none => return

/-- `expect_same`. -/
def expectSame (field supplied expected : String) : Except (Refusal dec.Decimal) Unit :=
  refuseIf (supplied ≠ expected) (.unevaluable (.inputMismatch field expected supplied))

/-- `check_order_approval_window`. -/
def checkOrderApprovalWindow (route : AuthorizedRoute) (nowMs : UInt64) :
    Except (Refusal dec.Decimal) Unit :=
  refuseIf (nowMs.toNat < route.binding.wallet.approvedAtMs ∨
      route.binding.wallet.validUntilMs ≤ nowMs.toNat)
    (routeRefusal "order is outside the approved wallet validity window")

/-- `validate_route`. -/
def validateRoute (route : AuthorizedRoute) (agent : String) (network : Network) :
    Except (Refusal dec.Decimal) Unit :=
  refuseIf (route.network ≠ network ∨ route.binding.agent ≠ agent ∨ route.bindingSeq = 0 ∨
      (∃ vault ∈ route.binding.vaultAddress, vault ≠ route.binding.container))
    (routeRefusal "registry route identity is inconsistent")

variable {dec}

/-- `check_account`: what has to be true of a snapshot before a limit is measured on it. -/
def checkAccount (account : AccountSnapshot dec.Decimal) (config : AgentGuardrails dec.Decimal)
    (nowMs : UInt64) : Except (Refusal dec.Decimal) Unit := do
  refuseIf (nowMs < account.asOfMs) (.unevaluable (.clockWentBackwards nowMs account.asOfMs))
  refuseIf (account.reconciled = false) (.unevaluable (.unreconciledAccount account.asOfMs))
  let ageMs := nowMs - account.asOfMs
  refuseIf (config.freshness.maxAccountAgeMs < ageMs)
    (.unevaluable (.staleAccountState ageMs config.freshness.maxAccountAgeMs))
  refuseIf (dec.value account.equityUsd ≤ 0)
    (.unevaluable (.nonPositiveEquity account.equityUsd))
  refuseIf (¬ account.coversDayOf nowMs)
    (.unevaluable (.lossWindowMismatch account.dayStartMs nowMs))

/-! ## The loss breaker -/

/-- An exhausted loss budget. -/
structure Breach (Decimal : Type) where
  scope : KillScope
  kind : LossKind
  observedUsd : Decimal
  limitUsd : Decimal
  deriving DecidableEq

/-- `consumed_usd`: how much of a budget the account has consumed. -/
def consumedUsd (account : AccountSnapshot dec.Decimal) : LossKind → dec.Decimal
  | .daily => dec.saturatingSub dec.zero account.dayPnlUsd
  | .drawdown => dec.max (dec.saturatingSub account.peakEquityUsd account.equityUsd) dec.zero

/-- One budget of `check`: exhausted at its limit. -/
def checkBudget (scope : KillScope) (account : AccountSnapshot dec.Decimal) (kind : LossKind)
    (limit : Option dec.Decimal) : Option (Breach dec.Decimal) := do
  let limitUsd ← limit
  let observedUsd := consumedUsd account kind
  if dec.value limitUsd ≤ dec.value observedUsd then some ⟨scope, kind, observedUsd, limitUsd⟩
  else none

/-- `check`: the daily budget before the drawdown. -/
def checkLoss (scope : KillScope) (limits : LossLimits dec.Decimal)
    (account : AccountSnapshot dec.Decimal) : Option (Breach dec.Decimal) :=
  checkBudget scope account .daily limits.maxDailyLossUsd <|>
    checkBudget scope account .drawdown limits.maxDrawdownUsd

/-- `check_all`: the agent's budgets before those of the account. -/
def checkAll (agent : String) (agentLimits : LossLimits dec.Decimal)
    (agentAccount : AccountSnapshot dec.Decimal) (accountLimits : LossLimits dec.Decimal)
    (fleet : Option (AccountSnapshot dec.Decimal)) : Option (Breach dec.Decimal) :=
  checkLoss (.agent agent) agentLimits agentAccount <|>
    fleet.bind fun fleet => checkLoss .global accountLimits fleet

/-- `ratio_pct`. -/
def ratioPct (observed limit : dec.Decimal) : Option dec.Decimal := do
  if dec.value limit = 0 then none
  else dec.checkedMul (← dec.checkedDiv observed limit) (dec.ofInt 100)

/-- `utilization_pct`. -/
def utilizationPct (kind : LossKind) (limit : Option dec.Decimal)
    (account : AccountSnapshot dec.Decimal) : Option dec.Decimal :=
  limit.bind (ratioPct (dec.max (consumedUsd account kind) dec.zero))

/-! ## The market -/

/-- A divergence of the mark that has outlasted its window. -/
def checkDivergence (market : MarketRef dec.Decimal) (config : AgentGuardrails dec.Decimal)
    (nowMs : UInt64) : Except (Refusal dec.Decimal) Unit :=
  match market.markDivergenceBps, market.markDivergentSinceMs with
  | some observedBps, some sinceMs => do
      if dec.value observedBps ≤ dec.value config.maxMarkDivergenceBps then return
      refuseIf (nowMs < sinceMs) (.unevaluable (.clockWentBackwards nowMs sinceMs))
      let sustainedMs := nowMs - sinceMs
      refuseIf (config.markDivergenceWindowMs ≤ sustainedMs)
        (.unevaluable (.markDivergence market.symbol observedBps config.maxMarkDivergenceBps
          sustainedMs config.markDivergenceWindowMs))
  | _, _ => .ok ()

/-- The reference price, once it is positive. -/
def referencePrice (market : MarketRef dec.Decimal) :
    Except (Refusal dec.Decimal) dec.Decimal :=
  match market.referencePx.filter fun px => 0 < dec.value px with
  | some px => .ok px
  | none => .error (.unevaluable (.missingReferencePrice market.symbol))

/-- `check_market`: what has to be true of a tick, and its reference price. -/
def checkMarket (market : MarketRef dec.Decimal) (config : AgentGuardrails dec.Decimal)
    (nowMs : UInt64) : Except (Refusal dec.Decimal) dec.Decimal := do
  refuseIf (nowMs < market.asOfMs) (.unevaluable (.clockWentBackwards nowMs market.asOfMs))
  refuseIf (market.quality ≠ .ok) (.unevaluable (.degradedFeed market.symbol market.quality))
  let ageMs := nowMs - market.asOfMs
  refuseIf (config.freshness.maxMarketAgeMs < ageMs)
    (.unevaluable (.staleMarketData market.symbol ageMs config.freshness.maxMarketAgeMs))
  checkDivergence market config nowMs
  referencePrice market

/-! ## Limits measured on their own -/

/-- `check_reduce_only`: flagged, and reducing. -/
def checkReduceOnly (intent : OrderIntent dec.Decimal) (positionSzi signedSz sz : dec.Decimal) :
    Except (Refusal dec.Decimal) Unit := do
  let refusal := Refusal.reduceOnly intent.symbol positionSzi signedSz intent.reduceOnly
  refuseIf (intent.reduceOnly = false) (refusal .notFlagged)
  refuseIf (dec.value positionSzi = 0) (refusal .noPosition)
  refuseIf (dec.isSignNegative positionSzi = dec.isSignNegative signedSz) (refusal .sameSide)
  refuseIf (dec.value (dec.abs positionSzi) < dec.value sz) (refusal .oversized)

/-- `adverse_slippage_bps`: slippage in the direction that costs money. -/
def adverseSlippageBps (isBuy : Bool) (px referencePx : dec.Decimal) : Option dec.Decimal := do
  let adverse ← if isBuy then dec.checkedSub px referencePx else dec.checkedSub referencePx px
  if dec.value adverse ≤ 0 then some dec.zero
  else dec.checkedMul (← dec.checkedDiv adverse referencePx) (dec.ofInt 10000)

/-- A vol-scaled cap and what it came from. -/
structure VolScaledCap (Decimal : Type) where
  effectiveCapUsd : Decimal
  riskBudgetUsd : Decimal
  sigmaDay : Decimal
  volScale : Decimal
  deriving DecidableEq

/-- `vol_scale`: the last hour only tightens. -/
def volScale (volRatio : Option dec.Decimal) : dec.Decimal :=
  dec.max (volRatio.getD dec.one) dec.one

/-- `vol_scaled_cap`. -/
def volScaledCap (config : AgentGuardrails dec.Decimal) (market : MarketRef dec.Decimal)
    (symbol : String) : Except (Refusal dec.Decimal) (Option (VolScaledCap dec.Decimal)) :=
  match config.risk.maxRiskUsd with
  | none => .ok none
  | some riskBudgetUsd =>
      match market.sigmaDay.filter fun sigma => 0 < dec.value sigma with
      | none => .error (.unevaluable (.missingVolatility symbol))
      | some sigmaDay => do
          let scale := volScale market.volRatio
          let cap := do
            let sigma ← dec.checkedMul sigmaDay scale
            let denominator ← dec.checkedMul (dec.ofInt 2) sigma
            dec.checkedDiv riskBudgetUsd denominator
          return some ⟨← checked cap "vol-scaled cap", riskBudgetUsd, sigmaDay, scale⟩

end Checks

/-- A reference price that is answered is the market's, and positive. -/
theorem referencePrice_ok {dec : RiskDecimals} {market : MarketRef dec.Decimal} {px : dec.Decimal}
    (run : referencePrice market = .ok px) :
    market.referencePx = some px ∧ 0 < dec.value px := by
  unfold referencePrice at run
  split at run
  · rename_i held same
    cases run
    have kept := Option.filter_eq_some_iff.mp same
    exact ⟨kept.1, of_decide_eq_true kept.2⟩
  · exact nomatch run

end Oppen.Guardrail
