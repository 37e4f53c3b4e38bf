import Oppen.Guardrail.Bucket
import Oppen.Guardrail.Snapshot

/-! # Refusals

Why an order or a cancel was not cleared, with what was observed and the limit it was held to.
-/

namespace Oppen.Guardrail

open Oppen.Ledger Oppen.Signing

inductive ReduceOnlyBreach where
  | notFlagged
  | noPosition
  | sameSide
  | oversized
  deriving DecidableEq

/-- The venue's own order rules. -/
inductive VenueRule (Decimal : Type) where
  | delisted (symbol : String)
  | nonPositivePrice (px : Decimal)
  | nonPositiveSize (sz : Decimal)
  | priceSignificantFigures (px : Decimal) (max : ℕ)
  | priceDecimals (px : Decimal) (max : ℕ)
  | sizeDecimals (sz : Decimal) (max : ℕ)
  | minNotional (notionalUsd minimumUsd : Decimal)
  | scheduleCancelTooSoon (cancelAtMs earliestMs : UInt64)
  | unrepresentable (detail : String)
  deriving DecidableEq

/-- Why the engine could not reach a verdict. -/
inductive Unevaluable (Decimal : Type) where
  | approvalReviewChanged (detail : String)
  | approvalExpired (expiresAtMs nowMs : UInt64)
  | originalRequestMismatch
  | approvalAuthority (detail : String)
  | submissionAuthority (detail : String)
  | policyAuthority (detail : String)
  | routeAuthority (detail : String)
  | pilotBudgetUnavailable (detail : String)
  | unknownAgent (agent : String)
  | staleClearance (ageMs maxAgeMs : UInt64)
  | inputMismatch (field expected supplied : String)
  | staleMarketData (symbol : String) (ageMs maxAgeMs : UInt64)
  | missingReferencePrice (symbol : String)
  | degradedFeed (symbol : String) (quality : FeedQuality)
  | markDivergence (symbol : String) (observedBps limitBps : Decimal)
      (sustainedMs windowMs : UInt64)
  | unreconciledAccount (asOfMs : UInt64)
  | feedAdmission
  | staleAccountState (ageMs maxAgeMs : UInt64)
  | lossWindowMismatch (dayStartMs nowMs : UInt64)
  | missingFleetState
  | missingVolatility (symbol : String)
  | missingRestingOrders
  | nonPositiveEquity (equityUsd : Decimal)
  | clockWentBackwards (nowMs lastMs : UInt64)
  | arithmeticOverflow (field : String)
  | invalidGuardrailConfig (field detail : String)
  | unknownProposal (approvalId : String)
  | auditWriteFailed (detail : String)
  | stateWriteFailed (detail : String)
  deriving DecidableEq

/-- Why an order or a cancel was not cleared; the targets of a cancellation are left out. -/
inductive Refusal (Decimal : Type) where
  | cancellationApprovalRequired (approvalId : String) (expiresAtMs : UInt64)
  | pilotBudget (metric : PilotMetric) (observedUsd limitUsd : Decimal)
  | missingReason
  | reasonTooLong (lenBytes maxBytes : ℕ)
  | reasonControlCharacter (atByte codepoint : ℕ)
  | symbolNotAllowed (symbol : String) (allowed : List String)
  | orderNotional (symbol : String) (observedUsd limitUsd : Decimal)
  | openExposure (observedUsd limitUsd : Decimal)
  | positionNotional (symbol : String) (observedUsd restingUsd limitUsd : Decimal)
  | volScaledPositionNotional (symbol : String)
      (observedUsd effectiveCapUsd riskBudgetUsd sigmaDayPct volScale : Decimal)
  | orderRate (limit : UInt32) (windowMs : UInt64) (tokensAvailable : Decimal) (retryAfterMs : ℕ)
  | globalRateBudget (tokensAvailable : Decimal) (reserve : UInt32) (retryAfterMs : ℕ)
  | reduceOnly (symbol : String) (positionSzi signedSz : Decimal) (flaggedReduceOnly : Bool)
      (detail : ReduceOnlyBreach)
  | slippage (symbol : String) (observedBps limitBps referencePx : Decimal)
  | leverage (observed : Decimal) (limit : UInt32) (equityUsd positionNotionalUsd : Decimal)
  | tradingPaused (scope : KillScope) (sinceMs : UInt64) (reason : KillReason Decimal)
  | lossLimit (scope : KillScope) (kind : LossKind) (observedUsd limitUsd : Decimal)
  | venueRule (rule : VenueRule Decimal)
  | approvalRequired (symbol : String) (notionalUsd : Decimal) (approvalId : String)
      (expiresAtMs : UInt64)
  | unevaluable (reason : Unevaluable Decimal)
  deriving DecidableEq

variable {dec : RiskDecimals}

/-- `VenueRule::from` a validation error. -/
def VenueRule.ofValidation : ValidationError dec.Decimal → VenueRule dec.Decimal
  | .delisted symbol => .delisted symbol
  | .nonPositivePrice px => .nonPositivePrice px
  | .nonPositiveSize sz => .nonPositiveSize sz
  | .priceSigFigs px => .priceSignificantFigures px Oppen.Guardrail.priceSigFigs
  | .priceDecimals px max => .priceDecimals px max
  | .sizeDecimals sz szDecimals => .sizeDecimals sz szDecimals
  | .minNotional notional => .minNotional notional dec.minNotionalUsd

/-- `VenueRule::from` an order error. -/
def VenueRule.ofOrderError : OrderError dec.Decimal → VenueRule dec.Decimal
  | .validation error => .ofValidation error
  | .wire (.tooManyDecimals number) =>
      .unrepresentable (dec.display number ++ " has more than 8 decimals")

/-- `route_refusal`. -/
def routeRefusal (detail : String) : Refusal dec.Decimal := .unevaluable (.routeAuthority detail)

/-- `approval_refusal`. -/
def approvalRefusal (detail : String) : Refusal dec.Decimal :=
  .unevaluable (.approvalAuthority detail)

/-- `checked`: an overflow refuses. -/
def checked (amount : Option dec.Decimal) (field : String) :
    Except (Refusal dec.Decimal) dec.Decimal :=
  match amount with
  | some amount => .ok amount
  | none => .error (.unevaluable (.arithmeticOverflow field))

/-- A checked amount that is answered is the one that was computed. -/
theorem checked_ok {amount : Option dec.Decimal} {field : String} {result : dec.Decimal}
    (run : checked amount field = .ok result) : amount = some result := by
  cases amount with
  | none => exact nomatch run
  | some amount => exact congrArg some (Except.ok.inj run)

end Oppen.Guardrail
