import Oppen.Guardrail.Measure

/-! # One evaluation

The verdict on an order and what it leaves of the engine's state: the policy it read, the stop
a breached loss limit makes, the tokens it spends and the proposal it mints. What the journals,
the feed and the audit sink answer is part of a call.
-/

namespace Oppen.Guardrail

open Oppen.Json Oppen.Ledger Oppen.Signing

/-- `GlobalRateBudget`: requests of the address, and those kept back for cancels. -/
structure GlobalRateBudget where
  rate : OrderRate
  reserve : UInt32
  deriving DecidableEq

/-- `GlobalRateBudget::validate`. -/
def GlobalRateBudget.validate (budget : GlobalRateBudget) : Except (String × String) Unit := do
  refuseIf (budget.rate.perMs = 0) ("global_rate.rate.per_ms", "must be positive")
  refuseIf (budget.rate.count ≤ budget.reserve)
    ("global_rate.reserve", "must be below the budget it reserves from")

/-- An order waiting for an operator. -/
structure Proposal (Decimal : Type) where
  id : String
  agent : String
  intent : OrderIntent Decimal
  route : AuthorizedRoute
  expiresAtMs : UInt64

/-- What an evaluation reads and changes of the engine. The buckets are kept by agent and made at
the first order. -/
structure OrderState (Decimal : Type) where
  engine : EngineState Decimal
  buckets : String → Option TokenBucket
  globalBudget : GlobalRateBudget
  globalBucket : TokenBucket
  proposals : List (Proposal Decimal)
  proposalSeq : ℕ

/-- What does not change of an engine. It is fixed when the engine is built. -/
structure EngineSetup where
  network : Network
  supervisedAlpha : Bool
  deriving DecidableEq

/-- `Mode`. -/
inductive Mode where
  | fresh
  | approved (route : AuthorizedRoute)
  | preflight
  deriving DecidableEq

/-- The route a proposal was approved for. -/
def Mode.approvedRoute : Mode → Option AuthorizedRoute
  | .approved route => some route
  | _ => none

/-- What is evaluated. The exposure and the market are snapshots of the caller, which the checks
refuse if they are too old. -/
structure Evaluation (Decimal : Type) where
  agent : String
  intent : OrderIntent Decimal
  asset : Asset
  market : MarketRef Decimal
  exposure : Exposure Decimal
  nowMs : UInt64

/-- What the rest of the program answers during a call. The feed session is asked twice, as the
source asks it. -/
structure Answers (Decimal : Type) where
  /-- The policy journal read. -/
  policy : Except String (PolicyVersion Decimal)
  /-- The registry read. -/
  route : Except (Refusal Decimal) AuthorizedRoute
  /-- The feed session, asked before the account is measured and before a token is spent. -/
  feedFirst : Except (Refusal Decimal) Unit
  feedLast : Except (Refusal Decimal) Unit
  /-- The policy journal written, when a loss limit is breached. -/
  committed : Except String (PolicyVersion Decimal)
  /-- The approval journal, if there is one: the id of a proposal and when it expires. -/
  minted : Option (Except String (String × UInt64))
  /-- The audit sink. -/
  audit : Except String Unit
  /-- The submission journal, asked by a preflight that would clear. -/
  submission : Except (Refusal Decimal) Unit

/-- Where an order sits against each cap. -/
structure Utilization (Decimal : Type) where
  orderNotionalPct : Option Decimal
  positionNotionalPct : Option Decimal
  dailyLossPct : Option Decimal
  drawdownPct : Option Decimal
  volScaledPositionPct : Option Decimal
  leverage : Decimal
  orderTokensRemaining : Decimal
  globalTokensRemaining : Decimal
  deriving DecidableEq

/-- What may be signed; the clearance has its utilization as serialised. -/
structure Cleared (Decimal : Type) where
  action : Action
  clearance : Clearance
  utilization : Utilization Decimal
  deriving DecidableEq

/-- What a preflight found. -/
structure Verdict (Decimal : Type) where
  wouldClear : Bool
  utilization : Option (Utilization Decimal)
  refusal : Option (Refusal Decimal)
  deriving DecidableEq

/-- `APPROVAL_TTL_MS`. -/
def approvalTtlMs : ℕ := 120000

/-- `u64::saturating_add`. -/
def saturatingMs (nowMs : UInt64) (more : ℕ) : UInt64 := .ofNat (min (nowMs.toNat + more) u64Max)

section Decide

variable (dec : RiskDecimals)

/-- `TokenBucket::tokens`. -/
def TokenBucket.tokens (bucket : TokenBucket) : dec.Decimal := dec.millionths bucket.tokensMicro

/-- `Utilization` as serialised. -/
def Utilization.toValue (utilization : Utilization dec.Decimal) : Value :=
  let text (amount : dec.Decimal) : Value := .string (dec.display amount)
  .ofFields [("order_notional_pct", optionValue text utilization.orderNotionalPct),
    ("position_notional_pct", optionValue text utilization.positionNotionalPct),
    ("daily_loss_pct", optionValue text utilization.dailyLossPct),
    ("drawdown_pct", optionValue text utilization.drawdownPct),
    ("vol_scaled_position_pct", optionValue text utilization.volScaledPositionPct),
    ("leverage", text utilization.leverage),
    ("order_tokens_remaining", text utilization.orderTokensRemaining),
    ("global_tokens_remaining", text utilization.globalTokensRemaining)]

/-! ## Budgets -/

/-- `bucket_refusal`. -/
def bucketRefusal (error : BucketError) (rate : OrderRate) (nowMs : UInt64) :
    Refusal dec.Decimal :=
  match error with
  | .empty tokensAvailableMicro retryAfterMs =>
      .orderRate rate.count rate.perMs (dec.millionths tokensAvailableMicro) retryAfterMs
  | .clockWentBackwards lastMs => .unevaluable (.clockWentBackwards nowMs lastMs)
  | .invalidRate => .unevaluable (.invalidGuardrailConfig "order_rate.per_ms" "must be positive")

/-- The refusal of a global bucket that cannot be refilled. -/
def globalRefusal (error : BucketError) (nowMs : UInt64) : Refusal dec.Decimal :=
  match error with
  | .clockWentBackwards lastMs => .unevaluable (.clockWentBackwards nowMs lastMs)
  | _ => .unevaluable (.invalidGuardrailConfig "global_rate.rate.per_ms" "must be positive")

/-- The refusal of an order that the global bucket has no request for. -/
def globalExhausted (bucket : TokenBucket) (reserve : UInt32) : Refusal dec.Decimal :=
  .globalRateBudget (bucket.tokens dec) reserve bucket.retryAfterMs

/-- `spend_global`: what is left, and the bucket. -/
def spendGlobal (bucket : TokenBucket) (budget : GlobalRateBudget) (mode : Mode)
    (nowMs : UInt64) : Except (Refusal dec.Decimal) dec.Decimal × TokenBucket :=
  match bucket.refill nowMs with
  | .error error => (.error (globalRefusal dec error nowMs), bucket)
  | .ok refilled =>
      if mode ≠ .fresh then (.ok (refilled.tokens dec), refilled)
      -- the reserve is checked before the take
      else if dec.value (refilled.tokens dec) ≤ (budget.reserve.toNat : ℚ) then
        (.error (globalExhausted dec refilled budget.reserve), refilled)
      else
        match refilled.tryTake nowMs with
        | (.ok (), taken) => (.ok (taken.tokens dec), taken)
        | (.error _, kept) => (.error (globalExhausted dec kept budget.reserve), kept)

/-- `draw_global_reserve`: charged and never refused. -/
def drawGlobalReserve (bucket : TokenBucket) (nowMs : UInt64) : dec.Decimal × TokenBucket :=
  let drawn := (bucket.tryTake nowMs).2
  (drawn.tokens dec, drawn)

variable {dec}

namespace OrderState

variable (state : OrderState dec.Decimal)

/-- `bucket_mut`: the agent's bucket, a full one when its rate changed. -/
def bucketFor (agent : String) (rate : OrderRate) (nowMs : UInt64) : TokenBucket :=
  match state.buckets agent with
  | some bucket => if bucket.rate = rate then bucket else .new rate nowMs
  | none => .new rate nowMs

def setBucket (agent : String) (bucket : TokenBucket) : OrderState dec.Decimal :=
  { state with buckets := Function.update state.buckets agent (some bucket) }

/-- `mint_proposal`, after the proposals that expired are swept. -/
def mintProposal (agent : String) (intent : OrderIntent dec.Decimal) (route : AuthorizedRoute)
    (nowMs : UInt64) : String × OrderState dec.Decimal :=
  let seq := min (state.proposalSeq + 1) u64Max
  let id := agent ++ "-" ++ toString nowMs.toNat ++ "-" ++ toString seq
  let held := state.proposals.filter fun proposal => nowMs < proposal.expiresAtMs
  (id, { state with
    proposalSeq := seq
    proposals := held.filter (fun proposal => proposal.id ≠ id) ++
      [⟨id, agent, intent, route, saturatingMs nowMs approvalTtlMs⟩] })

/-- `refresh_policy`: a policy that cannot be read or published inhibits. -/
def refreshPolicy (answers : Answers dec.Decimal) :
    Except (Refusal dec.Decimal) Unit × OrderState dec.Decimal :=
  let inhibited : OrderState dec.Decimal := { state with engine := state.engine.inhibit }
  match answers.policy with
  | .error detail => (.error (.unevaluable (.policyAuthority detail)), inhibited)
  | .ok version =>
      match state.engine.publish dec.toPolicyDecimals version with
      | .error detail =>
          (.error (.unevaluable (.policyAuthority
            ("policy requires operator reconciliation: " ++ detail))), inhibited)
      | .ok engine => (.ok (), { state with engine })

/-- What a breached loss limit does: it stops its scope, and the stop is made durable. -/
def trip (answers : Answers dec.Decimal) (breach : Breach dec.Decimal) (nowMs : UInt64) :
    Refusal dec.Decimal × OrderState dec.Decimal :=
  let engagement : Engagement dec.Decimal :=
    ⟨nowMs, .lossLimit breach.kind breach.observedUsd breach.limitUsd⟩
  let stopped := state.engine.stop breach.scope engagement
  let failed (detail : String) : Refusal dec.Decimal × OrderState dec.Decimal :=
    (.unevaluable (.stateWriteFailed detail), { state with engine := stopped.inhibit })
  match answers.committed with
  | .error detail => failed detail
  | .ok version =>
      match stopped.publish dec.toPolicyDecimals version with
      | .error detail => failed ("policy requires operator reconciliation: " ++ detail)
      | .ok engine =>
          (.lossLimit breach.scope breach.kind breach.observedUsd breach.limitUsd,
            { state with engine })

end OrderState

/-! ## Admission -/

/-- What is checked of the request itself. -/
def checkRequest (ask : Evaluation dec.Decimal) : Except (Refusal dec.Decimal) Unit := do
  checkReason dec ask.intent.reason
  refuseIf (∃ original ∈ ask.intent.original,
      original.matchesNormalization ask.intent ask.asset = false)
    (.unevaluable .originalRequestMismatch)

/-- `decision_route`, and what is checked of the route. -/
def checkRoute (setup : EngineSetup) (answers : Answers dec.Decimal) (mode : Mode)
    (ask : Evaluation dec.Decimal) (engine : EngineState dec.Decimal) :
    Except (Refusal dec.Decimal) AuthorizedRoute := do
  refuseIf ((engine.policy.guardrails.get ask.agent).isNone = true)
    (.unevaluable (.unknownAgent ask.agent))
  let route ← answers.route
  validateRoute dec route ask.agent setup.network
  refuseIf (∃ expected ∈ mode.approvedRoute, expected ≠ route)
    (routeRefusal "proposal route changed since evaluation")
  checkOrderApprovalWindow dec route ask.nowMs
  refuseIf (ask.exposure.account ≠ route.binding.container)
    (routeRefusal "exposure account does not match authorized container")
  return route

/-- The fleet's snapshot, which limits of the account need. -/
def checkFleet (accountLimits : LossLimits dec.Decimal) (config : AgentGuardrails dec.Decimal)
    (fleet : Option (AccountSnapshot dec.Decimal)) (nowMs : UInt64) :
    Except (Refusal dec.Decimal) Unit :=
  if accountLimits.maxDailyLossUsd.isNone ∧ accountLimits.maxDrawdownUsd.isNone then .ok ()
  else
    match fleet with
    | none => .error (.unevaluable .missingFleetState)
    | some fleet => checkAccount fleet config nowMs

/-- The scope an agent is stopped by, if there is one. -/
def checkKill (engine : EngineState dec.Decimal) (agent : String) :
    Except (Refusal dec.Decimal) Unit :=
  match engine.effectiveKill.blocking agent with
  | some (scope, engagement) =>
      .error (.tradingPaused scope engagement.engagedAtMs engagement.reason)
  | none => .ok ()

/-- From the configuration to the snapshots: everything that is checked before the breaker. -/
def checkAdmission (setup : EngineSetup) (answers : Answers dec.Decimal) (mode : Mode)
    (ask : Evaluation dec.Decimal) (engine : EngineState dec.Decimal) :
    Except (Refusal dec.Decimal) (AuthorizedRoute × AgentGuardrails dec.Decimal) := do
  let route ← checkRoute setup answers mode ask engine
  match engine.policy.guardrails.get ask.agent with
  | none => .error (.unevaluable (.unknownAgent ask.agent))
  | some config => do
      mapError (fun (field, detail) => .unevaluable (.invalidGuardrailConfig field detail))
        (config.validate dec.toPolicyDecimals)
      checkKill engine ask.agent
      mapError (fun detail => .unevaluable (.policyAuthority detail))
        (engine.checkScopedAcknowledgment route setup.supervisedAlpha)
      expectSame dec "asset" ask.asset.info.name ask.intent.symbol
      expectSame dec "market_ref" ask.market.symbol ask.intent.symbol
      checkAccount ask.exposure.agent config ask.nowMs
      answers.feedFirst
      checkFleet engine.policy.accountLimits config ask.exposure.fleet ask.nowMs
      return (route, config)

/-- From the market to the last cap. -/
def checkCaps (config : AgentGuardrails dec.Decimal) (ask : Evaluation dec.Decimal) :
    Except (Refusal dec.Decimal) (dec.Decimal × Measured dec.Decimal) := do
  let referencePx ← checkMarket ask.market config ask.nowMs
  refuseIf (ask.intent.symbol ∉ config.symbols.keys)
    (.symbolNotAllowed ask.intent.symbol config.symbols.keys)
  let measured ← measure config ask.exposure.agent ask.asset ask.market ask.intent referencePx
  return (referencePx, measured)

/-- An order that passed every check but the budgets. -/
structure Passed (Decimal : Type) where
  route : AuthorizedRoute
  config : AgentGuardrails Decimal
  referencePx : Decimal
  measured : Measured Decimal

/-- Everything of `decide` before the budgets. -/
def reachBudgets (setup : EngineSetup) (answers : Answers dec.Decimal) (mode : Mode)
    (ask : Evaluation dec.Decimal) (state : OrderState dec.Decimal) :
    Except (Refusal dec.Decimal) (Passed dec.Decimal) × OrderState dec.Decimal :=
  match checkRequest ask with
  | .error refusal => (.error refusal, state)
  | .ok () =>
      match state.refreshPolicy answers with
      | (.error refusal, state) => (.error refusal, state)
      | (.ok (), state) =>
          match checkAdmission setup answers mode ask state.engine with
          | .error refusal => (.error refusal, state)
          | .ok (route, config) =>
              match checkAll ask.agent config.loss ask.exposure.agent
                  state.engine.policy.accountLimits ask.exposure.fleet with
              | some breach =>
                  let tripped := state.trip answers breach ask.nowMs
                  (.error tripped.1, tripped.2)
              | none =>
                  match checkCaps config ask with
                  | .error refusal => (.error refusal, state)
                  | .ok (referencePx, measured) =>
                      (.ok ⟨route, config, referencePx, measured⟩, state)

/-! ## Clearing -/

/-- The clearance of an order that passed. -/
def clearOrder (setup : EngineSetup) (ask : Evaluation dec.Decimal) (passed : Passed dec.Decimal)
    (policyRevision : ℕ) (orderTokens globalTokens : dec.Decimal) : Cleared dec.Decimal :=
  let account := ask.exposure.agent
  let config := passed.config
  let measured := passed.measured
  let utilization : Utilization dec.Decimal := {
    orderNotionalPct := ratioPct measured.notionalUsd config.maxOrderUsd
    positionNotionalPct := ratioPct measured.positionAfterUsd config.maxPositionUsd
    dailyLossPct := utilizationPct .daily config.loss.maxDailyLossUsd account
    drawdownPct := utilizationPct .drawdown config.loss.maxDrawdownUsd account
    volScaledPositionPct := measured.volScaled.bind fun cap =>
      ratioPct measured.positionAfterUsd cap.effectiveCapUsd
    leverage := measured.leverage
    orderTokensRemaining := orderTokens
    globalTokensRemaining := globalTokens }
  { action := .order [measured.wire] ask.intent.grouping ask.intent.builder
    clearance := {
      approvalReviewDigest := none
      agent := ask.agent
      route := passed.route
      policyRevision
      vaultAddress := passed.route.binding.vaultAddress
      network := setup.network
      evaluatedAtMs := ask.nowMs.toNat
      kind := .order ask.intent.symbol ask.intent.isBuy (dec.display measured.px)
        (dec.display measured.sz) (dec.display measured.notionalUsd) ask.intent.reduceOnly
        (dec.display measured.slippageBps) (dec.display passed.referencePx)
        (dec.display measured.slippageReference) ask.intent.cloid
        (ask.market.snapshot.map (·.id)) (ask.market.snapshot.map (·.hash))
      utilization := utilization.toValue dec }
    utilization }

/-- What the call of a mode does to the agent's bucket. -/
def Mode.bucketCall (nowMs : UInt64) : Mode → BucketCall
  | .fresh => .tryTake nowMs
  | .approved _ => .refill nowMs
  | .preflight => .peek nowMs

/-- The approval an order needs, when its agent's orders need one. -/
def requireApproval (answers : Answers dec.Decimal) (mode : Mode) (ask : Evaluation dec.Decimal)
    (passed : Passed dec.Decimal) (state : OrderState dec.Decimal) :
    Except (Refusal dec.Decimal) Unit × OrderState dec.Decimal :=
  let required (id : String) (expiresAtMs : UInt64) : Refusal dec.Decimal :=
    .approvalRequired ask.intent.symbol passed.measured.notionalUsd id expiresAtMs
  if passed.config.approvalRequired = false then (.ok (), state)
  else
    match mode with
    | .approved _ => (.ok (), state)
    | .preflight => (.error (required "" (saturatingMs ask.nowMs approvalTtlMs)), state)
    | .fresh =>
        match answers.minted with
        | some (.ok (id, expiresAtMs)) => (.error (required id expiresAtMs), state)
        | some (.error detail) => (.error (approvalRefusal detail), state)
        | none =>
            let minted := state.mintProposal ask.agent ask.intent passed.route ask.nowMs
            (.error (required minted.1 (saturatingMs ask.nowMs approvalTtlMs)), minted.2)

/-- The budgets, which are spent last, and the clearance. -/
def spendBudgets (setup : EngineSetup) (answers : Answers dec.Decimal) (mode : Mode)
    (ask : Evaluation dec.Decimal) (passed : Passed dec.Decimal) (state : OrderState dec.Decimal) :
    Except (Refusal dec.Decimal) (Cleared dec.Decimal) × OrderState dec.Decimal :=
  let rate := passed.config.orderRate
  let bucket := state.bucketFor ask.agent rate ask.nowMs
  match answers.feedLast with
  | .error refusal => (.error refusal, state.setBucket ask.agent bucket)
  | .ok () =>
      let (spent, bucket) := bucket.perform (mode.bucketCall ask.nowMs)
      let state := state.setBucket ask.agent bucket
      match spent with
      | .error error => (.error (bucketRefusal dec error rate ask.nowMs), state)
      | .ok () =>
          let (left, globalBucket) := spendGlobal dec state.globalBucket state.globalBudget mode
            ask.nowMs
          let state := { state with globalBucket }
          match left with
          | .error refusal => (.error refusal, state)
          | .ok globalTokens =>
              match requireApproval answers mode ask passed state with
              | (.error refusal, state) => (.error refusal, state)
              | (.ok (), state) =>
                  (.ok (clearOrder setup ask passed state.engine.policyRevision
                    (bucket.tokens dec) globalTokens), state)

/-- `decide`. -/
def decideOrder (setup : EngineSetup) (answers : Answers dec.Decimal) (mode : Mode)
    (ask : Evaluation dec.Decimal) (state : OrderState dec.Decimal) :
    Except (Refusal dec.Decimal) (Cleared dec.Decimal) × OrderState dec.Decimal :=
  match reachBudgets setup answers mode ask state with
  | (.error refusal, state) => (.error refusal, state)
  | (.ok passed, state) => spendBudgets setup answers mode ask passed state

/-- What `record` makes of an outcome: an order that is not recorded is refused. -/
def recordOutcome (answers : Answers dec.Decimal)
    (outcome : Except (Refusal dec.Decimal) (Cleared dec.Decimal)) :
    Except (Refusal dec.Decimal) (Cleared dec.Decimal) :=
  match answers.audit, outcome with
  | .error detail, .ok _ => .error (.unevaluable (.auditWriteFailed detail))
  | _, outcome => outcome

/-- `evaluate`: a failure of the approval journal is not recorded. -/
def evaluate (setup : EngineSetup) (answers : Answers dec.Decimal)
    (ask : Evaluation dec.Decimal) (state : OrderState dec.Decimal) :
    Except (Refusal dec.Decimal) (Cleared dec.Decimal) × OrderState dec.Decimal :=
  match decideOrder setup answers .fresh ask state with
  | (.error (.unevaluable (.approvalAuthority detail)), state) =>
      (.error (.unevaluable (.approvalAuthority detail)), state)
  | (outcome, state) => (recordOutcome answers outcome, state)

/-- `preflight`. -/
def preflight (setup : EngineSetup) (answers : Answers dec.Decimal)
    (ask : Evaluation dec.Decimal) (state : OrderState dec.Decimal) :
    Verdict dec.Decimal × OrderState dec.Decimal :=
  match decideOrder setup answers .preflight ask state with
  | (.ok cleared, state) =>
      match answers.submission with
      | .error refusal => (⟨false, some cleared.utilization, some refusal⟩, state)
      | .ok () => (⟨true, some cleared.utilization, none⟩, state)
  | (.error refusal, state) => (⟨false, none, some refusal⟩, state)

/-! ## What a clearance went through -/

/-- What was checked of an order that reached the budgets. -/
structure Passes (setup : EngineSetup) (answers : Answers dec.Decimal) (mode : Mode)
    (ask : Evaluation dec.Decimal) (engine : EngineState dec.Decimal)
    (passed : Passed dec.Decimal) : Prop where
  request : checkRequest ask = .ok ()
  admission : checkAdmission setup answers mode ask engine = .ok (passed.route, passed.config)
  unbroken : checkAll ask.agent passed.config.loss ask.exposure.agent engine.policy.accountLimits
    ask.exposure.fleet = none
  caps : checkCaps passed.config ask = .ok (passed.referencePx, passed.measured)

/-- What an order cost that was cleared. -/
structure Clearing (setup : EngineSetup) (answers : Answers dec.Decimal) (mode : Mode)
    (ask : Evaluation dec.Decimal) (state : OrderState dec.Decimal)
    (cleared : Cleared dec.Decimal) (after : OrderState dec.Decimal) where
  engine : EngineState dec.Decimal
  passed : Passed dec.Decimal
  bucket : TokenBucket
  globalBucket : TokenBucket
  globalTokens : dec.Decimal
  passes : Passes setup answers mode ask engine passed
  taken : (state.bucketFor ask.agent passed.config.orderRate ask.nowMs).perform
    (mode.bucketCall ask.nowMs) = (.ok (), bucket)
  spent : spendGlobal dec state.globalBucket state.globalBudget mode ask.nowMs =
    (.ok globalTokens, globalBucket)
  result : after = { (({ state with engine } : OrderState dec.Decimal).setBucket ask.agent bucket)
    with globalBucket }
  clearance : cleared = clearOrder setup ask passed engine.policyRevision (bucket.tokens dec)
    globalTokens

section Facts

variable {setup : EngineSetup} {answers : Answers dec.Decimal} {mode : Mode}
  {ask : Evaluation dec.Decimal} {state after : OrderState dec.Decimal}

/-- Reading the policy changes what the engine knows and nothing else. -/
theorem OrderState.refreshPolicy_eq (state : OrderState dec.Decimal)
    (answers : Answers dec.Decimal) :
    ∃ verdict engine, state.refreshPolicy answers = (verdict, { state with engine }) := by
  unfold refreshPolicy
  split
  · exact ⟨_, _, rfl⟩
  · split <;> exact ⟨_, _, rfl⟩

/-- Tripping a breach changes the engine and leaves the budgets and their buckets. -/
theorem OrderState.trip_eq (state : OrderState dec.Decimal) (answers : Answers dec.Decimal)
    (breach : Breach dec.Decimal) (nowMs : UInt64) :
    ∃ refusal engine, state.trip answers breach nowMs = (refusal, { state with engine }) := by
  unfold trip
  dsimp only
  split
  · exact ⟨_, _, rfl⟩
  · split <;> exact ⟨_, _, rfl⟩

/-- Before the budgets nothing changes but what the engine knows. -/
theorem reachBudgets_eq (setup : EngineSetup) (answers : Answers dec.Decimal) (mode : Mode)
    (ask : Evaluation dec.Decimal) (state : OrderState dec.Decimal) :
    ∃ verdict engine, reachBudgets setup answers mode ask state = (verdict, { state with engine }) ∧
      ∀ passed, verdict = .ok passed → Passes setup answers mode ask engine passed := by
  have refused (refusal : Refusal dec.Decimal) (engine : EngineState dec.Decimal) :
      ∀ passed, Except.error refusal = .ok passed →
        Passes setup answers mode ask engine passed := fun _ same => nomatch same
  obtain ⟨verdict, engine, refreshed⟩ := state.refreshPolicy_eq answers
  unfold reachBudgets
  rw [refreshed]
  split
  · rename_i refusal _
    exact ⟨.error refusal, state.engine, rfl, refused _ _⟩
  rename_i request
  cases verdict with
  | error refusal => exact ⟨.error refusal, engine, rfl, refused _ _⟩
  | ok done =>
      dsimp only
      split
      · rename_i refusal _
        exact ⟨.error refusal, engine, rfl, refused _ _⟩
      rename_i route config admission
      split
      · rename_i breach _
        obtain ⟨refusal, stopped, tripped⟩ := OrderState.trip_eq { state with engine } answers
          breach ask.nowMs
        rw [tripped]
        exact ⟨.error refusal, stopped, rfl, refused _ _⟩
      rename_i unbroken
      split
      · rename_i refusal _
        exact ⟨.error refusal, engine, rfl, refused _ _⟩
      rename_i referencePx measured caps
      refine ⟨.ok ⟨route, config, referencePx, measured⟩, engine, rfl, ?_⟩
      intro passed same
      rw [← Except.ok.inj same]
      exact ⟨request, admission, unbroken, caps⟩

/-- An order passes the approval with the state as it is. -/
theorem requireApproval_ok {passed : Passed dec.Decimal} {done : Unit}
    (run : requireApproval answers mode ask passed state = (.ok done, after)) :
    after = state := by
  unfold requireApproval at run
  dsimp only at run
  split at run
  · exact (Prod.mk.inj run).2.symm
  · split at run
    · exact (Prod.mk.inj run).2.symm
    · exact nomatch (Prod.mk.inj run).1
    · split at run <;> exact nomatch (Prod.mk.inj run).1

/-- **A cleared order passed every check**, and both budgets were asked. -/
theorem decideOrder_ok {cleared : Cleared dec.Decimal}
    (run : decideOrder setup answers mode ask state = (.ok cleared, after)) :
    Nonempty (Clearing setup answers mode ask state cleared after) := by
  obtain ⟨verdict, engine, reached, passes⟩ := reachBudgets_eq setup answers mode ask state
  unfold decideOrder at run
  rw [reached] at run
  cases verdict with
  | error refusal => exact nomatch (Prod.mk.inj run).1
  | ok passed =>
      unfold spendBudgets at run
      dsimp only at run
      split at run
      · exact nomatch (Prod.mk.inj run).1
      generalize took : TokenBucket.perform _ _ = taken at run
      obtain ⟨spent, bucket⟩ := taken
      cases spent with
      | error error => exact nomatch (Prod.mk.inj run).1
      | ok taken =>
          dsimp only [OrderState.setBucket] at run
          generalize charged : spendGlobal _ _ _ _ _ = charge at run
          obtain ⟨left, globalBucket⟩ := charge
          cases left with
          | error refusal => exact nomatch (Prod.mk.inj run).1
          | ok globalTokens =>
              dsimp only at run
              split at run
              · exact nomatch (Prod.mk.inj run).1
              rename_i approved
              obtain ⟨same, rfl⟩ := Prod.mk.inj run
              obtain rfl := requireApproval_ok approved
              exact ⟨⟨engine, passed, bucket, globalBucket, globalTokens,
                passes _ rfl, took, charged,
                rfl, (Except.ok.inj same).symm⟩⟩

/-- A refusal stays what it is, recorded or not. -/
theorem recordOutcome_error (answers : Answers dec.Decimal) (refusal : Refusal dec.Decimal) :
    recordOutcome answers (.error refusal) = .error refusal := by
  unfold recordOutcome
  cases answers.audit <;> rfl

/-- Recording clears nothing that was not. -/
theorem recordOutcome_ok {outcome : Except (Refusal dec.Decimal) (Cleared dec.Decimal)}
    {cleared : Cleared dec.Decimal} (run : recordOutcome answers outcome = .ok cleared) :
    outcome = .ok cleared := by
  unfold recordOutcome at run
  split at run
  · exact nomatch run
  · exact run

/-- What `evaluate` clears, `decide` cleared. -/
theorem evaluate_ok {cleared : Cleared dec.Decimal}
    (run : evaluate setup answers ask state = (.ok cleared, after)) :
    decideOrder setup answers .fresh ask state = (.ok cleared, after) := by
  unfold evaluate at run
  split at run
  · exact nomatch (Prod.mk.inj run).1
  · rename_i decided
    obtain ⟨recorded, rfl⟩ := Prod.mk.inj run
    rw [decided, recordOutcome_ok recorded]

end Facts

end Decide

/-! ## One symbol -/

namespace OneSymbol

abbrev dec : RiskDecimals := .reference

def dollars (amount : Int) : dec.Decimal := (⟨amount, 0⟩ : FixedPoint)

def account : Address := .filled 1

def wallet : Address := .filled 2

def route : AuthorizedRoute :=
  ⟨.testnet, 1, ⟨"maker", account, none, ⟨1, wallet, 0, 1000000000⟩⟩⟩

/-- The guardrails of an agent that trades one symbol. -/
def guardrails : AgentGuardrails dec.Decimal where
  symbols := .collect [("BTC", ())]
  maxOrderUsd := dollars 1000
  maxPositionUsd := dollars 1000
  maxSlippageBps := dollars 50
  orderRate := ⟨10, 60000⟩
  reduceOnly := false
  risk := ⟨10, .cross, some (dollars 5000), none⟩
  loss := ⟨none, none⟩
  approvalRequired := false
  freshness := ⟨60000, 60000⟩
  maxMarkDivergenceBps := dollars 50
  markDivergenceWindowMs := 60000

/-- The policy with these guardrails for its one agent. -/
def policy (guardrails : AgentGuardrails dec.Decimal) : PolicyVersion dec.Decimal :=
  ⟨1, .collect [("maker", guardrails)], ⟨none, .empty⟩, ⟨none, none⟩⟩

/-- An engine that has seen the policy, with an operator's acknowledgment. -/
def engine (guardrails : AgentGuardrails dec.Decimal) : EngineState dec.Decimal :=
  { EngineState.unread with
    policyRevision := 1, policy := (policy guardrails).state, acknowledged := some ⟨1, 0⟩ }

/-- The engine with a full budget. -/
def state (guardrails : AgentGuardrails dec.Decimal) (budget : GlobalRateBudget) :
    OrderState dec.Decimal :=
  ⟨engine guardrails, fun _ => none, budget, .new budget.rate 0, [], 0⟩

def setup : EngineSetup := ⟨.testnet, false⟩

/-- Journals, feed and sink that refuse nothing. -/
def answers (guardrails : AgentGuardrails dec.Decimal) : Answers dec.Decimal where
  policy := .ok (policy guardrails)
  route := .ok route
  feedFirst := .ok ()
  feedLast := .ok ()
  committed := .error ""
  minted := none
  audit := .ok ()
  submission := .ok ()

def asset : Asset := ⟨0, ⟨"BTC", 2, 10, false⟩⟩

/-- An account without orders that holds a position valued at what the venue has for it. -/
def snapshot (szi totalPositionNotionalUsd : dec.Decimal) : AccountSnapshot dec.Decimal :=
  ⟨0, true, dollars 1000, dollars 1000, dollars 0, dollars 0, 0, totalPositionNotionalUsd,
    Function.update (fun _ => none) "BTC" (some szi), some (.empty dec)⟩

/-- An order to buy at the market's price. -/
def ask (snapshot : AccountSnapshot dec.Decimal) (px sz : dec.Decimal) (nowMs : UInt64) :
    Evaluation dec.Decimal where
  agent := "maker"
  intent := ⟨none, "BTC", true, px, sz, .limit .gtc, false, none, .na, none, none, "open"⟩
  asset := asset
  market := ⟨"BTC", some px, 0, .ok, none, none, none, none, none⟩
  exposure := ⟨account, snapshot, none⟩
  nowMs

/-- An order of one at a hundred dollars is cleared for a flat account. -/
example : (evaluate setup (answers guardrails)
    (ask (snapshot (dollars 0) (dollars 0)) (dollars 100) (dollars 1) 0)
    (state guardrails ⟨⟨2, 1000⟩, 1⟩)).1.isOk = true := by decide +kernel

end OneSymbol

end Oppen.Guardrail
