import Oppen.Guardrail.Decide

/-! # Cancels

The cancels the runtime sends by itself, the dead-man's switch, and the cancels an agent asks
for. Each is charged to the address and none is refused for what is left of its budget.
-/

namespace Oppen.Guardrail

open Oppen.Json Oppen.Ledger Oppen.Signing

/-- `DEAD_MAN_MIN_LEAD_MS`. -/
def deadManMinLeadMs : ℕ := 5000

/-- A resting order that is to be cancelled. -/
structure CancelTarget (Decimal : Type) where
  symbol : String
  assetIndex : UInt32
  oid : UInt64
  cloid : Option Cloid
  isBuy : Bool
  limitPx : Decimal
  sz : Decimal
  origSz : Decimal
  timestamp : UInt64
  orderType : String
  tif : Option Tif
  reduceOnly : Bool
  isTrigger : Bool
  triggerPx : Option Decimal
  triggerCondition : Option String
  isPositionTpsl : Bool
  deriving DecidableEq

/-- What an operator froze to cancel: the targets as they were seen, and why. -/
structure CancelIntent (Decimal : Type) where
  targets : List (CancelTarget Decimal)
  reason : String

/-- The orders as the venue had them when they were last read. -/
structure CancelContext (Decimal : Type) where
  account : Address
  observedAtMs : UInt64
  targets : List (CancelTarget Decimal)

/-- Decimals replaced by what they are compared by. -/
def CancelTarget.map {Decimal Amount : Type} (image : Decimal → Amount)
    (target : CancelTarget Decimal) : CancelTarget Amount where
  symbol := target.symbol
  assetIndex := target.assetIndex
  oid := target.oid
  cloid := target.cloid
  isBuy := target.isBuy
  limitPx := image target.limitPx
  sz := image target.sz
  origSz := image target.origSz
  timestamp := target.timestamp
  orderType := target.orderType
  tif := target.tif
  reduceOnly := target.reduceOnly
  isTrigger := target.isTrigger
  triggerPx := target.triggerPx.map image
  triggerCondition := target.triggerCondition
  isPositionTpsl := target.isPositionTpsl

/-- A time in force on the wire. -/
def tifText : Tif → String
  | .alo => "Alo"
  | .ioc => "Ioc"
  | .gtc => "Gtc"

section Cancels

variable (dec : RiskDecimals)

/-- A target as serialised; an absent time in force is skipped. -/
def CancelTarget.toValue (target : CancelTarget dec.Decimal) : Value :=
  .ofFields ([("symbol", .string target.symbol), ("asset_index", .ofInt target.assetIndex.toNat),
    ("oid", .ofInt target.oid.toNat), ("cloid", optionValue Cloid.toValue target.cloid),
    ("is_buy", .bool target.isBuy), ("limit_px", .string (dec.display target.limitPx)),
    ("sz", .string (dec.display target.sz)), ("orig_sz", .string (dec.display target.origSz)),
    ("timestamp", .ofInt target.timestamp.toNat), ("order_type", .string target.orderType)] ++
    (target.tif.map fun tif => ("tif", .string (tifText tif))).toList ++
    [("reduce_only", .bool target.reduceOnly), ("is_trigger", .bool target.isTrigger),
      ("trigger_px", optionValue (fun px => .string (dec.display px)) target.triggerPx),
      ("trigger_condition", .ofOption target.triggerCondition),
      ("is_position_tpsl", .bool target.isPositionTpsl)])

variable {dec}

/-- `Utilization::none_with_global`. -/
def Utilization.noneWithGlobal (globalTokensRemaining : dec.Decimal) :
    Utilization dec.Decimal :=
  ⟨none, none, none, none, none, dec.zero, dec.zero, globalTokensRemaining⟩

/-- `changed`. -/
def reviewChanged (detail : String) : Refusal dec.Decimal :=
  .unevaluable (.approvalReviewChanged detail)

namespace CancelIntent

variable (intent : CancelIntent dec.Decimal)

/-- A target that cannot be frozen; its id may be another's. -/
def invalidTarget (target : CancelTarget dec.Decimal) : Prop :=
  target.symbol = "" ∨ target.symbol.toList.any isControl = true ∨
    dec.value target.limitPx ≤ 0 ∨ dec.value target.sz ≤ 0 ∨
    dec.value target.origSz < dec.value target.sz ∨ 2 ^ 63 ≤ target.timestamp.toNat ∨
    (∃ px ∈ target.triggerPx, dec.value px < 0)

instance (target : CancelTarget dec.Decimal) : Decidable (invalidTarget target) :=
  inferInstanceAs (Decidable (_ ∨ _ ∨ _ ∨ _ ∨ _ ∨ _ ∨ _))

/-- `CancelIntent::validate`. -/
def validate : Except (Refusal dec.Decimal) Unit := do
  refuseIf (intent.targets = []) (reviewChanged "cancellation requires frozen targets")
  refuseIf ((∃ target ∈ intent.targets, invalidTarget target) ∨
      ¬ (intent.targets.map (·.oid)).Nodup)
    (reviewChanged "invalid or duplicate cancellation target")

/-- `CancelIntent::action`. -/
def action : Action := .cancel (intent.targets.map fun target => ⟨target.assetIndex, target.oid⟩)

/-- A frozen target is there as it was, but for what filled of it. -/
def unchanged (context : CancelContext dec.Decimal) (target : CancelTarget dec.Decimal) : Prop :=
  ∃ actual ∈ context.targets.find? (fun actual =>
      actual.oid = target.oid ∧ actual.assetIndex = target.assetIndex),
    0 < dec.value actual.sz ∧ dec.value actual.sz ≤ dec.value target.sz ∧
      { actual with sz := target.sz }.map dec.value = target.map dec.value

instance (context : CancelContext dec.Decimal) (target : CancelTarget dec.Decimal) :
    Decidable (unchanged context target) :=
  inferInstanceAs (Decidable (∃ actual ∈ _, _ ∧ _ ∧ _))

/-- `CancelIntent::check_context`. -/
def checkContext (context : CancelContext dec.Decimal) (account : Address)
    (maxAgeMs nowMs : UInt64) :
    Except (Refusal dec.Decimal) Unit := do
  intent.validate
  refuseIf (context.account ≠ account)
    (routeRefusal "cancellation snapshot account differs from route")
  refuseIf (nowMs < context.observedAtMs)
    (.unevaluable (.clockWentBackwards nowMs context.observedAtMs))
  refuseIf (maxAgeMs < nowMs - context.observedAtMs)
    (.unevaluable (.staleClearance (nowMs - context.observedAtMs) maxAgeMs))
  refuseIf (¬ (context.targets.map (·.oid)).Nodup)
    (reviewChanged "duplicate identities in cancellation snapshot")
  refuseIf (∃ target ∈ intent.targets, ¬ unchanged context target)
    (reviewChanged "frozen cancellation target missing or changed; request a fresh proposal")

end CancelIntent

/-- A cancel that is cleared on a route. -/
def clearRouted (setup : EngineSetup) (agent : String) (route : AuthorizedRoute)
    (policyRevision : ℕ) (nowMs : UInt64) (kind : ClearedKind) (action : Action)
    (globalTokens : dec.Decimal) : Cleared dec.Decimal :=
  let utilization := Utilization.noneWithGlobal globalTokens
  { action
    clearance := ⟨none, agent, route, policyRevision, route.binding.vaultAddress, setup.network,
      nowMs.toNat, kind, utilization.toValue dec⟩
    utilization }

/-- The clearance, with its request charged to the address. -/
def OrderState.charge (state : OrderState dec.Decimal) (nowMs : UInt64)
    (clear : dec.Decimal → Cleared dec.Decimal) :
    Except (Refusal dec.Decimal) (Cleared dec.Decimal) × OrderState dec.Decimal :=
  let (left, globalBucket) := drawGlobalReserve dec state.globalBucket nowMs
  (.ok (clear left), { state with globalBucket })

/-- `route_for_agent`. -/
def routeForAgent (setup : EngineSetup) (answers : Answers dec.Decimal) (agent : String) :
    Except (Refusal dec.Decimal) AuthorizedRoute := do
  let route ← answers.route
  validateRoute dec route agent setup.network
  return route

/-- What `decide_cancel` checks. -/
def checkCancel (setup : EngineSetup) (answers : Answers dec.Decimal) (agent : String)
    (count : ℕ) (reason : String) : Except (Refusal dec.Decimal) AuthorizedRoute := do
  checkReason dec reason
  let route ← routeForAgent setup answers agent
  refuseIf (count = 0) (.unevaluable (.inputMismatch "cancels" "at least one order" "none"))
  return route

/-- `clear_risk_reducing`; a row that is lost does not stop a cancel. -/
def clearRiskReducing (setup : EngineSetup) (answers : Answers dec.Decimal) (agent : String)
    (count : ℕ) (reason : String) (nowMs : UInt64) (action : Action)
    (state : OrderState dec.Decimal) :
    Except (Refusal dec.Decimal) (Cleared dec.Decimal) × OrderState dec.Decimal :=
  match checkCancel setup answers agent count reason with
  | .error refusal => (.error refusal, state)
  | .ok route => state.charge nowMs (clearRouted setup agent route 0 nowMs (.cancel count) action)

/-- `clear_cancel`. -/
def clearCancel (setup : EngineSetup) (answers : Answers dec.Decimal) (agent : String)
    (cancels : List CancelWire) (reason : String) (nowMs : UInt64)
    (state : OrderState dec.Decimal) :
    Except (Refusal dec.Decimal) (Cleared dec.Decimal) × OrderState dec.Decimal :=
  clearRiskReducing setup answers agent cancels.length reason nowMs (.cancel cancels) state

/-- `clear_cancel_by_cloid`. -/
def clearCancelByCloid (setup : EngineSetup) (answers : Answers dec.Decimal) (agent : String)
    (cancels : List CancelByCloidWire) (reason : String) (nowMs : UInt64)
    (state : OrderState dec.Decimal) :
    Except (Refusal dec.Decimal) (Cleared dec.Decimal) × OrderState dec.Decimal :=
  clearRiskReducing setup answers agent cancels.length reason nowMs (.cancelByCloid cancels) state

/-- What `decide_schedule_cancel` checks. -/
def checkScheduleCancel (setup : EngineSetup) (answers : Answers dec.Decimal) (agent : String)
    (cancelAtMs : Option UInt64) (nowMs : UInt64) :
    Except (Refusal dec.Decimal) AuthorizedRoute := do
  let route ← routeForAgent setup answers agent
  match cancelAtMs.filter fun at' => at' < saturatingMs nowMs deadManMinLeadMs with
  | some early =>
      .error (.venueRule (.scheduleCancelTooSoon early (saturatingMs nowMs deadManMinLeadMs)))
  | none => return route

/-- `clear_schedule_cancel`. -/
def clearScheduleCancel (setup : EngineSetup) (answers : Answers dec.Decimal) (agent : String)
    (cancelAtMs : Option UInt64) (nowMs : UInt64) (state : OrderState dec.Decimal) :
    Except (Refusal dec.Decimal) (Cleared dec.Decimal) × OrderState dec.Decimal :=
  match checkScheduleCancel setup answers agent cancelAtMs nowMs with
  | .error refusal => (.error refusal, state)
  | .ok route =>
      state.charge nowMs (clearRouted setup agent route 0 nowMs
        (.scheduleCancel (cancelAtMs.map (·.toNat))) (.scheduleCancel cancelAtMs))

/-- What an agent asks to cancel, and who it belongs to as the submission journal has it. -/
structure CancelAsk (Decimal : Type) where
  agent : String
  intent : CancelIntent Decimal
  context : CancelContext Decimal
  ownership : Except String Value
  nowMs : UInt64

/-- `submission_refusal`. -/
def submissionRefusal (detail : String) : Refusal dec.Decimal :=
  .unevaluable (.submissionAuthority detail)

/-- What `decide_discretionary_cancel` checks once the policy was read. A proposal under review
comes with its route: the route has to be the same still, and no approval is asked for again. -/
def checkDiscretionary (setup : EngineSetup) (answers : Answers dec.Decimal)
    (ask : CancelAsk dec.Decimal) (reviewedRoute : Option AuthorizedRoute)
    (engine : EngineState dec.Decimal) :
    Except (Refusal dec.Decimal) (AuthorizedRoute × Value) := do
  match engine.policy.guardrails.get ask.agent with
  | none => .error (.unevaluable (.unknownAgent ask.agent))
  | some config => do
      let route ← routeForAgent setup answers ask.agent
      refuseIf (∃ expected ∈ reviewedRoute, expected ≠ route)
        (routeRefusal "cancellation proposal route changed")
      mapError (fun (field, detail) => .unevaluable (.invalidGuardrailConfig field detail))
        (config.validate dec.toPolicyDecimals)
      ask.intent.checkContext ask.context route.binding.container
        config.freshness.maxAccountAgeMs ask.nowMs
      let provenance ← mapError submissionRefusal ask.ownership
      if config.approvalRequired = true ∧ reviewedRoute = none then
        match answers.minted with
        | none => .error (approvalRefusal "durable cancellation approval authority required")
        | some (.error detail) => .error (approvalRefusal detail)
        | some (.ok (id, expiresAtMs)) => .error (.cancellationApprovalRequired id expiresAtMs)
      else return (route, provenance)

/-- The clearance of a cancel that was checked. -/
def clearDiscretionary (setup : EngineSetup) (ask : CancelAsk dec.Decimal)
    (route : AuthorizedRoute) (provenance : Value) (policyRevision : ℕ)
    (globalTokens : dec.Decimal) : Cleared dec.Decimal :=
  clearRouted setup ask.agent route policyRevision ask.nowMs
    (.discretionaryCancel
      [("targets", .array (.ofList (ask.intent.targets.map (CancelTarget.toValue dec)))),
        ("observed_at_ms", .ofInt ask.context.observedAtMs.toNat), ("provenance", provenance)])
    ask.intent.action globalTokens

/-- `decide_discretionary_cancel`: for an agent's own request, or on the route of a proposal that
an operator reviews. A review in preparation is charged nothing. -/
def decideDiscretionaryCancel (setup : EngineSetup) (answers : Answers dec.Decimal)
    (ask : CancelAsk dec.Decimal) (reviewedRoute : Option AuthorizedRoute) (preparing : Bool)
    (state : OrderState dec.Decimal) :
    Except (Refusal dec.Decimal) (Cleared dec.Decimal) × OrderState dec.Decimal :=
  match checkReason dec ask.intent.reason with
  | .error refusal => (.error refusal, state)
  | .ok () =>
      match state.refreshPolicy answers with
      | (.error refusal, state) => (.error refusal, state)
      | (.ok (), state) =>
          match checkDiscretionary setup answers ask reviewedRoute state.engine with
          | .error refusal => (.error refusal, state)
          | .ok (route, provenance) =>
              let clear := clearDiscretionary setup ask route provenance state.engine.policyRevision
              if preparing then (.ok (clear dec.zero), state) else state.charge ask.nowMs clear

/-- `evaluate_cancel`. -/
def evaluateCancel (setup : EngineSetup) (answers : Answers dec.Decimal)
    (ask : CancelAsk dec.Decimal) (state : OrderState dec.Decimal) :
    Except (Refusal dec.Decimal) (Cleared dec.Decimal) × OrderState dec.Decimal :=
  match decideDiscretionaryCancel setup answers ask none false state with
  | (.error (.unevaluable (.approvalAuthority detail)), state) =>
      (.error (.unevaluable (.approvalAuthority detail)), state)
  | (outcome, state) => (recordOutcome answers outcome, state)

end Cancels

end Oppen.Guardrail
