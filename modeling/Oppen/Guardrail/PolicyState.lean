import Oppen.Json.Codec
import Oppen.Ledger.Consent

/-! # Policy states

The complete policy a version holds: the guardrails of each agent, the kill switch and
the limits of the account, with the JSON they are stored as, what makes one valid and
when two are equal.
-/

namespace Oppen.Guardrail

open Oppen.Json Oppen.Ledger

/-- Decimals whose text gives them back: the real ones, but for a zero with its sign bit
set. -/
structure PolicyDecimals extends Decimals where
  deserialize_display : ∀ decimal, deserialize (display decimal) = some decimal

/-- Decimals of unbounded width. -/
def PolicyDecimals.reference : PolicyDecimals where
  toDecimals := .reference
  deserialize_display := FixedPoint.parse_display

/-- `Decimal::is_sign_negative`. -/
def PolicyDecimals.isSignNegative (dec : PolicyDecimals) (decimal : dec.Decimal) : Bool :=
  dec.value decimal < 0

/-! ## Guardrails of an agent -/

/-- How many orders an agent may send in a period. -/
structure OrderRate where
  count : UInt32
  perMs : UInt64
  deriving DecidableEq

inductive MarginMode where
  | cross
  | isolated
  deriving DecidableEq

structure RiskSettings (Decimal : Type) where
  maxLeverage : UInt32
  marginMode : MarginMode
  maxOpenExposureUsd : Option Decimal
  maxRiskUsd : Option Decimal
  deriving DecidableEq

structure LossLimits (Decimal : Type) where
  maxDailyLossUsd : Option Decimal
  maxDrawdownUsd : Option Decimal
  deriving DecidableEq

structure Freshness where
  maxMarketAgeMs : UInt64
  maxAccountAgeMs : UInt64
  deriving DecidableEq

/-- The limits of one agent, as the policy has them. -/
structure AgentGuardrails (Decimal : Type) where
  symbols : KeySet
  maxOrderUsd : Decimal
  maxPositionUsd : Decimal
  maxSlippageBps : Decimal
  orderRate : OrderRate
  reduceOnly : Bool
  risk : RiskSettings Decimal
  loss : LossLimits Decimal
  approvalRequired : Bool
  freshness : Freshness
  maxMarkDivergenceBps : Decimal
  markDivergenceWindowMs : UInt64
  deriving DecidableEq

/-! ## The kill switch -/

inductive KillScope where
  | global
  | agent (agent : String)
  deriving DecidableEq

inductive LossKind where
  | daily
  | drawdown
  deriving DecidableEq

/-- Why trading was paused. -/
inductive KillReason (Decimal : Type) where
  | operator
  | lossLimit (kind : LossKind) (observedUsd limitUsd : Decimal)
  | agentWalletExpired
  | feedFailure
  deriving DecidableEq

structure Engagement (Decimal : Type) where
  engagedAtMs : UInt64
  reason : KillReason Decimal
  deriving DecidableEq

structure KillSwitch (Decimal : Type) where
  global : Option (Engagement Decimal)
  agents : KeyMap (Engagement Decimal)
  deriving DecidableEq

namespace KillSwitch

variable {Decimal : Type}

/-- `KillSwitch::engagement`. -/
def engagement (kill : KillSwitch Decimal) : KillScope → Option (Engagement Decimal)
  | .global => kill.global
  | .agent agent => kill.agents.get agent

/-- `KillSwitch::release`: releasing the global pause releases no agent's. -/
def release (kill : KillSwitch Decimal) : KillScope → KillSwitch Decimal
  | .global => { kill with global := none }
  | .agent agent => { kill with agents := kill.agents.remove agent }

/-- Every engagement, the global one first. -/
def engagements (kill : KillSwitch Decimal) : List (Engagement Decimal) :=
  kill.global.toList ++ kill.agents.values

end KillSwitch

/-- The complete state of one policy version. -/
structure PersistedState (Decimal : Type) where
  guardrails : KeyMap (AgentGuardrails Decimal)
  kill : KillSwitch Decimal
  accountLimits : LossLimits Decimal
  deriving DecidableEq

/-! ## Equality

The derived `PartialEq` compares decimals by value. -/

section Images

variable {Decimal Amount : Type} (image : Decimal → Amount)

def RiskSettings.map (risk : RiskSettings Decimal) : RiskSettings Amount where
  maxLeverage := risk.maxLeverage
  marginMode := risk.marginMode
  maxOpenExposureUsd := risk.maxOpenExposureUsd.map image
  maxRiskUsd := risk.maxRiskUsd.map image

def LossLimits.map (limits : LossLimits Decimal) : LossLimits Amount where
  maxDailyLossUsd := limits.maxDailyLossUsd.map image
  maxDrawdownUsd := limits.maxDrawdownUsd.map image

def AgentGuardrails.map (config : AgentGuardrails Decimal) : AgentGuardrails Amount where
  symbols := config.symbols
  maxOrderUsd := image config.maxOrderUsd
  maxPositionUsd := image config.maxPositionUsd
  maxSlippageBps := image config.maxSlippageBps
  orderRate := config.orderRate
  reduceOnly := config.reduceOnly
  risk := config.risk.map image
  loss := config.loss.map image
  approvalRequired := config.approvalRequired
  freshness := config.freshness
  maxMarkDivergenceBps := image config.maxMarkDivergenceBps
  markDivergenceWindowMs := config.markDivergenceWindowMs

def KillReason.map : KillReason Decimal → KillReason Amount
  | .operator => .operator
  | .lossLimit kind observedUsd limitUsd => .lossLimit kind (image observedUsd) (image limitUsd)
  | .agentWalletExpired => .agentWalletExpired
  | .feedFailure => .feedFailure

def Engagement.map (engagement : Engagement Decimal) : Engagement Amount where
  engagedAtMs := engagement.engagedAtMs
  reason := engagement.reason.map image

def KillSwitch.map (kill : KillSwitch Decimal) : KillSwitch Amount where
  global := kill.global.map (Engagement.map image)
  agents := kill.agents.map (Engagement.map image)

def PersistedState.map (state : PersistedState Decimal) : PersistedState Amount where
  guardrails := state.guardrails.map (AgentGuardrails.map image)
  kill := state.kill.map image
  accountLimits := state.accountLimits.map image

end Images

section Policy

variable (dec : PolicyDecimals)

/-- `PersistedState::eq`. -/
def PersistedState.Same (left right : PersistedState dec.Decimal) : Prop :=
  left.map dec.value = right.map dec.value

instance (left right : PersistedState dec.Decimal) : Decidable (left.Same dec right) :=
  inferInstanceAs (Decidable (_ = _))

/-! ## JSON -/

/-- A decimal written as its text. -/
def PolicyDecimals.codec : Codec dec.Decimal := Codec.text.via dec.display dec.deserialize

def OrderRate.codec : Codec OrderRate :=
  (Codec.record false (.required "count" .u32 <| .required "per_ms" .u64 .nil) (by decide)).as
    (fun rate => (rate.count, rate.perMs, ()))
    (fun (count, perMs, _) => ⟨count, perMs⟩) fun _ => rfl

def MarginMode.codec : Codec MarginMode :=
  .named (fun | .cross => "cross" | .isolated => "isolated")
    (fun | "cross" => some .cross | "isolated" => some .isolated | _ => none)
    (by rintro (_ | _) <;> rfl)

def RiskSettings.codec : Codec (RiskSettings dec.Decimal) :=
  (Codec.record false (.required "max_leverage" .u32 <|
    .required "margin_mode" MarginMode.codec <|
    .optional "max_open_exposure_usd" dec.codec <|
    .optional "max_risk_usd" dec.codec .nil) (by decide)).as
    (fun risk =>
      (risk.maxLeverage, risk.marginMode, risk.maxOpenExposureUsd, risk.maxRiskUsd, ()))
    (fun (maxLeverage, marginMode, maxOpenExposureUsd, maxRiskUsd, _) =>
      ⟨maxLeverage, marginMode, maxOpenExposureUsd, maxRiskUsd⟩)
    fun _ => rfl

def LossLimits.codec : Codec (LossLimits dec.Decimal) :=
  (Codec.record false (.optional "max_daily_loss_usd" dec.codec <|
    .optional "max_drawdown_usd" dec.codec .nil) (by decide)).as
    (fun limits => (limits.maxDailyLossUsd, limits.maxDrawdownUsd, ()))
    (fun (maxDailyLossUsd, maxDrawdownUsd, _) => ⟨maxDailyLossUsd, maxDrawdownUsd⟩)
    fun _ => rfl

def Freshness.codec : Codec Freshness :=
  (Codec.record false (.required "max_market_age_ms" .u64 <|
    .required "max_account_age_ms" .u64 .nil) (by decide)).as
    (fun freshness => (freshness.maxMarketAgeMs, freshness.maxAccountAgeMs, ()))
    (fun (maxMarketAgeMs, maxAccountAgeMs, _) => ⟨maxMarketAgeMs, maxAccountAgeMs⟩)
    fun _ => rfl

def AgentGuardrails.codec : Codec (AgentGuardrails dec.Decimal) :=
  (Codec.record false (.required "symbols" .set <|
    .required "max_order_usd" dec.codec <|
    .required "max_position_usd" dec.codec <|
    .required "max_slippage_bps" dec.codec <|
    .required "order_rate" OrderRate.codec <|
    .required "reduce_only" .bool <|
    .required "risk" (RiskSettings.codec dec) <|
    .required "loss" (LossLimits.codec dec) <|
    .required "approval_required" .bool <|
    .required "freshness" Freshness.codec <|
    .required "max_mark_divergence_bps" dec.codec <|
    .required "mark_divergence_window_ms" .u64 .nil) (by decide)).as
    (fun config => (config.symbols, config.maxOrderUsd, config.maxPositionUsd,
      config.maxSlippageBps, config.orderRate, config.reduceOnly, config.risk, config.loss,
      config.approvalRequired, config.freshness, config.maxMarkDivergenceBps,
      config.markDivergenceWindowMs, ()))
    (fun (symbols, maxOrderUsd, maxPositionUsd, maxSlippageBps, orderRate, reduceOnly, risk, loss,
      approvalRequired, freshness, maxMarkDivergenceBps, markDivergenceWindowMs, _) =>
      ⟨symbols, maxOrderUsd, maxPositionUsd, maxSlippageBps, orderRate, reduceOnly, risk, loss,
        approvalRequired, freshness, maxMarkDivergenceBps, markDivergenceWindowMs⟩)
    fun _ => rfl

def KillScope.codec : Codec KillScope :=
  ((Variants.one false "scope" "global" .nil (by decide)).or
    (.one false "scope" "agent" (.required "agent" .text .nil) (by decide))
    (by decide)).toCodec.as
    (fun | .global => .inl () | .agent name => .inr (name, ()))
    (fun | .inl _ => .global | .inr (name, _) => .agent name)
    (by rintro (_ | _) <;> rfl)

def LossKind.codec : Codec LossKind :=
  .named (fun | .daily => "daily" | .drawdown => "drawdown")
    (fun | "daily" => some .daily | "drawdown" => some .drawdown | _ => none)
    (by rintro (_ | _) <;> rfl)

def KillReason.codec : Codec (KillReason dec.Decimal) :=
  ((Variants.one false "reason" "operator" .nil (by decide)).or
    ((Variants.one false "reason" "loss_limit" (.required "kind" LossKind.codec <|
        .required "observed_usd" dec.codec <| .required "limit_usd" dec.codec .nil) (by decide)).or
      ((Variants.one false "reason" "agent_wallet_expired" .nil (by decide)).or
        (.one false "reason" "feed_failure" .nil (by decide)) (by decide)) (by decide))
    (by decide)).toCodec.as
    (fun
      | .operator => .inl ()
      | .lossLimit kind observedUsd limitUsd => .inr (.inl (kind, observedUsd, limitUsd, ()))
      | .agentWalletExpired => .inr (.inr (.inl ()))
      | .feedFailure => .inr (.inr (.inr ())))
    (fun
      | .inl _ => .operator
      | .inr (.inl (kind, observedUsd, limitUsd, _)) => .lossLimit kind observedUsd limitUsd
      | .inr (.inr (.inl _)) => .agentWalletExpired
      | .inr (.inr (.inr _)) => .feedFailure)
    (by rintro (_ | _) <;> rfl)

def Engagement.codec : Codec (Engagement dec.Decimal) :=
  (Codec.record false (.required "engaged_at_ms" .u64 <|
    .required "reason" (KillReason.codec dec) .nil) (by decide)).as
    (fun engagement => (engagement.engagedAtMs, engagement.reason, ()))
    (fun (engagedAtMs, reason, _) => ⟨engagedAtMs, reason⟩) fun _ => rfl

def KillSwitch.codec : Codec (KillSwitch dec.Decimal) :=
  (Codec.record false (.optional "global" (Engagement.codec dec) <|
    .required "agents" (Engagement.codec dec).map .nil) (by decide)).as
    (fun kill => (kill.global, kill.agents, ()))
    (fun (global, agents, _) => ⟨global, agents⟩) fun _ => rfl

def PersistedState.codec : Codec (PersistedState dec.Decimal) :=
  (Codec.record true (.required "guardrails" (AgentGuardrails.codec dec).map <|
    .required "kill" (KillSwitch.codec dec) <|
    .required "account_limits" (LossLimits.codec dec) .nil) (by decide)).as
    (fun state => (state.guardrails, state.kill, state.accountLimits, ()))
    (fun (guardrails, kill, accountLimits, _) => ⟨guardrails, kill, accountLimits⟩) fun _ => rfl

/-! ## Validation -/

/-- The limits that are set. -/
def LossLimits.limits (loss : LossLimits dec.Decimal) : List dec.Decimal :=
  loss.maxDailyLossUsd.toList ++ loss.maxDrawdownUsd.toList

/-- `AgentGuardrails::validate`: the offending field and why. -/
def AgentGuardrails.validate (config : AgentGuardrails dec.Decimal) :
    Except (String × String) Unit := do
  refuseIf (dec.isSignNegative config.maxOrderUsd = true) ("max_order_usd", "must not be negative")
  refuseIf (dec.isSignNegative config.maxPositionUsd = true)
    ("max_position_usd", "must not be negative")
  refuseIf (dec.isSignNegative config.maxSlippageBps = true)
    ("max_slippage_bps", "must not be negative")
  refuseIf (dec.isSignNegative config.maxMarkDivergenceBps = true)
    ("max_mark_divergence_bps", "must not be negative")
  refuseIf (config.orderRate.perMs = 0) ("order_rate.per_ms", "must be positive")
  refuseIf (config.risk.maxLeverage = 0) ("risk.max_leverage", "must be at least 1")
  refuseIf (config.risk.maxOpenExposureUsd.any dec.isSignNegative = true)
    ("risk.max_open_exposure_usd", "must not be negative")
  refuseIf (∃ budget ∈ config.risk.maxRiskUsd, dec.value budget ≤ 0)
    ("risk.max_risk_usd", "must be positive; unset it to disable the vol-scaled cap")
  refuseIf (∃ limit ∈ config.loss.limits dec, dec.isSignNegative limit = true)
    ("loss", "limits must not be negative")

/-- `checked_agent_id`. -/
def checkedAgentId (agent : String) : Except String Unit :=
  match agentIdFault agent with
  | some reason =>
      .error ("agent id " ++ writeString agent ++ " is not usable in a keychain entry name: " ++
        reason)
  | none => .ok ()

/-- What is checked of the guardrails of one agent. -/
def checkGuardrails (entry : String × AgentGuardrails dec.Decimal) : Except String Unit := do
  checkedAgentId entry.1
  mapError (fun (field, detail) => field ++ ": " ++ detail) (entry.2.validate dec)

/-- The loss evidence of an engagement has a negative amount. -/
def KillReason.negative : KillReason dec.Decimal → Bool
  | .lossLimit _ observedUsd limitUsd =>
      dec.isSignNegative observedUsd || dec.isSignNegative limitUsd
  | _ => false

def checkEngagement (engagement : Engagement dec.Decimal) : Except String Unit := do
  refuseIf (2 ^ 63 ≤ engagement.engagedAtMs.toNat) "kill timestamp is out of range"
  refuseIf (engagement.reason.negative dec = true) "kill loss evidence must not be negative"

/-- `validate_policy_state`, with the detail of its error. -/
def PersistedState.validate (state : PersistedState dec.Decimal) : Except String Unit := do
  state.guardrails.entries.forM (checkGuardrails dec)
  refuseIf (∃ limit ∈ state.accountLimits.limits dec, dec.isSignNegative limit = true)
    "account loss limits must not be negative"
  state.kill.agents.keys.forM checkedAgentId
  state.kill.engagements.forM (checkEngagement dec)

/-! ## Policies are read back -/

variable {dec}

/-- Every decimal has a text it is read back from. -/
theorem PolicyDecimals.fits (decimal : dec.Decimal) : dec.codec.Fits decimal :=
  ⟨trivial, dec.deserialize_display decimal⟩

theorem LossLimits.fits (loss : LossLimits dec.Decimal) : (LossLimits.codec dec).Fits loss :=
  ⟨fun _ _ => PolicyDecimals.fits _, fun _ _ => PolicyDecimals.fits _, trivial⟩

theorem AgentGuardrails.fits (config : AgentGuardrails dec.Decimal) :
    (AgentGuardrails.codec dec).Fits config :=
  ⟨fun _ _ => trivial, PolicyDecimals.fits _, PolicyDecimals.fits _, PolicyDecimals.fits _,
    ⟨trivial, trivial, trivial⟩, trivial,
    ⟨trivial, trivial, fun _ _ => PolicyDecimals.fits _, fun _ _ => PolicyDecimals.fits _, trivial⟩,
    config.loss.fits, trivial, ⟨trivial, trivial, trivial⟩, PolicyDecimals.fits _, trivial, trivial⟩

theorem KillReason.fits (reason : KillReason dec.Decimal) : (KillReason.codec dec).Fits reason := by
  cases reason with
  | lossLimit kind observedUsd limitUsd =>
      exact ⟨trivial, PolicyDecimals.fits _, PolicyDecimals.fits _, trivial⟩
  | _ => exact trivial

theorem Engagement.fits (engagement : Engagement dec.Decimal) :
    (Engagement.codec dec).Fits engagement :=
  ⟨trivial, engagement.reason.fits, trivial⟩

/-- Every switch can be written. -/
theorem KillSwitch.fits (kill : KillSwitch dec.Decimal) : (KillSwitch.codec dec).Fits kill :=
  ⟨fun engagement _ => engagement.fits, fun entry _ => entry.2.fits, trivial⟩

/-- **A policy is read back from its JSON as it was.** -/
theorem PersistedState.fits (state : PersistedState dec.Decimal) :
    (PersistedState.codec dec).Fits state :=
  ⟨fun entry _ => entry.2.fits, state.kill.fits, state.accountLimits.fits, trivial⟩

end Policy

end Oppen.Guardrail
