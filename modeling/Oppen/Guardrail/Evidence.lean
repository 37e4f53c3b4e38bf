import Oppen.Foundation.SortedMap
import Oppen.Guardrail.Engine
import Oppen.Reconcile.Source
import Oppen.Signing.ActionHash

/-! # Activation evidence

The venue's answers an activation rests on: what must be the same when they are read again,
and what makes them fit for a route, its policy and its pilot at a moment.
-/

namespace Oppen.Guardrail

open Foundation Oppen.Json Oppen.Ledger Oppen.Reconcile Oppen.Signing

/-! ## The venue's answers -/

structure Leverage (Decimal : Type) where
  kind : String
  value : Nat
  rawUsd : Option Decimal
  deriving DecidableEq

structure Position (Decimal : Type) where
  coin : String
  szi : Decimal
  entryPx : Option Decimal
  positionValue : Decimal
  unrealizedPnl : Decimal
  marginUsed : Decimal
  leverage : Leverage Decimal

structure AssetPosition (Decimal : Type) where
  kind : String
  position : Position Decimal

structure ClearinghouseState (Decimal : Type) where
  accountValue : Decimal
  totalMarginUsed : Decimal
  assetPositions : List (AssetPosition Decimal)
  time : Nat

structure SpotBalance (Decimal : Type) where
  coin : String
  token : Nat
  total : Decimal
  hold : Decimal
  deriving DecidableEq

structure OpenOrder (Decimal : Type) where
  coin : String
  side : Side
  limitPx : Decimal
  sz : Decimal
  origSz : Decimal
  oid : UInt64
  timestamp : Nat
  orderType : String
  tif : Option Tif
  reduceOnly : Bool
  isTrigger : Bool
  triggerPx : Option Decimal
  triggerCondition : Option String
  isPositionTpsl : Bool
  cloid : Option Cloid
  deriving DecidableEq

inductive UserRole where
  | user
  | agent (user : Address)
  | subAccount (master : Address)
  | vault
  | missing
  deriving DecidableEq

structure ExtraAgent where
  name : String
  address : Address
  validUntil : Nat
  deriving DecidableEq

/-- `ActivationEvidence`; times are milliseconds in a `u64`. -/
structure ActivationEvidence (Decimal : Type) where
  readStartedAtMs : Nat
  readCompletedAtMs : Nat
  perps : ClearinghouseState Decimal
  balances : List (SpotBalance Decimal)
  orders : List (OpenOrder Decimal)
  referencePrices : KeyMap Decimal
  accountRole : UserRole
  signerRole : UserRole
  extraAgents : List ExtraAgent

section Images

variable {Decimal Amount : Type} (image : Decimal → Amount)

def Leverage.map (leverage : Leverage Decimal) : Leverage Amount where
  kind := leverage.kind
  value := leverage.value
  rawUsd := leverage.rawUsd.map image

def SpotBalance.map (balance : SpotBalance Decimal) : SpotBalance Amount where
  coin := balance.coin
  token := balance.token
  total := image balance.total
  hold := image balance.hold

def OpenOrder.map (order : OpenOrder Decimal) : OpenOrder Amount where
  coin := order.coin
  side := order.side
  limitPx := image order.limitPx
  sz := image order.sz
  origSz := image order.origSz
  oid := order.oid
  timestamp := order.timestamp
  orderType := order.orderType
  tif := order.tif
  reduceOnly := order.reduceOnly
  isTrigger := order.isTrigger
  triggerPx := order.triggerPx.map image
  triggerCondition := order.triggerCondition
  isPositionTpsl := order.isPositionTpsl
  cloid := order.cloid

end Images

/-! ## Refusals -/

/-- `Refusal`, as far as activation gives one. An error of the ledger is an `authority`
refusal with its text; so is, here, an arithmetic overflow that panics. -/
inductive ActivationRefusal (Decimal : Type) where
  | authority (detail : String)
  | tradingPaused (scope : KillScope) (sinceMs : UInt64) (reason : KillReason Decimal)
  | route (detail : String)
  | feedAdmission
  | ledger (error : LedgerError)

/-! ## Material -/

section Material

variable (dec : PolicyDecimals)

namespace ActivationEvidence

variable (evidence : ActivationEvidence dec.Decimal)

/-- What is material of a position, by its coin. -/
def positions : List (String × ℚ × Option ℚ × Leverage ℚ × String) :=
  evidence.perps.assetPositions.map fun held =>
    (held.position.coin, dec.value held.position.szi, held.position.entryPx.map dec.value,
      held.position.leverage.map dec.value, held.kind)

def restingOrders : List (UInt64 × OpenOrder ℚ) :=
  evidence.orders.map fun order => (order.oid, order.map dec.value)

def approvals : List (Address × ExtraAgent) :=
  evidence.extraAgents.map fun agent => (agent.address, agent)

/-- The balances by the token they are of. -/
def spotBalances : List (Nat × SpotBalance ℚ) :=
  evidence.balances.map fun balance => (balance.token, balance.map dec.value)

/-- The account value without the unrealized profit. -/
def collateral : Except (ActivationRefusal dec.Decimal) dec.Decimal := do
  let pnl ← evidence.perps.assetPositions.foldlM (fun sum held =>
    match dec.checkedAdd sum held.position.unrealizedPnl with
    | some sum => .ok sum
    | none => .error (.authority "PnL overflow")) dec.zero
  match dec.checkedSub evidence.perps.accountValue pnl with
  | some collateral => .ok collateral
  | none => .error (.authority "collateral overflow")

end ActivationEvidence

/-- `check_material`. -/
def checkMaterial (initial fresh : ActivationEvidence dec.Decimal) :
    Except (ActivationRefusal dec.Decimal) Unit := do
  let changed := ActivationRefusal.authority
    "material account or signer approval changed; review again"
  refuseIf (¬ SameMap (initial.positions dec) (fresh.positions dec) ∨
    ¬ SameMap (initial.restingOrders dec) (fresh.restingOrders dec) ∨
    ¬ SameMap (initial.spotBalances dec) (fresh.spotBalances dec)) changed
  let reviewed ← initial.collateral dec
  let current ← fresh.collateral dec
  refuseIf (dec.value reviewed ≠ dec.value current ∨
    initial.accountRole ≠ fresh.accountRole ∨ initial.signerRole ≠ fresh.signerRole ∨
    ¬ SameMap (initial.approvals dec) (fresh.approvals dec)) changed

end Material

/-! ## Fitness -/

/-- Decimals with the bound a saturating operation stays at. -/
structure EvidenceDecimals extends PolicyDecimals where
  /-- `Decimal::MAX`. -/
  ceiling : Decimal

/-- Decimals of unbounded width, with the bound of the real ones. -/
def EvidenceDecimals.reference : EvidenceDecimals where
  toPolicyDecimals := .reference
  ceiling := Decimals.reference.ofInt (2 ^ 96 - 1)

/-- What an activation rests on: the checkpoint, the route, the policy and the pilot. -/
structure ActivationAuthority (Decimal : Type) where
  head : Anchor
  route : AuthorizedRoute
  policy : PolicyVersion Decimal
  pilot : PilotState Decimal

/-- `ActivationDisplay`; the account is shown as the evidence has it. -/
structure ActivationDisplay (Decimal : Type) where
  route : AuthorizedRoute
  policyRevision : Nat
  stopGeneration : Nat
  policy : AgentGuardrails Decimal
  pilot : PilotState Decimal
  walletApproval : ExtraAgent
  observedAtMs : Nat
  expiresAtMs : Nat
  grossExposureUsd : Decimal
  remainingCommittedUsd : Decimal

section Fitness

variable (dec : EvidenceDecimals)

namespace EvidenceDecimals

/-- `Decimal::abs`. -/
def abs (amount : dec.Decimal) : dec.Decimal :=
  if dec.value amount < 0 then dec.neg amount else amount

/-- `saturating_add` of amounts that are not negative. -/
def saturatingAdd (left right : dec.Decimal) : dec.Decimal :=
  (dec.checkedAdd left right).getD dec.ceiling

/-- The absolute value of a `saturating_mul`. -/
def saturatingNotional (size price : dec.Decimal) : dec.Decimal :=
  ((dec.checkedMul size price).map dec.abs).getD dec.ceiling

end EvidenceDecimals

/-- An operation that refuses when it overflows. -/
def orOverflow {Decimal Amount : Type} (detail : String) :
    Option Amount → Except (ActivationRefusal Decimal) Amount
  | some amount => .ok amount
  | none => .error (.authority detail)

def MarginMode.venueKind : MarginMode → String
  | .cross => "cross"
  | .isolated => "isolated"

/-- The policy of an agent, within the caps of the supervised alpha. -/
def alphaConfig (authority : ActivationAuthority dec.Decimal) :
    Except (ActivationRefusal dec.Decimal) (AgentGuardrails dec.Decimal) := do
  match authority.policy.state.guardrails.get authority.route.binding.agent with
  | none => .error (.authority "policy agent missing")
  | some config => do
      mapError (fun (field, detail) => .authority (field ++ ": " ++ detail))
        (config.validate dec.toPolicyDecimals)
      refuseIf (15 < dec.value config.maxOrderUsd ∨ 1 < config.risk.maxLeverage ∨
          config.risk.maxOpenExposureUsd.all (fun cap => 25 < dec.value cap) = true)
        (.authority "policy exceeds supervised alpha hard caps")
      return config

/-- What must be recent: the feed's last tick and the venue's answers. -/
def checkFreshness (config : AgentGuardrails dec.Decimal) (route : AuthorizedRoute)
    (evidence : ActivationEvidence dec.Decimal) (nowMs : Nat) (lastTickMs : Option Nat) :
    Except (ActivationRefusal dec.Decimal) Nat := do
  let accountAge := config.freshness.maxAccountAgeMs.toNat
  let maxAge := min accountAge config.freshness.maxMarketAgeMs.toNat
  refuseIf (¬ ∃ tick ∈ lastTickMs, tick ≤ nowMs ∧ nowMs - tick ≤ accountAge)
    (.authority "account feed tick is missing, stale or in the future")
  refuseIf (u64Max < evidence.readStartedAtMs + maxAge) (.authority "review timestamp overflow")
  let expiresAtMs := min (evidence.readStartedAtMs + maxAge) route.binding.wallet.validUntilMs
  refuseIf (evidence.readCompletedAtMs < evidence.readStartedAtMs ∨
      nowMs < evidence.readCompletedAtMs ∨ expiresAtMs ≤ nowMs ∨ nowMs < evidence.perps.time ∨
      accountAge < nowMs - evidence.perps.time)
    (.authority "venue evidence is stale or its clock is inconsistent")
  return expiresAtMs

/-- `check_order_approval_window`. -/
def checkApprovalWindow (route : AuthorizedRoute) (nowMs : Nat) :
    Except (ActivationRefusal dec.Decimal) Unit :=
  refuseIf (nowMs < route.binding.wallet.approvedAtMs ∨
      route.binding.wallet.validUntilMs ≤ nowMs)
    (.route "order is outside the approved wallet validity window")

/-- Whose approval the signer needs: the owner of the route's account. -/
def approvalUser (route : AuthorizedRoute) (role : UserRole) :
    Except (ActivationRefusal dec.Decimal) Address :=
  let unproven := ActivationRefusal.authority "venue account role does not prove this route"
  match role, route.binding.vaultAddress with
  | .user, none => .ok route.binding.container
  | .subAccount master, some vault =>
      if vault = route.binding.container ∧ master ≠ .zero ∧ master ≠ vault then .ok master
      else .error unproven
  | _, _ => .error unproven

/-- The venue's approval of the route's wallet. -/
def checkSigner (route : AuthorizedRoute) (evidence : ActivationEvidence dec.Decimal)
    (nowMs : Nat) : Except (ActivationRefusal dec.Decimal) ExtraAgent := do
  let user ← approvalUser dec route evidence.accountRole
  refuseIf (evidence.signerRole ≠ .agent user)
    (.authority "venue signer role does not authorize this account")
  refuseIf (¬ (evidence.extraAgents.map ExtraAgent.address).Nodup)
    (.authority "duplicate venue agent approval")
  match evidence.extraAgents.find? fun agent => agent.address = route.binding.wallet.address with
  | some approval =>
      if nowMs < approval.validUntil then .ok approval
      else .error (.authority "current venue wallet approval missing or expired")
  | none => .error (.authority "current venue wallet approval missing or expired")

/-- The positions valued one after the other, no coin twice. -/
def markPositions (config : AgentGuardrails dec.Decimal) (prices : KeyMap dec.Decimal) :
    List String → dec.Decimal → List (AssetPosition dec.Decimal) →
      Except (ActivationRefusal dec.Decimal) (List String × dec.Decimal)
  | symbols, marked, [] => .ok (symbols, marked)
  | symbols, marked, held :: rest => do
      let position := held.position
      refuseIf (position.coin ∈ symbols) (.authority "duplicate venue position")
      refuseIf (position.leverage.value ≠ 1 ∨
          position.leverage.kind ≠ config.risk.marginMode.venueKind ∨
          dec.value position.marginUsed < 0)
        (.authority "actual venue leverage or margin mode is unsuitable")
      if dec.value position.szi = 0 then
        markPositions config prices (position.coin :: symbols) marked rest
      else do
        let mark ← orOverflow "position has no valid reference price"
          ((prices.get position.coin).filter fun price => 0 < dec.value price)
        let notional ← orOverflow "position valuation overflow"
          (dec.checkedMul (dec.abs position.szi) mark)
        let marked ← orOverflow "position valuation overflow"
          (dec.checkedAdd marked (dec.max notional (dec.abs position.positionValue)))
        markPositions config prices (position.coin :: symbols) marked rest

/-- The resting orders one after the other, no order twice. -/
def checkOrders (symbols : List String) :
    List UInt64 → List (OpenOrder dec.Decimal) → Except (ActivationRefusal dec.Decimal) Unit
  | _, [] => .ok ()
  | oids, order :: rest => do
      refuseIf (order.oid ∈ oids ∨ dec.value order.sz < 0)
        (.authority "invalid or duplicate venue order")
      refuseIf (order.reduceOnly = false ∧ dec.value order.sz ≠ 0 ∧ order.coin ∉ symbols)
        (.authority "resting opening order lacks actual leverage observation")
      checkOrders symbols (order.oid :: oids) rest

def checkBalances (balances : List (SpotBalance dec.Decimal)) :
    Except (ActivationRefusal dec.Decimal) Unit :=
  refuseIf (¬ (balances.map SpotBalance.coin).Nodup ∨ ∃ balance ∈ balances,
      dec.value balance.total < 0 ∨ dec.value balance.hold < 0 ∨
        dec.value balance.total < dec.value balance.hold)
    (.authority "invalid or duplicate spot balance")

/-- The opening orders at the reference prices; none when one has no price. -/
def restingNotional (prices : KeyMap dec.Decimal) (orders : List (OpenOrder dec.Decimal)) :
    Option dec.Decimal :=
  orders.foldlM (fun resting order =>
    if order.reduceOnly = true ∨ dec.value order.sz = 0 then some resting
    else do
      let price ← (prices.get order.coin).filter fun price => 0 < dec.value price
      return dec.saturatingAdd resting (dec.saturatingNotional order.sz price)) dec.zero

/-- The equity of the account; spot USDC is collateral. -/
def equityUsd (evidence : ActivationEvidence dec.Decimal) : Option dec.Decimal :=
  dec.checkedAdd evidence.perps.accountValue
    (((evidence.balances.find? fun balance => balance.coin = "USDC").map
      SpotBalance.total).getD dec.zero)

/-- `validate_evidence`. -/
def validateEvidence (authority : ActivationAuthority dec.Decimal) (generation : Nat)
    (evidence : ActivationEvidence dec.Decimal) (nowMs : Nat) (lastTickMs : Option Nat) :
    Except (ActivationRefusal dec.Decimal) (ActivationDisplay dec.Decimal) := do
  let route := authority.route
  let config ← alphaConfig dec authority
  let expiresAtMs ← checkFreshness dec config route evidence nowMs lastTickMs
  checkApprovalWindow dec route nowMs
  let approval ← checkSigner dec route evidence nowMs
  let (symbols, marked) ← markPositions dec config evidence.referencePrices [] dec.zero
    evidence.perps.assetPositions
  checkOrders dec symbols [] evidence.orders
  checkBalances dec evidence.balances
  let equity ← orOverflow "Addition overflowed" (equityUsd dec evidence)
  let resting ← orOverflow "resting exposure is unpriced"
    (restingNotional dec evidence.referencePrices evidence.orders)
  let gross ← orOverflow "gross valuation overflow" (dec.checkedAdd marked resting)
  let cap := config.risk.maxOpenExposureUsd.getD dec.zero
  refuseIf (dec.value cap < dec.value gross ∨ dec.value equity ≤ 0 ∨
      dec.value equity < dec.value gross ∨ dec.value evidence.perps.totalMarginUsed < 0 ∨
      dec.value equity < dec.value evidence.perps.totalMarginUsed)
    (.authority "account exposure or margin exceeds activation limits")
  let remaining ← orOverflow "pilot has no committed capacity"
    (((dec.checkedSub (dec.ofInt 150) authority.pilot.executedUsd).bind fun left =>
      dec.checkedSub left authority.pilot.reservedUsd).filter fun left => 0 < dec.value left)
  return {
    route := route
    policyRevision := authority.policy.revision
    stopGeneration := generation
    policy := config
    pilot := authority.pilot
    walletApproval := approval
    observedAtMs := nowMs
    expiresAtMs := min expiresAtMs approval.validUntil
    grossExposureUsd := gross
    remainingCommittedUsd := remaining }

end Fitness

/-! ## What fit evidence is -/

/-- The feed and the venue's answers are recent at a moment, and the wallet is approved. -/
structure Fresh {Decimal : Type} (config : AgentGuardrails Decimal) (route : AuthorizedRoute)
    (evidence : ActivationEvidence Decimal) (nowMs : Nat) (lastTickMs : Option Nat) : Prop where
  ticked : ∃ tick ∈ lastTickMs, tick ≤ nowMs ∧
    nowMs - tick ≤ config.freshness.maxAccountAgeMs.toNat
  complete : evidence.readStartedAtMs ≤ evidence.readCompletedAtMs ∧
    evidence.readCompletedAtMs ≤ nowMs
  recent : nowMs < evidence.readStartedAtMs +
    min config.freshness.maxAccountAgeMs.toNat config.freshness.maxMarketAgeMs.toNat
  dated : evidence.perps.time ≤ nowMs ∧
    nowMs - evidence.perps.time ≤ config.freshness.maxAccountAgeMs.toNat
  window : route.binding.wallet.approvedAtMs ≤ nowMs ∧
    nowMs < route.binding.wallet.validUntilMs

/-- No position, order or approval is reported twice. -/
structure Single (dec : PolicyDecimals) (evidence : ActivationEvidence dec.Decimal) : Prop where
  positions : ((evidence.positions dec).map Prod.fst).Nodup
  orders : ((evidence.restingOrders dec).map Prod.fst).Nodup
  approvals : ((evidence.approvals dec).map Prod.fst).Nodup

/-- What was material is the same: collateral and roles, and every position, order and
approval, whatever the order they are reported in. -/
structure SameMaterial (dec : PolicyDecimals) (reviewed fresh : ActivationEvidence dec.Decimal) :
    Prop where
  positions : ∀ position, position ∈ reviewed.positions dec ↔ position ∈ fresh.positions dec
  orders : ∀ order, order ∈ reviewed.restingOrders dec ↔ order ∈ fresh.restingOrders dec
  approvals : ∀ approval, approval ∈ reviewed.approvals dec ↔ approval ∈ fresh.approvals dec
  collateral : ∃ first second, reviewed.collateral dec = .ok first ∧
    fresh.collateral dec = .ok second ∧ dec.value first = dec.value second
  accountRole : reviewed.accountRole = fresh.accountRole
  signerRole : reviewed.signerRole = fresh.signerRole

/-- The balances are the same. -/
def SameBalances (dec : PolicyDecimals) (reviewed fresh : ActivationEvidence dec.Decimal) : Prop :=
  ∀ balance : SpotBalance ℚ, balance ∈ reviewed.balances.map (SpotBalance.map dec.value) ↔
    balance ∈ fresh.balances.map (SpotBalance.map dec.value)

/-- No token is reported twice. -/
def SingleTokens {Decimal : Type} (evidence : ActivationEvidence Decimal) : Prop :=
  (evidence.balances.map SpotBalance.token).Nodup

section Facts

variable {dec : EvidenceDecimals} {authority : ActivationAuthority dec.Decimal}
  {evidence : ActivationEvidence dec.Decimal} {nowMs : Nat} {lastTickMs : Option Nat}

/-- Evidence that passes is fresh in each of its parts, against the clock and the last tick. -/
theorem checkFreshness_ok {config : AgentGuardrails dec.Decimal} {route : AuthorizedRoute}
    {expiresAtMs : Nat}
    (run : checkFreshness dec config route evidence nowMs lastTickMs = .ok expiresAtMs)
    (window : checkApprovalWindow dec route nowMs = .ok ()) :
    Fresh config route evidence nowMs lastTickMs := by
  obtain ⟨_, ticked, rest⟩ := bind_eq_ok run
  obtain ⟨_, _, rest⟩ := bind_eq_ok rest
  obtain ⟨_, dated, _⟩ := bind_eq_ok rest
  have ticked := not_not.mp (refuseIf_ok ticked)
  have dated := refuseIf_ok dated
  have window := refuseIf_ok window
  push Not at dated window
  obtain ⟨ordered, completed, unexpired, time, recent⟩ := dated
  exact ⟨ticked, ⟨ordered, completed⟩, (lt_min_iff.mp unexpired).1, ⟨time, recent⟩, window⟩

/-- No coin is held twice in positions that could be marked. -/
theorem markPositions_nodup {config : AgentGuardrails dec.Decimal} {prices : KeyMap dec.Decimal} :
    ∀ {held : List (AssetPosition dec.Decimal)} {symbols : List String} {marked : dec.Decimal}
      {last : List String × dec.Decimal},
      markPositions dec config prices symbols marked held = .ok last →
        (held.map fun held => held.position.coin).Nodup ∧
          ∀ asset ∈ held, asset.position.coin ∉ symbols
  | [], _, _, _, _ => ⟨.nil, fun _ => nofun⟩
  | first :: rest, symbols, marked, last, run => by
      obtain ⟨_, new, run⟩ := bind_eq_ok run
      obtain ⟨_, _, run⟩ := bind_eq_ok run
      have further : ∃ marked', markPositions dec config prices
          (first.position.coin :: symbols) marked' rest = .ok last := by
        split at run
        · exact ⟨marked, run⟩
        · obtain ⟨_, _, run⟩ := bind_eq_ok run
          obtain ⟨_, _, run⟩ := bind_eq_ok run
          obtain ⟨marked', _, run⟩ := bind_eq_ok run
          exact ⟨marked', run⟩
      obtain ⟨_, run⟩ := further
      obtain ⟨nodup, apart⟩ := markPositions_nodup run
      refine ⟨List.nodup_cons.mpr ⟨fun again => ?_, nodup⟩, fun asset member => ?_⟩
      · obtain ⟨asset, member, same⟩ := List.mem_map.mp again
        exact apart asset member (same ▸ List.mem_cons_self)
      · rcases List.mem_cons.mp member with rfl | later
        · exact refuseIf_ok new
        · exact fun known => apart asset later (List.mem_cons_of_mem _ known)

/-- No order is listed twice in orders that pass. -/
theorem checkOrders_nodup {symbols : List String} :
    ∀ {orders : List (OpenOrder dec.Decimal)} {oids : List UInt64},
      checkOrders dec symbols oids orders = .ok () →
        (orders.map OpenOrder.oid).Nodup ∧ ∀ order ∈ orders, order.oid ∉ oids
  | [], _, _ => ⟨.nil, fun _ => nofun⟩
  | first :: rest, oids, run => by
      obtain ⟨_, new, run⟩ := bind_eq_ok run
      obtain ⟨_, _, run⟩ := bind_eq_ok run
      obtain ⟨nodup, apart⟩ := checkOrders_nodup run
      have new := not_or.mp (refuseIf_ok new)
      refine ⟨List.nodup_cons.mpr ⟨fun again => ?_, nodup⟩, fun order member => ?_⟩
      · obtain ⟨order, member, same⟩ := List.mem_map.mp again
        exact apart order member (same ▸ List.mem_cons_self)
      · rcases List.mem_cons.mp member with rfl | later
        · exact new.1
        · exact fun known => apart order later (List.mem_cons_of_mem _ known)

/-- What evidence that validates is. -/
theorem validateEvidence_ok {generation : Nat} {display : ActivationDisplay dec.Decimal}
    (run : validateEvidence dec authority generation evidence nowMs lastTickMs = .ok display) :
    (∃ config, authority.policy.state.guardrails.get authority.route.binding.agent = some config ∧
      Fresh config authority.route evidence nowMs lastTickMs) ∧
      Single dec.toPolicyDecimals evidence ∧ display.route = authority.route ∧
        display.observedAtMs = nowMs := by
  obtain ⟨config, allowed, run⟩ := bind_eq_ok run
  obtain ⟨_, fresh, run⟩ := bind_eq_ok run
  obtain ⟨_, window, run⟩ := bind_eq_ok run
  obtain ⟨approval, signer, run⟩ := bind_eq_ok run
  obtain ⟨⟨symbols, marked⟩, positions, run⟩ := bind_eq_ok run
  obtain ⟨_, orders, run⟩ := bind_eq_ok run
  obtain ⟨_, _, run⟩ := bind_eq_ok run
  obtain ⟨_, _, run⟩ := bind_eq_ok run
  obtain ⟨_, _, run⟩ := bind_eq_ok run
  obtain ⟨_, _, run⟩ := bind_eq_ok run
  obtain ⟨_, _, run⟩ := bind_eq_ok run
  obtain ⟨_, _, run⟩ := bind_eq_ok run
  cases run
  have held : authority.policy.state.guardrails.get authority.route.binding.agent =
      some config := by
    unfold alphaConfig at allowed
    split at allowed
    · cases allowed
    · rename_i found
      obtain ⟨_, _, allowed⟩ := bind_eq_ok allowed
      obtain ⟨_, _, allowed⟩ := bind_eq_ok allowed
      cases allowed
      exact found
  obtain ⟨_, _, signer⟩ := bind_eq_ok signer
  obtain ⟨_, _, signer⟩ := bind_eq_ok signer
  obtain ⟨_, addresses, _⟩ := bind_eq_ok signer
  refine ⟨⟨config, held, checkFreshness_ok fresh window⟩, ⟨?_, ?_, ?_⟩, rfl, rfl⟩
  · rw [ActivationEvidence.positions, List.map_map]
    exact (markPositions_nodup positions).1
  · rw [ActivationEvidence.restingOrders, List.map_map]
    exact (checkOrders_nodup orders).1
  · rw [ActivationEvidence.approvals, List.map_map]
    exact not_not.mp (refuseIf_ok addresses)

end Facts

section Comparison

variable {dec : PolicyDecimals} {reviewed fresh : ActivationEvidence dec.Decimal}

/-- Fresh evidence that passes has the positions, the orders and the balances that were reviewed.
Each token is asked to be listed once, since the balances are compared by token. -/
theorem checkMaterial_ok (run : checkMaterial dec reviewed fresh = .ok ())
    (first : Single dec reviewed) (second : Single dec fresh) :
    SameMaterial dec reviewed fresh ∧
      SameMap (reviewed.spotBalances dec) (fresh.spotBalances dec) := by
  obtain ⟨_, maps, run⟩ := bind_eq_ok run
  obtain ⟨initial, before, run⟩ := bind_eq_ok run
  obtain ⟨current, after, run⟩ := bind_eq_ok run
  have maps := refuseIf_ok maps
  have rest := refuseIf_ok run
  push Not at maps rest
  obtain ⟨positions, orders, balances⟩ := maps
  obtain ⟨collateral, account, signer, approvals⟩ := rest
  exact ⟨⟨positions.mem_iff first.positions second.positions,
    orders.mem_iff first.orders second.orders,
    approvals.mem_iff first.approvals second.approvals,
    ⟨initial, current, before, after, collateral⟩, account, signer⟩, balances⟩

/-- Balances of equal maps are the same where no token is reported twice. -/
theorem sameBalances_of_sameMap
    (same : SameMap (reviewed.spotBalances dec) (fresh.spotBalances dec))
    (first : SingleTokens reviewed) (second : SingleTokens fresh) :
    SameBalances dec reviewed fresh := by
  have keys : ∀ evidence : ActivationEvidence dec.Decimal, SingleTokens evidence →
      ((evidence.spotBalances dec).map Prod.fst).Nodup := by
    intro evidence single
    rw [ActivationEvidence.spotBalances, List.map_map]
    exact single
  have entry : ∀ (evidence : ActivationEvidence dec.Decimal) (balance : SpotBalance ℚ),
      (balance.token, balance) ∈ evidence.spotBalances dec ↔
        balance ∈ evidence.balances.map (SpotBalance.map dec.value) := by
    intro evidence balance
    constructor
    · intro member
      obtain ⟨held, inside, pair⟩ := List.mem_map.mp member
      exact List.mem_map.mpr ⟨held, inside, congrArg Prod.snd pair⟩
    · intro member
      obtain ⟨held, inside, rfl⟩ := List.mem_map.mp member
      exact List.mem_map.mpr ⟨held, inside, rfl⟩
  intro balance
  rw [← entry, ← entry]
  exact same.mem_iff (keys reviewed first) (keys fresh second) _

end Comparison

end Oppen.Guardrail
