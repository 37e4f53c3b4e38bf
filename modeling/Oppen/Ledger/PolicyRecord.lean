import Oppen.Guardrail.PolicyState

/-! # Policy records

What a policy row stores: the signed envelope of one version, the legacy evidence the
first version rests on and the reviewed request a kill release carries.
-/

namespace Oppen.Ledger

open Oppen.Json Oppen.Guardrail

/-! ## Codecs of the identities -/

def Network.codec : Codec Network where
  toValue := Network.toValue
  ofValue := Network.ofValue
  Fits _ := True
  depth := 0
  ofValue_sorted {network} _ := Network.ofValue_toValue network
  nesting_le _ := le_rfl
  ne_null _ := nofun

def Anchor.codec : Codec Anchor where
  toValue := Anchor.toValue
  ofValue := Anchor.ofValue
  Fits anchor := anchor.seq < 2 ^ 64
  depth := 1
  ofValue_sorted {anchor} small := by
    have fields : openFields ["seq", "hash"] (sortedValue anchor.toValue) =
        some [.ofInt anchor.seq, .string anchor.hash] := rfl
    simp only [Anchor.ofValue, fields, Value.asU64_ofInt small, Option.bind_eq_bind,
      Option.bind_some]
    rfl
  nesting_le _ := le_rfl
  ne_null _ := nofun

/-- The numbers of a wallet have the widths of their types. -/
def walletFits (wallet : AgentWallet) : Prop :=
  wallet.generation < 2 ^ 32 ∧ wallet.approvedAtMs < 2 ^ 64 ∧ wallet.validUntilMs < 2 ^ 64

/-- A wallet is read from its fields, in whatever order they are held. -/
theorem walletOfValue_fields {wallet : AgentWallet} {value : Value} (fits : walletFits wallet)
    (fields : openFields ["generation", "address", "approved_at_ms", "valid_until_ms"] value =
      some [.ofInt wallet.generation, wallet.address.toValue, .ofInt wallet.approvedAtMs,
        .ofInt wallet.validUntilMs]) : walletOfValue value = some wallet := by
  obtain ⟨generation, approvedAtMs, validUntilMs⟩ := fits
  have narrow : asU32 (.ofInt wallet.generation) = some wallet.generation := by
    rw [asU32, Value.asU64_ofInt (by omega)]
    exact if_pos (decide_eq_true generation)
  simp only [walletOfValue, fields, narrow, Address.ofValue_toValue,
    Value.asU64_ofInt approvedAtMs, Value.asU64_ofInt validUntilMs, Option.bind_eq_bind,
    Option.bind_some]

/-- A wallet is read back after its fields were sorted. -/
theorem walletOfValue_sorted {wallet : AgentWallet} (fits : walletFits wallet) :
    walletOfValue (sortedValue wallet.toValue) = some wallet :=
  walletOfValue_fields fits rfl

/-- An address that may be missing is read back after sorting. -/
theorem optionAddress_sorted (address : Option Address) :
    optionAddress (sortedValue (optionValue Address.toValue address)) = some address := by
  cases address with
  | none => rfl
  | some address => exact congrArg (Option.map some) (Address.ofValue_toValue address)

/-- A binding is read back after its fields were sorted. -/
theorem bindingOfValue_sorted {binding : RegistryBinding} (fits : walletFits binding.wallet) :
    bindingOfValue (sortedValue binding.toValue) = some binding := by
  have fields : structFields ["agent", "container", "vault_address", "wallet"]
      (sortedValue binding.toValue) = some [.string binding.agent, binding.container.toValue,
        sortedValue (optionValue Address.toValue binding.vaultAddress),
        sortedValue binding.wallet.toValue] := rfl
  simp only [bindingOfValue, fields, Value.asStr, Address.ofValue_toValue, optionAddress_sorted,
    walletOfValue_sorted fits, Option.bind_eq_bind, Option.bind_some]

def AuthorizedRoute.codec : Codec AuthorizedRoute where
  toValue := AuthorizedRoute.toValue
  ofValue := routeOfValue
  Fits route := route.bindingSeq < 2 ^ 64 ∧ walletFits route.binding.wallet
  depth := 3
  ofValue_sorted {route} fits := by
    have fields : structFields ["network", "binding_seq", "binding"] (sortedValue route.toValue) =
        some [route.network.toValue, .ofInt route.bindingSeq, sortedValue route.binding.toValue] :=
      rfl
    simp only [routeOfValue, fields, Network.ofValue_toValue, Value.asU64_ofInt fits.1,
      bindingOfValue_sorted fits.2, Option.bind_eq_bind, Option.bind_some]
  nesting_le route := by
    obtain ⟨network, bindingSeq, agent, container, vaultAddress, wallet⟩ := route
    cases vaultAddress <;> exact le_rfl
  ne_null _ := nofun

section Pilots

variable (dec : PolicyDecimals)

/-- A decimal is read back from its text. -/
theorem ofValue_text (decimal : dec.Decimal) :
    dec.toDecimals.ofValue (.string (dec.display decimal)) = some decimal :=
  dec.deserialize_display decimal

/-- A metric is read back from its name. -/
theorem PilotMetric.ofValue_asStr (metric : PilotMetric) :
    PilotMetric.ofValue (.string metric.asStr) = some metric := by
  cases metric <;> rfl

/-- A stop is read back after its fields were sorted. -/
theorem PilotStop.ofValue_sorted (stop : PilotStop dec.Decimal) :
    PilotStop.ofValue dec.toDecimals (sortedValue (stop.toValue dec.toDecimals)) = some stop := by
  cases stop with
  | awaitingReconciliation => rfl
  | exhausted metric observedUsd limitUsd =>
      have tag : enumTag "reason" (sortedValue (PilotStop.toValue dec.toDecimals
          (.exhausted metric observedUsd limitUsd))) = some "exhausted" := rfl
      have fields : structFields ["reason", "metric", "observed_usd", "limit_usd"]
          (sortedValue (PilotStop.toValue dec.toDecimals
            (.exhausted metric observedUsd limitUsd))) =
            some [.string "exhausted", .string metric.asStr, .string (dec.display observedUsd),
              .string (dec.display limitUsd)] := rfl
      simp only [ofValue, tag, fields, PilotMetric.ofValue_asStr, ofValue_text,
        Option.bind_eq_bind, Option.bind_some]
  | unavailable detail => rfl

/-- A halt that may be missing is read back after sorting. -/
theorem haltOfValue_sorted (halt : Option (PilotStop dec.Decimal)) :
    haltOfValue dec.toDecimals
      (sortedValue (optionValue (PilotStop.toValue dec.toDecimals) halt)) = some halt := by
  cases halt with
  | none => rfl
  | some stop =>
      have read := PilotStop.ofValue_sorted dec stop
      rw [optionValue]
      cases stop <;> exact congrArg (Option.map some) read

def PilotState.codec : Codec (PilotState dec.Decimal) where
  toValue := PilotState.toValue dec.toDecimals
  ofValue := PilotState.ofValue dec.toDecimals
  Fits state := state.authorizedAtMs < 2 ^ 64 ∧ state.baseline.seq < 2 ^ 64
  depth := 2
  ofValue_sorted {state} fits := by
    have fields : structFields ["agent", "account", "authorized_at_ms", "baseline", "executed_usd",
        "reserved_usd", "net_realized_pnl_usd", "halt"]
        (orNull "halt" (sortedValue (state.toValue dec.toDecimals))) =
          some [.string state.agent, state.account.toValue, .ofInt state.authorizedAtMs,
            sortedValue state.baseline.toValue, .string (dec.display state.executedUsd),
            .string (dec.display state.reservedUsd), .string (dec.display state.netRealizedPnlUsd),
            sortedValue (optionValue (PilotStop.toValue dec.toDecimals) state.halt)] := rfl
    have baseline : Anchor.ofValue (sortedValue state.baseline.toValue) = some state.baseline :=
      Anchor.codec.ofValue_sorted fits.2
    simp only [PilotState.ofValue, fields, Value.asStr, Address.ofValue_toValue,
      Value.asU64_ofInt fits.1, baseline, ofValue_text, haltOfValue_sorted, Option.bind_eq_bind,
      Option.bind_some]
  nesting_le state := by
    obtain ⟨agent, account, authorizedAtMs, baseline, executedUsd, reservedUsd, netRealizedPnlUsd,
      halt⟩ := state
    rcases halt with _ | (_ | _ | _) <;> exact le_rfl
  ne_null _ := nofun

end Pilots

/-! ## Legacy evidence -/

/-- A raw SQL value. -/
inductive LegacyCell where
  | null
  | integer (text : String)
  | realBits (text : String)
  | text (text : String)
  | textBytes (text : String)
  | blob (text : String)
  deriving DecidableEq

structure LegacyTable where
  name : String
  columns : List String
  rows : List (List LegacyCell)
  deriving DecidableEq

structure LegacySchema where
  kind : String
  name : String
  table : String
  sql : Option String
  deriving DecidableEq

/-- What was seen of an unsigned policy file. -/
structure LegacyPolicyEvidence where
  source : String
  network : Network
  observedAtMs : UInt64
  fingerprint : String
  filePresent : Bool
  schema : List LegacySchema
  tables : List LegacyTable
  deriving DecidableEq

/-- A cell with a text. -/
def cellVariant (type : String) (distinct : ["type", "value"].Nodup) :
    Variants "type" [type] (String × Unit) :=
  .one true "type" type (.required "value" .text .nil) distinct

def LegacyCell.codec : Codec LegacyCell :=
  ((Variants.one true "type" "null" .nil (by decide)).or
    ((cellVariant "integer" (by decide)).or
      ((cellVariant "real_bits" (by decide)).or
        ((cellVariant "text" (by decide)).or
          ((cellVariant "text_bytes" (by decide)).or (cellVariant "blob" (by decide))
            (by decide)) (by decide)) (by decide)) (by decide)) (by decide)).toCodec.as
    (fun
      | .null => .inl ()
      | .integer value => .inr (.inl (value, ()))
      | .realBits value => .inr (.inr (.inl (value, ())))
      | .text value => .inr (.inr (.inr (.inl (value, ()))))
      | .textBytes value => .inr (.inr (.inr (.inr (.inl (value, ())))))
      | .blob value => .inr (.inr (.inr (.inr (.inr (value, ()))))))
    (fun
      | .inl _ => .null
      | .inr (.inl (value, _)) => .integer value
      | .inr (.inr (.inl (value, _))) => .realBits value
      | .inr (.inr (.inr (.inl (value, _)))) => .text value
      | .inr (.inr (.inr (.inr (.inl (value, _))))) => .textBytes value
      | .inr (.inr (.inr (.inr (.inr (value, _))))) => .blob value)
    (by rintro (_ | _) <;> rfl)

def LegacyTable.codec : Codec LegacyTable :=
  (Codec.record true (.required "name" .text <| .required "columns" Codec.text.list <|
    .required "rows" LegacyCell.codec.list.list .nil) (by decide)).as
    (fun table => (table.name, table.columns, table.rows, ()))
    (fun (name, columns, rows, _) => ⟨name, columns, rows⟩) fun _ => rfl

def LegacySchema.codec : Codec LegacySchema :=
  (Codec.record true (.required "kind" .text <| .required "name" .text <|
    .required "table" .text <| .optional "sql" .text .nil) (by decide)).as
    (fun entry => (entry.kind, entry.name, entry.table, entry.sql, ()))
    (fun (kind, name, table, sql, _) => ⟨kind, name, table, sql⟩) fun _ => rfl

def LegacyPolicyEvidence.codec : Codec LegacyPolicyEvidence :=
  (Codec.record true (.required "source" .text <| .required "network" Network.codec <|
    .required "observed_at_ms" .u64 <| .required "fingerprint" .text <|
    .required "file_present" .bool <| .required "schema" LegacySchema.codec.list <|
    .required "tables" LegacyTable.codec.list .nil) (by decide)).as
    (fun evidence => (evidence.source, evidence.network, evidence.observedAtMs,
      evidence.fingerprint, evidence.filePresent, evidence.schema, evidence.tables, ()))
    (fun (source, network, observedAtMs, fingerprint, filePresent, schema, tables, _) =>
      ⟨source, network, observedAtMs, fingerprint, filePresent, schema, tables⟩) fun _ => rfl

theorem LegacyCell.fits (cell : LegacyCell) : LegacyCell.codec.Fits cell := by
  cases cell <;> first | exact trivial | exact ⟨trivial, trivial⟩

theorem LegacyPolicyEvidence.fits (evidence : LegacyPolicyEvidence) :
    LegacyPolicyEvidence.codec.Fits evidence :=
  ⟨trivial, trivial, trivial, trivial, trivial,
    fun _ _ => ⟨trivial, trivial, trivial, fun _ _ => trivial, trivial⟩,
    fun _ _ => ⟨trivial, fun _ _ => trivial, fun _ _ cell _ => cell.fits, trivial⟩, trivial⟩

/-! ## Kill releases -/

structure KillReleaseMember (Decimal : Type) where
  route : AuthorizedRoute
  pilot : PilotState Decimal

/-- What an operator reviewed before releasing one scope. -/
structure KillReleaseDisplay (Decimal : Type) where
  operationId : String
  network : Network
  scope : KillScope
  persistedEngagement : Option (Engagement Decimal)
  localEngagement : Option (Engagement Decimal)
  policyRevision : Nat
  stopGeneration : UInt64
  affected : List (KillReleaseMember Decimal)
  remainingKill : KillSwitch Decimal
  reviewedAtMs : UInt64
  expiresAtMs : UInt64

/-- A reviewed release, with the head and the state it was reviewed at. -/
structure ReleaseRequest (Decimal : Type) where
  head : Anchor
  before : PersistedState Decimal
  display : KillReleaseDisplay Decimal

/-! ## Envelopes -/

/-- The row of a policy version. -/
structure PolicyLink where
  seq : Nat
  hash : String
  deriving DecidableEq

inductive PolicyOperation (Decimal : Type) where
  | policyInitialized (review : LegacyPolicyEvidence) (recheckedAtMs : UInt64)
  | policyReplaced
  | killReleased (request : ReleaseRequest Decimal)

/-- `Operation::kind`. -/
def PolicyOperation.kind {Decimal : Type} : PolicyOperation Decimal → EventKind
  | .policyInitialized .. => .policyInitialized
  | .policyReplaced | .killReleased _ => .policyReplaced

structure PolicyEnvelope (Decimal : Type) where
  version : Nat
  network : Network
  seq : Nat
  prevHash : String
  atMs : UInt64
  previousPolicy : Option PolicyLink
  operation : PolicyOperation Decimal
  state : PersistedState Decimal

structure SignedPolicy (Decimal : Type) where
  envelope : PolicyEnvelope Decimal
  mac : String

section Records

variable (dec : PolicyDecimals)

def KillReleaseMember.codec : Codec (KillReleaseMember dec.Decimal) :=
  (Codec.record false (.required "route" AuthorizedRoute.codec <|
    .required "pilot" (PilotState.codec dec) .nil) (by decide)).as
    (fun member => (member.route, member.pilot, ()))
    (fun (route, pilot, _) => ⟨route, pilot⟩) fun _ => rfl

def KillReleaseDisplay.codec : Codec (KillReleaseDisplay dec.Decimal) :=
  (Codec.record false (.required "operation_id" .text <| .required "network" Network.codec <|
    .required "scope" KillScope.codec <|
    .optional "persisted_engagement" (Engagement.codec dec) <|
    .optional "local_engagement" (Engagement.codec dec) <|
    .required "policy_revision" .natural <| .required "stop_generation" .u64 <|
    .required "affected" (KillReleaseMember.codec dec).list <|
    .required "remaining_kill" (KillSwitch.codec dec) <|
    .required "reviewed_at_ms" .u64 <| .required "expires_at_ms" .u64 .nil) (by decide)).as
    (fun display => (display.operationId, display.network, display.scope,
      display.persistedEngagement, display.localEngagement, display.policyRevision,
      display.stopGeneration, display.affected, display.remainingKill, display.reviewedAtMs,
      display.expiresAtMs, ()))
    (fun (operationId, network, scope, persistedEngagement, localEngagement, policyRevision,
      stopGeneration, affected, remainingKill, reviewedAtMs, expiresAtMs, _) =>
      ⟨operationId, network, scope, persistedEngagement, localEngagement, policyRevision,
        stopGeneration, affected, remainingKill, reviewedAtMs, expiresAtMs⟩)
    fun _ => rfl

def ReleaseRequest.codec : Codec (ReleaseRequest dec.Decimal) :=
  (Codec.record true (.required "head" Anchor.codec <|
    .required "before" (PersistedState.codec dec) <|
    .required "display" (KillReleaseDisplay.codec dec) .nil) (by decide)).as
    (fun request => (request.head, request.before, request.display, ()))
    (fun (head, before, display, _) => ⟨head, before, display⟩) fun _ => rfl

def PolicyLink.codec : Codec PolicyLink :=
  (Codec.record true (.required "seq" .natural <| .required "hash" .text .nil) (by decide)).as
    (fun link => (link.seq, link.hash, ())) (fun (seq, hash, _) => ⟨seq, hash⟩) fun _ => rfl

def PolicyOperation.codec : Codec (PolicyOperation dec.Decimal) :=
  ((Variants.one true "kind" "policy_initialized"
      (.required "review" LegacyPolicyEvidence.codec <| .required "rechecked_at_ms" .u64 .nil)
      (by decide)).or
    ((Variants.one true "kind" "policy_replaced" .nil (by decide)).or
      (.one true "kind" "kill_released" (.required "request" (ReleaseRequest.codec dec) .nil)
        (by decide)) (by decide)) (by decide)).toCodec.as
    (fun
      | .policyInitialized review recheckedAtMs => .inl (review, recheckedAtMs, ())
      | .policyReplaced => .inr (.inl ())
      | .killReleased request => .inr (.inr (request, ())))
    (fun
      | .inl (review, recheckedAtMs, _) => .policyInitialized review recheckedAtMs
      | .inr (.inl _) => .policyReplaced
      | .inr (.inr (request, _)) => .killReleased request)
    (by rintro (_ | _) <;> rfl)

def PolicyEnvelope.codec : Codec (PolicyEnvelope dec.Decimal) :=
  (Codec.record true (.required "version" .natural <| .required "network" Network.codec <|
    .required "seq" .natural <| .required "prev_hash" .text <| .required "at_ms" .u64 <|
    .optional "previous_policy" PolicyLink.codec <|
    .required "operation" (PolicyOperation.codec dec) <|
    .required "state" (PersistedState.codec dec) .nil) (by decide)).as
    (fun envelope => (envelope.version, envelope.network, envelope.seq, envelope.prevHash,
      envelope.atMs, envelope.previousPolicy, envelope.operation, envelope.state, ()))
    (fun (version, network, seq, prevHash, atMs, previousPolicy, operation, state, _) =>
      ⟨version, network, seq, prevHash, atMs, previousPolicy, operation, state⟩)
    fun _ => rfl

/-- The members of a signed policy have names of their own. -/
theorem signed_distinct : ["envelope", "mac"].Nodup := by decide

def SignedPolicy.codec : Codec (SignedPolicy dec.Decimal) :=
  (Codec.record true (.required "envelope" (PolicyEnvelope.codec dec) <|
    .required "mac" .text .nil) signed_distinct).as
    (fun signed => (signed.envelope, signed.mac, ()))
    (fun (envelope, mac, _) => ⟨envelope, mac⟩) fun _ => rfl

variable {dec}

/-- The numbers of an operation have the widths of their types. -/
def PolicyOperation.Fits : PolicyOperation dec.Decimal → Prop
  | .killReleased request => (ReleaseRequest.codec dec).Fits request
  | _ => True

/-- **A signed version is read back from its JSON as it was.** -/
theorem SignedPolicy.fits (signed : SignedPolicy dec.Decimal)
    (version : signed.envelope.version < 2 ^ 64) (seq : signed.envelope.seq < 2 ^ 64)
    (previous : ∀ link ∈ signed.envelope.previousPolicy, link.seq < 2 ^ 64)
    (operation : signed.envelope.operation.Fits) : (SignedPolicy.codec dec).Fits signed := by
  refine ⟨⟨version, trivial, seq, trivial, trivial, fun link held => ⟨previous link held, trivial,
    trivial⟩, ?_, signed.envelope.state.fits, trivial⟩, trivial, trivial⟩
  change (PolicyOperation.codec dec).Fits signed.envelope.operation
  cases held : signed.envelope.operation with
  | policyInitialized review recheckedAtMs => exact ⟨review.fits, trivial, trivial⟩
  | policyReplaced => exact trivial
  | killReleased request =>
      rw [held] at operation
      exact ⟨operation, trivial⟩

theorem PersistedState.depth : (PersistedState.codec dec).depth = 5 := by
  simp [PersistedState.codec, AgentGuardrails.codec, KillSwitch.codec, LossLimits.codec,
    Engagement.codec, KillReason.codec, LossKind.codec, RiskSettings.codec, Freshness.codec,
    OrderRate.codec, MarginMode.codec, PolicyDecimals.codec]

theorem LegacyPolicyEvidence.depth : LegacyPolicyEvidence.codec.depth = 6 := by
  simp [LegacyPolicyEvidence.codec, LegacyTable.codec, LegacySchema.codec, LegacyCell.codec,
    cellVariant, Network.codec]

theorem ReleaseRequest.depth : (ReleaseRequest.codec dec).depth = 7 := by
  simp [ReleaseRequest.codec, KillReleaseDisplay.codec, KillReleaseMember.codec,
    PersistedState.depth, Network.codec, Anchor.codec, AuthorizedRoute.codec, PilotState.codec,
    KillScope.codec, Engagement.codec, KillReason.codec, LossKind.codec, PolicyDecimals.codec,
    KillSwitch.codec]

/-- A signed policy nests ten deep, far below what the reader refuses. -/
theorem SignedPolicy.depth : (SignedPolicy.codec dec).depth = 10 := by
  simp [SignedPolicy.codec, PolicyEnvelope.codec, PolicyOperation.codec, PolicyLink.codec,
    LegacyPolicyEvidence.depth, ReleaseRequest.depth, PersistedState.depth, Network.codec]

/-- A signed version nests within the reader's limit. -/
theorem SignedPolicy.shallow (signed : SignedPolicy dec.Decimal) :
    (sortedValue ((SignedPolicy.codec dec).toValue signed)).nesting < recursionLimit := by
  refine ((SignedPolicy.codec dec).nesting_sorted_le signed).trans_lt ?_
  rw [SignedPolicy.depth]
  decide

end Records

end Oppen.Ledger
