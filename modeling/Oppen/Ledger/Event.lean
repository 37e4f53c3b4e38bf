import Oppen.Json.Value

/-! # Events of the ledger

The vocabulary of the ledger: networks, event kinds with their stored wire
names, the requests its writers take and the values they return, and its errors.
-/

namespace Oppen.Ledger

open Oppen.Json (Value)

/-- The network a ledger is bound to, which is part of its genesis. -/
inductive Network where
  | testnet
  | mainnet
  deriving DecidableEq, Repr

/-- `network_key`: the name a database file is bound to. -/
def networkKey : Network → String
  | .testnet => "testnet"
  | .mainnet => "mainnet"

/-- What can go wrong in the modelled part of the ledger. -/
inductive LedgerError where
  | sqlite
  | json
  | io
  | seqOutOfRange
  | networkMismatch (expected found : String)
  | unknownKind (value : String)
  | payloadNotJson (seq : Nat)
  | noSuchEvent (seq : Nat)
  | alreadyRedacted (seq : Nat)
  | useRedact
  | useRecordIntent
  | useRecordFill
  | useSubmissionJournal
  | usePilotJournal
  | usePairingJournal
  | useRegistryJournal
  | usePolicyJournal
  | useApprovalJournal
  /-- Its detail, the text of the inner error, is not kept. -/
  | pilotBudget
  | redactionIsNotRedactable (seq : Nat)
  | receiptFromAnotherChain (expected found : String)
  | receiptRowMismatch (seq : Nat) (expected found : String)
  | snapshotBodyConflict (snapshotId expected found : String)
  | floatInPayload (pointer : String)
  | payloadTooDeep (pointer : String)
  | noSuchGap (gapId : Int)
  | gapAlreadyClosed (gapId : Int)
  | gapStillOpen (gapId : Int)
  deriving DecidableEq, Repr

abbrev Result := Except LedgerError

/-- An early `return Err(..)`. -/
def refuseIf {ε : Type} (bad : Prop) [Decidable bad] (error : ε) : Except ε Unit :=
  if bad then .error error else .ok ()

/-- A check that passed found nothing to refuse. -/
theorem refuseIf_ok {ε : Type} {bad : Prop} [Decidable bad] {error : ε} {done : Unit}
    (run : refuseIf bad error = .ok done) : ¬ bad := by
  unfold refuseIf at run
  split at run
  · cases run
  · assumption

/-- A check refuses with its own error, for its own reason. -/
theorem refuseIf_error {ε : Type} {bad : Prop} [Decidable bad] {refusal error : ε}
    (run : refuseIf bad refusal = .error error) : bad ∧ refusal = error := by
  unfold refuseIf at run
  split at run
  · rename_i holds
    exact ⟨holds, Except.error.inj run⟩
  · exact nomatch run

/-- `Result::map_err`. -/
def mapError {ε ε' α : Type} (lift : ε → ε') : Except ε α → Except ε' α
  | .ok value => .ok value
  | .error error => .error (lift error)

/-- Lifting the error of a computation keeps its value. -/
theorem mapError_eq_ok {ε ε' α : Type} {lift : ε → ε'} {result : Except ε α} {value : α}
    (run : mapError lift result = .ok value) : result = .ok value := by
  cases result with
  | ok held => cases run; rfl
  | error error => cases run

/-- Two computations in a row succeed if the first does and the second does from its value. -/
theorem bind_eq_ok {ε α β : Type} {first : Except ε α} {next : α → Except ε β} {last : β}
    (run : first >>= next = .ok last) : ∃ value, first = .ok value ∧ next value = .ok last := by
  cases first with
  | error error => cases run
  | ok value => exact ⟨value, rfl, run⟩

/-- Two computations in a row fail where the first does, or the second from its value. -/
theorem bind_eq_error {ε α β : Type} {first : Except ε α} {next : α → Except ε β} {error : ε}
    (run : first >>= next = .error error) :
    first = .error error ∨ ∃ value, first = .ok value ∧ next value = .error error := by
  cases first with
  | error refused =>
      cases run
      exact .inl rfl
  | ok value => exact .inr ⟨value, rfl, run⟩

/-- A computation with a value is the one that returns it. -/
theorem ok_get {ε α : Type} {run : Except ε α} (ok : run.toOption.isSome = true) :
    run = .ok (run.toOption.get ok) := by
  cases run with
  | ok => rfl
  | error => cases ok

/-- A computation whose value is known is the one that returns it. -/
theorem eq_ok_of_some {ε α : Type} {run : Except ε α} {value : α}
    (some : run.toOption = some value) : run = .ok value := by
  cases run with
  | ok => exact congrArg Except.ok (Option.some.inj some)
  | error => cases some

/-- The kinds of thing that go in the chain. -/
inductive EventKind where
  | orderIntent
  | agentDecision
  | refusal
  | fill
  | orderStateChange
  | submissionStarted
  | submissionResolved
  | submissionSigned
  | submissionAccepted
  | pilotAuthorized
  | pilotAdopted
  | pilotHalted
  | pairingIssued
  | pairingRevoked
  | registryGranted
  | registryRetired
  | policyInitialized
  | policyReplaced
  | approvalProposed
  | approvalClaimed
  | approvalDisposed
  | operatorAction
  | approvalDecision
  | killSwitchChanged
  | guardrailTrip
  | wsDisconnected
  | wsReconnected
  | alert
  | agentWalletExpiryWarning
  | payloadRedacted
  deriving DecidableEq, Repr

/-- The stored wire name, hashed into the chain. -/
def EventKind.asStr : EventKind → String
  | .orderIntent => "order_intent"
  | .agentDecision => "agent_decision"
  | .refusal => "refusal"
  | .fill => "fill"
  | .orderStateChange => "order_state_change"
  | .submissionStarted => "submission_started"
  | .submissionResolved => "submission_resolved"
  | .submissionSigned => "submission_signed"
  | .submissionAccepted => "submission_accepted"
  | .pilotAuthorized => "pilot_authorized"
  | .pilotAdopted => "pilot_adopted"
  | .pilotHalted => "pilot_halted"
  | .pairingIssued => "pairing_issued"
  | .pairingRevoked => "pairing_revoked"
  | .registryGranted => "registry_granted"
  | .registryRetired => "registry_retired"
  | .policyInitialized => "policy_initialized"
  | .policyReplaced => "policy_replaced"
  | .approvalProposed => "approval_proposed"
  | .approvalClaimed => "approval_claimed"
  | .approvalDisposed => "approval_disposed"
  | .operatorAction => "operator_action"
  | .approvalDecision => "approval_decision"
  | .killSwitchChanged => "kill_switch_changed"
  | .guardrailTrip => "guardrail_trip"
  | .wsDisconnected => "ws_disconnected"
  | .wsReconnected => "ws_reconnected"
  | .alert => "alert"
  | .agentWalletExpiryWarning => "agent_wallet_expiry_warning"
  | .payloadRedacted => "payload_redacted"

/-- Every kind, in the order of the source's table. -/
def EventKind.all : List EventKind :=
  [.orderIntent, .agentDecision, .refusal, .fill, .orderStateChange, .submissionStarted,
    .submissionResolved, .submissionSigned, .submissionAccepted, .pilotAuthorized,
    .pilotAdopted, .pilotHalted, .pairingIssued, .pairingRevoked, .registryGranted,
    .registryRetired, .policyInitialized, .policyReplaced, .approvalProposed,
    .approvalClaimed, .approvalDisposed, .operatorAction, .approvalDecision,
    .killSwitchChanged, .guardrailTrip, .wsDisconnected, .wsReconnected, .alert,
    .agentWalletExpiryWarning, .payloadRedacted]

/-- `EventKind::from_str`: the kind stored under that name. -/
def EventKind.fromStr (value : String) : Result EventKind :=
  match EventKind.all.find? (fun kind => kind.asStr = value) with
  | some kind => .ok kind
  | none => .error (.unknownKind value)

/-- A kind is read back from its name. -/
@[simp] theorem EventKind.fromStr_asStr (kind : EventKind) :
    EventKind.fromStr kind.asStr = .ok kind := by
  cases kind <;> rfl

/-- Each kind has a name of its own. -/
theorem EventKind.asStr_injective : Function.Injective EventKind.asStr := by
  intro first second same
  have parsed : EventKind.fromStr first.asStr = EventKind.fromStr second.asStr := by rw [same]
  simpa only [fromStr_asStr, Except.ok.injEq] using parsed

/-- A stored name that parses is the wire name of the kind it parses to. -/
theorem EventKind.asStr_of_fromStr {value : String} {kind : EventKind}
    (parsed : EventKind.fromStr value = .ok kind) : kind.asStr = value := by
  unfold fromStr at parsed
  split at parsed
  · rename_i found
    cases parsed
    simpa only [decide_eq_true_eq] using List.find?_some found
  · cases parsed

/-- A reference to the book at the moment a decision was taken. -/
structure SnapshotRef where
  id : String
  hash : String
  deriving DecidableEq, Repr

/-- One event to append. -/
structure NewEvent where
  kind : EventKind
  tsMs : Int64
  agentId : Option String
  payload : Value
  snapshot : Option SnapshotRef
  deriving DecidableEq

/-- An order intent to record before signing. -/
structure NewIntent where
  agentId : String
  tsMs : Int64
  payload : Value
  snapshot : Option SnapshotRef
  deriving DecidableEq

/-- A fill keyed by the venue's own identifiers; `tid` is a `u64`. -/
structure NewFill where
  account : String
  tid : UInt64
  tsMs : Int64
  agentId : Option String
  payload : Value
  deriving DecidableEq

/-- What an append returns: the row's position and its chain hash. -/
structure Appended where
  seq : Nat
  hash : String
  deriving DecidableEq, Repr

/-- Proof that an intent row is on disk. -/
structure IntentReceipt where
  chain : String
  seq : Nat
  hash : String
  agentId : String
  deriving DecidableEq, Repr

/-- A remembered chain head. -/
structure Anchor where
  seq : Nat
  hash : String
  deriving DecidableEq, Repr

/-- One event as the readers of the ledger see it. -/
structure Event where
  seq : Nat
  tsMs : Int64
  kind : EventKind
  agentId : Option String
  payload : Option Value
  payloadHash : String
  prevHash : String
  hash : String
  redactedAt : Option Int64
  redactionReason : Option String
  snapshotId : Option String
  snapshotHash : Option String
  deriving DecidableEq

end Oppen.Ledger
