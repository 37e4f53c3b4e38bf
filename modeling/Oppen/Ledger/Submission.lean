import Mathlib.Logic.Function.Basic
import Oppen.Ledger.Decimal
import Oppen.Ledger.Identity
import Oppen.Ledger.Operations

/-! # Replaying submissions

The state of the submission journal exists only as the fold of its events. The
replay checks every lifecycle row against the ones before it and against the intent
it names, and gives the pending reservation and the revision of each account.
-/

namespace Oppen.Ledger

open Oppen.Json

/-! ## Lifecycle records -/

/-- Definite evidence of what became of a submission. -/
inductive SubmissionResolution where
  | rejected (message : String)
  | notSent (detail : String)
  | observed (oid : UInt64) (status : String)
  deriving DecidableEq

/-- The payload of a start: the account and the id of the order, and the row of the intent it
starts. -/
structure Started where
  version : Nat
  account : Address
  cloid : Cloid
  intentSeq : Nat
  intentHash : String
  deriving DecidableEq

structure Resolved where
  version : Nat
  account : Address
  startSeq : Nat
  startHash : String
  outcome : SubmissionResolution
  deriving DecidableEq

def SubmissionResolution.toValue : SubmissionResolution → Value
  | .rejected message =>
      .ofFields [("resolution", .string "rejected"), ("message", .string message)]
  | .notSent detail =>
      .ofFields [("resolution", .string "not_sent"), ("detail", .string detail)]
  | .observed oid status =>
      .ofFields [("resolution", .string "observed"), ("oid", .ofInt oid.toNat),
        ("status", .string status)]

def SubmissionResolution.ofValue (value : Value) : Option SubmissionResolution :=
  match structFields ["resolution", "message"] value with
  | some [.string "rejected", .string message] => some (.rejected message)
  | _ =>
      match structFields ["resolution", "detail"] value with
      | some [.string "not_sent", .string detail] => some (.notSent detail)
      | _ =>
          match structFields ["resolution", "oid", "status"] value with
          | some [.string "observed", oid, .string status] =>
              oid.asU64.map fun oid => .observed (.ofNat oid) status
          | _ => none

def Started.toValue (start : Started) : Value :=
  .ofFields [("version", .ofInt start.version), ("account", start.account.toValue),
    ("cloid", start.cloid.toValue), ("intent_seq", .ofInt start.intentSeq),
    ("intent_hash", .string start.intentHash)]

def Started.ofValue (value : Value) : Option Started :=
  match structFields ["version", "account", "cloid", "intent_seq", "intent_hash"] value with
  | some [version, account, cloid, intentSeq, intentHash] => do
      some ⟨← version.asU64, ← Address.ofValue account, ← Cloid.ofValue cloid,
        ← intentSeq.asU64, ← intentHash.asStr⟩
  | _ => none

def Resolved.toValue (resolved : Resolved) : Value :=
  .ofFields [("version", .ofInt resolved.version), ("account", resolved.account.toValue),
    ("start_seq", .ofInt resolved.startSeq), ("start_hash", .string resolved.startHash),
    ("outcome", resolved.outcome.toValue)]

def Resolved.ofValue (value : Value) : Option Resolved :=
  match structFields ["version", "account", "start_seq", "start_hash", "outcome"] value with
  | some [version, account, startSeq, startHash, outcome] => do
      some ⟨← version.asU64, ← Address.ofValue account, ← startSeq.asU64, ← startHash.asStr,
        ← SubmissionResolution.ofValue outcome⟩
  | _ => none

/-- A start is read back from its canonical text. -/
theorem Started.ofValue_sorted (start : Started) (version : start.version < 2 ^ 64)
    (intentSeq : start.intentSeq < 2 ^ 64) :
    Started.ofValue (sortedValue start.toValue) = some start := by
  have fields : structFields ["version", "account", "cloid", "intent_seq", "intent_hash"]
      (sortedValue start.toValue) = some [.ofInt start.version, start.account.toValue,
        start.cloid.toValue, .ofInt start.intentSeq, .string start.intentHash] := rfl
  simp only [ofValue, fields, Value.asU64_ofInt version, Value.asU64_ofInt intentSeq,
    Address.ofValue_toValue, Cloid.ofValue_toValue, Option.bind_eq_bind, Option.bind_some]
  rfl

/-- A resolution is read back after its fields were sorted. -/
theorem SubmissionResolution.ofValue_sorted (outcome : SubmissionResolution) :
    ofValue (sortedValue outcome.toValue) = some outcome := by
  cases outcome with
  | rejected message => rfl
  | notSent detail => rfl
  | observed oid status =>
      have message : structFields ["resolution", "message"]
          (sortedValue (toValue (.observed oid status))) = none := rfl
      have detail : structFields ["resolution", "detail"]
          (sortedValue (toValue (.observed oid status))) = none := rfl
      have fields : structFields ["resolution", "oid", "status"]
          (sortedValue (toValue (.observed oid status))) =
            some [.string "observed", .ofInt oid.toNat, .string status] := rfl
      simp only [ofValue, message, detail, fields, Value.asU64_ofInt oid.toNat_lt, Option.map_some,
        UInt64.ofNat_toNat]

/-- A resolution is read back from its canonical text. -/
theorem Resolved.ofValue_sorted (resolved : Resolved) (version : resolved.version < 2 ^ 64)
    (startSeq : resolved.startSeq < 2 ^ 64) :
    Resolved.ofValue (sortedValue resolved.toValue) = some resolved := by
  have fields : structFields ["version", "account", "start_seq", "start_hash", "outcome"]
      (sortedValue resolved.toValue) = some [.ofInt resolved.version, resolved.account.toValue,
        .ofInt resolved.startSeq, .string resolved.startHash,
        sortedValue resolved.outcome.toValue] := rfl
  simp only [ofValue, fields, Value.asU64_ofInt version, Value.asU64_ofInt startSeq,
    Address.ofValue_toValue, SubmissionResolution.ofValue_sorted, Option.bind_eq_bind,
    Option.bind_some]
  rfl

/-- `start_key`. -/
def startKey (start : Started) : String :=
  "submission:" ++ start.account.display ++ ":" ++ start.cloid.text

/-- `resolve_key`. -/
def resolveKey (seq : Nat) : String := "submission_resolved:" ++ toString seq

/-! ## State -/

/-- A reservation in one chain. -/
structure SubmissionReceipt where
  chain : String
  seq : Nat
  hash : String
  agent : String
  start : Started
  deriving DecidableEq

structure SubmissionState where
  /-- Latest lifecycle event sequence for the account, or zero. -/
  revision : Nat
  pending : Option SubmissionReceipt
  deriving DecidableEq

/-- What the pilot accounting keeps of a submission. -/
structure PilotSubmission where
  seq : Nat
  account : Address
  agent : String
  cloid : Cloid
  intent : Value
  resolution : Option SubmissionResolution
  deriving DecidableEq

/-- The fold of the lifecycle rows; an account without rows has the default state. -/
structure Replay where
  accounts : Address → SubmissionState
  starts : List SubmissionReceipt
  resolved : List Nat
  used : List (Address × Cloid)
  pilot : List PilotSubmission

/-- `Replay::default`. -/
def Replay.empty : Replay := ⟨fun _ => ⟨0, none⟩, [], [], [], []⟩

/-- `starts.get`. -/
def Replay.startAt (replay : Replay) (seq : Nat) : Option SubmissionReceipt :=
  replay.starts.find? fun receipt => receipt.seq = seq

/-- The state after a checked start. -/
def Replay.started (replay : Replay) (receipt : SubmissionReceipt) (intent : Value) : Replay where
  accounts := Function.update replay.accounts receipt.start.account ⟨receipt.seq, some receipt⟩
  starts := replay.starts ++ [receipt]
  resolved := replay.resolved
  used := replay.used ++ [(receipt.start.account, receipt.start.cloid)]
  pilot := replay.pilot ++ [{
    seq := receipt.seq, account := receipt.start.account, agent := receipt.agent
    cloid := receipt.start.cloid, intent, resolution := none }]

/-- The state after a checked resolution of a start. -/
def Replay.resolve (replay : Replay) (receipt : SubmissionReceipt) (seq : Nat)
    (outcome : SubmissionResolution) : Replay where
  accounts := Function.update replay.accounts receipt.start.account ⟨seq, none⟩
  starts := replay.starts
  resolved := replay.resolved ++ [receipt.seq]
  used := replay.used
  pilot := replay.pilot.map fun submission =>
    if submission.seq = receipt.seq then { submission with resolution := some outcome }
    else submission

/-! ## The replay -/

/-- `value[key]`: a missing member reads as null. -/
def index (value : Value) (key : String) : Value :=
  (value.get key).getD .null

section Replaying

variable {D : Type} (lib : Libraries) (handle : Handle)

/-- What a linked intent row must say about the start that names it. -/
structure IntentLinked (start : Started) (agent : String) (event : Event) (payload : Value) :
    Prop where
  kind : event.kind = .orderIntent
  hash : event.hash = start.intentHash
  agentId : event.agentId = some agent
  agent : (payload.get "agent").bind Value.asStr = some agent
  network : payload.get "network" = some handle.network.toValue
  cleared : index (index payload "kind") "cleared" = .string "order"
  cloid : (index (index payload "kind") "cloid").asStr = some start.cloid.text
  vault : index payload "vault_address" = .null ∨
    index payload "vault_address" = start.account.toValue

/-- An event is the intent a start names exactly if its kind, hash, agent and payload agree with
it. -/
theorem intentLinked_iff {start : Started} {agent : String} {event : Event} {payload : Value} :
    IntentLinked handle start agent event payload ↔
      event.kind = .orderIntent ∧ event.hash = start.intentHash ∧ event.agentId = some agent ∧
      (payload.get "agent").bind Value.asStr = some agent ∧
      payload.get "network" = some handle.network.toValue ∧
      index (index payload "kind") "cleared" = .string "order" ∧
      (index (index payload "kind") "cloid").asStr = some start.cloid.text ∧
      (index payload "vault_address" = .null ∨
        index payload "vault_address" = start.account.toValue) :=
  ⟨fun linked => ⟨linked.kind, linked.hash, linked.agentId, linked.agent, linked.network,
    linked.cleared, linked.cloid, linked.vault⟩,
    fun ⟨kind, hash, agentId, agent, network, cleared, cloid, vault⟩ =>
      ⟨kind, hash, agentId, agent, network, cleared, cloid, vault⟩⟩

instance (start : Started) (agent : String) (event : Event) (payload : Value) :
    Decidable (IntentLinked handle start agent event payload) :=
  decidable_of_iff _ (intentLinked_iff handle).symm

/-- `validate_intent`: the payload of the intent a start names. -/
def validateIntent (db : Db) (start : Started) (agent : String) :
    Except (SubmissionError D) Value := do
  refuseIf (2 ^ 63 ≤ start.intentSeq) (.invalidRecord "intent sequence out of range")
  match db.rowAt start.intentSeq with
  | none => .error (.invalidRecord "missing linked intent")
  | some row =>
      let event ← mapError .ledger (eventFromRow lib row)
      match event.payload with
      | none => .error (.invalidRecord "linked intent redacted")
      | some payload =>
          refuseIf (¬ IntentLinked handle start agent event payload)
            (.invalidRecord "linked intent does not match submission")
          return payload

/-- Accounts and order ids are compared by their bytes. -/
instance : LawfulBEq (Address × Cloid) := inferInstance

/-- The replay of one start row. -/
def replayStarted (db : Db) (replay : Replay) (event : Event) (key : Option String)
    (agent : String) (payload : Value) : Except (SubmissionError D) Replay :=
  match Started.ofValue payload with
  | none => .error (.invalidRecord (lib.errorText payload))
  | some start => do
      refuseIf (start.version ≠ 1 ∨ event.seq ≤ start.intentSeq ∨ start.intentSeq = 0)
        (.invalidRecord "unsupported start version or invalid intent order")
      refuseIf (key ≠ some (startKey start)) (.invalidRecord "start idempotence key mismatch")
      let intent ← validateIntent lib handle db start agent
      refuseIf ((start.account, start.cloid) ∈ replay.used)
        (.invalidRecord "cloid reused in submission history")
      refuseIf ((replay.accounts start.account).pending ≠ none)
        (.invalidRecord "overlapping account submissions")
      return replay.started ⟨handle.genesis lib, event.seq, event.hash, agent, start⟩ intent

/-- The replay of one resolution row. -/
def replayResolved (replay : Replay) (event : Event) (key : Option String) (agent : String)
    (payload : Value) : Except (SubmissionError D) Replay :=
  match Resolved.ofValue payload with
  | none => .error (.invalidRecord (lib.errorText payload))
  | some resolved =>
      match replay.startAt resolved.startSeq with
      | none => .error (.invalidRecord "resolution precedes or lacks start")
      | some receipt => do
          refuseIf (resolved.version ≠ 1 ∨ resolved.account ≠ receipt.start.account ∨
              resolved.startHash ≠ receipt.hash ∨ agent ≠ receipt.agent ∨
              key ≠ some (resolveKey receipt.seq) ∨ receipt.seq ∈ replay.resolved)
            (.invalidRecord "invalid or duplicate resolution linkage")
          refuseIf ((replay.accounts resolved.account).pending ≠ some receipt)
            (.invalidRecord "resolution does not name current pending submission")
          refuseIf (¬ ∃ submission ∈ replay.pilot, submission.seq = receipt.seq)
            (.invalidRecord "resolution lacks validated pilot start")
          return replay.resolve receipt event.seq resolved.outcome

/-- One turn of the replay. A null payload is refused whatever account it belongs to: it
could conceal a pending reservation. -/
def replayRow (db : Db) (replay : Replay) (row : Row) :
    Except (SubmissionError D) Replay := do
  let event ← mapError .ledger (eventFromRow lib row)
  match event.agentId with
  | none => .error (.invalidRecord "lifecycle row has no agent")
  | some agent =>
      match event.payload with
      | none => .error (.invalidRecord "lifecycle payload redacted")
      | some payload =>
          match event.kind with
          | .submissionStarted =>
              replayStarted lib handle db replay event row.idemKey agent payload
          | .submissionResolved => replayResolved lib replay event row.idemKey agent payload
          | _ => .error (.invalidRecord "unexpected lifecycle kind")

/-- The rows of the submission lifecycle. -/
def Row.isLifecycle (row : Row) : Bool :=
  row.kind = EventKind.submissionStarted.asStr || row.kind = EventKind.submissionResolved.asStr

/-- The fold of the lifecycle rows of a table. -/
def replayRows (db : Db) : Except (SubmissionError D) Replay :=
  (db.events.filter Row.isLifecycle).foldlM (replayRow lib handle db) .empty

/-- The chain must verify, against the anchor unless the table is still being extended. -/
def chainVerified (verifyAnchor : Bool) (store : Store) : Except (SubmissionError D) Unit :=
  if handle.anchored ∧ verifyAnchor then
    match store.anchor with
    | none => .error (.invalidRecord "anchor missing")
    | some witnessed => walked (walk lib (some witnessed) store.db (handle.genesis lib))
  else walked (walk lib none store.db (handle.genesis lib))
where
  walked (report : Result ChainReport) : Except (SubmissionError D) Unit := do
    let report ← mapError .ledger report
    refuseIf (report.firstBreak ≠ none) (.invalidRecord "chain broken")

/-- `replay`. -/
def replay (verifyAnchor : Bool) (store : Store) : Except (SubmissionError D) Replay := do
  chainVerified lib handle verifyAnchor store
  replayRows lib handle store.db

/-- `replay_for_pilot`. -/
def replayForPilot (verifyAnchor : Bool) (store : Store) :
    Except (SubmissionError D) (List PilotSubmission) := do
  return (← replay lib handle verifyAnchor store).pilot

end Replaying

end Oppen.Ledger
