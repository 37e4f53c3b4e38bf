import Oppen.Ledger.Append

/-! # Operations of the ledger

Each operation is one immediate transaction over the tables followed, when it wrote
a row, by the publication of the new head to the anchor. The publication may fail
after the commit; `publish` says whether it goes through.
-/

namespace Oppen.Ledger

open Foundation Oppen.Json

/-- A ledger opened on a network, with an anchor or without one. A ledger opened without an anchor
publishes no head. -/
structure Handle where
  network : Network
  anchored : Bool
  deriving DecidableEq, Repr

/-- The database file and the anchor beside it. The two are written one after the other, and a crash
may fall between. -/
structure Store where
  db : Db
  anchor : Option Anchor
  deriving DecidableEq, Repr

/-- What a transaction leaves to commit: the value it returns, its tables and the row
whose head is to be published. -/
structure Committed (α : Type) where
  value : α
  db : Db
  noted : Option Appended

section Operations

variable (lib : Libraries) (handle : Handle) (publish : Bool)

/-- The genesis hash of the chain a handle works on. -/
def Handle.genesis : String := genesisHash lib handle.network

/-- `note_head`: record a committed head in the anchor, if there is one. -/
def noteHead (store : Store) (appended : Appended) : Result Unit × Store :=
  if handle.anchored then
    if publish then (.ok (), { store with anchor := some ⟨appended.seq, appended.hash⟩ })
    else (.error .io, store)
  else (.ok (), store)

/-- Run a transaction: roll back on an error, else commit and publish the head. The
errors of a publication are lifted to those of the operation. -/
def transact {α ε : Type} (lift : LedgerError → ε) (store : Store)
    (body : Except ε (Committed α)) : Except ε α × Store :=
  match body with
  | .error error => (.error error, store)
  | .ok done =>
      let store := { store with db := done.db }
      match done.noted with
      | none => (.ok done.value, store)
      | some appended =>
          match noteHead handle publish store appended with
          | (.ok (), store) => (.ok done.value, store)
          | (.error error, store) => (.error (lift error), store)

/-! ## Opening and verifying -/

/-- `bind_network`: bind the file to a network, or refuse it if it belongs to another. -/
def bindNetwork (db : Db) : Result Db :=
  match db.network with
  | some found =>
      if found ≠ networkKey handle.network then
        .error (.networkMismatch (networkKey handle.network) found)
      else .ok db
  | none =>
      .ok { db with
        network := some (networkKey handle.network)
        chainHead := some (0, handle.genesis lib) }

/-- `open_anchored`: bind the file and adopt the head into an anchor that holds nothing. -/
def openAnchored (store : Store) : Result Unit × Store :=
  match bindNetwork lib handle store.db with
  | .error error => (.error error, store)
  | .ok db =>
      let store := { store with db }
      if handle.anchored ∧ store.anchor = none then
        match head db with
        | .error error => (.error error, store)
        | .ok (seq, hash) => noteHead handle publish store ⟨seq, hash⟩
      else (.ok (), store)

/-- `verify`: walk the chain against the anchored head. -/
def verify (store : Store) : Result ChainReport :=
  if handle.anchored then
    match store.anchor with
    | some witnessed => walk lib (some witnessed) store.db (handle.genesis lib)
    | none => do
        let (headSeq, headHash) ← head store.db
        return ⟨0, headSeq, headHash, some ⟨headSeq, .anchorMissing⟩⟩
  else walk lib none store.db (handle.genesis lib)

/-! ## Appending -/

/-- `refuse_one_door_kind`: the kinds that may not go through a generic append. -/
def refuseOneDoorKind : EventKind → Result Unit
  | .orderIntent => .error .useRecordIntent
  | .payloadRedacted => .error .useRedact
  | .fill => .error .useRecordFill
  | .submissionStarted | .submissionResolved | .submissionSigned | .submissionAccepted =>
      .error .useSubmissionJournal
  | .pilotAuthorized | .pilotAdopted | .pilotHalted => .error .usePilotJournal
  | .pairingIssued | .pairingRevoked => .error .usePairingJournal
  | .registryGranted | .registryRetired => .error .useRegistryJournal
  | .policyInitialized | .policyReplaced => .error .usePolicyJournal
  | .approvalProposed | .approvalClaimed | .approvalDisposed => .error .useApprovalJournal
  | _ => .ok ()

/-- `append_committed`: append with no check on the kind. -/
def appendCommitted (event : NewEvent) (store : Store) : Result Appended × Store :=
  transact handle publish id store do
    let (appended, db) ← appendInTx lib store.db event
    return ⟨appended, db, some appended⟩

/-- `append`: append one event of a kind that has no door of its own. -/
def append (event : NewEvent) (store : Store) : Result Appended × Store :=
  match refuseOneDoorKind event.kind with
  | .error error => (.error error, store)
  | .ok () => appendCommitted lib handle publish event store

def intentEvent (intent : NewIntent) : NewEvent where
  kind := .orderIntent
  tsMs := intent.tsMs
  agentId := some intent.agentId
  payload := intent.payload
  snapshot := intent.snapshot

/-- `record_intent`: record an order intent and return proof it is on disk. -/
def recordIntent (intent : NewIntent) (store : Store) : Result IntentReceipt × Store :=
  transact handle publish id store do
    let (appended, db) ← appendInTx lib store.db (intentEvent intent)
    return ⟨⟨handle.genesis lib, appended.seq, appended.hash, intent.agentId⟩, db, some appended⟩

/-- The payload that ties an outcome to its intent. -/
def outcomePayload (receipt : IntentReceipt) (outcome : Value) : Value :=
  .ofFields [("intent_seq", .ofInt receipt.seq), ("intent_hash", .string receipt.hash),
    ("outcome", outcome)]

/-- `record_outcome`: record what became of a recorded intent. -/
def recordOutcome (receipt : IntentReceipt) (kind : EventKind) (tsMs : Int64) (outcome : Value)
    (store : Store) : Result Appended × Store :=
  transact handle publish id store do
    refuseOneDoorKind kind
    refuseIf (receipt.chain ≠ handle.genesis lib)
      (.receiptFromAnotherChain (handle.genesis lib) receipt.chain)
    refuseIf (2 ^ 63 ≤ receipt.seq) .seqOutOfRange
    match store.db.rowAt receipt.seq with
    | none => .error (.noSuchEvent receipt.seq)
    | some row =>
        refuseIf (row.hash ≠ receipt.hash)
          (.receiptRowMismatch receipt.seq receipt.hash row.hash)
        let (appended, db) ← appendInTx lib store.db {
          kind, tsMs, agentId := some receipt.agentId, payload := outcomePayload receipt outcome
          snapshot := none }
        return ⟨appended, db, some appended⟩

/-! ## Redaction -/

/-- A row whose payload is nulled if it stands at that primary key. -/
def tombstoned (seq : Int) (tsMs : Int64) (reason : String) (row : Row) : Row :=
  if row.seq = seq then
    { row with payload := .null, redactedAt := some tsMs, redactionReason := some reason }
  else row

/-- Null the payload of the row at a primary key. Its hashes stay, so that the chain still reads. -/
def Db.tombstone (db : Db) (seq : Int) (tsMs : Int64) (reason : String) : Db :=
  { db with events := db.events.map (tombstoned seq tsMs reason) }

/-- The chained row that explains a tombstone. -/
def redactionEvent (seq : Nat) (reason : String) (tsMs : Int64) : NewEvent where
  kind := .payloadRedacted
  tsMs := tsMs
  agentId := none
  payload := .ofFields [("redacted_seq", .ofInt seq), ("reason", .string reason)]
  snapshot := none

/-- `redact`: null a payload while leaving the chain intact. -/
def redact (seq : Nat) (reason : String) (tsMs : Int64) (store : Store) :
    Result Appended × Store :=
  transact handle publish id store do
    refuseIf (2 ^ 63 ≤ seq) .seqOutOfRange
    match store.db.rowAt seq with
    | none => .error (.noSuchEvent seq)
    | some row =>
        refuseIf (row.payload = .null) (.alreadyRedacted seq)
        refuseIf (row.kind = EventKind.payloadRedacted.asStr) (.redactionIsNotRedactable seq)
        let (appended, db) ← appendInTx lib (store.db.tombstone seq tsMs reason)
          (redactionEvent seq reason tsMs)
        return ⟨appended, db, some appended⟩

/-! ## Feed gaps -/

/-- A gap as its readers see it. -/
structure Gap where
  gapId : Int
  scope : String
  openedTsMs : Int64
  closedTsMs : Option Int64
  reconciledTsMs : Option Int64
  openSeq : Nat
  closeSeq : Option Nat
  note : Option String
  deriving DecidableEq, Repr

/-- The rowid SQLite gives the next gap: one past the greatest. -/
def nextGapId (gaps : List GapRow) : Int :=
  gaps.foldl (fun greatest gap => max greatest gap.gapId) 0 + 1

/-- `open_gap`: record that a feed went down, once per open gap. -/
def openGap (scope : String) (tsMs : Int64) (note : Option String) (store : Store) :
    Result Gap × Store :=
  transact handle publish id store do
    match store.db.feedGaps.find? fun gap => gap.scope = scope ∧ gap.closedTsMs = none with
    | some gap =>
        refuseIf (gap.openSeq < 0) .seqOutOfRange
        return ⟨⟨gap.gapId, scope, gap.openedTsMs, none, none, gap.openSeq.toNat, none, gap.note⟩,
          store.db, none⟩
    | none =>
        let (appended, db) ← appendInTx lib store.db {
          kind := .wsDisconnected, tsMs, agentId := none
          payload := .ofFields [("scope", .string scope), ("note", .ofOption note)]
          snapshot := none }
        let gapId := nextGapId db.feedGaps
        return ⟨⟨gapId, scope, tsMs, none, none, appended.seq, none, note⟩,
          { db with feedGaps := db.feedGaps ++
              [⟨gapId, scope, tsMs, none, none, appended.seq, none, note⟩] },
          some appended⟩

/-- `i64::saturating_sub`. -/
def saturatingSub (left right : Int64) : Int :=
  max (-2 ^ 63) (min (2 ^ 63 - 1) (left.toInt - right.toInt))

/-- `close_gap`: record that the feed came back, closing the gap's window. -/
def closeGap (gapId : Int) (tsMs : Int64) (store : Store) : Result Appended × Store :=
  transact handle publish id store do
    match store.db.feedGaps.find? fun gap => gap.gapId = gapId with
    | none => .error (.noSuchGap gapId)
    | some gap =>
        refuseIf (gap.closedTsMs.isSome = true) (.gapAlreadyClosed gapId)
        let (appended, db) ← appendInTx lib store.db {
          kind := .wsReconnected, tsMs, agentId := none
          payload := .ofFields [("scope", .string gap.scope), ("gap_id", .ofInt gapId),
            ("down_ms", .ofInt (saturatingSub tsMs gap.openedTsMs))]
          snapshot := none }
        return ⟨appended,
          { db with feedGaps := db.feedGaps.map fun held =>
              if held.gapId = gapId then
                { held with closedTsMs := some tsMs, closeSeq := some appended.seq }
              else held },
          some appended⟩

end Operations

end Oppen.Ledger
