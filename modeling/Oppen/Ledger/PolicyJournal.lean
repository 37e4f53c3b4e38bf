import Oppen.Ledger.Journal
import Oppen.Ledger.PolicyRecord

/-! # The policy journal

Policy versions are rows of the chain, each signed and linked to the version before it.
The state is the replay of these rows. A version is added by the initialisation, by a
replacement that names the revision it replaces, or by a reviewed kill release.
-/

namespace Oppen.Ledger

open Foundation Oppen.Json Oppen.Guardrail

/-! ## Errors and surroundings -/

inductive PolicyError where
  | ledger (error : LedgerError)
  | migrationRequired
  | staleRevision (expected actual : Nat)
  | routeChanged
  | unavailable (detail : String)
  deriving DecidableEq

/-- `HmacKey`: tags of thirty-two bytes. -/
structure HmacKey where
  tag : List UInt8 → List UInt8
  length_tag : ∀ message, (tag message).length = 32

/-- One tag for every message. -/
def HmacKey.constant : HmacKey := ⟨fun _ => List.replicate 32 0, fun _ => List.length_replicate⟩

/-- `HmacKey::verify`. -/
def HmacKey.verify (key : HmacKey) (message tag : List UInt8) : Bool := tag = key.tag message

/-- What the registry and the pilot ledger answer from one snapshot. Nothing is assumed of
it. -/
structure PolicyRegistry (Decimal : Type) where
  optionalRoute : Store → String → Except String (Option AuthorizedRoute)
  activeRoutes : Store → Except String (List AuthorizedRoute)
  releaseState : Store → AuthorizedRoute → Except String (PilotState Decimal)

/-- The journal of one process. -/
structure PolicyJournal (dec : PolicyDecimals) where
  lib : Libraries
  handle : Handle
  key : HmacKey
  registry : PolicyRegistry dec.Decimal

/-- What a legacy policy file holds. -/
structure LegacyContents where
  source : String
  fingerprint : String
  filePresent : Bool
  schema : List LegacySchema
  tables : List LegacyTable

/-- A review of a legacy file, with what reading the file again would give. -/
structure LegacyPolicyReview where
  evidence : LegacyPolicyEvidence
  file : String → Except String LegacyContents

/-- `LegacyPolicyReview::open`. -/
def openLegacy (file : String → Except String LegacyContents) (path : String) (network : Network)
    (observedAtMs : UInt64) : Except String LegacyPolicyEvidence := do
  let contents ← file path
  return { contents with network, observedAtMs }

/-- `recheck`: the file read afresh must still be the one that was reviewed. -/
def LegacyPolicyReview.recheck (review : LegacyPolicyReview) (observedAtMs : UInt64) :
    Except String LegacyPolicyEvidence := do
  let fresh ← openLegacy review.file review.evidence.source review.evidence.network observedAtMs
  refuseIf (fresh.fingerprint ≠ review.evidence.fingerprint)
    "legacy policy changed since operator review"
  return fresh

/-! ## Versions -/

structure PolicyVersion (Decimal : Type) where
  revision : Nat
  state : PersistedState Decimal

/-- A version as its row records it. -/
structure PolicyEntry (Decimal : Type) where
  version : PolicyVersion Decimal
  hash : String
  previousPolicy : Option PolicyLink
  operation : PolicyOperation Decimal

def PolicyEntry.link {Decimal : Type} (entry : PolicyEntry Decimal) : PolicyLink :=
  ⟨entry.version.revision, entry.hash⟩

/-- The fold of the policy rows. -/
structure PolicyReplay (Decimal : Type) where
  latest : Option (PolicyEntry Decimal)
  releaseIds : List String

def PolicyReplay.empty {Decimal : Type} : PolicyReplay Decimal := ⟨none, []⟩

/-! ## Checks -/

section Checks

variable {dec : PolicyDecimals}

/-- `timestamp`. -/
def policyTimestamp (atMs : UInt64) : Except PolicyError Int64 :=
  if 2 ^ 63 ≤ atMs.toNat then .error (.unavailable "policy timestamp out of range")
  else .ok (Int64.ofNat atMs.toNat)

/-- Sixty-four lowercase hex digits. -/
def isHex64 (text : String) : Bool :=
  (utf8 text).length = 64 && text.toList.all fun char =>
    char.isDigit || ('a' ≤ char && char ≤ 'f')

/-- `message`: the text a MAC covers. -/
def policyMessage (envelope : PolicyEnvelope dec.Decimal) : Result String :=
  canonicalJson (.ofFields [("domain", .string "oppen.policy-authority.v1"),
    ("envelope", (PolicyEnvelope.codec dec).toValue envelope)])

/-- `validate_state`. -/
def validateState (state : PersistedState dec.Decimal) (atMs : UInt64) :
    Except PolicyError Unit := do
  let _ ← policyTimestamp atMs
  mapError (fun detail => .unavailable ("invalid policy state: " ++ detail)) (state.validate dec)
  refuseIf (∃ engagement ∈ state.kill.engagements, atMs < engagement.engagedAtMs)
    (.unavailable "policy kill engagement is after its snapshot timestamp")

/-- `require_paused`. -/
def requirePaused (state : PersistedState dec.Decimal) : Except PolicyError Unit :=
  refuseIf (state.kill.global.isNone = true)
    (.unavailable "policy initialization requires an engaged global pause")

/-- `validate_review`. -/
def validateReview (review : LegacyPolicyEvidence) (network : Network)
    (recheckedAtMs atMs : UInt64) : Except PolicyError Unit := do
  let _ ← policyTimestamp review.observedAtMs
  refuseIf (review.network ≠ network ∨ recheckedAtMs < review.observedAtMs ∨
      recheckedAtMs ≠ atMs ∨ review.source.toList.head? ≠ some '/' ∨
      isHex64 review.fingerprint = false ∨
      review.filePresent = false ∧ (review.schema ≠ [] ∨ review.tables ≠ []))
    (.unavailable "invalid policy initialization provenance")

/-- Two lists hold the same items. -/
def sameMembers (first second : List String) : Bool :=
  first.all (· ∈ second) && second.all (· ∈ first)

/-- The agents a release of that scope is about. -/
def releasedAgents (previous : PersistedState dec.Decimal) : KillScope → List String
  | .global => previous.guardrails.keys
  | .agent agent => [agent]

/-- A member whose route or pilot does not support the release. -/
def KillReleaseMember.Unfit {Decimal : Type} (network : Network)
    (member : KillReleaseMember Decimal) : Prop :=
  member.route.network ≠ network ∨ member.pilot.agent ≠ member.route.binding.agent ∨
    member.pilot.account ≠ member.route.binding.container ∨
    ∃ halt ∈ member.pilot.halt, halt matches .exhausted .. | .unavailable _

instance {Decimal : Type} (network : Network) (member : KillReleaseMember Decimal) :
    Decidable (member.Unfit network) :=
  inferInstanceAs (Decidable (_ ∨ _ ∨ _ ∨ _))

/-- An engagement with its amounts compared by value. -/
def engagementValue (engagement : Option (Engagement dec.Decimal)) : Option (Engagement ℚ) :=
  engagement.map (Engagement.map dec.value)

/-- The state a release leaves. -/
def ReleaseRequest.released (request : ReleaseRequest dec.Decimal) : PersistedState dec.Decimal :=
  { request.before with kill := request.before.kill.release request.display.scope }

/-- `validate_transition`. -/
def validateTransition (request : ReleaseRequest dec.Decimal)
    (previous : PolicyVersion dec.Decimal) (envelope : PolicyEnvelope dec.Decimal) :
    Except PolicyError Unit := do
  let display := request.display
  refuseIf (isHex64 display.operationId = false ∨ display.network ≠ .testnet ∨
      display.network ≠ envelope.network ∨ display.policyRevision ≠ previous.revision ∨
      ¬ request.before.Same dec previous.state ∨ ¬ request.released.Same dec envelope.state ∨
      request.head.seq + 1 ≠ envelope.seq ∨ request.head.hash ≠ envelope.prevHash ∨
      engagementValue display.persistedEngagement ≠
        engagementValue (request.before.kill.engagement display.scope) ∨
      (display.persistedEngagement.isNone = true ∧ display.localEngagement.isNone = true) ∨
      display.stopGeneration.toNat = 2 ^ 64 - 1 ∨
      display.reviewedAtMs.toNat + 60000 ≠ display.expiresAtMs.toNat ∨
      envelope.atMs < display.reviewedAtMs ∨ display.expiresAtMs ≤ envelope.atMs ∨
      display.affected.isEmpty = true)
    (.unavailable "invalid correlated kill release transition")
  let agents : List String := display.affected.map fun member => member.route.binding.agent
  refuseIf (¬ agents.Nodup ∨ ∃ member ∈ display.affected, member.Unfit display.network)
    (.unavailable "invalid release member evidence")
  refuseIf (sameMembers agents (releasedAgents previous.state display.scope) = false)
    (.unavailable "release membership differs from scope")

end Checks

/-! ## The replay -/

/-- The rows of the policy journal. -/
def Row.isPolicy (row : Row) : Bool :=
  row.kind = EventKind.policyInitialized.asStr || row.kind = EventKind.policyReplaced.asStr

/-- The key of a version: one initialisation, and one successor of each version. -/
def policyKey : Option PolicyLink → String
  | none => "policy_initialized"
  | some link => "policy_after:" ++ toString link.seq

section Replaying

variable {dec : PolicyDecimals}

/-- The envelope belongs to the row it is stored in. -/
structure EnvelopeOf (network : Network) (envelope : PolicyEnvelope dec.Decimal) (event : Event) :
    Prop where
  version : envelope.version = 1
  network : envelope.network = network
  seq : envelope.seq = event.seq
  prevHash : envelope.prevHash = event.prevHash
  stamped : (envelope.atMs.toNat : Int) = event.tsMs.toInt
  kind : envelope.operation.kind = event.kind
  agentless : event.agentId = none
  snapshotId : event.snapshotId = none
  snapshotHash : event.snapshotHash = none

/-- An envelope is that of an event exactly if its version, network, position, previous hash and
time are the event's. -/
theorem envelopeOf_iff {network : Network} {envelope : PolicyEnvelope dec.Decimal}
    {event : Event} : EnvelopeOf network envelope event ↔
      envelope.version = 1 ∧ envelope.network = network ∧ envelope.seq = event.seq ∧
      envelope.prevHash = event.prevHash ∧ (envelope.atMs.toNat : Int) = event.tsMs.toInt ∧
      envelope.operation.kind = event.kind ∧ event.agentId = none ∧ event.snapshotId = none ∧
      event.snapshotHash = none :=
  ⟨fun ⟨version, network, seq, prevHash, stamped, kind, agentless, snapshotId, snapshotHash⟩ =>
    ⟨version, network, seq, prevHash, stamped, kind, agentless, snapshotId, snapshotHash⟩,
    fun ⟨version, network, seq, prevHash, stamped, kind, agentless, snapshotId, snapshotHash⟩ =>
      ⟨version, network, seq, prevHash, stamped, kind, agentless, snapshotId, snapshotHash⟩⟩

instance (network : Network) (envelope : PolicyEnvelope dec.Decimal) (event : Event) :
    Decidable (EnvelopeOf network envelope event) :=
  decidable_of_iff _ envelopeOf_iff.symm

/-- The signed version of a row in canonical form; its MAC is checked when a key is given. -/
def readSigned (key : Option HmacKey) (raw : String) (payload : Value) :
    Except PolicyError (SignedPolicy dec.Decimal) := do
  let canonical ← mapError .ledger (canonicalJson payload)
  refuseIf (canonical ≠ raw)
    (.unavailable "policy snapshot has duplicate keys or noncanonical JSON")
  match (SignedPolicy.codec dec).ofValue payload with
  | none => .error (.unavailable "malformed policy snapshot")
  | some signed => do
      refuseIf (sameValue ((SignedPolicy.codec dec).toValue signed) payload = false)
        (.unavailable "missing, unknown, or noncanonical policy snapshot fields")
      refuseIf (isHex64 signed.mac = false)
        (.unavailable "policy MAC is not canonical 32-byte hex")
      match hexDecode signed.mac.toList with
      | none => .error (.unavailable "invalid policy MAC")
      | some mac => do
          match key with
          | none => return signed
          | some key => do
              let message ← mapError .ledger (policyMessage signed.envelope)
              refuseIf (key.verify (utf8 message) mac = false)
                (.unavailable "policy authority MAC mismatch")
              return signed

/-- What the operation of a version requires of the versions before it, and the release
operations recorded after it. -/
def checkOperation (network : Network) (before : PolicyReplay dec.Decimal)
    (envelope : PolicyEnvelope dec.Decimal) : Except PolicyError (List String) :=
  match envelope.operation, before.latest with
  | .policyInitialized review recheckedAtMs, none => do
      validateReview review network recheckedAtMs envelope.atMs
      requirePaused envelope.state
      return before.releaseIds
  | .policyReplaced, some _ => return before.releaseIds
  | .killReleased request, some previous => do
      validateTransition request previous.version envelope
      refuseIf (request.display.operationId ∈ before.releaseIds)
        (.unavailable "duplicate kill release operation")
      return before.releaseIds ++ [request.display.operationId]
  | _, _ => .error (.unavailable "policy initialization is missing or repeated")

/-- The version an envelope becomes in its row. -/
def PolicyEnvelope.entry (envelope : PolicyEnvelope dec.Decimal) (event : Event) :
    PolicyEntry dec.Decimal :=
  ⟨⟨event.seq, envelope.state⟩, event.hash, envelope.previousPolicy, envelope.operation⟩

/-- One turn of the replay. -/
def replayPolicyRow (lib : Libraries) (network : Network) (key : Option HmacKey)
    (before : PolicyReplay dec.Decimal) (row : Row) :
    Except PolicyError (PolicyReplay dec.Decimal) := do
  let event ← mapError .ledger (eventFromRow lib row)
  match row.rawPayload, event.payload with
  | none, _ => .error (.unavailable "required policy snapshot redacted")
  | _, none => .error (.unavailable "required policy snapshot missing")
  | some raw, some payload => do
      let signed ← readSigned key raw payload
      let envelope := signed.envelope
      let _ ← policyTimestamp envelope.atMs
      refuseIf (¬ EnvelopeOf network envelope event)
        (.unavailable "policy envelope does not match its chain row")
      refuseIf (envelope.previousPolicy ≠ before.latest.map PolicyEntry.link)
        (.unavailable "policy predecessor is not the latest authenticated snapshot")
      let releaseIds ← checkOperation network before envelope
      refuseIf (row.idemKey ≠ some (policyKey (before.latest.map PolicyEntry.link)))
        (.unavailable "policy idempotence key mismatch")
      validateState envelope.state envelope.atMs
      return ⟨some (envelope.entry event), releaseIds⟩

variable (journal : PolicyJournal dec)

/-- The fold of the policy rows of a table. -/
def policyRows (key : Option HmacKey) (db : Db) : Except PolicyError (PolicyReplay dec.Decimal) :=
  (db.events.filter Row.isPolicy).foldlM
    (replayPolicyRow journal.lib journal.handle.network key) .empty

/-- `replay_in`: the chain must verify against the anchor. -/
def replayPolicyIn (key : Option HmacKey) (store : Store) :
    Except PolicyError (Option (PolicyEntry dec.Decimal)) := do
  refuseIf (journal.handle.anchored = false)
    (.unavailable "policy authority requires an anchored ledger")
  match store.anchor with
  | none => .error (.unavailable "policy anchor missing")
  | some anchor => do
      let report ← mapError .ledger
        (walk journal.lib (some anchor) store.db (journal.handle.genesis journal.lib))
      refuseIf (report.firstBreak ≠ none) (.unavailable "policy chain broken")
      return (← policyRows journal key store.db).latest

/-- `replay`. -/
def replayPolicy (store : Store) : Except PolicyError (Option (PolicyEntry dec.Decimal)) :=
  replayPolicyIn journal (some journal.key) store

/-- `current_in`. -/
def currentPolicy (store : Store) : Except PolicyError (PolicyVersion dec.Decimal) := do
  match ← replayPolicy journal store with
  | none => .error .migrationRequired
  | some entry => return entry.version

/-! ## The writer -/

/-- The envelope of the next row. -/
def nextEnvelope (headSeq : Nat) (prevHash : String) (previous : Option PolicyLink)
    (operation : PolicyOperation dec.Decimal) (state : PersistedState dec.Decimal)
    (atMs : UInt64) : PolicyEnvelope dec.Decimal where
  version := 1
  network := journal.handle.network
  seq := headSeq + 1
  prevHash := prevHash
  atMs := atMs
  previousPolicy := previous
  operation := operation
  state := state

/-- The row event of a signed version. -/
def policyEvent (tsMs : Int64) (signed : SignedPolicy dec.Decimal) : NewEvent where
  kind := signed.envelope.operation.kind
  tsMs := tsMs
  agentId := none
  payload := (SignedPolicy.codec dec).toValue signed
  snapshot := none

/-- `append_in_tx`: sign the next version and append its row. -/
def appendPolicy (db : Db) (previous : Option PolicyLink) (operation : PolicyOperation dec.Decimal)
    (state : PersistedState dec.Decimal) (atMs : UInt64) :
    Except PolicyError (PolicyVersion dec.Decimal × Appended × Db) := do
  let (headSeq, prevHash) ← mapError .ledger (head db)
  refuseIf (2 ^ 64 ≤ headSeq + 1) (.ledger .seqOutOfRange)
  let envelope := nextEnvelope journal headSeq prevHash previous operation state atMs
  let message ← mapError .ledger (policyMessage envelope)
  let signed : SignedPolicy dec.Decimal := ⟨envelope, hexEncode (journal.key.tag (utf8 message))⟩
  let tsMs ← policyTimestamp atMs
  let (appended, db) ← mapError .ledger
    (appendKeyedInTx journal.lib db (policyEvent tsMs signed) (policyKey previous))
  match appended with
  | none => .error (.unavailable "policy key without authenticated transition")
  | some appended => return (⟨headSeq + 1, state⟩, appended, db)

/-- `append`. -/
def committedPolicy (store : Store) (previous : Option PolicyLink)
    (operation : PolicyOperation dec.Decimal) (state : PersistedState dec.Decimal)
    (atMs : UInt64) : Except PolicyError (Committed (PolicyVersion dec.Decimal)) := do
  let (version, appended, db) ← appendPolicy journal store.db previous operation state atMs
  return ⟨version, db, some appended⟩

/-- `publish_verified_head`: nothing to write, but the head to publish. -/
def publishedHead (store : Store) (version : PolicyVersion dec.Decimal) :
    Except PolicyError (Committed (PolicyVersion dec.Decimal)) := do
  let (seq, hash) ← mapError .ledger (head store.db)
  return ⟨version, store.db, some ⟨seq, hash⟩⟩

/-- `check_setup_route`: the reviewed route is still the live one. -/
def checkSetupRoute (store : Store) (route : Option AuthorizedRoute) : Except PolicyError Unit :=
  match route with
  | none => .ok ()
  | some expected => do
      let current ← mapError .unavailable
        (journal.registry.optionalRoute store expected.binding.agent)
      refuseIf (current ≠ some expected) .routeChanged

/-- The version recorded for this very initialisation. -/
def PolicyEntry.InitializedBy (entry : PolicyEntry dec.Decimal) (evidence : LegacyPolicyEvidence)
    (next : PersistedState dec.Decimal) : Prop :=
  (∃ recheckedAtMs, entry.operation = .policyInitialized evidence recheckedAtMs) ∧
    entry.version.state.Same dec next

instance (entry : PolicyEntry dec.Decimal) (evidence : LegacyPolicyEvidence)
    (next : PersistedState dec.Decimal) : Decidable (entry.InitializedBy evidence next) :=
  match same : entry.operation with
  | .policyInitialized review recheckedAtMs =>
      decidable_of_iff (review = evidence ∧ entry.version.state.Same dec next) <| by
        rw [PolicyEntry.InitializedBy, same]
        exact ⟨fun ⟨recorded, state⟩ => ⟨⟨recheckedAtMs, recorded ▸ rfl⟩, state⟩,
          fun ⟨⟨_, recorded⟩, state⟩ => ⟨(PolicyOperation.policyInitialized.inj recorded).1, state⟩⟩
  | .policyReplaced => isFalse fun initialized => by
      obtain ⟨_, wrong⟩ := initialized.1
      rw [same] at wrong
      cases wrong
  | .killReleased _ => isFalse fun initialized => by
      obtain ⟨_, wrong⟩ := initialized.1
      rw [same] at wrong
      cases wrong

/-- The transaction of `initialize_checked`. -/
def initializeBody (review : LegacyPolicyReview) (next : PersistedState dec.Decimal)
    (atMs : UInt64) (route : Option AuthorizedRoute) (store : Store) :
    Except PolicyError (Committed (PolicyVersion dec.Decimal)) := do
  validateState next atMs
  requirePaused next
  validateReview review.evidence journal.handle.network atMs atMs
  checkSetupRoute journal store route
  match ← replayPolicy journal store with
  | some current =>
      if current.InitializedBy review.evidence next then publishedHead store current.version
      else .error (.staleRevision 0 current.version.revision)
  | none => do
      let fresh ← mapError .unavailable (review.recheck atMs)
      committedPolicy journal store none (.policyInitialized review.evidence fresh.observedAtMs)
        next atMs

/-- The current version is the one this very replacement committed. -/
def PolicyEntry.ExactRetry (entry : PolicyEntry dec.Decimal) (expectedRevision : Nat)
    (next : PersistedState dec.Decimal) : Prop :=
  (entry.operation matches .policyReplaced) = true ∧
    (∃ link ∈ entry.previousPolicy, link.seq = expectedRevision) ∧
    entry.version.state.Same dec next

instance (entry : PolicyEntry dec.Decimal) (expectedRevision : Nat)
    (next : PersistedState dec.Decimal) : Decidable (entry.ExactRetry expectedRevision next) :=
  inferInstanceAs (Decidable (_ ∧ _ ∧ _))

/-- The transaction of `replace_checked`. -/
def replaceBody (expectedRevision : Nat) (next : PersistedState dec.Decimal) (atMs : UInt64)
    (route : Option AuthorizedRoute) (store : Store) :
    Except PolicyError (Committed (PolicyVersion dec.Decimal)) := do
  validateState next atMs
  checkSetupRoute journal store route
  match ← replayPolicy journal store with
  | none => .error .migrationRequired
  | some current => do
      refuseIf (current.version.revision ≠ expectedRevision ∧
        ¬ current.ExactRetry expectedRevision next)
        (.staleRevision expectedRevision current.version.revision)
      if current.ExactRetry expectedRevision next ∨ current.version.state.Same dec next then
        publishedHead store current.version
      else committedPolicy journal store (some current.link) .policyReplaced next atMs

variable (publish : Bool)

/-- `initialize`, and `initialize_for_route` when a route is given. -/
def initializePolicy (review : LegacyPolicyReview) (next : PersistedState dec.Decimal)
    (atMs : UInt64) (route : Option AuthorizedRoute) (store : Store) :
    Except PolicyError (PolicyVersion dec.Decimal) × Store :=
  transact journal.handle publish .ledger store
    (initializeBody journal review next atMs route store)

/-- `replace`, and `replace_for_route` when a route is given. -/
def replacePolicy (expectedRevision : Nat) (next : PersistedState dec.Decimal) (atMs : UInt64)
    (route : Option AuthorizedRoute) (store : Store) :
    Except PolicyError (PolicyVersion dec.Decimal) × Store :=
  transact journal.handle publish .ledger store
    (replaceBody journal expectedRevision next atMs route store)

end Replaying

end Oppen.Ledger
