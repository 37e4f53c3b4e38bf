import Oppen.Ledger.Pilot

/-! # Consent envelopes

The signed records an operator's consent is stored as, and what the history reader
checks of them. Their MAC is checked by the authenticated paths only and is not read
here.
-/

namespace Oppen.Ledger

open Oppen.Json Oppen.Guardrail

/-! ## Routes read from JSON -/

/-- `Value::as_u64` within a `u32`. -/
def asU32 (value : Value) : Option Nat := value.asU64.filter (· < 2 ^ 32)

/-- `Option<Address>` read from JSON. -/
def optionAddress : Value → Option (Option Address)
  | .null => some none
  | value => (Address.ofValue value).map some

def walletOfValue (value : Value) : Option AgentWallet :=
  match openFields ["generation", "address", "approved_at_ms", "valid_until_ms"] value with
  | some [generation, address, approvedAtMs, validUntilMs] => do
      some ⟨← asU32 generation, ← Address.ofValue address, ← approvedAtMs.asU64,
        ← validUntilMs.asU64⟩
  | _ => none

def bindingOfValue (value : Value) : Option RegistryBinding :=
  match structFields ["agent", "container", "vault_address", "wallet"] value with
  | some [agent, container, vaultAddress, wallet] => do
      some ⟨← agent.asStr, ← Address.ofValue container, ← optionAddress vaultAddress,
        ← walletOfValue wallet⟩
  | _ => none

def routeOfValue (value : Value) : Option AuthorizedRoute :=
  match structFields ["network", "binding_seq", "binding"] value with
  | some [network, bindingSeq, binding] => do
      some ⟨← Network.ofValue network, ← bindingSeq.asU64, ← bindingOfValue binding⟩
  | _ => none

/-! ## Envelopes -/

/-- What an operator consented to. -/
inductive ConsentOperation (Decimal : Type) where
  | pilotAuthorized (authorization : Authorized Decimal)
  | pilotAdopted (authorizationSeq : Nat) (authorizationHash : String) (reviewedHead : Anchor)
      (reviewedState : PilotState Decimal)

/-- `Operation::kind`. -/
def ConsentOperation.kind {Decimal : Type} : ConsentOperation Decimal → EventKind
  | .pilotAuthorized _ => .pilotAuthorized
  | .pilotAdopted .. => .pilotAdopted

structure ConsentEnvelope (Decimal : Type) where
  version : Nat
  network : Network
  seq : Nat
  prevHash : String
  atMs : Nat
  route : AuthorizedRoute
  routeHash : String
  operation : ConsentOperation Decimal

structure SignedConsent (Decimal : Type) where
  envelope : ConsentEnvelope Decimal
  mac : String

section Consent

variable (lib : Libraries) (dec : Decimals) (handle : Handle)

def ConsentOperation.toValue : ConsentOperation dec.Decimal → Value
  | .pilotAuthorized authorization =>
      .ofFields [("kind", .string "pilot_authorized"), ("authorization", authorization.toValue dec)]
  | .pilotAdopted authorizationSeq authorizationHash reviewedHead reviewedState =>
      .ofFields [("kind", .string "pilot_adopted"),
        ("authorization_seq", .ofInt authorizationSeq),
        ("authorization_hash", .string authorizationHash),
        ("reviewed_head", reviewedHead.toValue), ("reviewed_state", reviewedState.toValue dec)]

def ConsentOperation.ofValue (value : Value) : Option (ConsentOperation dec.Decimal) :=
  match enumTag "kind" value with
  | some "pilot_authorized" =>
      match structFields ["kind", "authorization"] value with
      | some [_, authorization] =>
          (Authorized.ofValue dec authorization).map ConsentOperation.pilotAuthorized
      | _ => none
  | some "pilot_adopted" =>
      match structFields ["kind", "authorization_seq", "authorization_hash", "reviewed_head",
        "reviewed_state"] value with
      | some [_, authorizationSeq, authorizationHash, reviewedHead, reviewedState] => do
          some (.pilotAdopted (← authorizationSeq.asU64) (← authorizationHash.asStr)
            (← Anchor.ofValue reviewedHead) (← PilotState.ofValue dec reviewedState))
      | _ => none
  | _ => none

def ConsentEnvelope.toValue (envelope : ConsentEnvelope dec.Decimal) : Value :=
  .ofFields [("version", .ofInt envelope.version), ("network", envelope.network.toValue),
    ("seq", .ofInt envelope.seq), ("prev_hash", .string envelope.prevHash),
    ("at_ms", .ofInt envelope.atMs), ("route", envelope.route.toValue),
    ("route_hash", .string envelope.routeHash), ("operation", envelope.operation.toValue dec)]

def ConsentEnvelope.ofValue (value : Value) : Option (ConsentEnvelope dec.Decimal) :=
  match structFields ["version", "network", "seq", "prev_hash", "at_ms", "route", "route_hash",
    "operation"] value with
  | some [version, network, seq, prevHash, atMs, route, routeHash, operation] => do
      some ⟨← version.asU64, ← Network.ofValue network, ← seq.asU64, ← prevHash.asStr,
        ← atMs.asU64, ← routeOfValue route, ← routeHash.asStr,
        ← ConsentOperation.ofValue dec operation⟩
  | _ => none

def SignedConsent.toValue (signed : SignedConsent dec.Decimal) : Value :=
  .ofFields [("envelope", signed.envelope.toValue dec), ("mac", .string signed.mac)]

def SignedConsent.ofValue (value : Value) : Option (SignedConsent dec.Decimal) :=
  match structFields ["envelope", "mac"] value with
  | some [envelope, mac] => do some ⟨← ConsentEnvelope.ofValue dec envelope, ← mac.asStr⟩
  | _ => none

/-! ## Reading consent -/

/-- `checked_agent_id`: why an agent id may not name a keychain entry. -/
def agentIdFault (agent : String) : Option String :=
  if agent.isEmpty then some "empty"
  else if 64 < (utf8 agent).length then some "longer than 64 bytes"
  else if agent.toList.all fun char =>
      char.isAlphanum || char == '-' || char == '_' || char == '.' then none
  else some "characters outside [A-Za-z0-9._-]"

/-- `valid_identity`. -/
def validIdentity (agent : String) (account : Address) : Except (PilotError dec.Decimal) Unit :=
  match agentIdFault agent with
  | some reason =>
      .error (.unavailable ("agent id " ++ writeString agent ++
        " is not usable in a keychain entry name: " ++ reason))
  | none => refuseIf (account = Address.zero) (.unavailable "pilot account must be nonzero")

/-- `is_signed`: the row holds an envelope. -/
def isSigned (event : Event) : Bool :=
  event.payload.any fun payload => (payload.get "envelope").isSome

/-- The payload column of a row as text. -/
def Row.rawPayload (row : Row) : Option String :=
  match row.payload with
  | .text text => some text
  | _ => none

/-- `parse`: the consent of a row, in canonical form and bound to the row. -/
def parseConsent (raw : Option String) (event : Event) :
    Except (PilotError dec.Decimal) (SignedConsent dec.Decimal) :=
  match event.payload with
  | none => .error (.unavailable "pilot consent redacted")
  | some payload => do
      let canonical ← mapError .ledger (canonicalJson payload)
      refuseIf (raw ≠ some canonical)
        (.unavailable "pilot consent duplicate keys or noncanonical JSON")
      match SignedConsent.ofValue dec payload with
      | none => .error (.unavailable (lib.errorText payload))
      | some signed => do
          refuseIf (sameValue (signed.toValue dec) payload = false)
            (.unavailable "pilot consent missing, unknown, or noncanonical fields")
          let envelope := signed.envelope
          let mismatch : PilotError dec.Decimal :=
            .unavailable "pilot consent envelope does not match its row"
          refuseIf (envelope.version ≠ 2 ∨ envelope.network ≠ .testnet ∨
            envelope.network ≠ handle.network ∨ envelope.seq ≠ event.seq ∨
            envelope.prevHash ≠ event.prevHash) mismatch
          refuseIf (2 ^ 63 ≤ envelope.atMs) (.unavailable "pilot timestamp out of range")
          refuseIf ((envelope.atMs : Int) ≠ event.tsMs.toInt ∨
            envelope.operation.kind ≠ event.kind ∨ envelope.route.network ≠ envelope.network ∨
            event.agentId ≠ some envelope.route.binding.agent ∨ event.snapshotId ≠ none ∨
            event.snapshotHash ≠ none ∨ (utf8 signed.mac).length ≠ 64 ∨
            signed.mac.toList.all (fun char =>
              char.isDigit || ('a' ≤ char && char ≤ 'f')) = false) mismatch
          validIdentity dec envelope.route.binding.agent envelope.route.binding.container
          refuseIf (∃ vault ∈ envelope.route.binding.vaultAddress,
            vault ≠ envelope.route.binding.container)
            (.unavailable "pilot consent vault differs from container")
          return signed

/-- `authorization_payload`: the terms an authorisation row states, signed or not. -/
def authorizationPayload (raw : Option String) (event : Event) (payload : Value) :
    Except (PilotError dec.Decimal) Value :=
  if isSigned event = false then do
    let canonical ← mapError .ledger (canonicalJson payload)
    refuseIf (raw ≠ some canonical)
      (.unavailable "legacy pilot duplicate keys or noncanonical JSON")
    match Authorized.ofValue dec payload with
    | none => .error (.unavailable (lib.errorText payload))
    | some data => do
        refuseIf (sameValue (data.toValue dec) payload = false)
          (.unavailable "legacy pilot fields missing or unknown")
        return payload
  else do
    let signed ← parseConsent lib dec handle raw event
    match signed.envelope.operation with
    | .pilotAuthorized authorization => do
        refuseIf (signed.envelope.route.binding.agent ≠ authorization.agent ∨
          signed.envelope.route.binding.container ≠ authorization.account ∨
          signed.envelope.atMs ≠ authorization.baselineAtMs)
          (.unavailable "pilot consent identity or baseline mismatch")
        return authorization.toValue dec
    | .pilotAdopted .. => .error (.unavailable "pilot authorization operation mismatch")

end Consent

end Oppen.Ledger
