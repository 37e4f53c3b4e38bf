import Oppen.Ledger.Pairing

/-! # The token store

The pairings a gateway accepts, kept in memory beside the journal that says them durably. A
mutation that does not reach its end closes the store.
-/

namespace Oppen.Mcp

open Foundation Oppen.Json Oppen.Guardrail Oppen.Ledger

/-! ## The store -/

inductive AuthError where
  | unauthenticated
  | revoked
  deriving DecidableEq

inductive TokenStoreError where
  | entropy
  | persistence (error : AuthorityError)
  | closed
  deriving DecidableEq

/-- What the store keeps of a pairing; `revoked` is the signal every session of it holds. -/
structure TokenRecord where
  id : PairingId
  digest : TokenDigest
  revoked : Bool
  binding : PairingBinding
  deriving DecidableEq

/-- `TokenStore`; its journal is the one opened under that number. A closed store answers for nobody
until it is opened again. -/
structure TokenStore where
  records : List TokenRecord
  journal : Nat
  closed : Bool
  deriving DecidableEq

/-- A session's handle: the pairing it authenticated as, and the journal it keeps alive. -/
structure SessionAuthority where
  id : PairingId
  binding : PairingBinding
  journal : Nat
  deriving DecidableEq

/-- The record of a durable pairing. -/
def cachedRecord (record : PairingRecord) : TokenRecord :=
  ⟨record.id, record.digest, record.revokedAtMs.isSome, record.binding⟩

/-- `TokenStore::open`, with what the journal replays. -/
def TokenStore.opened (records : List PairingRecord) (journal : Nat) : TokenStore :=
  ⟨records.map cachedRecord, journal, false⟩

/-- A mutation dropped before it completed: the store is closed and every signal is set. -/
def TokenStore.shut (tokens : TokenStore) : TokenStore :=
  { tokens with closed := true, records := tokens.records.map fun record =>
      { record with revoked := true } }

/-- The record of an id. -/
def TokenStore.get (tokens : TokenStore) (id : PairingId) : Option TokenRecord :=
  tokens.records.find? fun record => record.id = id

/-- Keep a record under its id. -/
def TokenStore.insert (tokens : TokenStore) (record : TokenRecord) : TokenStore :=
  { tokens with records := tokens.records.filter (fun held => held.id ≠ record.id) ++ [record] }

/-- Set the signal of a record. -/
def TokenStore.signal (tokens : TokenStore) (id : PairingId) : TokenStore :=
  { tokens with records := tokens.records.map fun record =>
      if record.id = id then { record with revoked := true } else record }

def TokenRecord.authority (record : TokenRecord) (journal : Nat) : SessionAuthority :=
  ⟨record.id, record.binding, journal⟩

/-- The last record of a digest; the loop does not stop at the first. -/
def matchDigest (candidate : TokenDigest) (records : List TokenRecord) : Option TokenRecord :=
  records.foldl (fun matched record =>
    if record.digest = candidate then some record else matched) none

/-- `TokenStore::authenticate`. -/
def TokenStore.authenticate (digestOf : String → TokenDigest) (tokens : TokenStore)
    (presented : String) : Except AuthError SessionAuthority := do
  refuseIf (tokens.closed = true) .unauthenticated
  match matchDigest (digestOf presented) tokens.records with
  | none => .error .unauthenticated
  | some record => do
      refuseIf (record.revoked = true) .revoked
      return record.authority tokens.journal

/-- The first record issued. -/
def earliest (records : List TokenRecord) : Option TokenRecord :=
  records.foldl (fun best record => match best with
    | none => some record
    | some held => if record.id.issuedSeq < held.id.issuedSeq then some record else some held) none

/-- `TokenStore::operator_authority`. -/
def TokenStore.operatorAuthority (tokens : TokenStore) (binding : PairingBinding) :
    Except AuthError SessionAuthority := do
  refuseIf (tokens.closed = true) .unauthenticated
  match earliest (tokens.records.filter fun record =>
      record.binding = binding && !record.revoked) with
  | none => .error .unauthenticated
  | some record => return record.authority tokens.journal

/-- `TokenStore::check_authority`. -/
def TokenStore.checkAuthority (tokens : TokenStore) (authority : SessionAuthority) :
    Except AuthError Unit := do
  refuseIf (tokens.closed = true ∨ tokens.journal ≠ authority.journal) .unauthenticated
  match tokens.get authority.id with
  | none => .error .unauthenticated
  | some record => do
      refuseIf (record.binding ≠ authority.binding) .unauthenticated
      refuseIf (record.revoked = true) .revoked

/-! ## Mutations -/

/-- What became of a mutation. -/
inductive Outcome (α : Type) where
  | returned (result : Except TokenStoreError α)
  | panicked

/-- A mutation went through to its end. -/
def Outcome.Completed {α : Type} (outcome : Outcome α) : Prop :=
  ∃ value, outcome = .returned (.ok value)

/-- What a mutation meets on its way: the operating system's entropy and clock, the
publication of the head, and an unwinding between the commit and the new state. -/
structure Circumstances where
  secret : Option String
  nowMs : Option UInt64
  publish : Bool
  panics : Bool

section Mutations

variable (journal : PairingJournal) (digestOf : String → TokenDigest) (tokens : TokenStore)
  (store : Store)

/-- `TokenStore::issue`. -/
def TokenStore.issue (binding : PairingBinding) (met : Circumstances) :
    Outcome (PairingId × String) × TokenStore × Store :=
  if tokens.closed = true then (.returned (.error .closed), tokens, store)
  else match met.secret with
    | none => (.returned (.error .entropy), tokens.shut, store)
    | some secret =>
        match met.nowMs with
        | none => (.returned (.error .closed), tokens.shut, store)
        | some nowMs =>
            match issuePairing journal met.publish binding (digestOf secret) nowMs store with
            | (.error error, store) => (.returned (.error (.persistence error)), tokens.shut, store)
            | (.ok record, store) =>
                if met.panics = true then (.panicked, tokens.shut, store)
                else (.returned (.ok (record.id, secret)),
                  tokens.insert ⟨record.id, record.digest, false, record.binding⟩, store)

/-- `TokenStore::revoke`. -/
def TokenStore.revoke (id : PairingId) (met : Circumstances) :
    Outcome Bool × TokenStore × Store :=
  if tokens.closed = true then (.returned (.error .closed), tokens, store)
  else match met.nowMs with
    | none => (.returned (.error .closed), tokens.shut, store)
    | some nowMs =>
        match revokePairing journal met.publish id nowMs store with
        | (.error error, store) => (.returned (.error (.persistence error)), tokens.shut, store)
        | (.ok changed, store) =>
            if met.panics = true then (.panicked, tokens.shut, store)
            else if changed = false then (.returned (.ok false), tokens, store)
            else match tokens.get id with
              | none => (.returned (.error .closed), tokens.shut, store)
              | some _ => (.returned (.ok true), tokens.signal id, store)

end Mutations

/-! ## A gateway over time -/

/-- The ledger file, the store of the process that holds the lease, the handles that keep the
lease alive, and how often the journal was opened. -/
structure Gateway where
  ledger : Store
  tokens : Option TokenStore
  sessions : List SessionAuthority
  journals : Nat

/-- What can happen to it; `other` is any other call on the ledger. -/
inductive TokenAct (dec : Decimals) where
  | reopen
  | issue (binding : PairingBinding) (met : Circumstances)
  | revoke (id : PairingId) (met : Circumstances)
  | authenticate (presented : String)
  | operatorAuthority (binding : PairingBinding)
  | dropStore
  | dropSession (authority : SessionAuthority)
  | crash
  | other (request : Request dec)

section Acting

variable {dec : Decimals} (journal : PairingJournal) (digestOf : String → TokenDigest)
  (gateway : Gateway)

/-- `PairingJournal::open` and `TokenStore::open`: refused while a store or a session holds the
lease. -/
def Gateway.reopen : Gateway :=
  if gateway.tokens.isSome = true ∨ gateway.sessions ≠ [] then gateway
  else match pairingRecords journal gateway.ledger with
    | .error _ => gateway
    | .ok records => { gateway with
        tokens := some (.opened records gateway.journals), journals := gateway.journals + 1 }

/-- A session more, if the call answered with one. -/
def Gateway.admitting : Except AuthError SessionAuthority → Gateway
  | .error _ => gateway
  | .ok authority => { gateway with sessions := authority :: gateway.sessions }

/-- Admitting a session writes nothing. -/
theorem Gateway.admitting_ledger (answer : Except AuthError SessionAuthority) :
    (gateway.admitting answer).ledger = gateway.ledger := by
  cases answer <;> rfl

/-- What an act leaves. -/
def Gateway.perform : TokenAct dec → Gateway
  | .reopen => gateway.reopen journal
  | .issue binding met => match gateway.tokens with
      | none => gateway
      | some tokens =>
          let (_, tokens, ledger) := tokens.issue journal digestOf gateway.ledger binding met
          { gateway with tokens := some tokens, ledger }
  | .revoke id met => match gateway.tokens with
      | none => gateway
      | some tokens =>
          let (_, tokens, ledger) := tokens.revoke journal gateway.ledger id met
          { gateway with tokens := some tokens, ledger }
  | .authenticate presented => match gateway.tokens with
      | none => gateway
      | some tokens => gateway.admitting (tokens.authenticate digestOf presented)
  | .operatorAuthority binding => match gateway.tokens with
      | none => gateway
      | some tokens => gateway.admitting (tokens.operatorAuthority binding)
  | .dropStore => { gateway with tokens := none }
  | .dropSession authority => { gateway with sessions := gateway.sessions.erase authority }
  | .crash => { gateway with tokens := none, sessions := [] }
  | .other request =>
      { gateway with ledger := (Ledger.perform journal.lib dec journal.handle request
          gateway.ledger).2 }

/-- One act. No other call writes or redacts a pairing row. Another process may write other rows to
the file at any time. -/
def TokenStep (before : Gateway) (act : TokenAct dec) (after : Gateway) : Prop :=
  (∀ request, act = .other request →
    request.call.sparesRows pairingFormat before.ledger.db = true) ∧
  before.perform journal digestOf act = after

/-- A new ledger file, before any pairing. -/
def Gateway.fresh : Gateway := ⟨Ledger.opened journal.lib journal.handle, none, [], 0⟩

end Acting

end Oppen.Mcp
