import Oppen.Foundation.Entries
import Oppen.Ledger.FillKeys
import Oppen.Ledger.PolicyRecord

/-! # The key store

An agent's wallet is three entries of the platform's credential store: the mark of its address,
the key of its generation, and the record that names the current one. Each operation is a program
over these entries, and any read, write or removal of one may fail or be the last thing the
process does.
-/

namespace Oppen.Keys

open Foundation Oppen.Json Oppen.Ledger Oppen.Guardrail

variable {Backend Key : Type}

/-- Every way an operation on an agent's wallet fails; `serde_json`'s detail is left out. -/
inductive KeyStoreError (Backend : Type) where
  | backend (error : Backend)
  | missing (entry : String)
  | alreadyExists (agent : String)
  | invalidAgentId (id reason : String)
  | invalidKey
  | addressReused (address : Address)
  | rotationLimit (generation : Nat)
  | addressMismatch (record derived : Address)
  | encoding
  deriving DecidableEq

/-! ## Entry names -/

/-- The keychain service of a network and the account name inside it. -/
structure EntryName where
  service : String
  account : String
  deriving DecidableEq

/-- `service_of`. -/
def serviceOf : Network → String
  | .testnet => "xyz.oppen.testnet"
  | .mainnet => "xyz.oppen.mainnet"

/-- `MAX_GENERATION`. -/
def maxGeneration : Nat := 1024

/-- `checked_agent_id`. -/
def checkedAgentId (agent : String) : Except (KeyStoreError Backend) String :=
  match agentIdFault agent with
  | some reason => .error (.invalidAgentId agent reason)
  | none => .ok agent

namespace EntryName

variable (network : Network)

/-- `EntryName::agent_key`. -/
def agentKey (agent : String) (generation : Nat) : Except (KeyStoreError Backend) EntryName := do
  let id ← checkedAgentId agent
  return ⟨serviceOf network, "agent-key" ++ "/" ++ id ++ "/" ++ toString generation⟩

/-- `EntryName::agent_record`. -/
def agentRecord (agent : String) : Except (KeyStoreError Backend) EntryName := do
  let id ← checkedAgentId agent
  return ⟨serviceOf network, "agent-record" ++ "/" ++ id⟩

/-- `EntryName::agent_address`. -/
def agentAddress (address : Address) : EntryName :=
  ⟨serviceOf network, "agent-address" ++ "/" ++ address.display⟩

/-- `EntryName::guardrail_hmac`. -/
def guardrailHmac : EntryName := ⟨serviceOf network, "guardrail-hmac"⟩

end EntryName

/-! ## Operations -/

/-- The signer's keys, and `serde_json`'s reading of a wallet record. -/
structure KeyLib (Key : Type) where
  fromHex : String → Option Key
  address : Key → Address
  readRecord : String → Option AgentWallet
  readRecord_text : ∀ {wallet : AgentWallet}, walletFits wallet →
    readRecord (String.ofList wallet.toValue.chars) = some wallet

/-- A program over the entries of one network. -/
abbrev KeyScript (Backend : Type) := Script EntryName String (KeyStoreError Backend)

/-- `normalize_key_hex`. -/
def normalizeKeyHex (keyHex : String) : Except (KeyStoreError Backend) String := do
  let body := match keyHex.toList with
    | '0' :: 'x' :: rest => String.ofList rest
    | _ => keyHex
  refuseIf ((utf8 body).length ≠ 64 ∨
    body.toList.all (fun digit => (hexValue digit).isSome) = false) .invalidKey
  return String.ofList (body.toList.map Char.toLower)

variable (lib : KeyLib Key) (network : Network)

/-- `address_of_key`. -/
def addressOfKey (normalized : String) : Except (KeyStoreError Backend) Address :=
  match lib.fromHex normalized with
  | some key => .ok (lib.address key)
  | none => .error .invalidKey

/-- A record as it is stored. -/
def recordText (record : AgentWallet) : String := String.ofList record.toValue.chars

/-- The record a stored text holds. -/
def readWallet (stored : String) : Except (KeyStoreError Backend) (Option AgentWallet) :=
  match lib.readRecord stored with
  | none => .error .encoding
  | some record => do
      refuseIf (maxGeneration < record.generation) (.rotationLimit record.generation)
      return some record

/-- `KeyStore::agent_wallet`. -/
def agentWallet (agent : String) : KeyScript Backend (Option AgentWallet) := do
  let entry ← .done (EntryName.agentRecord network agent)
  match ← .get entry with
  | none => return none
  | some stored => .done (readWallet lib stored)

/-- `require_wallet`. -/
def requireWallet (agent : String) : KeyScript Backend AgentWallet := do
  match ← agentWallet lib network agent with
  | some record => return record
  | none => .done (.error (.missing ("agent-record" ++ "/" ++ agent)))

/-- `address_used`. -/
def addressUsed (address : Address) : KeyScript Backend Bool := do
  return (← .get (EntryName.agentAddress network address)).isSome

/-- `write_wallet`: the mark of the address, then the key, then the record. -/
def writeWallet (agent keyHex : String) (record : AgentWallet) : KeyScript Backend Unit := do
  .set (EntryName.agentAddress network record.address) (some (toString record.generation))
  let entry ← .done (EntryName.agentKey network agent record.generation)
  .set entry (some keyHex)
  let entry ← .done (EntryName.agentRecord network agent)
  .set entry (some (recordText record))

/-- `KeyStore::create_agent_key`. -/
def createAgentKey (agent keyHex : String) (validUntilMs nowMs : UInt64) :
    KeyScript Backend AgentWallet := do
  let held ← agentWallet lib network agent
  .done (refuseIf (held.isSome = true) (.alreadyExists agent))
  let normalized ← .done (normalizeKeyHex keyHex)
  let address ← .done (addressOfKey lib normalized)
  let used ← addressUsed network address
  .done (refuseIf (used = true) (.addressReused address))
  let record : AgentWallet := ⟨0, address, nowMs.toNat, validUntilMs.toNat⟩
  writeWallet network agent normalized record
  return record

/-- `KeyStore::rotate_agent_key`. -/
def rotateAgentKey (agent keyHex : String) (validUntilMs nowMs : UInt64) :
    KeyScript Backend AgentWallet := do
  let current ← requireWallet lib network agent
  let normalized ← .done (normalizeKeyHex keyHex)
  let address ← .done (addressOfKey lib normalized)
  let used ← addressUsed network address
  .done (refuseIf (used = true) (.addressReused address))
  -- `saturating_add`: a record edited past the ceiling never wraps to an earlier generation.
  let generation := min (current.generation + 1) (2 ^ 32 - 1)
  .done (refuseIf (maxGeneration < generation) (.rotationLimit generation))
  let record : AgentWallet := ⟨generation, address, nowMs.toNat, validUntilMs.toNat⟩
  writeWallet network agent normalized record
  return record

/-- The key a stored text holds, checked against the record. -/
def checkKey (record : AgentWallet) (stored : String) : Except (KeyStoreError Backend) Key :=
  match lib.fromHex stored with
  | none => .error .invalidKey
  | some key => do
      refuseIf (lib.address key ≠ record.address)
        (.addressMismatch record.address (lib.address key))
      return key

/-- `KeyStore::load_agent_key_with_wallet`. -/
def loadAgentKeyWithWallet (agent : String) : KeyScript Backend (Key × AgentWallet) := do
  let record ← requireWallet lib network agent
  let entry ← .done (EntryName.agentKey network agent record.generation)
  match ← .get entry with
  | none => .done (.error (.missing entry.account))
  | some stored => do
      let key ← .done (checkKey lib record stored)
      return (key, record)

/-- Remove the key entries of these generations, one after the other. -/
def sweep (agent : String) : List Nat → KeyScript Backend Unit
  | [] => return ()
  | generation :: rest => do
      let entry ← .done (EntryName.agentKey network agent generation)
      .set entry none
      sweep agent rest

/-- `KeyStore::delete_agent`: the record first, then every generation there may be. -/
def deleteAgent (agent : String) : KeyScript Backend Unit := do
  let entry ← .done (EntryName.agentRecord network agent)
  .set entry none
  sweep network agent (List.range (maxGeneration + 1))

/-! ## Calls -/

/-- What is asked of the store. -/
inductive Request where
  | create (agent keyHex : String) (validUntilMs nowMs : UInt64)
  | rotate (agent keyHex : String) (validUntilMs nowMs : UInt64)
  | load (agent : String)
  | delete (agent : String)

/-- What is answered. -/
inductive Reply (Key : Type) where
  | installed (wallet : AgentWallet)
  | loaded (key : Key) (wallet : AgentWallet)
  | deleted
  deriving DecidableEq

/-- The program of a request. -/
def Request.script : Request → KeyScript Backend (Reply Key)
  | .create agent keyHex validUntilMs nowMs => do
      return .installed (← createAgentKey lib network agent keyHex validUntilMs nowMs)
  | .rotate agent keyHex validUntilMs nowMs => do
      return .installed (← rotateAgentKey lib network agent keyHex validUntilMs nowMs)
  | .load agent => do
      let (key, wallet) ← loadAgentKeyWithWallet lib network agent
      return .loaded key wallet
  | .delete agent => do
      deleteAgent network agent
      return .deleted

/-- One call: what was asked, what took effect, and what was answered unless the process died. -/
structure Call (Backend Key : Type) where
  request : Request
  trace : Trace EntryName String
  outcome : Option (Except (KeyStoreError Backend) (Reply Key))

/-- The calls are serialised by one lock; after a death the store is as the trace left it. -/
def CallStep (before : EntryName → Option String) (call : Call Backend Key)
    (after : EntryName → Option String) : Prop :=
  Ends (call.request.script lib network) before call.trace call.outcome ∧
    after = applied before call.trace

end Oppen.Keys
