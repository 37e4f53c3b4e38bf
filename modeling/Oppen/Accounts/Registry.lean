import Oppen.Ledger.Metadata

/-! # The account registry

The operator's typed surface over the sub-account table. Nothing here is signed: it reads
and writes metadata in one transaction each, through the guarded write.
-/

namespace Oppen.Accounts

open Foundation Oppen.Json Oppen.Guardrail Oppen.Ledger

/-- Where an account is in its lifecycle. -/
inductive Standing where
  | discovered
  | optedIn
  | provisionedByOppen
  | retired
  deriving DecidableEq, Repr

def Standing.of (row : SubAccount) : Standing :=
  if row.active = false then .retired
  else if row.recorded = false then .discovered
  else if row.provisionedByOppen = true then .provisionedByOppen
  else .optedIn

structure Account where
  address : Address
  name : String
  owner : Option Owner
  standing : Standing
  recorded : Bool
  provisionedByOppen : Bool
  createdTsMs : Int64
  deriving DecidableEq

inductive AccountsError where
  | ledger (error : LedgerError)
  | unknownAccount (address : Address)
  | useRegistryJournal (address : Address)
  | retired (address : Address)
  | ownerConflict (address : Address) (current offered : String)
  | ownerAlreadyBound (owner : String) (address : Address)
  | provisionedCannotOptOut (address : Address)
  | malformedAddress (stored : String)
  deriving DecidableEq

/-- `Account::from_row`. -/
def Account.fromRow (row : SubAccount) : Except AccountsError Account :=
  match Address.parse row.address with
  | none => .error (.malformedAddress row.address)
  | some address => .ok ⟨address, row.name, row.owner, .of row, row.recorded,
      row.provisionedByOppen, row.createdTsMs⟩

/-- An entry of a discovery sweep. -/
structure Discovered where
  address : Address
  name : String

structure DiscoveryReport where
  added : List Address
  renamed : List Address
  unchanged : Nat

/-- `OwnerType::as_str`. -/
def ownerTypeText : OwnerType → String
  | .agent => "agent"
  | .workflow => "workflow"

/-- `owner_label`. -/
def ownerLabel (owner : Owner) : String := ownerTypeText owner.ownerType ++ ":" ++ owner.ownerId

section Transactions

variable (journal : RegistryJournal) (roster : Roster)

/-- `registry_transaction`: the metadata of the body, or all as it was. -/
def registryTransaction {α : Type} (body : Except AccountsError (α × List SubAccount)) :
    Except AccountsError α × Roster :=
  match body with
  | .error error => (.error error, roster)
  | .ok (value, accounts) => (.ok value, ⟨roster.store, accounts⟩)

/-- The guarded write, in a transaction of the registry. -/
def upsertOn (account : SubAccount) (accounts : List SubAccount) :
    Except AccountsError (List SubAccount) :=
  mapError .ledger (upsertSubAccountOn journal.lib roster.store.db account accounts)

/-- `Registry::bound_to`: the live account of an owner. -/
def boundTo (owner : Owner) : Except AccountsError (Option Address) :=
  match roster.accounts.find? fun row => row.active && row.owner = some owner with
  | none => .ok none
  | some row => (Account.fromRow row).map fun account => some account.address

/-- `Registry::row`, by the stored text. -/
def row (address : Address) : Except AccountsError SubAccount :=
  match subAccountOn roster.accounts address.display with
  | none => .error (.unknownAccount address)
  | some row => .ok row

/-- The row at an address may be provisioned for an owner: it is live and nobody else's. -/
def checkExisting (address : Address) (owner : Owner) :
    Option SubAccount → Except AccountsError Unit
  | none => .ok ()
  | some row => do
      refuseIf (row.active = false) (.retired address)
      match row.owner with
      | none => return ()
      | some current =>
          refuseIf (current ≠ owner)
            (.ownerConflict address (ownerLabel current) (ownerLabel owner))

/-- The owner is bound to no other live account. -/
def checkBound (address : Address) (owner : Owner) : Option Address → Except AccountsError Unit
  | none => .ok ()
  | some bound => refuseIf (bound ≠ address) (.ownerAlreadyBound (ownerLabel owner) bound)

def provisionBody (address : Address) (name : String) (owner : Owner) (nowMs : Int64) :
    Except AccountsError (Account × List SubAccount) := do
  let existing := subAccountOn roster.accounts address.display
  checkExisting address owner existing
  let bound ← boundTo roster owner
  checkBound address owner bound
  let row : SubAccount := {
    address := address.display, name, owner := some owner, recorded := true
    provisionedByOppen := true, active := true
    createdTsMs := (existing.map SubAccount.createdTsMs).getD nowMs }
  let accounts ← upsertOn journal roster row roster.accounts
  let account ← Account.fromRow row
  return (account, accounts)

/-- `Registry::provision`. -/
def provision (address : Address) (name : String) (owner : Owner) (nowMs : Int64) :
    Except AccountsError Account × Roster :=
  registryTransaction roster (provisionBody journal roster address name owner nowMs)

/-- One address of a sweep: its row renamed if the name changed, or a row of its own. -/
def observeOne (nowMs : Int64) (before : DiscoveryReport × List SubAccount)
    (entry : String × Discovered) : Except AccountsError (DiscoveryReport × List SubAccount) := do
  let (report, accounts) := before
  let (key, seen) := entry
  match subAccountOn accounts key with
  | some row =>
      if row.name = seen.name then
        return ({ report with unchanged := report.unchanged + 1 }, accounts)
      else do
        let accounts ← upsertOn journal roster { row with name := seen.name } accounts
        return ({ report with renamed := report.renamed ++ [seen.address] }, accounts)
  | none => do
      let accounts ← upsertOn journal roster {
        address := key, name := seen.name, owner := none, recorded := false
        provisionedByOppen := false, active := true, createdTsMs := nowMs } accounts
      return ({ report with added := report.added ++ [seen.address] }, accounts)

/-- The sweep by address, the last name of each. -/
def wanted (seen : List Discovered) : KeyMap Discovered :=
  .collect (seen.map fun entry => (entry.address.display, entry))

/-- `Registry::observe`. -/
def observe (seen : List Discovered) (nowMs : Int64) :
    Except AccountsError DiscoveryReport × Roster :=
  registryTransaction roster
    ((wanted seen).entries.foldlM (observeOne journal roster nowMs) (⟨[], [], 0⟩, roster.accounts))

/-- No grant, live or retired, is at the address. -/
def checkManaged (address : Address) : Except AccountsError Unit := do
  let managed ← mapError .ledger (managedOn journal.lib roster.store.db address.display)
  refuseIf (managed = true) (.useRegistryJournal address)

/-- Only an account without a grant may stop being recorded. -/
def checkOptOut (address : Address) (recorded : Bool) : Except AccountsError Unit :=
  if recorded = true then .ok () else checkManaged journal roster address

def setRecordedBody (address : Address) (recorded : Bool) :
    Except AccountsError (Account × List SubAccount) := do
  checkOptOut journal roster address recorded
  let row ← row roster address
  refuseIf (row.active = false) (.retired address)
  refuseIf (recorded = false ∧ row.provisionedByOppen = true) (.provisionedCannotOptOut address)
  if row.recorded = recorded then
    let account ← Account.fromRow row
    return (account, roster.accounts)
  else
    let accounts ← upsertOn journal roster { row with recorded } roster.accounts
    let account ← Account.fromRow { row with recorded }
    return (account, accounts)

/-- `Registry::opt_in`. -/
def optIn (address : Address) : Except AccountsError Account × Roster :=
  registryTransaction roster (setRecordedBody journal roster address true)

/-- `Registry::opt_out`. -/
def optOut (address : Address) : Except AccountsError Account × Roster :=
  registryTransaction roster (setRecordedBody journal roster address false)

def retireBody (address : Address) : Except AccountsError (Account × List SubAccount) := do
  checkManaged journal roster address
  let row ← row roster address
  if row.active = false then
    let account ← Account.fromRow row
    return (account, roster.accounts)
  else
    let accounts ← upsertOn journal roster { row with active := false } roster.accounts
    let account ← Account.fromRow { row with active := false }
    return (account, accounts)

/-- `Registry::retire`. -/
def retire (address : Address) : Except AccountsError Account × Roster :=
  registryTransaction roster (retireBody journal roster address)

/-- `Ledger::upsert_sub_account`. -/
def upsertSubAccount (account : SubAccount) : Except AccountsError Unit × Roster :=
  registryTransaction roster ((upsertOn journal roster account roster.accounts).map fun accounts =>
    ((), accounts))

end Transactions

/-- The metadata operations. -/
inductive MetadataOp where
  | provision (address : Address) (name : String) (owner : Owner) (nowMs : Int64)
  | observe (seen : List Discovered) (nowMs : Int64)
  | optIn (address : Address)
  | optOut (address : Address)
  | retire (address : Address)
  | upsert (account : SubAccount)

/-- What a call leaves, and whether it went through. -/
def settled {α : Type} (result : Except AccountsError α × Roster) :
    Except AccountsError Unit × Roster :=
  (result.1.map fun _ => (), result.2)

/-- A metadata operation on a file and its metadata. -/
def MetadataOp.perform (journal : RegistryJournal) (roster : Roster) :
    MetadataOp → Except AccountsError Unit × Roster
  | .provision address name owner nowMs =>
      settled (Accounts.provision journal roster address name owner nowMs)
  | .observe seen nowMs => settled (Accounts.observe journal roster seen nowMs)
  | .optIn address => settled (Accounts.optIn journal roster address)
  | .optOut address => settled (Accounts.optOut journal roster address)
  | .retire address => settled (Accounts.retire journal roster address)
  | .upsert account => upsertSubAccount journal roster account

end Oppen.Accounts
