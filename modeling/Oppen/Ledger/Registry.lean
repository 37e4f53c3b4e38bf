import Oppen.Ledger.Authority

/-! # The registry journal

Operator grants of a container and a wallet to an agent. A grant is a signed row; the table
of sub-accounts beside it is metadata, rewritten in the same transaction and held against
the signed history by every replay.
-/

namespace Oppen.Ledger

open Foundation Oppen.Json Oppen.Guardrail

/-! ## Sub-accounts -/

inductive OwnerType where
  | agent
  | workflow
  deriving DecidableEq, Repr

structure Owner where
  ownerType : OwnerType
  ownerId : String
  deriving DecidableEq, Repr

/-- A row of `sub_accounts`. -/
structure SubAccount where
  address : String
  name : String
  owner : Option Owner
  recorded : Bool
  provisionedByOppen : Bool
  active : Bool
  createdTsMs : Int64
  deriving DecidableEq, Repr

/-- Keep a row where its primary key belongs. -/
def insertSubAccount (account : SubAccount) : List SubAccount → List SubAccount
  | [] => [account]
  | held :: rest =>
      if codes account.address < codes held.address then account :: held :: rest
      else held :: insertSubAccount account rest

/-- `write_sub_account_on`: insert the row, or update the one with its key, which keeps when
it was created. -/
def writeSubAccount (account : SubAccount) (accounts : List SubAccount) : List SubAccount :=
  if accounts.any fun held => held.address = account.address then
    accounts.map fun held =>
      if held.address = account.address then { account with createdTsMs := held.createdTsMs }
      else held
  else insertSubAccount account accounts

/-- `sub_account_on`. -/
def subAccountOn (accounts : List SubAccount) (address : String) : Option SubAccount :=
  accounts.find? fun held => held.address = address

/-- The ledger file and the metadata table in it. The metadata has no chain, so what it says is
believed only as far as the grants bear it out. -/
structure Roster where
  store : Store
  accounts : List SubAccount

/-! ## Grants -/

/-- `MAX_GENERATION`. -/
def maxGeneration : Nat := 1024

inductive RegistryAuthority where
  | registryGranted (binding : RegistryBinding)
  | registryRetired (bindingSeq : Nat) (bindingHash : String)
  deriving DecidableEq

/-- `Authority::kind`. -/
def RegistryAuthority.kind : RegistryAuthority → EventKind
  | .registryGranted _ => .registryGranted
  | .registryRetired .. => .registryRetired

def RegistryBinding.codec : Codec RegistryBinding where
  toValue := RegistryBinding.toValue
  ofValue := bindingOfValue
  Fits binding := walletFits binding.wallet
  depth := 2
  ofValue_sorted fits := bindingOfValue_sorted fits
  nesting_le binding := by
    obtain ⟨agent, container, vaultAddress, wallet⟩ := binding
    cases vaultAddress <;> exact le_rfl
  ne_null _ := nofun

def RegistryAuthority.codec : Codec RegistryAuthority :=
  ((Variants.one true "kind" "registry_granted" (.required "binding" RegistryBinding.codec .nil)
      (by decide)).or
    (.one true "kind" "registry_retired"
      (.required "binding_seq" .natural <| .required "binding_hash" .text .nil) (by decide))
    (by decide)).toCodec.as
    (fun
      | .registryGranted binding => .inl (binding, ())
      | .registryRetired bindingSeq bindingHash => .inr (bindingSeq, bindingHash, ()))
    (fun
      | .inl (binding, _) => .registryGranted binding
      | .inr (bindingSeq, bindingHash, _) => .registryRetired bindingSeq bindingHash)
    (by rintro (_ | _) <;> rfl)

/-- The rows of the registry. -/
def registryFormat : AuthorityFormat RegistryAuthority where
  domain := "oppen.registry-authority.v1"
  codec := RegistryAuthority.codec
  shallow := by simp [RegistryAuthority.codec, RegistryBinding.codec]
  kind := RegistryAuthority.kind
  kinds := [.registryGranted, .registryRetired]
  mem_kinds := by
    rintro (_ | _)
    · exact List.mem_cons_self ..
    · exact List.mem_cons_of_mem _ (List.mem_cons_self ..)
  journaled := by decide
  outOfRange := "registry timestamp out of range"
  unanchored := "registry authority requires an anchored ledger"
  anchorless := "registry anchor missing"
  broken := "registry chain broken"
  redacted := "required registry authority history redacted"
  malformed := "malformed registry authority payload"
  inexact := some "noncanonical or unknown registry authority fields"
  badMac := "registry MAC is not canonical 32-byte hex"
  undecodable := "invalid registry MAC"
  mismatch := "registry authority MAC mismatch"
  misplaced := "registry authority envelope does not match its chain row"

/-- A binding that cannot route. -/
def Unroutable (binding : RegistryBinding) : Prop :=
  binding.container = .zero ∨ binding.wallet.address = .zero ∨
    binding.wallet.address = binding.container ∨
    (∃ vault ∈ binding.vaultAddress, vault ≠ binding.container) ∨
    maxGeneration < binding.wallet.generation ∨
    binding.wallet.validUntilMs ≤ binding.wallet.approvedAtMs

instance (binding : RegistryBinding) : Decidable (Unroutable binding) :=
  inferInstanceAs (Decidable (_ ∨ _))

/-- `timestamp`, of a time kept as a number. -/
def checkTimestamp (atMs : Nat) : Except AuthorityError Unit :=
  refuseIf (2 ^ 63 ≤ atMs) (.unavailable registryFormat.outOfRange)

/-- `validate_binding`. -/
def validateBinding (binding : RegistryBinding) : Except AuthorityError Unit := do
  mapError (fun _ => .unavailable "invalid registry agent identifier")
    (checkedAgentId binding.agent)
  refuseIf (Unroutable binding) (.unavailable "invalid registry container, vault, or wallet")
  checkTimestamp binding.wallet.approvedAtMs
  checkTimestamp binding.wallet.validUntilMs

/-- `valid_at`. -/
def validAt (binding : RegistryBinding) (atMs : UInt64) : Except AuthorityError Unit := do
  checkTimestamp atMs.toNat
  refuseIf (atMs.toNat < binding.wallet.approvedAtMs ∨ binding.wallet.validUntilMs ≤ atMs.toNat)
    (.unavailable "authorized wallet is not valid at this time")

/-- A grant, as its row and the rows after it leave it. -/
structure Grant where
  route : AuthorizedRoute
  hash : String
  atMs : UInt64
  retired : Bool
  deriving DecidableEq

/-- `registry_owner`. -/
def registryOwner (binding : RegistryBinding) : Owner := ⟨.agent, binding.agent⟩

/-- The grant of a row. -/
def grantAt (grants : List Grant) (seq : Nat) : Option Grant :=
  grants.find? fun grant => grant.route.bindingSeq = seq

/-- The grant of a row retired. -/
def retireAt (grants : List Grant) (seq : Nat) : List Grant :=
  grants.map fun grant =>
    if grant.route.bindingSeq = seq then { grant with retired := true } else grant

/-- The key of a grant: a container is granted once. -/
def containerKey (container : Address) : String := "registry_container:" ++ container.display

/-- The key of a retirement: a grant is retired once. -/
def retiredKey (bindingSeq : Nat) : String := "registry_retired:" ++ toString bindingSeq

/-- What the binding of a new grant may not share with an earlier one: the container and the
signer for ever, the agent while it is live. -/
def Grant.Clashes (grant : Grant) (binding : RegistryBinding) : Prop :=
  grant.route.binding.container = binding.container ∨
    grant.route.binding.wallet.address = binding.wallet.address ∨
    grant.retired = false ∧ grant.route.binding.agent = binding.agent

instance (grant : Grant) (binding : RegistryBinding) : Decidable (grant.Clashes binding) :=
  inferInstanceAs (Decidable (_ ∨ _))

/-- What an envelope does to the grants before it. -/
def applyRegistry (network : Network) (grants : List Grant)
    (envelope : AuthorityEnvelope RegistryAuthority) (event : Event) (idemKey : Option String) :
    Except AuthorityError (List Grant) :=
  match envelope.authority with
  | .registryGranted binding => do
      validateBinding binding
      validAt binding envelope.atMs
      refuseIf ((∃ grant ∈ grants, grant.Clashes binding) ∨
          idemKey ≠ some (containerKey binding.container))
        (.unavailable "duplicate registry agent, container, signer, or invalid grant key")
      return grants ++ [⟨⟨network, event.seq, binding⟩, event.hash, envelope.atMs, false⟩]
  | .registryRetired bindingSeq bindingHash =>
      match grantAt grants bindingSeq with
      | none => .error (.unavailable "registry retirement without earlier grant")
      | some grant => do
          refuseIf (grant.retired = true ∨ grant.hash ≠ bindingHash ∨ envelope.atMs < grant.atMs ∨
              idemKey ≠ some (retiredKey bindingSeq))
            (.unavailable "invalid registry retirement linkage")
          return retireAt grants bindingSeq

/-! ## The projection -/

/-- `projection_accounts`: the table by parsed address. -/
def projectionAccounts : List SubAccount → Except AuthorityError (List (Address × SubAccount))
  | [] => .ok []
  | account :: rest =>
      match Address.parse account.address with
      | none => .error (.unavailable "invalid registry metadata address")
      | some address => do
          let others ← projectionAccounts rest
          refuseIf (∃ other ∈ others, other.1 = address)
            (.unavailable "duplicate registry metadata address aliases")
          return (address, account) :: others

/-- The row of an address. -/
def projected (accounts : List (Address × SubAccount)) (address : Address) : Option SubAccount :=
  (accounts.find? fun held => held.1 = address).map Prod.snd

/-- An active row of that owner at another address. -/
def Ambiguous (accounts : List (Address × SubAccount)) (owner : Owner) (address : Address) : Prop :=
  ∃ held ∈ accounts, held.2.active = true ∧ held.2.owner = some owner ∧ held.1 ≠ address

instance (accounts : List (Address × SubAccount)) (owner : Owner) (address : Address) :
    Decidable (Ambiguous accounts owner address) :=
  inferInstanceAs (Decidable (∃ _ ∈ _, _))

/-- What `validate_projection` checks of one grant. -/
def checkProjection (accounts : List (Address × SubAccount)) (grant : Grant) :
    Except AuthorityError Unit := do
  let owner := registryOwner grant.route.binding
  let address := grant.route.binding.container
  match projected accounts address with
  | none => .error (.unavailable "authenticated registry projection missing")
  | some projection => do
      refuseIf (projection.owner ≠ some owner ∨ projection.active = grant.retired ∨
          projection.recorded = false)
        (.unavailable ("registry projection owner, active, or recording flag contradicts " ++
          "authenticated history"))
      refuseIf (grant.retired = false ∧ Ambiguous accounts owner address)
        (.unavailable "ambiguous active agent metadata contradicts registry authority")

/-- `validate_projection`. -/
def validateProjection (accounts : List SubAccount) (grants : List Grant) :
    Except AuthorityError Unit := do
  let accounts ← projectionAccounts accounts
  grants.forM (checkProjection accounts)

/-! ## The journal -/

/-- The journal of one process. -/
structure RegistryJournal where
  lib : Libraries
  handle : Handle
  key : HmacKey

section Journal

variable (journal : RegistryJournal)

/-- The grants the rows of a table say. -/
def registryRows (db : Db) : Except AuthorityError (List Grant) :=
  authorityRows registryFormat journal.lib journal.key journal.handle.network
    (applyRegistry journal.handle.network) [] db

/-- `replay`. -/
def registryReplay (roster : Roster) : Except AuthorityError (List Grant) := do
  authorityChain registryFormat journal.lib journal.handle roster.store
  let grants ← registryRows journal roster.store.db
  validateProjection roster.accounts grants
  return grants

/-- `publish_verified_head`: nothing to write, but the head to publish. -/
def verifiedHead {α : Type} (value : α) (roster : Roster) :
    Except AuthorityError (Committed α × List SubAccount) := do
  let (seq, hash) ← mapError .ledger (head roster.store.db)
  return (⟨value, roster.store.db, some ⟨seq, hash⟩⟩, roster.accounts)

/-- The metadata row of a new grant: the legacy one of that container, or a new one. -/
def grantedProjection (binding : RegistryBinding) (atMs : UInt64) :
    Option SubAccount → Except AuthorityError SubAccount
  | some account => do
      refuseIf (account.active = false ∨
          ∃ existing ∈ account.owner, existing ≠ registryOwner binding)
        (.unavailable "legacy container is retired or owned by another identity")
      return { account with owner := some (registryOwner binding), recorded := true }
  | none => do
      let tsMs ← registryFormat.timestamp atMs
      return {
        address := binding.container.display, name := binding.agent
        owner := some (registryOwner binding), recorded := true, provisionedByOppen := false
        active := true, createdTsMs := tsMs }

/-- The transaction of `grant`. -/
def grantBody (binding : RegistryBinding) (atMs : UInt64) (roster : Roster) :
    Except AuthorityError (Committed AuthorizedRoute × List SubAccount) := do
  validateBinding binding
  validAt binding atMs
  let grants ← registryReplay journal roster
  match grants.find? fun grant => grant.retired = false && grant.route.binding = binding with
  | some existing => verifiedHead existing.route roster
  | none => do
      refuseIf (∃ grant ∈ grants, grant.Clashes binding)
        (.unavailable "registry agent is live or container/signer was previously granted")
      let accounts ← projectionAccounts roster.accounts
      refuseIf (Ambiguous accounts (registryOwner binding) binding.container)
        (.unavailable "legacy active agent metadata names another container")
      let projection ← grantedProjection binding atMs (projected accounts binding.container)
      let (appended, db) ← appendAuthority registryFormat journal.lib journal.handle journal.key
        roster.store.db (.registryGranted binding) atMs (containerKey binding.container)
        "registry grant key without authenticated grant"
      return (⟨⟨journal.handle.network, appended.seq, binding⟩, db, some appended⟩,
        writeSubAccount projection roster.accounts)

/-- The transaction of `retire`. -/
def retireBody (route : AuthorizedRoute) (atMs : UInt64) (roster : Roster) :
    Except AuthorityError (Committed Bool × List SubAccount) := do
  refuseIf (route.network ≠ journal.handle.network)
    (.unavailable "registry route belongs to another network")
  let _ ← registryFormat.timestamp atMs
  let grants ← registryReplay journal roster
  match (grantAt grants route.bindingSeq).filter fun grant => grant.route = route with
  | none =>
      .error (.unavailable "registry retirement does not identify an authenticated grant")
  | some grant =>
      if grant.retired = true then verifiedHead false roster
      else do
        refuseIf (atMs < grant.atMs) (.unavailable "registry retirement precedes its grant")
        let accounts ← projectionAccounts roster.accounts
        match projected accounts route.binding.container with
        | none => .error (.unavailable "registry projection missing")
        | some projection => do
            let (appended, db) ← appendAuthority registryFormat journal.lib journal.handle
              journal.key roster.store.db (.registryRetired route.bindingSeq grant.hash) atMs
              (retiredKey route.bindingSeq)
              "registry retirement key without authenticated retirement"
            return (⟨true, db, some appended⟩,
              writeSubAccount { projection with active := false } roster.accounts)

/-- Run a transaction on the file and its metadata. -/
def transactRoster {α : Type} (publish : Bool) (roster : Roster)
    (body : Except AuthorityError (Committed α × List SubAccount)) :
    Except AuthorityError α × Roster :=
  match body with
  | .error error => (.error error, roster)
  | .ok (done, accounts) =>
      let (answer, store) := transact journal.handle publish .ledger roster.store (.ok done)
      (answer, ⟨store, accounts⟩)

/-- `RegistryJournal::grant`. -/
def grant (publish : Bool) (binding : RegistryBinding) (atMs : UInt64) (roster : Roster) :
    Except AuthorityError AuthorizedRoute × Roster :=
  transactRoster journal publish roster (grantBody journal binding atMs roster)

/-- `RegistryJournal::retire`. -/
def retire (publish : Bool) (route : AuthorizedRoute) (atMs : UInt64) (roster : Roster) :
    Except AuthorityError Bool × Roster :=
  transactRoster journal publish roster (retireBody journal route atMs roster)

/-- `optional_route_in`. -/
def optionalRoute (roster : Roster) (agent : String) :
    Except AuthorityError (Option AuthorizedRoute) := do
  let grants ← registryReplay journal roster
  return (grants.find? fun grant => grant.retired = false && grant.route.binding.agent = agent).map
    Grant.route

/-- `active_routes_in`. -/
def activeRoutes (roster : Roster) : Except AuthorityError (List AuthorizedRoute) := do
  let grants ← registryReplay journal roster
  return (grants.filter fun grant => !grant.retired).map Grant.route

/-- `verify_route_in`. -/
def verifyRoute (roster : Roster) (expected : AuthorizedRoute) (signer : Address) :
    Except AuthorityError Unit := do
  match ← optionalRoute journal roster expected.binding.agent with
  | none => .error (.unavailable "agent has no live authenticated registry route")
  | some current =>
      refuseIf (current ≠ expected ∨ signer ≠ current.binding.wallet.address)
        (.unavailable "signer route does not match live registry authority")

end Journal

end Oppen.Ledger
