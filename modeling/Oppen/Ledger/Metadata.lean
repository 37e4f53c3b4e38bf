import Oppen.Ledger.RegistryRuns

/-! # Guarded metadata writes

Writes of the sub-account table that are not the registry's own. Their guard reads the
registry rows without a key and looks only at the address it is asked about.
-/

namespace Oppen.Ledger

open Foundation Oppen.Json Oppen.Guardrail

/-! ## The guard -/

/-- What the guard keeps of a grant. -/
structure ManagedGrant where
  seq : Nat
  container : Address
  hash : String
  retired : Bool
  deriving DecidableEq

/-- The envelope of a lifecycle row: exact and in its place, its MAC not looked at. -/
def inspectEnvelope (event : Event) :
    Except AuthorityError (AuthorityEnvelope RegistryAuthority) :=
  match event.payload with
  | none => .error (.unavailable "registry lifecycle redacted")
  | some payload =>
      match (SignedAuthority.codec registryFormat).ofValue payload with
      | none => .error (.unavailable "malformed registry lifecycle")
      | some signed => do
          let envelope := signed.envelope
          refuseIf (sameValue ((SignedAuthority.codec registryFormat).toValue signed) payload =
              false ∨ isHex64 signed.mac = false)
            (.unavailable "malformed registry signed envelope")
          refuseIf (envelope.version ≠ 1 ∨ envelope.seq ≠ event.seq ∨
              envelope.prevHash ≠ event.prevHash)
            (.unavailable "registry envelope does not match row")
          let tsMs ← registryFormat.timestamp envelope.atMs
          refuseIf (tsMs ≠ event.tsMs ∨ envelope.authority.kind ≠ event.kind ∨
              event.agentId ≠ none ∨ event.snapshotId ≠ none ∨ event.snapshotHash ≠ none)
            (.unavailable "registry envelope does not match row")
          return envelope

/-- What a row does to the grants before it. -/
def inspectAuthority (grants : List ManagedGrant) (event : Event)
    (envelope : AuthorityEnvelope RegistryAuthority) :
    Except AuthorityError (List ManagedGrant) :=
  match envelope.authority with
  | .registryGranted binding => do
      validateBinding binding
      validAt binding envelope.atMs
      return grants ++ [⟨event.seq, binding.container, event.hash, false⟩]
  | .registryRetired bindingSeq bindingHash =>
      match grants.find? fun grant => grant.seq = bindingSeq with
      | none => .error (.unavailable "registry retirement has no grant")
      | some grant => do
          refuseIf (grant.hash ≠ bindingHash ∨ grant.retired = true)
            (.unavailable "invalid registry retirement")
          return grants.map fun grant =>
            if grant.seq = bindingSeq then { grant with retired := true } else grant

/-- One turn of the scan. -/
def inspectRow (lib : Libraries) (grants : List ManagedGrant) (row : Row) :
    Except AuthorityError (List ManagedGrant) := do
  let event ← mapError .ledger (eventFromRow lib row)
  let envelope ← inspectEnvelope event
  inspectAuthority grants event envelope

/-- What the guard answers to an error of its scan. -/
def managedError : AuthorityError → LedgerError
  | .ledger error => error
  | .unavailable _ => .useRegistryJournal

/-- `managed_on`: the address was granted once. -/
def managedOn (lib : Libraries) (db : Db) (address : String) : Result Bool :=
  match Address.parse address with
  | none => .error .useRegistryJournal
  | some requested => do
      let grants ← mapError managedError
        ((db.events.filter registryFormat.isRow).foldlM (inspectRow lib) [])
      return grants.any fun grant => grant.container = requested

/-- `upsert_sub_account_on`. -/
def upsertSubAccountOn (lib : Libraries) (db : Db) (account : SubAccount)
    (accounts : List SubAccount) : Result (List SubAccount) := do
  if ← managedOn lib db account.address then
    match subAccountOn accounts account.address with
    | none => .error .useRegistryJournal
    | some existing =>
        refuseIf (existing.owner ≠ account.owner ∨ existing.active ≠ account.active ∨
            account.recorded = false)
          .useRegistryJournal
  return writeSubAccount account accounts

/-! ## The scan and the replay -/

/-- What the guard sees of a grant. -/
def Grant.managed (grant : Grant) : ManagedGrant :=
  ⟨grant.route.bindingSeq, grant.route.binding.container, grant.hash, grant.retired⟩

section Scan

variable {key : HmacKey} {network : Network} {lib : Libraries} {event : Event}
  {envelope : AuthorityEnvelope RegistryAuthority} {before after : List Grant}

/-- An envelope the replay accepts passes the scan. -/
theorem inspectEnvelope_of_read
    (run : readEnvelope registryFormat key network event = .ok envelope) :
    inspectEnvelope event = .ok envelope := by
  rw [readEnvelope] at run
  rw [inspectEnvelope]
  revert run
  cases event.payload with
  | none => exact nofun
  | some payload =>
      dsimp only
      cases (SignedAuthority.codec registryFormat).ofValue payload with
      | none => exact nofun
      | some signed =>
          intro run
          obtain ⟨_, matched, run⟩ := bind_eq_ok run
          obtain ⟨_, shaped, run⟩ := bind_eq_ok run
          split at run
          · cases run
          · obtain ⟨_, _, run⟩ := bind_eq_ok run
            obtain ⟨_, _, run⟩ := bind_eq_ok run
            obtain ⟨_, placed, run⟩ := bind_eq_ok run
            obtain ⟨tsMs, stamped, run⟩ := bind_eq_ok run
            obtain ⟨_, stated, run⟩ := bind_eq_ok run
            cases run
            have same := refuseIf_ok matched
            have place := refuseIf_ok placed
            simp only [not_or] at place
            have wellFormed : ¬ (sameValue ((SignedAuthority.codec registryFormat).toValue signed)
                payload = false ∨ isHex64 signed.mac = false) := by
              rintro (other | shape)
              · exact same ⟨rfl, other⟩
              · exact refuseIf_ok shaped shape
            have here : ¬ (signed.envelope.version ≠ 1 ∨ signed.envelope.seq ≠ event.seq ∨
                signed.envelope.prevHash ≠ event.prevHash) := by
              simp only [not_or]
              exact ⟨place.1, place.2.2⟩
            have stated : ¬ (tsMs ≠ event.tsMs ∨ signed.envelope.authority.kind ≠ event.kind ∨
                event.agentId ≠ none ∨ event.snapshotId ≠ none ∨ event.snapshotHash ≠ none) :=
              refuseIf_ok stated
            refine (refuse_passes wellFormed).trans ?_
            refine (refuse_passes here).trans ?_
            rw [stamped]
            exact refuse_passes stated

/-- What the replay does with an envelope, the scan does too. -/
theorem inspectAuthority_of_apply {idemKey : Option String}
    (run : applyRegistry network before envelope event idemKey = .ok after) :
    inspectAuthority (before.map Grant.managed) event envelope = .ok (after.map Grant.managed) := by
  rw [applyRegistry] at run
  rw [inspectAuthority]
  revert run
  cases envelope.authority with
  | registryGranted binding =>
      intro run
      obtain ⟨_, valid, run⟩ := bind_eq_ok run
      obtain ⟨_, current, run⟩ := bind_eq_ok run
      obtain ⟨_, _, run⟩ := bind_eq_ok run
      cases run
      simp only [valid, current, bind, Except.bind, pure, Except.pure, List.map_append]
      rfl
  | registryRetired bindingSeq bindingHash =>
      intro run
      dsimp only at run
      split at run
      · cases run
      · rename_i grant found
        obtain ⟨_, linked, run⟩ := bind_eq_ok run
        cases run
        have facts := refuseIf_ok linked
        simp only [not_or] at facts
        have scanned : (before.map Grant.managed).find? (fun held => held.seq = bindingSeq) =
            some grant.managed := by
          rw [List.find?_map]
          exact congrArg (Option.map Grant.managed) found
        have passes : ¬ (grant.managed.hash ≠ bindingHash ∨ grant.managed.retired = true) := by
          rintro (other | gone)
          · exact facts.2.1 other
          · exact facts.1 gone
        simp only [scanned]
        refine (refuse_passes passes).trans (congrArg Except.ok ?_)
        rw [retireAt, List.map_map, List.map_map]
        refine List.map_congr_left fun held _ => ?_
        simp only [Function.comp_apply]
        by_cases here : held.route.bindingSeq = bindingSeq
        · rw [if_pos here, if_pos (show held.managed.seq = bindingSeq from here)]
          rfl
        · rw [if_neg here, if_neg (show ¬ held.managed.seq = bindingSeq from here)]

/-- **The scan of a history that replays** finds its grants. -/
theorem inspectRows_of_replay {rows : List Row}
    (run : rows.foldlM (replayAuthorityRow registryFormat lib key network (applyRegistry network))
      before = .ok after) :
    rows.foldlM (inspectRow lib) (before.map Grant.managed) = .ok (after.map Grant.managed) := by
  induction rows using List.reverseRecOn generalizing after with
  | nil =>
      cases run
      rfl
  | append_singleton rows row ih =>
      obtain ⟨middle, earlier, last⟩ := foldlM_concat_ok_iff.mp run
      refine foldlM_concat_ok_iff.mpr ⟨_, ih earlier, ?_⟩
      obtain ⟨event, stored, last⟩ := bind_eq_ok last
      obtain ⟨envelope, read, last⟩ := bind_eq_ok last
      simp only [inspectRow, stored, inspectEnvelope_of_read read, bind, Except.bind]
      exact inspectAuthority_of_apply last

end Scan

/-! ## What a guarded write keeps -/

/-- No live agent gets an active row at an address other than its container's. -/
def Alone (account : SubAccount) (grants : List Grant) : Prop :=
  ∀ grant ∈ grants, grant.retired = false → account.active = true →
    account.owner = some (registryOwner grant.route.binding) →
      Address.parse account.address = some grant.route.binding.container

/-- The guard of a managed address: its row is there and keeps its owner and its standing. -/
def Guarded (account : SubAccount) (accounts : List SubAccount) (grants : List Grant) : Prop :=
  ∀ grant ∈ grants, Address.parse account.address = some grant.route.binding.container →
    ∃ existing ∈ accounts, existing.address = account.address ∧ existing.owner = account.owner ∧
      existing.active = account.active ∧ account.recorded = true

section Guarding

variable {journal : RegistryJournal} {roster : Roster} {grants : List Grant}
  {account : SubAccount} {accounts written : List SubAccount}

/-- An address is managed exactly if one of the grants has it as its container, retired ones
included. -/
theorem Registered.managedOn (registered : Registered journal roster grants) {text : String}
    {address : Address} (parsed : Address.parse text = some address) :
    managedOn journal.lib roster.store.db text =
      .ok (grants.any fun grant => grant.route.binding.container = address) := by
  have scanned := inspectRows_of_replay registered.rows
  rw [List.map_nil] at scanned
  simp only [Ledger.managedOn, parsed, scanned, mapError, bind, Except.bind, pure, Except.pure,
    List.any_map]
  rfl

/-- What a guarded write does. -/
theorem Registered.upsert_ok (registered : Registered journal roster grants)
    (run : upsertSubAccountOn journal.lib roster.store.db account accounts = .ok written) :
    written = writeSubAccount account accounts ∧ Guarded account accounts grants ∧
      ∃ address, Address.parse account.address = some address := by
  cases parsed : Address.parse account.address with
  | none =>
      simp only [upsertSubAccountOn, Ledger.managedOn, parsed, bind, Except.bind] at run
      cases run
  | some address =>
      obtain ⟨managed, scanned, run⟩ := bind_eq_ok run
      rw [registered.managedOn parsed] at scanned
      obtain rfl := Except.ok.inj scanned
      split at run
      · rename_i granted
        split at run
        · cases run
        · rename_i existing found
          obtain ⟨_, kept, run⟩ := bind_eq_ok run
          cases run
          have facts := refuseIf_ok kept
          simp only [not_or, not_not, Bool.not_eq_false] at facts
          have here : existing.address = account.address := by simpa using List.find?_some found
          exact ⟨rfl, fun _ _ _ => ⟨existing, List.mem_of_find?_eq_some found, here, facts⟩,
            address, rfl⟩
      · rename_i free
        cases run
        refine ⟨rfl, fun grant member same => ?_, address, rfl⟩
        refine absurd (List.any_eq_true.mpr ⟨grant, member, decide_eq_true ?_⟩) free
        exact (Option.some.inj (parsed.symm.trans same)).symm

/-- **A guarded write keeps the projection exactly when** its address has no other spelling in
the table and it gives no live agent a second active row. -/
theorem Projects.write_iff (projects : Projects accounts grants) {address : Address}
    (parsed : Address.parse account.address = some address)
    (guarded : Guarded account accounts grants) :
    Projects (writeSubAccount account accounts) grants ↔
      Unaliased accounts account ∧ Alone account grants := by
  constructor
  · intro after
    refine ⟨after.table.unaliased_of_write, fun grant member live active owned => ?_⟩
    obtain ⟨createdTsMs, inside⟩ := written_mem account accounts
    exact (after.showsGrant grant member).alone live
      { account with createdTsMs } inside active owned
  · rintro ⟨unaliased, alone⟩
    refine ⟨projects.table.write parsed unaliased, fun grant member => ?_⟩
    refine (projects.showsGrant grant member).write (fun same => ?_) (alone grant member)
    obtain ⟨existing, held, here, owner, active, recorded⟩ := guarded grant member same
    obtain ⟨row, inside, shown, owned, standing, _⟩ := (projects.showsGrant grant member).row
    obtain rfl : row = existing := by
      refine projects.table.eq_of_parse inside held (shown.trans ?_)
      rw [here]
      exact same.symm
    exact ⟨owner.symm.trans owned, active.symm.trans standing, recorded⟩

end Guarding

end Oppen.Ledger
