import Oppen.Ledger.Projection

/-! # Grants in every run

The writer and the replay of the registry check a grant in different code. What one commits
the other accepts, with the metadata row written beside it.
-/

namespace Oppen.Ledger

open Foundation Oppen.Json Oppen.Guardrail

/-! ## Sound grants -/

/-- Containers and signers are granted once, agents once at a time. -/
structure SoundGrants (network : Network) (length : Nat) (grants : List Grant) : Prop where
  seqs : (grants.map fun grant => grant.route.bindingSeq).Nodup
  bounded : ∀ grant ∈ grants, grant.route.bindingSeq ≤ length
  network : ∀ grant ∈ grants, grant.route.network = network
  containers : (grants.map fun grant => grant.route.binding.container).Nodup
  signers : (grants.map fun grant => grant.route.binding.wallet.address).Nodup
  agents : ((grants.filter fun grant => !grant.retired).map fun grant =>
    grant.route.binding.agent).Nodup

section Grants

variable {network : Network} {length : Nat} {grants : List Grant} {grant new : Grant}

/-- An empty registry is sound. -/
theorem SoundGrants.nil : SoundGrants network length [] :=
  ⟨.nil, fun _ member => absurd member List.not_mem_nil,
    fun _ member => absurd member List.not_mem_nil, .nil, .nil, .nil⟩

/-- A distinct image at the end of a list. -/
theorem nodup_concat_map {β : Type} {image : Grant → β} (distinct : (grants.map image).Nodup)
    (fresh : ∀ grant ∈ grants, image grant ≠ image new) : ((grants ++ [new]).map image).Nodup := by
  rw [List.map_append]
  refine List.nodup_append.mpr ⟨distinct, List.nodup_singleton _, ?_⟩
  intro value member other last
  obtain ⟨held, inside, rfl⟩ := List.mem_map.mp member
  obtain rfl := List.mem_singleton.mp last
  exact fresh held inside

/-- A registry stays sound when a grant is added that clashes with no live one. -/
theorem SoundGrants.granted (sound : SoundGrants network length grants)
    (clear : ∀ grant ∈ grants, ¬ grant.Clashes new.route.binding)
    (position : new.route.bindingSeq = length + 1) (owned : new.route.network = network)
    (live : new.retired = false) : SoundGrants network (length + 1) (grants ++ [new]) where
  seqs := nodup_concat_map sound.seqs fun grant member same => by
    have within := sound.bounded grant member
    omega
  bounded grant member := by
    rcases List.mem_append.mp member with older | last
    · exact (sound.bounded grant older).trans (Nat.le_succ _)
    · rw [List.mem_singleton.mp last]
      exact position.le
  network grant member := by
    rcases List.mem_append.mp member with older | last
    · exact sound.network grant older
    · rw [List.mem_singleton.mp last]
      exact owned
  containers := nodup_concat_map sound.containers fun grant member same =>
    clear grant member (.inl same)
  signers := nodup_concat_map sound.signers fun grant member same =>
    clear grant member (.inr (.inl same))
  agents := by
    rw [List.filter_append, List.filter_cons_of_pos (by rw [live]; rfl), List.filter_nil]
    refine nodup_concat_map sound.agents fun grant member same => ?_
    obtain ⟨inside, active⟩ := List.mem_filter.mp member
    rw [Bool.not_eq_true'] at active
    exact clear grant inside (.inr (.inr ⟨active, same⟩))

/-- Retiring a grant keeps its route. -/
theorem map_retireAt {β : Type} (image : AuthorizedRoute → β) (grants : List Grant) (seq : Nat) :
    (retireAt grants seq).map (fun grant => image grant.route) =
      grants.map fun grant => image grant.route := by
  rw [retireAt, List.map_map]
  refine List.map_congr_left fun grant _ => ?_
  simp only [Function.comp_apply]
  split <;> rfl

/-- The grants after a retirement are the others as they were, and the one that was retired. -/
theorem mem_retireAt {seq : Nat} : grant ∈ retireAt grants seq ↔
    (grant ∈ grants ∧ grant.route.bindingSeq ≠ seq) ∨
      ∃ held ∈ grants, held.route.bindingSeq = seq ∧ grant = { held with retired := true } := by
  constructor
  · intro member
    obtain ⟨held, inside, rfl⟩ := List.mem_map.mp member
    split
    · rename_i here
      exact .inr ⟨held, inside, here, rfl⟩
    · rename_i other
      exact .inl ⟨inside, other⟩
  · rintro (⟨inside, other⟩ | ⟨held, inside, here, rfl⟩)
    · exact List.mem_map.mpr ⟨grant, inside, if_neg other⟩
    · exact List.mem_map.mpr ⟨held, inside, if_pos here⟩

/-- A registry stays sound when a grant is retired. -/
theorem SoundGrants.retired (sound : SoundGrants network length grants) (seq : Nat) :
    SoundGrants network (length + 1) (retireAt grants seq) where
  seqs := by
    rw [map_retireAt fun route => route.bindingSeq]
    exact sound.seqs
  bounded grant member := by
    rcases mem_retireAt.mp member with ⟨older, _⟩ | ⟨held, older, _, rfl⟩
    · exact (sound.bounded grant older).trans (Nat.le_succ _)
    · exact (sound.bounded held older).trans (Nat.le_succ _)
  network grant member := by
    rcases mem_retireAt.mp member with ⟨older, _⟩ | ⟨held, older, _, rfl⟩
    · exact sound.network grant older
    · exact sound.network held older
  containers := by
    rw [map_retireAt fun route => route.binding.container]
    exact sound.containers
  signers := by
    rw [map_retireAt fun route => route.binding.wallet.address]
    exact sound.signers
  agents := by
    have fewer : (((retireAt grants seq).filter fun grant => !grant.retired).map fun grant =>
        grant.route.binding.agent).Sublist
          ((grants.filter fun grant => !grant.retired).map fun grant =>
            grant.route.binding.agent) := by
      clear sound
      induction grants with
      | nil => exact .slnil
      | cons first rest ih =>
          rw [retireAt, List.map_cons]
          change (((_ :: retireAt rest seq).filter _).map _).Sublist _
          by_cases here : first.route.bindingSeq = seq
          · rw [if_pos here, List.filter_cons_of_neg Bool.false_ne_true]
            exact ih.trans (((List.sublist_cons_self first rest).filter _).map _)
          · rw [if_neg here]
            cases live : !first.retired with
            | true =>
                simp only [List.filter_cons, live, if_true, List.map_cons]
                exact ih.cons_cons _
            | false =>
                simp only [List.filter_cons, live, Bool.false_eq_true, if_false]
                exact ih
    exact sound.agents.sublist fewer

/-- The grant that is found at a position is one of the registry's. -/
theorem grantAt_mem {seq : Nat} (found : grantAt grants seq = some grant) :
    grant ∈ grants ∧ grant.route.bindingSeq = seq :=
  ⟨List.mem_of_find?_eq_some found, by simpa using List.find?_some found⟩

end Grants

/-! ## What the transactions commit -/

/-- The grants of a file, and the table that shows them. -/
structure Registered (journal : RegistryJournal) (roster : Roster)
    (grants : List Grant) : Prop where
  rows : registryRows journal roster.store.db = .ok grants
  sound : SoundGrants journal.handle.network roster.store.db.events.length grants
  projects : Projects roster.accounts grants

section Journal

variable {journal : RegistryJournal} {roster : Roster} {grants : List Grant} {behind : Nat}

/-- A binding that is valid can be written. -/
theorem validateBinding_fits {binding : RegistryBinding} (run : validateBinding binding = .ok ()) :
    RegistryAuthority.codec.Fits (.registryGranted binding) := by
  obtain ⟨_, _, run⟩ := bind_eq_ok run
  obtain ⟨_, routable, run⟩ := bind_eq_ok run
  obtain ⟨_, approved, run⟩ := bind_eq_ok run
  have sound := refuseIf_ok routable
  have early := refuseIf_ok approved
  have late := refuseIf_ok run
  simp only [Unroutable, not_or, maxGeneration] at sound
  have small : binding.wallet.generation < 2 ^ 32 ∧ binding.wallet.approvedAtMs < 2 ^ 64 ∧
      binding.wallet.validUntilMs < 2 ^ 64 := by omega
  exact ⟨small, trivial⟩

/-- A retirement that is replayed retires the grant it names. -/
theorem applyRegistry_retired {network : Network} {envelope : AuthorityEnvelope RegistryAuthority}
    {event : Event} {idemKey : Option String} {seq : Nat} {hash : String} {grant : Grant}
    (found : grantAt grants seq = some grant)
    (retires : envelope.authority = .registryRetired seq hash)
    (linked : ¬ (grant.retired = true ∨ grant.hash ≠ hash ∨ envelope.atMs < grant.atMs ∨
      idemKey ≠ some (retiredKey seq))) :
    applyRegistry network grants envelope event idemKey = .ok (retireAt grants seq) := by
  simp only [applyRegistry, retires, found, refuseIf, if_neg linked, bind, Except.bind, pure,
    Except.pure]

/-- A replay that goes through gives the grants of the rows. -/
theorem Registered.of_replay (registered : Registered journal roster grants) {read : List Grant}
    (run : registryReplay journal roster = .ok read) : read = grants := by
  obtain ⟨_, _, run⟩ := bind_eq_ok run
  obtain ⟨held, rows, run⟩ := bind_eq_ok run
  obtain ⟨_, _, run⟩ := bind_eq_ok run
  cases run
  rw [registered.rows] at rows
  exact (Except.ok.inj rows).symm

/-- **The replay accepts a registered file exactly when its anchor is recent.** -/
theorem Registered.replay_iff (registered : Registered journal roster grants)
    (tracks : Tracks journal.lib journal.handle behind roster.store)
    (anchored : journal.handle.anchored = true) :
    registryReplay journal roster = .ok grants ↔ behind ≤ 1 := by
  rw [← tracks.authorityChain_iff registryFormat anchored]
  constructor
  · intro run
    obtain ⟨_, chain, _⟩ := bind_eq_ok run
    exact chain
  · intro chain
    have projected := validateProjection_iff.mpr registered.projects
    simp only [registryReplay, chain, registered.rows, projected, bind, Except.bind, pure,
      Except.pure]

/-- A value that was answered without a write leaves the store as it was. -/
theorem verifiedHead_ok {α : Type} {value : α} {done : Committed α} {accounts : List SubAccount}
    (tracks : Tracks journal.lib journal.handle behind roster.store)
    (run : verifiedHead value roster = .ok (done, accounts)) :
    done = ⟨value, roster.store.db, some (headAt journal.lib journal.handle roster.store.db)⟩ ∧
      accounts = roster.accounts := by
  obtain ⟨⟨seq, hash⟩, found, run⟩ := bind_eq_ok run
  have head := mapError_eq_ok found
  rw [tracks.consistent.headed.head_eq] at head
  cases head
  cases run
  exact ⟨rfl, rfl⟩

/-- What a file of one more row holds. -/
theorem Registered.appended (registered : Registered journal roster grants)
    {authority : RegistryAuthority} {atMs : UInt64} {idemKey : String} {appended : Appended}
    {grown : Db} {store : Store} {next : List Grant} {accounts : List SubAccount}
    (authorises : Authorises registryFormat journal.lib journal.handle journal.key
      roster.store.db authority atMs idemKey appended grown)
    (tables : store.db = grown) (fits : RegistryAuthority.codec.Fits authority)
    (applies : ∀ event : Event, event.seq = roster.store.db.events.length + 1 →
      event.hash = appended.hash → applyRegistry journal.handle.network grants
        (authorityAt journal.lib journal.handle roster.store.db authority atMs) event
        (some idemKey) = .ok next)
    (sound : SoundGrants journal.handle.network (roster.store.db.events.length + 1) next)
    (projects : Projects accounts next) : Registered journal ⟨store, accounts⟩ next where
  rows := by
    change registryRows journal store.db = _
    rw [tables]
    exact authorises.replays fits registered.rows applies
  sound := by
    change SoundGrants _ store.db.events.length next
    rw [tables, authorises.length.1]
    exact sound
  projects := projects

/-- The metadata row of a new grant shows it, and every earlier grant. -/
theorem Projects.granted {binding : RegistryBinding} {atMs : UInt64} {new : Grant}
    {pairs : List (Address × SubAccount)} {projection : SubAccount}
    {accounts : List SubAccount} (projects : Projects accounts grants)
    (read : projectionAccounts accounts = .ok pairs)
    (clear : ∀ grant ∈ grants, ¬ grant.Clashes binding)
    (unambiguous : ¬ Ambiguous pairs (registryOwner binding) binding.container)
    (made : grantedProjection binding atMs (projected pairs binding.container) = .ok projection)
    (bound : new.route.binding = binding) (live : new.retired = false) :
    Projects (writeSubAccount projection accounts) (grants ++ [new]) := by
  obtain ⟨parsed, owned, recorded, active, unaliased⟩ :
      Address.parse projection.address = some binding.container ∧
        projection.owner = some (registryOwner binding) ∧ projection.recorded = true ∧
        projection.active = true ∧ Unaliased accounts projection := by
    cases found : projected pairs binding.container with
    | none =>
        rw [found] at made
        obtain ⟨tsMs, _, made⟩ := bind_eq_ok made
        cases made
        refine ⟨Address.parse_display _, rfl, rfl, rfl, fun row member same => ?_⟩
        rw [Address.parse_display] at same
        rw [(projected_eq_some read).mpr ⟨member, same⟩] at found
        cases found
    | some account =>
        obtain ⟨member, parsed⟩ := (projected_eq_some read).mp found
        rw [found] at made
        obtain ⟨_, fit, made⟩ := bind_eq_ok made
        cases made
        have usable := refuseIf_ok fit
        rw [not_or, Bool.not_eq_false] at usable
        refine ⟨parsed, rfl, rfl, usable.1, fun row inside same => ?_⟩
        rw [projects.table.eq_of_parse inside member same]
  refine ⟨projects.table.write parsed unaliased, fun grant member => ?_⟩
  rcases List.mem_append.mp member with older | last
  · refine (projects.showsGrant grant older).write (fun same => ?_) fun active' _ same => ?_
    · rw [parsed] at same
      exact absurd (.inl (Option.some.inj same).symm) (clear grant older)
    · rw [owned] at same
      have agent := congrArg Owner.ownerId (Option.some.inj same)
      exact absurd (.inr (.inr ⟨active', agent.symm⟩)) (clear grant older)
  · obtain rfl := List.mem_singleton.mp last
    refine Shows.written (by rw [bound]; exact parsed) (by rw [bound]; exact owned)
      (by rw [live]; exact active) recorded fun _ row inside active' owner => ?_
    rw [bound] at owner ⊢
    by_contra other
    exact unambiguous ((ambiguous_iff read).mpr ⟨row, inside, active', owner, other⟩)

/-- The row of a retired container shows its grant retired, and every other grant. -/
theorem Projects.retired {grant : Grant} {projection : SubAccount} {accounts : List SubAccount}
    {pairs : List (Address × SubAccount)} {network : Network} {length : Nat}
    (projects : Projects accounts grants) (sound : SoundGrants network length grants)
    (read : projectionAccounts accounts = .ok pairs) (member : grant ∈ grants)
    (found : projected pairs grant.route.binding.container = some projection) :
    Projects (writeSubAccount { projection with active := false } accounts)
      (retireAt grants grant.route.bindingSeq) := by
  obtain ⟨inside, parsed⟩ := (projected_eq_some read).mp found
  have unaliased : Unaliased accounts { projection with active := false } := fun row here same => by
    rw [projects.table.eq_of_parse here inside same]
  obtain ⟨row, there, parsed', owned, _, recorded⟩ := (projects.showsGrant grant member).row
  obtain rfl := projects.table.eq_of_parse there inside (parsed'.trans parsed.symm)
  refine ⟨projects.table.write parsed unaliased, fun other shown => ?_⟩
  rcases mem_retireAt.mp shown with ⟨older, elsewhere⟩ | ⟨held, older, here, rfl⟩
  · refine (projects.showsGrant other older).write (fun same => ?_) fun _ => nofun
    rw [parsed] at same
    have one := List.inj_on_of_nodup_map sound.containers older member (Option.some.inj same).symm
    rw [one] at elsewhere
    exact absurd rfl elsewhere
  · obtain rfl := List.inj_on_of_nodup_map sound.seqs older member here
    exact Shows.written parsed owned rfl recorded nofun

/-- What a committed grant did: it found itself live, or added a grant that clashes with
none. -/
theorem Registered.grantBody (registered : Registered journal roster grants)
    (tracks : Tracks journal.lib journal.handle behind roster.store) {binding : RegistryBinding}
    {atMs : UInt64} {done : Committed AuthorizedRoute} {accounts : List SubAccount}
    (run : grantBody journal binding atMs roster = .ok (done, accounts)) :
    Settles journal.lib journal.handle roster.store.db (fun _ _ => True) done.noted done.db ∧
      ((∃ existing ∈ grants, existing.retired = false ∧ existing.route.binding = binding ∧
        done.value = existing.route ∧ done.db = roster.store.db ∧ accounts = roster.accounts) ∨
      ∃ new : Grant, new.retired = false ∧ new.route.binding = binding ∧ done.value = new.route ∧
        (∀ grant ∈ grants, ¬ grant.Clashes binding) ∧
        done.db.events.length = roster.store.db.events.length + 1 ∧
        ∀ store : Store, store.db = done.db →
          Registered journal ⟨store, accounts⟩ (grants ++ [new])) := by
  obtain ⟨_, valid, run⟩ := bind_eq_ok run
  obtain ⟨_, current, run⟩ := bind_eq_ok run
  obtain ⟨read, replayed, run⟩ := bind_eq_ok run
  obtain rfl := registered.of_replay replayed
  split at run
  · rename_i existing found
    obtain ⟨rfl, rfl⟩ := verifiedHead_ok tracks run
    have facts := List.find?_some found
    rw [Bool.and_eq_true, decide_eq_true_eq, decide_eq_true_eq] at facts
    exact ⟨.found, .inl ⟨existing, List.mem_of_find?_eq_some found, facts.1,
      facts.2, rfl, rfl, rfl⟩⟩
  · obtain ⟨_, unclashing, run⟩ := bind_eq_ok run
    have clear : ∀ grant ∈ read, ¬ grant.Clashes binding :=
      fun grant member clash => refuseIf_ok unclashing ⟨grant, member, clash⟩
    obtain ⟨pairs, table, run⟩ := bind_eq_ok run
    obtain ⟨_, unambiguous, run⟩ := bind_eq_ok run
    obtain ⟨projection, made, run⟩ := bind_eq_ok run
    obtain ⟨⟨appended, grown⟩, append, run⟩ := bind_eq_ok run
    cases run
    have authorises := appendAuthority_ok tracks.consistent append
    obtain ⟨length, position, _⟩ := authorises.length
    refine ⟨authorises.settles, .inr
      ⟨⟨⟨journal.handle.network, roster.store.db.events.length + 1, binding⟩, appended.hash, atMs,
        false⟩, rfl, rfl, ?_, clear, length, fun store tables => ?_⟩⟩
    · change (⟨journal.handle.network, appended.seq, binding⟩ : AuthorizedRoute) = _
      rw [position]
    · refine registered.appended authorises tables (validateBinding_fits valid)
        (fun event seq hash => ?_) (registered.sound.granted clear rfl rfl rfl)
        (registered.projects.granted table clear (refuseIf_ok unambiguous) made rfl rfl)
      have fresh : ¬ ((∃ grant ∈ read, grant.Clashes binding) ∨
          some (containerKey binding.container) ≠ some (containerKey binding.container)) := by
        rintro (⟨grant, member, clash⟩ | other)
        · exact clear grant member clash
        · exact other rfl
      simp only [applyRegistry, authorityAt, authorityEnvelope, valid, current, refuseIf,
        if_neg fresh, seq, hash, bind, Except.bind, pure, Except.pure]

/-- What a committed retirement did: it found the grant retired, or retired it. -/
theorem Registered.retireBody (registered : Registered journal roster grants)
    (tracks : Tracks journal.lib journal.handle behind roster.store) {route : AuthorizedRoute}
    {atMs : UInt64} {done : Committed Bool} {accounts : List SubAccount}
    (run : retireBody journal route atMs roster = .ok (done, accounts)) :
    Settles journal.lib journal.handle roster.store.db (fun _ _ => True) done.noted done.db ∧
      ∃ grant ∈ grants, grant.route = route ∧ done.value = !grant.retired ∧
        ((grant.retired = true ∧ done.db = roster.store.db ∧ accounts = roster.accounts) ∨
          (grant.retired = false ∧
            done.db.events.length = roster.store.db.events.length + 1 ∧
            ∀ store : Store, store.db = done.db →
              Registered journal ⟨store, accounts⟩ (retireAt grants route.bindingSeq))) := by
  obtain ⟨_, _, run⟩ := bind_eq_ok run
  obtain ⟨_, _, run⟩ := bind_eq_ok run
  obtain ⟨read, replayed, run⟩ := bind_eq_ok run
  obtain rfl := registered.of_replay replayed
  split at run
  · cases run
  · rename_i grant found
    obtain ⟨found, same⟩ := Option.filter_eq_some_iff.mp found
    rw [decide_eq_true_eq] at same
    obtain ⟨member, position⟩ := grantAt_mem found
    split at run
    · rename_i gone
      obtain ⟨rfl, rfl⟩ := verifiedHead_ok tracks run
      exact ⟨.found, grant, member, same, by rw [gone]; rfl, .inl ⟨gone, rfl, rfl⟩⟩
    · rename_i live
      obtain ⟨_, later, run⟩ := bind_eq_ok run
      obtain ⟨pairs, table, run⟩ := bind_eq_ok run
      split at run
      · cases run
      · rename_i projection shown
        obtain ⟨⟨appended, grown⟩, append, run⟩ := bind_eq_ok run
        cases run
        rw [Bool.not_eq_true] at live
        have authorises := appendAuthority_ok tracks.consistent append
        obtain ⟨length, _, small, _⟩ := authorises.length
        have within := registered.sound.bounded grant member
        refine ⟨authorises.settles, grant, member, same, by rw [live]; rfl,
          .inr ⟨live, length, fun store tables => ?_⟩⟩
        have fits : RegistryAuthority.codec.Fits (.registryRetired route.bindingSeq grant.hash) :=
          ⟨show route.bindingSeq < 2 ^ 64 by omega, trivial, trivial⟩
        refine registered.appended authorises tables fits (fun event seq hash => ?_)
          (registered.sound.retired route.bindingSeq) ?_
        · have linked : ¬ (grant.retired = true ∨ grant.hash ≠ grant.hash ∨ atMs < grant.atMs ∨
              some (retiredKey route.bindingSeq) ≠ some (retiredKey route.bindingSeq)) := by
            rintro (gone | other | early | other)
            · rw [live] at gone
              cases gone
            · exact other rfl
            · exact refuseIf_ok later early
            · exact other rfl
          exact applyRegistry_retired found rfl linked
        · rw [← same] at shown ⊢
          exact registered.projects.retired registered.sound table member shown

end Journal

end Oppen.Ledger
