import Oppen.Accounts.Registry

/-! # Metadata beside authority

Which metadata operations leave the projection of the registry as the replay demands it,
and that the others do not.
-/

namespace Oppen.Accounts

open Foundation Oppen.Json Oppen.Guardrail Oppen.Ledger

/-- The table has no spelling of the address but its canonical one. -/
def Spelled (accounts : List SubAccount) (address : Address) : Prop :=
  ∀ row ∈ accounts, Address.parse row.address = some address → row.address = address.display

/-- The operation writes no address that the table spells another way, and gives no live agent
an active row of another address. -/
def MetadataOp.Safe (accounts : List SubAccount) (grants : List Grant) : MetadataOp → Prop
  | .provision address _ _ _ => Spelled accounts address
  | .observe seen _ => ∀ entry ∈ seen, Spelled accounts entry.address
  | .upsert account => Unaliased accounts account ∧ Alone account grants
  | _ => True

/-! ## One write -/

section Writing

variable {grants : List Grant} {account held : SubAccount} {accounts : List SubAccount}
  {address : Address}

/-- What the table answers for a key is one of its rows, under that very key. -/
theorem mem_of_subAccountOn {key : String} (found : subAccountOn accounts key = some held) :
    held ∈ accounts ∧ held.address = key :=
  ⟨List.mem_of_find?_eq_some found, by simpa using List.find?_some found⟩

/-- The canonical spelling is the only one. -/
theorem spelled_iff_unaliased (canonical : account.address = address.display) :
    Unaliased accounts account ↔ Spelled accounts address := by
  rw [Unaliased, Spelled, canonical, Address.parse_display]

/-- An address that is in the table has one spelling there. -/
theorem unaliased_of_mem (table : Table accounts) (member : held ∈ accounts)
    (same : held.address = account.address) : Unaliased accounts account := by
  intro row inside parsed
  rw [← same] at parsed ⊢
  rw [table.eq_of_parse inside member parsed]

/-- A row that keeps its owner, and is not made active, gives nobody a second one. -/
theorem alone_of_mem (projects : Projects accounts grants) (member : held ∈ accounts)
    (same : held.address = account.address) (owner : account.owner = held.owner)
    (active : account.active = true → held.active = true) : Alone account grants := by
  intro grant inside live standing owned
  rw [← same]
  rw [owner] at owned
  exact (projects.showsGrant grant inside).alone live held member (active standing) owned

/-- A table that stays well formed when a row is written was well formed before it. -/
theorem Table.of_write' (table : Table (writeSubAccount account accounts)) : Table accounts := by
  by_cases found : (accounts.any fun held => held.address = account.address) = true
  · have same : (writeSubAccount account accounts).map SubAccount.address =
        accounts.map SubAccount.address := by
      rw [writeSubAccount, if_pos found, List.map_map]
      refine List.map_congr_left fun row _ => ?_
      simp only [Function.comp_apply]
      split
      · rename_i here
        exact here.symm
      · rfl
    refine ⟨fun row member => ?_, ?_⟩
    · have inside : row.address ∈ (writeSubAccount account accounts).map SubAccount.address :=
        same ▸ List.mem_map_of_mem member
      obtain ⟨kept, here, named⟩ := List.mem_map.mp inside
      rw [← named]
      exact table.parsed kept here
    · have distinct := table.distinct
      have split (rows : List SubAccount) : rows.map (fun row => Address.parse row.address) =
          (rows.map SubAccount.address).map Address.parse := by
        rw [List.map_map]
        rfl
      rw [split, same, ← split] at distinct
      exact distinct
  · refine table.of_write (List.find?_eq_none.mpr fun row member same => ?_)
    exact found (List.any_eq_true.mpr ⟨row, member, same⟩)

/-- Rewriting a row of the table. -/
theorem projects_rewrite (projects : Projects accounts grants) (member : held ∈ accounts)
    (same : held.address = account.address) (guarded : Guarded account accounts grants)
    (alone : Alone account grants) : Projects (writeSubAccount account accounts) grants := by
  obtain ⟨address, parsed⟩ := projects.table.parsed held member
  rw [same] at parsed
  exact (projects.write_iff parsed guarded).mpr
    ⟨unaliased_of_mem projects.table member same, alone⟩

end Writing

/-! ## What each operation writes -/

section Operations

variable {journal : RegistryJournal} {roster : Roster} {grants : List Grant}
  {address : Address}

/-- An upsert that goes through wrote the row at an address that parses, and the guard let it beside
the grants. -/
theorem upsertOn_ok (registered : Registered journal roster grants) {account : SubAccount}
    {accounts written : List SubAccount}
    (run : upsertOn journal roster account accounts = .ok written) :
    written = writeSubAccount account accounts ∧ Guarded account accounts grants ∧
      ∃ address, Address.parse account.address = some address :=
  registered.upsert_ok (mapError_eq_ok run)

/-- An owner with a live grant is bound to its container. -/
theorem boundTo_live (projects : Projects roster.accounts grants) {grant : Grant}
    (member : grant ∈ grants) (live : grant.retired = false) {bound : Option Address}
    (run : boundTo roster (registryOwner grant.route.binding) = .ok bound) :
    bound = some grant.route.binding.container := by
  have shown := projects.showsGrant grant member
  rw [boundTo] at run
  split at run
  · rename_i missing
    obtain ⟨row, inside, _, owned, active, _⟩ := shown.row
    have absent := List.find?_eq_none.mp missing row inside
    rw [active, live, owned] at absent
    simp at absent
  · rename_i row found
    have facts := List.find?_some found
    rw [Bool.and_eq_true, decide_eq_true_eq] at facts
    have here := shown.alone live row (List.mem_of_find?_eq_some found) facts.1 facts.2
    rw [Account.fromRow, here] at run
    cases run
    rfl

/-- A provisioning writes the row of its address, for an owner bound nowhere else. -/
theorem provisionBody_ok (registered : Registered journal roster grants) {name : String}
    {owner : Owner} {nowMs : Int64} {account : Account} {accounts : List SubAccount}
    (run : provisionBody journal roster address name owner nowMs = .ok (account, accounts)) :
    ∃ row : SubAccount, row.address = address.display ∧ Alone row grants ∧
      Guarded row roster.accounts grants ∧ accounts = writeSubAccount row roster.accounts := by
  obtain ⟨_, _, run⟩ := bind_eq_ok run
  obtain ⟨bound, found, run⟩ := bind_eq_ok run
  obtain ⟨_, only, run⟩ := bind_eq_ok run
  obtain ⟨written, upserted, run⟩ := bind_eq_ok run
  obtain ⟨_, _, run⟩ := bind_eq_ok run
  cases run
  obtain ⟨rfl, guarded, _⟩ := upsertOn_ok registered upserted
  refine ⟨_, rfl, fun grant member live _ owned => ?_, guarded, rfl⟩
  obtain rfl := Option.some.inj owned
  rw [boundTo_live registered.projects member live found] at only
  have same := not_not.mp (refuseIf_ok only)
  rw [same]
  exact Address.parse_display _

/-- A change of the recording rewrites the row of its address, or nothing. -/
theorem setRecordedBody_ok (registered : Registered journal roster grants) {recorded : Bool}
    {account : Account} {accounts : List SubAccount}
    (run : setRecordedBody journal roster address recorded = .ok (account, accounts)) :
    Projects accounts grants := by
  obtain ⟨_, _, run⟩ := bind_eq_ok run
  obtain ⟨held, found, run⟩ := bind_eq_ok run
  obtain ⟨_, _, run⟩ := bind_eq_ok run
  obtain ⟨_, _, run⟩ := bind_eq_ok run
  split at run
  · obtain ⟨_, _, run⟩ := bind_eq_ok run
    cases run
    exact registered.projects
  · obtain ⟨written, upserted, run⟩ := bind_eq_ok run
    obtain ⟨_, _, run⟩ := bind_eq_ok run
    cases run
    obtain ⟨rfl, guarded, _⟩ := upsertOn_ok registered upserted
    have member : held ∈ roster.accounts := by
      rw [row] at found
      split at found
      · cases found
      · rename_i stored
        cases found
        exact (mem_of_subAccountOn stored).1
    exact projects_rewrite registered.projects member rfl guarded
      (alone_of_mem registered.projects member rfl rfl id)

/-- A retirement of metadata rewrites the row of its address, or nothing. -/
theorem retireBody_ok (registered : Registered journal roster grants)
    {account : Account} {accounts : List SubAccount}
    (run : retireBody journal roster address = .ok (account, accounts)) :
    Projects accounts grants := by
  obtain ⟨_, _, run⟩ := bind_eq_ok run
  obtain ⟨held, found, run⟩ := bind_eq_ok run
  split at run
  · obtain ⟨_, _, run⟩ := bind_eq_ok run
    cases run
    exact registered.projects
  · obtain ⟨written, upserted, run⟩ := bind_eq_ok run
    obtain ⟨_, _, run⟩ := bind_eq_ok run
    cases run
    obtain ⟨rfl, guarded, _⟩ := upsertOn_ok registered upserted
    have member : held ∈ roster.accounts := by
      rw [row] at found
      split at found
      · cases found
      · rename_i stored
        cases found
        exact (mem_of_subAccountOn stored).1
    exact projects_rewrite registered.projects member rfl guarded
      (alone_of_mem registered.projects member rfl rfl nofun)

/-- One write spells one address. -/
theorem spelled_write {account : SubAccount} {accounts : List SubAccount} {other : Address}
    (canonical : account.address = address.display) (apart : address ≠ other) :
    Spelled (writeSubAccount account accounts) other ↔ Spelled accounts other := by
  have parsed : Address.parse account.address = some address := by
    rw [canonical]
    exact Address.parse_display address
  have elsewhere (row : SubAccount) (here : Address.parse row.address = some other) :
      row.address ≠ account.address := by
    intro same
    rw [same, parsed] at here
    exact apart (Option.some.inj here)
  constructor
  · intro spelled row member here
    exact spelled row (mem_writeSubAccount_of_ne member (elsewhere row here)) here
  · intro spelled row member here
    rcases of_mem_writeSubAccount member with ⟨older, _⟩ | ⟨_, rfl⟩
    · exact spelled row older here
    · exact absurd rfl (elsewhere _ here)

/-- What one turn of a sweep does to the projection. -/
structure Observes (grants : List Grant) (address : Address) (before after : List SubAccount) :
    Prop where
  projects : Projects before grants → Spelled before address → Projects after grants
  spelled : Table after → Spelled before address
  others : ∀ other, address ≠ other → (Spelled after other ↔ Spelled before other)
  table : Table after → Table before

/-- An observation that goes through under the canonical spelling of an address is one of that
address. -/
theorem observeOne_ok (registered : Registered journal roster grants) {nowMs : Int64}
    {before after : DiscoveryReport × List SubAccount} {key : String} {seen : Discovered}
    (canonical : key = seen.address.display)
    (run : observeOne journal roster nowMs before (key, seen) = .ok after) :
    Observes grants seen.address before.2 after.2 := by
  obtain ⟨report, accounts⟩ := before
  simp only [observeOne] at run
  split at run
  · rename_i held found
    obtain ⟨member, stored⟩ := mem_of_subAccountOn found
    have spelled (table : Table accounts) : Spelled accounts seen.address := by
      refine (spelled_iff_unaliased (stored.trans canonical)).mp ?_
      exact unaliased_of_mem table member rfl
    split at run
    · cases run
      exact ⟨fun projects _ => projects, spelled, fun _ _ => Iff.rfl, id⟩
    · obtain ⟨written, upserted, run⟩ := bind_eq_ok run
      cases run
      obtain ⟨rfl, guarded, _⟩ := upsertOn_ok registered upserted
      have table : Table (writeSubAccount { held with name := seen.name } accounts) →
          Table accounts := Table.of_write'
      exact ⟨fun projects _ => projects_rewrite projects member rfl guarded
          (alone_of_mem projects member rfl rfl id),
        spelled ∘ table, fun other apart => spelled_write (stored.trans canonical) apart, table⟩
  · obtain ⟨written, upserted, run⟩ := bind_eq_ok run
    cases run
    obtain ⟨rfl, guarded, address, parsed⟩ := upsertOn_ok registered upserted
    exact ⟨fun projects spelled => (projects.write_iff parsed guarded).mpr
        ⟨(spelled_iff_unaliased canonical).mpr spelled, fun _ _ _ _ => nofun⟩,
      fun table => (spelled_iff_unaliased canonical).mp table.unaliased_of_write,
      fun other apart => spelled_write canonical apart, Table.of_write'⟩

/-- **A sweep keeps the projection exactly when** no address it saw is spelled another way in
the table. The induction is on the sweep; a second spelling, once written, stays. -/
theorem observe_ok (registered : Registered journal roster grants) {nowMs : Int64} :
    ∀ {entries : List (String × Discovered)} {before after : DiscoveryReport × List SubAccount},
      (∀ entry ∈ entries, entry.1 = entry.2.address.display) → (entries.map Prod.fst).Nodup →
      entries.foldlM (observeOne journal roster nowMs) before = .ok after →
        (Table after.2 → Table before.2) ∧
        (Projects before.2 grants →
          (Projects after.2 grants ↔ ∀ entry ∈ entries, Spelled before.2 entry.2.address))
  | [], before, after, _, _, run => by
      cases run
      exact ⟨id, fun projects =>
        ⟨fun _ _ member => absurd member List.not_mem_nil, fun _ => projects⟩⟩
  | (key, seen) :: rest, before, after, keyed, distinct, run => by
      rw [List.foldlM_cons] at run
      obtain ⟨middle, first, run⟩ := bind_eq_ok run
      have canonical : key = seen.address.display := keyed (key, seen) List.mem_cons_self
      have observes := observeOne_ok registered canonical first
      obtain ⟨fresh, distinct⟩ := List.nodup_cons.mp distinct
      obtain ⟨table, later⟩ := observe_ok registered
        (fun entry member => keyed entry (List.mem_cons_of_mem _ member)) distinct run
      have same : (∀ entry ∈ rest, Spelled middle.2 entry.2.address) ↔
          ∀ entry ∈ rest, Spelled before.2 entry.2.address := by
        refine forall₂_congr fun entry member => observes.others _ fun named => fresh ?_
        refine List.mem_map.mpr ⟨entry, member, ?_⟩
        rw [canonical, named]
        exact keyed entry (List.mem_cons_of_mem _ member)
      refine ⟨observes.table ∘ table, fun projects => ?_⟩
      rw [List.forall_mem_cons]
      constructor
      · intro projects'
        have here := observes.spelled (table projects'.table)
        exact ⟨here, same.mp ((later (observes.projects projects here)).mp projects')⟩
      · rintro ⟨here, others⟩
        exact (later (observes.projects projects here)).mpr (same.mpr others)

/-- The map of what was discovered has each address once, under its canonical spelling, and misses
none. -/
theorem wanted_facts (seen : List Discovered) :
    (∀ entry ∈ (wanted seen).entries, entry.1 = entry.2.address.display ∧ entry.2 ∈ seen) ∧
      ((wanted seen).entries.map Prod.fst).Nodup ∧
      ∀ entry ∈ seen, ∃ pair ∈ (wanted seen).entries, pair.2.address = entry.address := by
  have named (pair : String × Discovered) (member : pair ∈ (wanted seen).entries) :
      pair.1 = pair.2.address.display ∧ pair.2 ∈ seen := by
    obtain ⟨entry, inside, rfl⟩ := List.mem_map.mp (KeyMap.mem_of_mem_collect member)
    exact ⟨rfl, inside⟩
  refine ⟨named, ?_, fun entry member => ?_⟩
  · exact List.pairwise_map.mpr ((wanted seen).sorted.imp fun less => less.ne)
  · have key : entry.address.display ∈ (wanted seen).keys := by
      refine KeyMap.keys_collect.mpr (List.mem_map.mpr ⟨(entry.address.display, entry), ?_, rfl⟩)
      exact List.mem_map_of_mem member
    obtain ⟨pair, inside, same⟩ := List.mem_map.mp key
    refine ⟨pair, inside, Address.display_injective ?_⟩
    rw [← (named pair inside).1, same]

end Operations

/-! ## What an operation leaves -/

section Performing

variable {journal : RegistryJournal} {roster : Roster} {grants : List Grant}

/-- A transaction of the registry keeps the roster and its error, or replaces the table and nothing
else. -/
theorem registryTransaction_cases {α : Type} (roster : Roster)
    (body : Except AccountsError (α × List SubAccount)) :
    (∃ error, body = .error error ∧ registryTransaction roster body = (.error error, roster)) ∨
    ∃ value accounts, body = .ok (value, accounts) ∧
      registryTransaction roster body = (.ok value, ⟨roster.store, accounts⟩) := by
  rcases body with error | ⟨value, accounts⟩
  · exact .inl ⟨error, rfl, rfl⟩
  · exact .inr ⟨value, accounts, rfl, rfl⟩

/-- Refused, or its metadata alone is written, and shows the grants exactly when the operation
was safe. -/
def Rewrites (op : MetadataOp) (roster : Roster) (grants : List Grant)
    (outcome : Except AccountsError Unit × Roster) : Prop :=
  (∃ error, outcome = (.error error, roster)) ∨
  ∃ accounts, outcome = (.ok (), ⟨roster.store, accounts⟩) ∧
    (Projects accounts grants ↔ op.Safe roster.accounts grants)

/-- An operation rewrites the table as far as its body does: it is enough to look at what a body
that goes through leaves. -/
theorem rewrites_transaction {α : Type} {op : MetadataOp}
    {body : Except AccountsError (α × List SubAccount)}
    (spec : ∀ value accounts, body = .ok (value, accounts) →
      (Projects accounts grants ↔ op.Safe roster.accounts grants)) :
    Rewrites op roster grants (settled (registryTransaction roster body)) := by
  rcases registryTransaction_cases roster body with
    ⟨error, _, refused⟩ | ⟨value, accounts, run, written⟩
  · rw [refused]
    exact .inl ⟨error, rfl⟩
  · rw [written]
    exact .inr ⟨accounts, rfl, spec value accounts run⟩

/-- **What each metadata operation does to the projection.** -/
theorem MetadataOp.rewrites (registered : Registered journal roster grants) (op : MetadataOp) :
    Rewrites op roster grants (op.perform journal roster) := by
  have projects := registered.projects
  cases op with
  | provision address name owner nowMs =>
      refine rewrites_transaction fun account accounts run => ?_
      obtain ⟨row, canonical, alone, guarded, rfl⟩ := provisionBody_ok registered run
      have parsed : Address.parse row.address = some address := by
        rw [canonical]
        exact Address.parse_display address
      rw [projects.write_iff parsed guarded, spelled_iff_unaliased canonical]
      exact and_iff_left alone
  | observe seen nowMs =>
      refine rewrites_transaction fun report accounts run => ?_
      obtain ⟨named, distinct, covered⟩ := wanted_facts seen
      rw [((observe_ok registered (fun entry member => (named entry member).1) distinct run).2
        projects)]
      constructor
      · intro spelled entry member
        obtain ⟨pair, inside, same⟩ := covered entry member
        rw [← same]
        exact spelled pair inside
      · exact fun spelled pair member => spelled pair.2 (named pair member).2
  | optIn address =>
      refine rewrites_transaction fun account accounts run => ?_
      exact iff_of_true (setRecordedBody_ok registered run) trivial
  | optOut address =>
      refine rewrites_transaction fun account accounts run => ?_
      exact iff_of_true (setRecordedBody_ok registered run) trivial
  | retire address =>
      refine rewrites_transaction fun account accounts run => ?_
      exact iff_of_true (retireBody_ok registered run) trivial
  | upsert account =>
      change Rewrites _ _ _ (upsertSubAccount journal roster account)
      rcases registryTransaction_cases roster ((upsertOn journal roster account roster.accounts).map
          fun accounts => ((), accounts)) with
        ⟨error, _, refused⟩ | ⟨value, accounts, run, written⟩
      · exact .inl ⟨error, refused⟩
      · refine .inr ⟨accounts, written, ?_⟩
        cases upserted : upsertOn journal roster account roster.accounts with
        | error error =>
            rw [upserted] at run
            cases run
        | ok changed =>
            rw [upserted] at run
            cases run
            obtain ⟨rfl, guarded, address, parsed⟩ := upsertOn_ok registered upserted
            exact projects.write_iff parsed guarded

end Performing

/-! ## Runs -/

/-- The calls on a ledger and the operations on its metadata. -/
inductive AccountAct (dec : Decimals) where
  | registry (act : RegistryAct dec)
  | metadata (op : MetadataOp)

/-- One call of any process. Grants and retirements are among them, and any other call of the
ledger. -/
def AccountStep (dec : Decimals) (journal : RegistryJournal) (before : Roster) :
    AccountAct dec → Roster → Prop
  | .registry act, after => RegistryStep dec journal before act after
  | .metadata op, after => (op.perform journal before).2 = after

/-- The metadata operations are safe beside the grants of the history. -/
def AccountAct.Safe {dec : Decimals} (journal : RegistryJournal) (before : Roster) :
    AccountAct dec → Prop
  | .registry _ => True
  | .metadata op => ∀ grants, registryRows journal before.store.db = .ok grants →
      op.Safe before.accounts grants

/-- What could be read of the authority can still be read. Nothing is said of what could not be read
before. -/
structure KeepsAuthority (journal : RegistryJournal) (before after : Roster) : Prop where
  replay : ∀ grants, registryReplay journal before = .ok grants →
    registryReplay journal after = .ok grants
  routes : ∀ agent route, optionalRoute journal before agent = .ok route →
    optionalRoute journal after agent = .ok route
  active : ∀ routes, activeRoutes journal before = .ok routes →
    activeRoutes journal after = .ok routes
  verifies : ∀ expected signer, verifyRoute journal before expected signer = .ok () →
    verifyRoute journal after expected signer = .ok ()

/-- A replay that is not lost keeps everything that can be read of the authority. -/
theorem keepsAuthority_of_replay {journal : RegistryJournal} {before after : Roster}
    (replay : ∀ grants, registryReplay journal before = .ok grants →
      registryReplay journal after = .ok grants) : KeepsAuthority journal before after := by
  have routes (agent : String) (route : Option AuthorizedRoute)
      (found : optionalRoute journal before agent = .ok route) :
      optionalRoute journal after agent = .ok route := by
    obtain ⟨grants, replayed, read⟩ := bind_eq_ok found
    rw [optionalRoute, replay grants replayed]
    exact read
  refine ⟨replay, routes, fun found read => ?_, fun expected signer verified => ?_⟩
  · obtain ⟨grants, replayed, read⟩ := bind_eq_ok read
    rw [activeRoutes, replay grants replayed]
    exact read
  · obtain ⟨route, found, verified⟩ := bind_eq_ok verified
    rw [verifyRoute, routes _ _ found]
    exact verified

section Running

variable {dec : Decimals} {journal : RegistryJournal} {roster : Roster}

/-- The replay reads the file and holds the table to it. -/
theorem registryReplay_ok_iff {grants : List Grant} : registryReplay journal roster = .ok grants ↔
    authorityChain registryFormat journal.lib journal.handle roster.store = .ok () ∧
      registryRows journal roster.store.db = .ok grants ∧ Projects roster.accounts grants := by
  constructor
  · intro run
    obtain ⟨_, chain, run⟩ := bind_eq_ok run
    obtain ⟨read, rows, run⟩ := bind_eq_ok run
    obtain ⟨_, projected, run⟩ := bind_eq_ok run
    cases run
    exact ⟨chain, rows, validateProjection_iff.mp projected⟩
  · rintro ⟨chain, rows, projects⟩
    simp only [registryReplay, chain, rows, validateProjection_iff.mpr projects, bind, Except.bind,
      pure, Except.pure]

/-- Along safe calls the table shows the grants of the history. -/
theorem safe_registered {accounts : List SubAccount} (table : Table accounts)
    {acts : List (AccountAct dec)}
    (run : Run (fun before act after => AccountStep dec journal before act after ∧
      act.Safe journal before) ⟨opened journal.lib journal.handle, accounts⟩ acts roster) :
    ∃ behind grants, Tracks journal.lib journal.handle behind roster.store ∧
      Registered journal roster grants := by
  refine run.invariant (fun roster => ∃ behind grants,
    Tracks journal.lib journal.handle behind roster.store ∧ Registered journal roster grants) ?_
    ⟨0, [], opened_tracks, opened_registered table⟩
  rintro before act after ⟨behind, grants, tracks, registered⟩ ⟨step, safe⟩
  cases act with
  | registry act =>
      obtain ⟨behind', next, tracks', _, _, registered', _⟩ := registered.step tracks step
      exact ⟨behind', next, tracks', registered'⟩
  | metadata op =>
      obtain rfl : (op.perform journal before).2 = after := step
      rcases op.rewrites registered with ⟨error, refused⟩ | ⟨accounts, written, projects⟩
      · rw [refused]
        exact ⟨behind, grants, tracks, registered⟩
      · rw [written]
        refine ⟨behind, grants, tracks, registered.rows, registered.sound, ?_⟩
        exact projects.mpr (safe grants registered.rows)

end Running

/-- **Metadata beside authority.** After any grants and retirements, other calls and safe
metadata operations, a metadata operation is refused and changes nothing, or writes metadata
only; and if the history replayed before it, what could be read of the authority can still be
read exactly when the operation spells no address of the table another way and gives no live
agent an active row of another address. -/
theorem metadata_keeps_authority_iff {dec : Decimals} (journal : RegistryJournal)
    {accounts : List SubAccount} (table : Table accounts) {acts : List (AccountAct dec)}
    {roster : Roster}
    (run : Run (fun before act after => AccountStep dec journal before act after ∧
      act.Safe journal before) ⟨opened journal.lib journal.handle, accounts⟩ acts roster) :
    ∃ grants, registryRows journal roster.store.db = .ok grants ∧ ∀ op : MetadataOp,
      (∃ error, op.perform journal roster = (.error error, roster)) ∨
      ((op.perform journal roster).1 = .ok () ∧
        (op.perform journal roster).2.store = roster.store ∧
        (op.Safe roster.accounts grants →
          KeepsAuthority journal roster (op.perform journal roster).2) ∧
        (registryReplay journal roster = .ok grants →
          (KeepsAuthority journal roster (op.perform journal roster).2 ↔
            op.Safe roster.accounts grants))) := by
  obtain ⟨behind, grants, tracks, registered⟩ := safe_registered table run
  refine ⟨grants, registered.rows, fun op => ?_⟩
  rcases op.rewrites registered with refused | ⟨accounts, written, projects⟩
  · exact .inl refused
  · right
    rw [written]
    have keeps (safe : op.Safe roster.accounts grants) :
        KeepsAuthority journal roster ⟨roster.store, accounts⟩ := by
      refine keepsAuthority_of_replay fun read replayed => ?_
      obtain rfl := registered.of_replay replayed
      obtain ⟨chain, rows, _⟩ := registryReplay_ok_iff.mp replayed
      exact registryReplay_ok_iff.mpr ⟨chain, rows, projects.mpr safe⟩
    refine ⟨rfl, rfl, keeps, fun replayed => ⟨fun kept => ?_, keeps⟩⟩
    exact projects.mp (registryReplay_ok_iff.mp (kept.replay grants replayed)).2.2

namespace TwoSpellings

/-- The compact reader and the checksum in place of the real libraries, and one tag for every
message. -/
def journal : RegistryJournal where
  lib := .reference checksum
  handle := ⟨.testnet, true⟩
  key := .constant

def address (digit : UInt8) : Address := .filled digit

def start : Roster := ⟨opened journal.lib journal.handle, []⟩

/-- An agent is granted a container. -/
def maker : RegistryAct .reference :=
  .grant ⟨"maker", address 1, none, ⟨0, address 2, 1, 100⟩⟩ 5 true

def granted : Roster := maker.perform journal start

/-- A row nobody owns. -/
def watched (spelling : String) : SubAccount := ⟨spelling, "watched", none, true, false, true, 6⟩

def lower : MetadataOp := .upsert (watched ("0x" ++ String.ofList (List.replicate 40 'a')))

def upper : MetadataOp := .upsert (watched ("0x" ++ String.ofList (List.replicate 40 'A')))

/-- An active row of the granted agent at another address. -/
def second : MetadataOp :=
  .upsert { watched (address 3).display with owner := some ⟨.agent, "maker"⟩ }

/-- What an operation leaves. -/
def leaves (op : MetadataOp) (roster : Roster) : Roster := (op.perform journal roster).2

def listed : Roster := leaves lower granted

theorem granted_step : AccountStep .reference journal start (.registry maker) granted :=
  RegistryStep.granted journal start _ _ _

/-- An operation on the metadata is one step of the system. -/
theorem metadata_step (op : MetadataOp) (roster : Roster) :
    AccountStep .reference journal roster (.metadata op) (leaves op roster) :=
  rfl

/-- The run that grants a container and then lists a row of lower-case letters. -/
theorem listed_run :
    Run (AccountStep .reference journal) start [.registry maker, .metadata lower] listed :=
  .snoc (.single granted_step) (metadata_step lower granted)

/-- The same address in capitals, and an active row of the granted agent elsewhere, are both
accepted, and either ends the replay of a history that replayed. -/
theorem replay_ended :
    Run (AccountStep .reference journal) start [.registry maker, .metadata lower] listed ∧
      (registryReplay journal listed).isOk = true ∧
      (upper.perform journal listed).1.isOk = true ∧
      (registryReplay journal (upper.perform journal listed).2).isOk = false ∧
      (second.perform journal listed).1.isOk = true ∧
      (registryReplay journal (second.perform journal listed).2).isOk = false :=
  ⟨listed_run, by decide +kernel⟩

/-- Beside the granted container, each operation is refused or leaves the file. -/
theorem granted_left : ∃ grants, registryRows journal granted.store.db = .ok grants ∧
    ∀ op : MetadataOp, (∃ error, op.perform journal granted = (.error error, granted)) ∨
      (op.perform journal granted).2.store = granted.store ∧
        (op.Safe granted.accounts grants →
          KeepsAuthority journal granted (op.perform journal granted).2) := by
  have run : Run (fun before (act : AccountAct .reference) after =>
      AccountStep .reference journal before act after ∧ act.Safe journal before) start
      [.registry maker] granted := .single ⟨granted_step, trivial⟩
  obtain ⟨grants, rows, each⟩ := metadata_keeps_authority_iff journal .nil run
  exact ⟨grants, rows, fun op => (each op).imp_right fun facts => ⟨facts.2.1, facts.2.2.1⟩⟩

end TwoSpellings

end Oppen.Accounts
