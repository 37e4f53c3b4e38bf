import Oppen.Ledger.Grants

/-! # Every run of the registry

Any process may grant or retire, between any other calls on the file. Each call either
changes nothing or moves the grants of the history and the metadata together.
-/

namespace Oppen.Ledger

open Foundation Oppen.Json Oppen.Guardrail

/-! ## Calls -/

/-- The calls on a ledger, the registry journal's and all others. -/
inductive RegistryAct (dec : Decimals) where
  | grant (binding : RegistryBinding) (atMs : UInt64) (publish : Bool)
  | retire (route : AuthorizedRoute) (atMs : UInt64) (publish : Bool)
  | other (request : Request dec)

/-- Whether the publication of a head the call commits goes through. -/
def RegistryAct.publish {dec : Decimals} : RegistryAct dec → Bool
  | .grant _ _ publish => publish
  | .retire _ _ publish => publish
  | .other request => request.publish

/-- The file and the metadata a call leaves. -/
def RegistryAct.perform {dec : Decimals} (journal : RegistryJournal) (roster : Roster) :
    RegistryAct dec → Roster
  | .grant binding atMs publish => (Ledger.grant journal publish binding atMs roster).2
  | .retire route atMs publish => (Ledger.retire journal publish route atMs roster).2
  | .other request =>
      ⟨(Ledger.perform journal.lib dec journal.handle request roster.store).2, roster.accounts⟩

/-- One call of any process. No call but the journal's writes or redacts a registry row. -/
def RegistryStep (dec : Decimals) (journal : RegistryJournal) (before : Roster)
    (act : RegistryAct dec) (after : Roster) : Prop :=
  (∀ request, act = .other request →
    request.call.sparesRows registryFormat before.store.db = true) ∧
  act.perform journal before = after

/-- A grant is a step of the registry, whatever it is answered. -/
theorem RegistryStep.granted {dec : Decimals} (journal : RegistryJournal) (roster : Roster)
    (binding : RegistryBinding) (atMs : UInt64) (publish : Bool) :
    RegistryStep dec journal roster (.grant binding atMs publish)
      ((RegistryAct.grant binding atMs publish : RegistryAct dec).perform journal roster) := by
  refine ⟨fun request other => ?_, rfl⟩
  cases other

/-- The anchor holds the head. -/
def Store.Level (store : Store) : Prop :=
  ∀ anchor ∈ store.anchor, anchor.seq = store.db.events.length

/-- The call does not leave a second row unpublished. -/
def RegistryAct.Safe {dec : Decimals} (before : Roster) (act : RegistryAct dec) : Prop :=
  act.publish = true ∨ before.store.Level

/-! ## What a call does to the grants -/

/-- Every grant is still there, and retired if it was. -/
def GrantsKept (before after : List Grant) : Prop :=
  ∀ grant ∈ before, ∃ later ∈ after, later.route = grant.route ∧
    (grant.retired = true → later.retired = true)

theorem GrantsKept.refl (grants : List Grant) : GrantsKept grants grants :=
  fun grant member => ⟨grant, member, rfl, id⟩

/-- What two steps each keep of the grants, they keep together. -/
theorem GrantsKept.trans {first second third : List Grant} (earlier : GrantsKept first second)
    (later : GrantsKept second third) : GrantsKept first third := by
  intro grant member
  obtain ⟨middle, inside, route, retired⟩ := earlier grant member
  obtain ⟨last, here, route', retired'⟩ := later middle inside
  exact ⟨last, here, route'.trans route, retired' ∘ retired⟩

/-- Granting keeps the grants that are there. -/
theorem GrantsKept.granted (grants : List Grant) (new : Grant) :
    GrantsKept grants (grants ++ [new]) :=
  fun grant member => ⟨grant, List.mem_append_left _ member, rfl, id⟩

/-- Retiring keeps all grants: the one it names stays, as a retired one. -/
theorem GrantsKept.retired (grants : List Grant) (seq : Nat) :
    GrantsKept grants (retireAt grants seq) := by
  intro grant member
  by_cases here : grant.route.bindingSeq = seq
  · exact ⟨{ grant with retired := true }, mem_retireAt.mpr (.inr ⟨grant, member, here, rfl⟩), rfl,
      fun _ => rfl⟩
  · exact ⟨grant, mem_retireAt.mpr (.inl ⟨member, here⟩), rfl, id⟩

section Outcomes

variable (journal : RegistryJournal) (roster : Roster) (grants : List Grant)

/-- The caller is told of the outcome, unless its head was not published. -/
def Informs {α : Type} (publish : Bool) (result : Except AuthorityError α) (value : α) : Prop :=
  result = .ok value ∨
    journal.handle.anchored = true ∧ publish = false ∧ result = .error (.ledger .io)

/-- A grant is refused, finds itself live, or is one more row and a grant that clashes with
none before it. -/
def GrantsOnce : Prop :=
  ∀ publish binding atMs,
    (∃ error, grant journal publish binding atMs roster = (.error error, roster)) ∨
    (∃ existing ∈ grants, existing.retired = false ∧ existing.route.binding = binding ∧
      (grant journal publish binding atMs roster).2.store.db = roster.store.db ∧
      (grant journal publish binding atMs roster).2.accounts = roster.accounts ∧
      Informs journal publish (grant journal publish binding atMs roster).1 existing.route) ∨
    ∃ new : Grant, new.retired = false ∧ new.route.binding = binding ∧
      (∀ held ∈ grants, ¬ held.Clashes binding) ∧
      (grant journal publish binding atMs roster).2.store.db.events.length =
        roster.store.db.events.length + 1 ∧
      Registered journal (grant journal publish binding atMs roster).2 (grants ++ [new]) ∧
      Informs journal publish (grant journal publish binding atMs roster).1 new.route

/-- A retirement is refused, finds its grant retired, or is one more row and retires it. -/
def RetiresFinally : Prop :=
  ∀ publish route atMs,
    (∃ error, retire journal publish route atMs roster = (.error error, roster)) ∨
    ∃ held ∈ grants, held.route = route ∧
      Informs journal publish (retire journal publish route atMs roster).1 (!held.retired) ∧
      ((held.retired = true ∧
        (retire journal publish route atMs roster).2.store.db = roster.store.db ∧
        (retire journal publish route atMs roster).2.accounts = roster.accounts) ∨
      (held.retired = false ∧
        (retire journal publish route atMs roster).2.store.db.events.length =
          roster.store.db.events.length + 1 ∧
        Registered journal (retire journal publish route atMs roster).2
          (retireAt grants route.bindingSeq)))

/-- A live grant repeated and a retired grant retired again add no row and change no
metadata. -/
def RepeatsNothing : Prop :=
  ∀ held ∈ grants, ∀ publish atMs,
    (held.retired = false →
      (grant journal publish held.route.binding atMs roster).2.store.db = roster.store.db ∧
      (grant journal publish held.route.binding atMs roster).2.accounts = roster.accounts) ∧
    (held.retired = true →
      (retire journal publish held.route atMs roster).2.store.db = roster.store.db ∧
      (retire journal publish held.route atMs roster).2.accounts = roster.accounts)

/-- An error other than a failed publication leaves the history and the metadata. -/
def RefusesCleanly : Prop :=
  (∀ publish binding atMs error,
    (grant journal publish binding atMs roster).1 = .error error → error ≠ .ledger .io →
      (grant journal publish binding atMs roster).2 = roster) ∧
  ∀ publish route atMs error,
    (retire journal publish route atMs roster).1 = .error error → error ≠ .ledger .io →
      (retire journal publish route atMs roster).2 = roster

end Outcomes

section Proofs

variable {journal : RegistryJournal} {roster : Roster} {grants : List Grant} {behind : Nat}

/-- What a transaction does to the file and the metadata, and what it answers. -/
theorem transactRoster_cases {α : Type} (journal : RegistryJournal)
    (roster : Roster) (publish : Bool)
    (body : Except AuthorityError (Committed α × List SubAccount)) :
    (∃ error, body = .error error ∧
      transactRoster journal publish roster body = (.error error, roster)) ∨
    ∃ done accounts store answer, body = .ok (done, accounts) ∧
      transactRoster journal publish roster body = (answer, ⟨store, accounts⟩) ∧
      store = (transact journal.handle publish AuthorityError.ledger roster.store (.ok done)).2 ∧
      store.db = done.db ∧ Informs journal publish answer done.value := by
  cases body with
  | error error => exact .inl ⟨error, rfl, rfl⟩
  | ok pair =>
      obtain ⟨done, accounts⟩ := pair
      refine .inr ⟨done, accounts, _, _, rfl, rfl, rfl, ?_⟩
      rcases transact_cases publish AuthorityError.ledger roster.store (.ok done) with
        ⟨_, absent, _⟩ | ⟨_, same, tables, answered⟩
      · cases absent
      · cases same
        exact ⟨tables, answered⟩

/-- A committed transaction keeps the lag, or adds to it the row it could not publish. -/
theorem Tracks.committed {α : Type} {done : Committed α}
    (tracks : Tracks journal.lib journal.handle behind roster.store) (publish : Bool)
    (settles : Settles journal.lib journal.handle roster.store.db (fun _ _ => True) done.noted
      done.db) :
    ∃ behind', Tracks journal.lib journal.handle behind'
        (transact journal.handle publish AuthorityError.ledger roster.store (.ok done)).2 ∧
      behind' ≤ behind + 1 ∧ (publish = true → behind' ≤ behind) :=
  tracks.settled publish AuthorityError.ledger fun _ same => by
    cases same
    exact settles

/-- The registry is that of any store with the same tables. -/
theorem Registered.of_tables (registered : Registered journal roster grants) {store : Store}
    (same : store.db = roster.store.db) : Registered journal ⟨store, roster.accounts⟩ grants where
  rows := by
    change registryRows journal store.db = _
    rw [same]
    exact registered.rows
  sound := by
    change SoundGrants _ store.db.events.length grants
    rw [same]
    exact registered.sound
  projects := registered.projects

/-- A change that leaves the registry rows leaves the grants. -/
theorem Registered.other (registered : Registered journal roster grants) {store : Store}
    (same : store.db.events.filter registryFormat.isRow =
      roster.store.db.events.filter registryFormat.isRow)
    (longer : roster.store.db.events.length ≤ store.db.events.length) :
    Registered journal ⟨store, roster.accounts⟩ grants where
  rows := by
    have rows := registered.rows
    rw [registryRows, authorityRows] at rows ⊢
    rwa [same]
  sound := { registered.sound with
    bounded := fun grant member => (registered.sound.bounded grant member).trans longer }
  projects := registered.projects

/-- **One call of any process** keeps every grant. -/
theorem Registered.step {dec : Decimals} (registered : Registered journal roster grants)
    (tracks : Tracks journal.lib journal.handle behind roster.store) {act : RegistryAct dec}
    {after : Roster} (step : RegistryStep dec journal roster act after) :
    ∃ behind' next, Tracks journal.lib journal.handle behind' after.store ∧ behind' ≤ behind + 1 ∧
      (act.publish = true → behind' ≤ behind) ∧ Registered journal after next ∧
      GrantsKept grants next := by
  obtain ⟨spares, rfl⟩ := step
  cases act with
  | grant binding atMs publish =>
      rw [RegistryAct.perform, Ledger.grant]
      rcases transactRoster_cases journal roster publish
          (Ledger.grantBody journal binding atMs roster) with
        ⟨error, _, refused⟩ | ⟨done, accounts, store, answer, run, same, left, tables, _⟩
      · rw [refused]
        exact ⟨behind, grants, tracks, by omega, fun _ => le_rfl, registered, .refl _⟩
      · obtain ⟨settles, outcome⟩ := registered.grantBody tracks run
        obtain ⟨behind', tracks', near, level⟩ := tracks.committed publish settles
        rw [← left] at tracks'
        rw [same]
        rcases outcome with ⟨_, _, _, _, _, found, rfl⟩ | ⟨new, _, _, _, _, _, next⟩
        · exact ⟨behind', grants, tracks', near, level,
            registered.of_tables (tables.trans found), .refl _⟩
        · exact ⟨behind', _, tracks', near, level, next store tables, .granted grants new⟩
  | retire route atMs publish =>
      rw [RegistryAct.perform, Ledger.retire]
      rcases transactRoster_cases journal roster publish
          (Ledger.retireBody journal route atMs roster) with
        ⟨error, _, refused⟩ | ⟨done, accounts, store, answer, run, same, left, tables, _⟩
      · rw [refused]
        exact ⟨behind, grants, tracks, by omega, fun _ => le_rfl, registered, .refl _⟩
      · obtain ⟨settles, held, _, _, _, outcome⟩ := registered.retireBody tracks run
        obtain ⟨behind', tracks', near, level⟩ := tracks.committed publish settles
        rw [← left] at tracks'
        rw [same]
        rcases outcome with ⟨_, found, rfl⟩ | ⟨_, _, next⟩
        · exact ⟨behind', grants, tracks', near, level,
            registered.of_tables (tables.trans found), .refl _⟩
        · exact ⟨behind', _, tracks', near, level, next store tables, .retired grants _⟩
  | other request =>
      have called : Step journal.lib dec journal.handle roster.store request
          (Ledger.perform journal.lib dec journal.handle request roster.store).2 := rfl
      obtain ⟨behind', tracks', near, level⟩ := tracks.step called
      refine ⟨behind', grants, tracks', near, level, ?_, .refl _⟩
      have moved := perform_moved tracks request
      rw [RegistryAct.perform]
      have spare {event : NewEvent} {idemKey : Option String} {appended : Appended} {changed : Db}
          {anchor : Option Anchor} (writes : Writes dec request.call event idemKey)
          (change : Change journal.lib (journal.handle.genesis journal.lib) roster.store.db event
            idemKey appended changed) :
          Registered journal ⟨⟨changed, anchor⟩, roster.accounts⟩ grants := by
        refine registered.other (writes.sparesRows change tracks.consistent.rows
          (spares request rfl)) ?_
        have grew := change.head.2.2
        change _ ≤ changed.events.length
        omega
      generalize Ledger.perform journal.lib dec journal.handle request roster.store = outcome
        at moved
      obtain ⟨answer, after⟩ := outcome
      cases moved with
      | unchanged => exact registered
      | published writes change => exact spare writes change
      | unpublished writes change => exact spare writes change

/-- Every run keeps the registry sound, and keeps its grants. The induction carries the anchor
along, since a step reads the head through it. -/
theorem Registered.run {dec : Decimals} (registered : Registered journal roster grants)
    (tracks : Tracks journal.lib journal.handle behind roster.store)
    {acts : List (RegistryAct dec)} {last : Roster}
    (run : Run (RegistryStep dec journal) roster acts last) :
    ∃ behind' next, Tracks journal.lib journal.handle behind' last.store ∧
      Registered journal last next ∧ GrantsKept grants next := by
  refine run.invariant (fun last => ∃ behind' next, Tracks journal.lib journal.handle behind'
    last.store ∧ Registered journal last next ∧ GrantsKept grants next) ?_
    ⟨behind, grants, tracks, registered, .refl _⟩
  rintro before act after ⟨_, next, tracks, registered, kept⟩ step
  obtain ⟨behind', later, tracks', _, _, registered', kept'⟩ := registered.step tracks step
  exact ⟨behind', later, tracks', registered', kept.trans kept'⟩

/-- A ledger that was just opened has no grants. -/
theorem opened_registered {accounts : List SubAccount} (table : Table accounts) :
    Registered journal ⟨opened journal.lib journal.handle, accounts⟩ [] where
  rows := rfl
  sound := .nil
  projects := ⟨table, fun _ member => absurd member List.not_mem_nil⟩

/-- An anchored file is as far behind as its anchor. -/
theorem Tracks.level_iff {lib : Libraries} {handle : Handle} {store : Store}
    (tracks : Tracks lib handle behind store) (anchored : handle.anchored = true) :
    store.Level ↔ behind = 0 := by
  obtain ⟨anchor, present, position, _⟩ := tracks.anchored anchored
  constructor
  · intro level
    have same := level anchor present
    omega
  · intro caught other held
    obtain rfl := Option.some.inj (present.symm.trans held)
    omega

/-- While no second row is left unpublished, the anchor is at most one row behind. -/
theorem safeRun_near {dec : Decimals} {accounts : List SubAccount} (table : Table accounts)
    (anchored : journal.handle.anchored = true) {acts : List (RegistryAct dec)}
    (run : Run (fun before act after => RegistryStep dec journal before act after ∧ act.Safe before)
      ⟨opened journal.lib journal.handle, accounts⟩ acts roster) :
    ∃ behind grants, behind ≤ 1 ∧ Tracks journal.lib journal.handle behind roster.store ∧
      Registered journal roster grants := by
  refine run.invariant (fun roster => ∃ behind grants, behind ≤ 1 ∧
    Tracks journal.lib journal.handle behind roster.store ∧ Registered journal roster grants) ?_
    ⟨0, [], Nat.zero_le 1, opened_tracks, opened_registered table⟩
  rintro before act after ⟨behind, grants, near, tracks, registered⟩ ⟨step, safe⟩
  obtain ⟨behind', next, tracks', close, level, registered', _⟩ := registered.step tracks step
  refine ⟨behind', next, ?_, tracks', registered'⟩
  rcases safe with publish | caught
  · exact (level publish).trans near
  · rw [tracks.level_iff anchored] at caught
    omega

/-- A grant is committed once: a second one of the same route is answered or refused. -/
theorem Registered.grantsOnce (registered : Registered journal roster grants)
    (tracks : Tracks journal.lib journal.handle behind roster.store) :
    GrantsOnce journal roster grants := by
  intro publish binding atMs
  rw [Ledger.grant]
  rcases transactRoster_cases journal roster publish
      (Ledger.grantBody journal binding atMs roster) with
    ⟨error, _, refused⟩ | ⟨done, accounts, store, answer, run, same, _, tables, answered⟩
  · exact .inl ⟨error, refused⟩
  · rw [same]
    rcases (registered.grantBody tracks run).2 with
      ⟨existing, member, live, bound, value, found, rfl⟩ |
      ⟨new, live, bound, value, clear, length, next⟩
    · exact .inr (.inl ⟨existing, member, live, bound, tables.trans found, rfl, value ▸ answered⟩)
    · refine .inr (.inr ⟨new, live, bound, clear, ?_, next store tables, value ▸ answered⟩)
      change store.db.events.length = _
      rw [tables]
      exact length

/-- A grant that was retired stays so. -/
theorem Registered.retiresFinally (registered : Registered journal roster grants)
    (tracks : Tracks journal.lib journal.handle behind roster.store) :
    RetiresFinally journal roster grants := by
  intro publish route atMs
  rw [Ledger.retire]
  rcases transactRoster_cases journal roster publish
      (Ledger.retireBody journal route atMs roster) with
    ⟨error, _, refused⟩ | ⟨done, accounts, store, answer, run, same, _, tables, answered⟩
  · exact .inl ⟨error, refused⟩
  · rw [same]
    obtain ⟨_, held, member, named, value, outcome⟩ := registered.retireBody tracks run
    refine .inr ⟨held, member, named, value ▸ answered, ?_⟩
    rcases outcome with ⟨gone, found, rfl⟩ | ⟨live, length, next⟩
    · exact .inl ⟨gone, tables.trans found, rfl⟩
    · refine .inr ⟨live, ?_, next store tables⟩
      change store.db.events.length = _
      rw [tables]
      exact length

/-- A call that is repeated commits nothing more. -/
theorem Registered.repeatsNothing (registered : Registered journal roster grants)
    (tracks : Tracks journal.lib journal.handle behind roster.store) :
    RepeatsNothing journal roster grants := by
  intro held member publish atMs
  constructor
  · intro live
    rcases registered.grantsOnce tracks publish held.route.binding atMs with
      ⟨error, refused⟩ | ⟨_, _, _, _, found, kept, _⟩ | ⟨_, _, _, clear, _⟩
    · rw [refused]
      exact ⟨rfl, rfl⟩
    · exact ⟨found, kept⟩
    · exact absurd (.inl rfl) (clear held member)
  · intro gone
    rcases registered.retiresFinally tracks publish held.route atMs with
      ⟨error, refused⟩ | ⟨other, inside, same, _, ⟨_, found, kept⟩ | ⟨live, _⟩⟩
    · rw [refused]
      exact ⟨rfl, rfl⟩
    · exact ⟨found, kept⟩
    · have seqs := registered.sound.seqs
      obtain rfl := List.inj_on_of_nodup_map seqs inside member
        (congrArg AuthorizedRoute.bindingSeq same)
      rw [gone] at live
      cases live

/-- A call that is refused leaves the store as it was. -/
theorem refusesCleanly (journal : RegistryJournal) (roster : Roster) :
    RefusesCleanly journal roster := by
  have whole {α : Type} (publish : Bool)
      (body : Except AuthorityError (Committed α × List SubAccount)) (error : AuthorityError)
      (failed : (transactRoster journal publish roster body).1 = .error error)
      (other : error ≠ .ledger .io) : (transactRoster journal publish roster body).2 = roster := by
    rcases transactRoster_cases journal roster publish body with
      ⟨_, _, refused⟩ | ⟨_, _, _, answer, _, same, _, _, answered⟩
    · rw [refused]
    · rw [same] at failed
      obtain rfl : answer = .error error := failed
      rcases answered with told | ⟨_, _, unpublished⟩
      · cases told
      · cases unpublished
        exact absurd rfl other
  exact ⟨fun publish _ _ error => whole publish _ error,
    fun publish _ _ error => whole publish _ error⟩

end Proofs

/-! ## Guarantees -/

/-- What holds of a file and its metadata, by the grants in its history. -/
structure GrantedOnce (dec : Decimals) (journal : RegistryJournal) (roster : Roster)
    (grants : List Grant) : Prop where
  registered : Registered journal roster grants
  agents : ∀ first ∈ grants, ∀ second ∈ grants, first.retired = false → second.retired = false →
    first.route.binding.agent = second.route.binding.agent → first = second
  containers : ∀ first ∈ grants, ∀ second ∈ grants,
    first.route.binding.container = second.route.binding.container → first = second
  signers : ∀ first ∈ grants, ∀ second ∈ grants,
    first.route.binding.wallet.address = second.route.binding.wallet.address → first = second
  granting : GrantsOnce journal roster grants
  retiring : RetiresFinally journal roster grants
  repeating : RepeatsNothing journal roster grants
  refusing : RefusesCleanly journal roster
  replays : registryReplay journal roster = .ok grants ↔
    ∀ anchor ∈ roster.store.anchor, roster.store.db.events.length ≤ anchor.seq + 1
  onward : ∀ acts later, Run (RegistryStep dec journal) roster acts later →
    ∃ next, Registered journal later next ∧ GrantsKept grants next

/-- A registry that follows its rows keeps every promise: no two live grants share an agent, and no
two grants a container or a signer. -/
theorem Registered.grantedOnce {dec : Decimals} {journal : RegistryJournal} {roster : Roster}
    {grants : List Grant} {behind : Nat} (registered : Registered journal roster grants)
    (tracks : Tracks journal.lib journal.handle behind roster.store)
    (anchored : journal.handle.anchored = true) : GrantedOnce dec journal roster grants where
  registered := registered
  agents first member second member' live live' same := by
    have distinct := registered.sound.agents
    refine List.inj_on_of_nodup_map distinct ?_ ?_ same
    · exact List.mem_filter.mpr ⟨member, by rw [live]; rfl⟩
    · exact List.mem_filter.mpr ⟨member', by rw [live']; rfl⟩
  containers first member second member' same :=
    List.inj_on_of_nodup_map registered.sound.containers member member' same
  signers first member second member' same :=
    List.inj_on_of_nodup_map registered.sound.signers member member' same
  granting := registered.grantsOnce tracks
  retiring := registered.retiresFinally tracks
  repeating := registered.repeatsNothing tracks
  refusing := refusesCleanly journal roster
  replays := by
    obtain ⟨anchor, present, position, _⟩ := tracks.anchored anchored
    rw [registered.replay_iff tracks anchored]
    constructor
    · intro near other held
      obtain rfl := Option.some.inj (present.symm.trans held)
      omega
    · intro recent
      have within := recent anchor present
      omega
  onward acts later run := by
    obtain ⟨_, next, _, registered', kept⟩ := registered.run tracks run
    exact ⟨next, registered', kept⟩

/-- **Registry authority.** Whatever grants and retirements any processes run, among all other
calls on the file, each agent has at most one live grant, no container and no signer is
granted twice, a retired grant stays retired, repeats and refusals change nothing, and the
replay accepts the history as long as its anchor is at most one row behind. It is, while no
call whose publication fails follows an unpublished row. -/
theorem registry_grants_once {dec : Decimals} (journal : RegistryJournal)
    (anchored : journal.handle.anchored = true) {accounts : List SubAccount}
    (table : Table accounts) :
    (∀ acts roster, Run (RegistryStep dec journal) ⟨opened journal.lib journal.handle, accounts⟩
      acts roster → ∃ grants, GrantedOnce dec journal roster grants) ∧
    ∀ acts roster, Run (fun before act after => RegistryStep dec journal before act after ∧
        act.Safe before) ⟨opened journal.lib journal.handle, accounts⟩ acts roster →
      ∃ grants, GrantedOnce dec journal roster grants ∧
        registryReplay journal roster = .ok grants := by
  constructor
  · intro acts roster run
    obtain ⟨behind, grants, tracks, registered, _⟩ :=
      (opened_registered table).run opened_tracks run
    exact ⟨grants, registered.grantedOnce tracks anchored⟩
  · intro acts roster run
    obtain ⟨behind, grants, near, tracks, registered⟩ := safeRun_near table anchored run
    exact ⟨grants, registered.grantedOnce tracks anchored,
      (registered.replay_iff tracks anchored).mpr near⟩

namespace TwoGrants

/-- The compact reader and the checksum in place of the real libraries, and one tag for every
message. -/
def journal : RegistryJournal where
  lib := .reference checksum
  handle := ⟨.testnet, true⟩
  key := .constant

def address (digit : UInt8) : Address := .filled digit

def binding (agent : String) (container signer : UInt8) : RegistryBinding :=
  ⟨agent, address container, none, ⟨0, address signer, 1, 100⟩⟩

def start : Roster := ⟨opened journal.lib journal.handle, []⟩

/-- Two agents are granted a container each, and neither head is published. -/
def maker : RegistryAct .reference := .grant (binding "maker" 1 2) 5 false

def taker : RegistryAct .reference := .grant (binding "taker" 3 4) 6 false

def began : Roster := maker.perform journal start

def ended : Roster := taker.perform journal began

/-- The sample grants two routes, one after the other. -/
theorem ended_run : Run (RegistryStep .reference journal) start [maker, taker] ended :=
  .snoc (.single (.granted journal start _ _ _)) (.granted journal began _ _ _)

/-- Both rows are committed, no replay accepts them, and the retry whose publication would go
through is refused. -/
theorem replay_lost :
    Run (RegistryStep .reference journal) start [maker, taker] ended ∧
      ended.store.db.events.length = 2 ∧ (registryReplay journal ended).isOk = false ∧
      (grant journal true (binding "taker" 3 4) 7 ended).1.isOk = false :=
  ⟨ended_run, by decide +kernel⟩

/-- The first of the two grants alone leaves a history that replays. -/
theorem began_once : ∃ grants, GrantedOnce .reference journal began grants ∧
    registryReplay journal began = .ok grants := by
  have level : start.store.Level := by
    rintro anchor ⟨⟩
    rfl
  exact (registry_grants_once journal rfl .nil).2 [maker] began
    (.single ⟨.granted journal start _ _ _, .inr level⟩)

end TwoGrants

end Oppen.Ledger
