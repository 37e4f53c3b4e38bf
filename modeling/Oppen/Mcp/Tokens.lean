import Oppen.Mcp.Auth

/-! # Token authority

While it is open, the store says what the journal says. Whatever fails between a commit and
the new state in memory, the weaker of the two is believed.
-/

namespace Oppen.Mcp

open Foundation Oppen.Json Oppen.Guardrail Oppen.Ledger

/-! ## Lookups -/

section Lookups

variable {candidate : TokenDigest} {records : List TokenRecord} {record : TokenRecord}

/-- A match is a record of the digest. -/
theorem matchDigest_some (found : matchDigest candidate records = some record) :
    record ∈ records ∧ record.digest = candidate := by
  induction records using List.reverseRecOn with
  | nil => cases found
  | append_singleton earlier last ih =>
      rw [matchDigest, List.foldl_append, List.foldl_cons, List.foldl_nil] at found
      split at found
      · rename_i same
        obtain rfl := Option.some.inj found
        exact ⟨List.mem_append_right _ (List.mem_singleton_self _), same⟩
      · obtain ⟨member, same⟩ := ih found
        exact ⟨List.mem_append_left _ member, same⟩

/-- The earliest record is one of them, and none was issued before it. -/
theorem earliest_some (found : earliest records = some record) :
    record ∈ records ∧ ∀ other ∈ records, record.id.issuedSeq ≤ other.id.issuedSeq := by
  induction records using List.reverseRecOn generalizing record with
  | nil => cases found
  | append_singleton before last ih =>
      rw [earliest, List.foldl_append, List.foldl_cons, List.foldl_nil] at found
      cases first : earliest before with
      | none =>
          have empty : before = [] := by
            cases before using List.reverseRecOn with
            | nil => rfl
            | append_singleton before last =>
                rw [earliest, List.foldl_append, List.foldl_cons, List.foldl_nil] at first
                split at first
                · cases first
                · split at first <;> cases first
          rw [earliest] at first
          rw [first] at found
          obtain rfl := Option.some.inj found
          subst empty
          refine ⟨List.mem_singleton_self _, fun other member => ?_⟩
          rw [List.mem_singleton.mp member]
      | some held =>
          obtain ⟨member, least⟩ := ih first
          rw [earliest] at first
          rw [first] at found
          split at found
          · rename_i absent
            cases absent
          · rename_i best same
            obtain rfl := Option.some.inj same
            split at found
            · rename_i less
              obtain rfl := Option.some.inj found
              refine ⟨List.mem_append_right _ (List.mem_singleton_self _), fun other inside => ?_⟩
              rcases List.mem_append.mp inside with older | newest
              · exact less.le.trans (least other older)
              · rw [List.mem_singleton.mp newest]
            · rename_i notLess
              obtain rfl := Option.some.inj found
              refine ⟨List.mem_append_left _ member, fun other inside => ?_⟩
              rcases List.mem_append.mp inside with older | newest
              · exact least other older
              · rw [List.mem_singleton.mp newest]
                exact Nat.not_lt.mp notLess

end Lookups

section Tokens

variable {tokens : TokenStore} {authority : SessionAuthority} {digestOf : String → TokenDigest}

/-- A closed store answers nobody. -/
theorem closed_refuses (closed : tokens.closed = true) :
    (∀ presented, tokens.authenticate digestOf presented = .error .unauthenticated) ∧
      (∀ binding, tokens.operatorAuthority binding = .error .unauthenticated) ∧
      ∀ authority, tokens.checkAuthority authority = .error .unauthenticated := by
  refine ⟨fun presented => ?_, fun binding => ?_, fun authority => ?_⟩
  · simp only [TokenStore.authenticate, refuseIf, closed, if_true, bind, Except.bind]
  · simp only [TokenStore.operatorAuthority, refuseIf, closed, if_true, bind, Except.bind]
  · simp only [TokenStore.checkAuthority, refuseIf, closed, true_or, if_true, bind, Except.bind]

/-- A token that is accepted is one of an open store, paired and not revoked. -/
theorem authenticate_ok {presented : String}
    (run : tokens.authenticate digestOf presented = .ok authority) :
    tokens.closed = false ∧ ∃ record ∈ tokens.records, record.digest = digestOf presented ∧
      record.revoked = false ∧ authority = record.authority tokens.journal := by
  obtain ⟨_, opened, run⟩ := bind_eq_ok run
  refine ⟨Bool.not_eq_true _ ▸ refuseIf_ok opened, ?_⟩
  split at run
  · cases run
  · rename_i record found
    obtain ⟨_, live, run⟩ := bind_eq_ok run
    cases run
    obtain ⟨member, same⟩ := matchDigest_some found
    exact ⟨record, member, same, Bool.not_eq_true _ ▸ refuseIf_ok live, rfl⟩

/-- An operator's authority is that of a pairing which is not revoked. -/
theorem operatorAuthority_ok {binding : PairingBinding}
    (run : tokens.operatorAuthority binding = .ok authority) :
    tokens.closed = false ∧ ∃ record ∈ tokens.records, record.binding = binding ∧
      record.revoked = false ∧ authority = record.authority tokens.journal ∧
      ∀ other ∈ tokens.records, other.binding = binding → other.revoked = false →
        record.id.issuedSeq ≤ other.id.issuedSeq := by
  obtain ⟨_, opened, run⟩ := bind_eq_ok run
  refine ⟨Bool.not_eq_true _ ▸ refuseIf_ok opened, ?_⟩
  split at run
  · cases run
  · rename_i record found
    cases run
    obtain ⟨member, least⟩ := earliest_some found
    obtain ⟨inside, facts⟩ := List.mem_filter.mp member
    rw [Bool.and_eq_true, decide_eq_true_eq, Bool.not_eq_true'] at facts
    refine ⟨record, inside, facts.1, facts.2, rfl, fun other here bound live => ?_⟩
    refine least other (List.mem_filter.mpr ⟨here, ?_⟩)
    rw [bound, live, decide_eq_true rfl]
    rfl

/-- An authority that passes is one of an open store, for a pairing which is not revoked. -/
theorem checkAuthority_ok (run : tokens.checkAuthority authority = .ok ()) :
    tokens.closed = false ∧ authority.journal = tokens.journal ∧
      ∃ record ∈ tokens.records, record.id = authority.id ∧ record.binding = authority.binding ∧
        record.revoked = false := by
  obtain ⟨_, opened, run⟩ := bind_eq_ok run
  have here := refuseIf_ok opened
  rw [not_or, not_not, Bool.not_eq_true] at here
  refine ⟨here.1, here.2.symm, ?_⟩
  split at run
  · cases run
  · rename_i record found
    obtain ⟨_, bound, run⟩ := bind_eq_ok run
    exact ⟨record, List.mem_of_find?_eq_some found, by simpa using List.find?_some found,
      not_not.mp (refuseIf_ok bound), Bool.not_eq_true _ ▸ refuseIf_ok run⟩

end Tokens

/-! ## The store beside the journal -/

/-- The pairings of the file, a store that says them while it is open, and sessions of
pairings there are. -/
structure Cached (journal : PairingJournal) (gateway : Gateway) (pairings : List Pairing) :
    Prop where
  paired : Paired journal gateway.ledger pairings
  records : ∀ tokens ∈ gateway.tokens, tokens.closed = false →
    tokens.records = pairings.map fun pairing => cachedRecord pairing.record
  sessions : ∀ authority ∈ gateway.sessions, ∃ pairing ∈ pairings,
    pairing.record.id = authority.id ∧ pairing.record.binding = authority.binding

section Mutating

variable {journal : PairingJournal} {digestOf : String → TokenDigest} {tokens : TokenStore}
  {store : Store} {pairings : List Pairing} {behind : Nat}

/-- What a mutation leaves: a closed store, or one that says what the journal says; and in the
file the pairings there were, with one more or one revoked. -/
structure Mutates (journal : PairingJournal) (tokens : TokenStore) (store : Store)
    (pairings : List Pairing) (behind : Nat) (publish : Bool) (completed : Prop)
    (after : TokenStore × Store) (next : List Pairing) : Prop where
  tracks : ∃ behind', Tracks journal.lib journal.handle behind' after.2 ∧ behind' ≤ behind + 1 ∧
    (publish = true → behind' ≤ behind)
  paired : Paired journal after.2 next
  kept : PairingsKept pairings next
  cached : after.1.closed = false →
    after.1.records = next.map fun pairing => cachedRecord pairing.record
  uncertain : ¬ completed → after.1.closed = true
  sameJournal : after.1.journal = tokens.journal

/-- The store that was closed before, and a mutation that ends where it began. -/
theorem Mutates.idle (paired : Paired journal store pairings)
    (tracks : Tracks journal.lib journal.handle behind store) {publish : Bool} {completed : Prop}
    {after : TokenStore} (closed : after.closed = true) (same : after.journal = tokens.journal) :
    Mutates journal tokens store pairings behind publish completed (after, store) pairings where
  tracks := ⟨behind, tracks, by omega, fun _ => le_rfl⟩
  paired := paired
  kept := .refl _
  cached opened := by
    rw [closed] at opened
    cases opened
  uncertain _ := closed
  sameJournal := same

/-- A mutation whose memory is shut, whatever it committed. -/
theorem Mutates.shut {publish : Bool} {completed : Prop} {after : Store} {next : List Pairing}
    (tracks : ∃ behind', Tracks journal.lib journal.handle behind' after ∧ behind' ≤ behind + 1 ∧
      (publish = true → behind' ≤ behind))
    (paired : Paired journal after next) (kept : PairingsKept pairings next) :
    Mutates journal tokens store pairings behind publish completed (tokens.shut, after) next where
  tracks := tracks
  paired := paired
  kept := kept
  cached := nofun
  uncertain _ := rfl
  sameJournal := rfl

/-- **An issue** leaves a closed store, or one that says the new pairing too. -/
theorem issue_mutates (digestOf : String → TokenDigest) (paired : Paired journal store pairings)
    (tracks : Tracks journal.lib journal.handle behind store)
    (cached : tokens.closed = false →
      tokens.records = pairings.map fun pairing => cachedRecord pairing.record)
    (binding : PairingBinding) (met : Circumstances) :
    ∃ next, Mutates journal tokens store pairings behind met.publish
      (tokens.issue journal digestOf store binding met).1.Completed
      (tokens.issue journal digestOf store binding met).2 next := by
  unfold TokenStore.issue
  split
  · rename_i closed
    exact ⟨pairings, .idle paired tracks closed rfl⟩
  · rename_i opened
    rw [Bool.not_eq_true] at opened
    split
    · exact ⟨pairings, .idle paired tracks rfl rfl⟩
    · rename_i secret _
      split
      · exact ⟨pairings, .idle paired tracks rfl rfl⟩
      · rename_i nowMs _
        have settled := tracks.settled met.publish AuthorityError.ledger
          fun (done : Committed PairingRecord)
            (run : issueBody journal binding (digestOf secret) nowMs store = .ok done) =>
              (paired.issueBody tracks run).1
        have branches := @transact_cases journal.handle _ _ met.publish AuthorityError.ledger store
          (issueBody journal binding (digestOf secret) nowMs store)
        split
        · rename_i error after ran
          rw [issuePairing] at ran
          rw [ran] at settled branches
          rcases branches with ⟨_, _, same⟩ | ⟨done, run, tables, _⟩
          · cases same
            exact ⟨pairings, .shut settled paired (.refl _)⟩
          · obtain ⟨_, new, _, _, _, _, _, _, next⟩ := paired.issueBody tracks run
            exact ⟨_, .shut settled (next after tables) (.issued pairings new)⟩
        · rename_i record after ran
          rw [issuePairing] at ran
          rw [ran] at settled branches
          rcases branches with ⟨_, _, same⟩ | ⟨done, run, tables, answered⟩
          · cases same
          · obtain ⟨_, new, value, _, _, live, _, distinct, next⟩ := paired.issueBody tracks run
            split
            · exact ⟨_, .shut settled (next after tables) (.issued pairings new)⟩
            · refine ⟨pairings ++ [new], settled, next after tables, .issued pairings new,
                fun _ => ?_, fun incomplete => absurd ⟨_, rfl⟩ incomplete, rfl⟩
              obtain rfl : record = done.value := by
                rcases answered with told | ⟨_, _, failed⟩
                · exact Except.ok.inj told
                · cases failed
              change tokens.records.filter (fun held => held.id ≠ done.value.id) ++ [_] = _
              rw [← value, cached opened, List.map_append, List.filter_eq_self.mpr]
              · rw [List.map_singleton, cachedRecord, live]
                rfl
              · intro held member
                obtain ⟨pairing, inside, rfl⟩ := List.mem_map.mp member
                exact decide_eq_true (distinct pairing inside)

/-- The pairings of that id are revoked. -/
def RevokedIn (pairings : List Pairing) (id : PairingId) : Prop :=
  ∀ pairing ∈ pairings, pairing.record.id = id → pairing.record.revokedAtMs.isSome = true

/-- A pairing that was revoked is revoked among the pairings. -/
theorem revokedIn_revokeAt {id : PairingId} (pairings : List Pairing) (atMs : UInt64) :
    RevokedIn (revokeAt pairings id.issuedSeq atMs) id := by
  intro pairing member same
  rcases mem_revokeAt.mp member with ⟨_, other⟩ | ⟨_, _, _, rfl⟩
  · exact absurd (congrArg PairingId.issuedSeq same) other
  · rfl

/-- **A revocation** leaves a closed store, or one that says it. Once it went through to its end,
the pairing it names is revoked in the file. -/
theorem revoke_mutates (paired : Paired journal store pairings)
    (tracks : Tracks journal.lib journal.handle behind store)
    (cached : tokens.closed = false →
      tokens.records = pairings.map fun pairing => cachedRecord pairing.record)
    (id : PairingId) (met : Circumstances) :
    ∃ next, Mutates journal tokens store pairings behind met.publish
      (tokens.revoke journal store id met).1.Completed
      (tokens.revoke journal store id met).2 next ∧
      ((tokens.revoke journal store id met).1.Completed → RevokedIn next id) := by
  -- what failed or unwound did not go through
  have failed (error : TokenStoreError) : ¬ ((.returned (.error error) : Outcome Bool)).Completed :=
    fun ⟨_, same⟩ => nomatch same
  have unwound : ¬ (Outcome.panicked : Outcome Bool).Completed := fun ⟨_, same⟩ => nomatch same
  unfold TokenStore.revoke
  split
  · rename_i closed
    exact ⟨pairings, .idle paired tracks closed rfl, fun done => absurd done (failed _)⟩
  · rename_i opened
    rw [Bool.not_eq_true] at opened
    split
    · exact ⟨pairings, .idle paired tracks rfl rfl, fun done => absurd done (failed _)⟩
    · rename_i nowMs _
      have settled := tracks.settled met.publish AuthorityError.ledger
        fun (done : Committed Bool) (run : revokeBody journal id nowMs store = .ok done) =>
          (paired.revokeBody tracks run).1
      have branches := @transact_cases journal.handle _ _ met.publish AuthorityError.ledger store
        (revokeBody journal id nowMs store)
      -- whatever became of the answer, the file holds the pairings or has this one revoked
      have file {after : Store} {done : Committed Bool}
          (run : revokeBody journal id nowMs store = .ok done) (tables : after.db = done.db) :
          ∃ next, Paired journal after next ∧ PairingsKept pairings next := by
        rcases (paired.revokeBody tracks run).2 with ⟨_, same, _⟩ | ⟨pairing, _, _, _, _, next⟩
        · exact ⟨pairings, paired.of_tables (tables.trans same), .refl _⟩
        · exact ⟨_, next after tables, .revoked pairings _ _⟩
      split
      · rename_i error after ran
        rw [revokePairing] at ran
        rw [ran] at settled branches
        rcases branches with ⟨_, _, same⟩ | ⟨done, run, tables, _⟩
        · cases same
          exact ⟨pairings, .shut settled paired (.refl _), fun done => absurd done (failed _)⟩
        · obtain ⟨next, paired', kept⟩ := file run tables
          exact ⟨next, .shut settled paired' kept, fun done => absurd done (failed _)⟩
      · rename_i changed after ran
        rw [revokePairing] at ran
        rw [ran] at settled branches
        rcases branches with ⟨_, _, same⟩ | ⟨done, run, tables, answered⟩
        · cases same
        · obtain rfl : changed = done.value := by
            rcases answered with told | ⟨_, _, failed⟩
            · exact Except.ok.inj told
            · cases failed
          split
          · obtain ⟨next, paired', kept⟩ := file run tables
            exact ⟨next, .shut settled paired' kept, fun done => absurd done unwound⟩
          · rcases (paired.revokeBody tracks run).2 with
              ⟨idle, same, gone⟩ | ⟨pairing, member, did, named, live, next⟩
            · rw [if_pos idle]
              exact ⟨pairings, ⟨settled, paired.of_tables (tables.trans same), .refl _,
                fun _ => cached opened, fun incomplete => absurd ⟨_, rfl⟩ incomplete, rfl⟩,
                fun _ => gone⟩
            · rw [if_neg (by rw [did]; exact Bool.true_eq_false.mp)]
              have present : ∃ record, tokens.get id = some record := by
                rw [TokenStore.get, ← Option.isSome_iff_exists, List.find?_isSome]
                refine ⟨cachedRecord pairing.record, ?_, decide_eq_true named⟩
                rw [cached opened]
                exact List.mem_map_of_mem member
              obtain ⟨record, found⟩ := present
              rw [found]
              refine ⟨_, ⟨settled, next after tables, .revoked pairings _ _, fun _ => ?_,
                fun incomplete => absurd ⟨_, rfl⟩ incomplete, rfl⟩,
                fun _ => revokedIn_revokeAt pairings nowMs⟩
              change tokens.records.map _ = _
              rw [cached opened, revokeAt, List.map_map, List.map_map]
              refine List.map_congr_left fun held inside => ?_
              have same : held.record.id = id ↔ held.record.id.issuedSeq = id.issuedSeq := by
                refine ⟨congrArg PairingId.issuedSeq, fun position => ?_⟩
                have seqs := paired.sound.seqs
                obtain rfl := List.inj_on_of_nodup_map seqs inside member
                  (position.trans (congrArg PairingId.issuedSeq named).symm)
                exact named
              simp only [Function.comp_apply]
              by_cases here : held.record.id = id
              · rw [if_pos (show (cachedRecord held.record).id = id from here),
                  if_pos (same.mp here)]
                rfl
              · rw [if_neg (show ¬ (cachedRecord held.record).id = id from here),
                  if_neg (mt same.mpr here)]

end Mutating

/-! ## Every run of a gateway -/

section Running

variable {dec : Decimals} {journal : PairingJournal} {digestOf : String → TokenDigest}
  {gateway : Gateway} {pairings : List Pairing} {behind : Nat}

/-- A pairing a store says, by what its record shows. -/
theorem Cached.pairing (cached : Cached journal gateway pairings) {tokens : TokenStore}
    (live : tokens ∈ gateway.tokens) (opened : tokens.closed = false) {record : TokenRecord}
    (member : record ∈ tokens.records) :
    ∃ pairing ∈ pairings, record = cachedRecord pairing.record := by
  rw [cached.records tokens live opened] at member
  obtain ⟨pairing, inside, rfl⟩ := List.mem_map.mp member
  exact ⟨pairing, inside, rfl⟩

/-- The authority of a session keeps its pairing when the pairings are kept. -/
theorem Cached.kept (cached : Cached journal gateway pairings) {next : List Pairing}
    (kept : PairingsKept pairings next) {authority : SessionAuthority}
    (member : authority ∈ gateway.sessions) :
    ∃ pairing ∈ next, pairing.record.id = authority.id ∧
      pairing.record.binding = authority.binding := by
  obtain ⟨pairing, inside, id, binding⟩ := cached.sessions authority member
  obtain ⟨later, here, id', binding', _⟩ := kept pairing inside
  exact ⟨later, here, id'.trans id, binding'.trans binding⟩

/-- An authority of a record of the store is a session of its pairing. -/
theorem Cached.admitted (cached : Cached journal gateway pairings) {tokens : TokenStore}
    (live : tokens ∈ gateway.tokens) {answer : Except AuthError SessionAuthority}
    (named : ∀ authority, answer = .ok authority → tokens.closed = false ∧
      ∃ record ∈ tokens.records, authority = record.authority tokens.journal) :
    Cached journal (gateway.admitting answer) pairings := by
  cases answer with
  | error error => exact cached
  | ok authority =>
      refine ⟨cached.paired, cached.records, fun session member => ?_⟩
      rcases List.mem_cons.mp member with rfl | older
      · obtain ⟨opened, record, inside, rfl⟩ := named session rfl
        obtain ⟨pairing, here, rfl⟩ := cached.pairing live opened inside
        exact ⟨pairing, here, rfl, rfl⟩
      · exact cached.sessions session older

/-- A mutation of the store of a gateway. -/
theorem Cached.mutated (cached : Cached journal gateway pairings) {tokens : TokenStore}
    {publish : Bool} {completed : Prop} {after : TokenStore × Store} {next : List Pairing}
    (mutates : Mutates journal tokens gateway.ledger pairings behind publish completed after next) :
    Cached journal { gateway with tokens := some after.1, ledger := after.2 } next where
  paired := mutates.paired
  records held same opened := by
    obtain rfl := Option.some.inj same
    exact mutates.cached opened
  sessions _ member := cached.kept mutates.kept member

/-- Every step keeps the cached records, the sessions and the journal in agreement. The induction
over a run carries the anchor along. -/
theorem Cached.step (cached : Cached journal gateway pairings)
    (tracks : Tracks journal.lib journal.handle behind gateway.ledger) {act : TokenAct dec}
    {after : Gateway} (step : TokenStep journal digestOf gateway act after) :
    ∃ behind' next, Tracks journal.lib journal.handle behind' after.ledger ∧
      Cached journal after next ∧ PairingsKept pairings next := by
  obtain ⟨spares, rfl⟩ := step
  cases act with
  | reopen =>
      refine ⟨behind, pairings, ?_, ?_, .refl _⟩
      all_goals
        rw [Gateway.perform, Gateway.reopen]
        split
      · exact tracks
      · split <;> exact tracks
      · exact cached
      · split
        · exact cached
        · rename_i records read
          refine ⟨cached.paired, fun tokens same _ => ?_, cached.sessions⟩
          obtain rfl := Option.some.inj same
          cases replayed : pairingReplay journal gateway.ledger with
          | error error =>
              rw [pairingRecords, replayed] at read
              cases read
          | ok found =>
              obtain rfl := cached.paired.of_replay replayed
              rw [pairingRecords, replayed] at read
              cases read
              exact List.map_map ..
  | issue binding met =>
      cases live : gateway.tokens with
      | none =>
          rw [Gateway.perform, live]
          exact ⟨behind, pairings, tracks, cached, .refl _⟩
      | some tokens =>
          obtain ⟨next, mutates⟩ := issue_mutates digestOf cached.paired tracks
            (cached.records tokens live) binding met
          obtain ⟨behind', tracks', _⟩ := mutates.tracks
          rw [Gateway.perform, live]
          exact ⟨behind', next, tracks', cached.mutated mutates, mutates.kept⟩
  | revoke id met =>
      cases live : gateway.tokens with
      | none =>
          rw [Gateway.perform, live]
          exact ⟨behind, pairings, tracks, cached, .refl _⟩
      | some tokens =>
          obtain ⟨next, mutates, -⟩ := revoke_mutates cached.paired tracks
            (cached.records tokens live) id met
          obtain ⟨behind', tracks', _⟩ := mutates.tracks
          rw [Gateway.perform, live]
          exact ⟨behind', next, tracks', cached.mutated mutates, mutates.kept⟩
  | authenticate presented =>
      cases live : gateway.tokens with
      | none =>
          rw [Gateway.perform, live]
          exact ⟨behind, pairings, tracks, cached, .refl _⟩
      | some tokens =>
          rw [Gateway.perform, live]
          refine ⟨behind, pairings, ?_, cached.admitted live fun authority run => ?_, .refl _⟩
          · change Tracks _ _ _ (gateway.admitting _).ledger
            rw [Gateway.admitting_ledger]
            exact tracks
          · obtain ⟨opened, record, member, _, _, same⟩ := authenticate_ok run
            exact ⟨opened, record, member, same⟩
  | operatorAuthority binding =>
      cases live : gateway.tokens with
      | none =>
          rw [Gateway.perform, live]
          exact ⟨behind, pairings, tracks, cached, .refl _⟩
      | some tokens =>
          rw [Gateway.perform, live]
          refine ⟨behind, pairings, ?_, cached.admitted live fun authority run => ?_, .refl _⟩
          · change Tracks _ _ _ (gateway.admitting _).ledger
            rw [Gateway.admitting_ledger]
            exact tracks
          · obtain ⟨opened, record, member, _, _, same, _⟩ := operatorAuthority_ok run
            exact ⟨opened, record, member, same⟩
  | dropStore =>
      exact ⟨behind, pairings, tracks, ⟨cached.paired, fun _ => nofun, cached.sessions⟩, .refl _⟩
  | dropSession authority =>
      exact ⟨behind, pairings, tracks, ⟨cached.paired, cached.records, fun session member =>
        cached.sessions session (List.mem_of_mem_erase member)⟩, .refl _⟩
  | crash =>
      exact ⟨behind, pairings, tracks, ⟨cached.paired, fun _ => nofun, fun _ member =>
        absurd member List.not_mem_nil⟩, .refl _⟩
  | other request =>
      have called : Step journal.lib dec journal.handle gateway.ledger request
          (Ledger.perform journal.lib dec journal.handle request gateway.ledger).2 := rfl
      obtain ⟨behind', tracks', _⟩ := tracks.step called
      have moved := perform_moved tracks request
      refine ⟨behind', pairings, tracks', ⟨?_, cached.records, cached.sessions⟩, .refl _⟩
      have spare {event : NewEvent} {idemKey : Option String} {appended : Appended} {changed : Db}
          {anchor : Option Anchor} (writes : Writes dec request.call event idemKey)
          (change : Change journal.lib (journal.handle.genesis journal.lib) gateway.ledger.db event
            idemKey appended changed) : Paired journal ⟨changed, anchor⟩ pairings := by
        refine cached.paired.other (writes.sparesRows change tracks.consistent.rows
          (spares request rfl)) ?_
        have grew := change.head.2.2
        change _ ≤ changed.events.length
        omega
      rw [Gateway.perform]
      generalize Ledger.perform journal.lib dec journal.handle request gateway.ledger = outcome
        at moved
      obtain ⟨answer, after⟩ := outcome
      cases moved with
      | unchanged => exact cached.paired
      | published writes change => exact spare writes change
      | unpublished writes change => exact spare writes change

/-- A fresh gateway has cached nothing. -/
theorem fresh_cached : Cached journal (Gateway.fresh journal) [] where
  paired := ⟨rfl, .nil⟩
  records _ := nofun
  sessions _ member := absurd member List.not_mem_nil

/-- **Runs.** Pairings are only added and revoked, and an open store says them. -/
theorem Cached.run (cached : Cached journal gateway pairings)
    (tracks : Tracks journal.lib journal.handle behind gateway.ledger)
    {acts : List (TokenAct dec)} {last : Gateway}
    (run : Run (TokenStep journal digestOf) gateway acts last) :
    ∃ behind' next, Tracks journal.lib journal.handle behind' last.ledger ∧
      Cached journal last next ∧ PairingsKept pairings next := by
  refine run.invariant (fun last => ∃ behind' next, Tracks journal.lib journal.handle behind'
    last.ledger ∧ Cached journal last next ∧ PairingsKept pairings next) ?_
    ⟨behind, pairings, tracks, cached, .refl _⟩
  rintro before act after ⟨_, next, tracks, cached, kept⟩ step
  obtain ⟨behind', later, tracks', cached', kept'⟩ := cached.step tracks step
  exact ⟨behind', later, tracks', cached', kept.trans kept'⟩

end Running

/-! ## Guarantees -/

/-- A durable pairing that was not revoked. -/
def LivePairing (pairings : List Pairing) (pairing : Pairing) : Prop :=
  pairing ∈ pairings ∧ pairing.record.revokedAtMs = none

/-- The store answers for a durable live pairing only. -/
structure Faithful (digestOf : String → TokenDigest) (tokens : TokenStore)
    (pairings : List Pairing) : Prop where
  authenticates : ∀ presented authority,
    tokens.authenticate digestOf presented = .ok authority →
      tokens.closed = false ∧ ∃ pairing, LivePairing pairings pairing ∧
        pairing.record.digest = digestOf presented ∧ authority.id = pairing.record.id ∧
        authority.binding = pairing.record.binding ∧ authority.journal = tokens.journal
  operates : ∀ binding authority, tokens.operatorAuthority binding = .ok authority →
    tokens.closed = false ∧ authority.binding = binding ∧ ∃ pairing, LivePairing pairings pairing ∧
      authority.id = pairing.record.id ∧ authority.binding = pairing.record.binding ∧
      ∀ other, LivePairing pairings other → other.record.binding = binding →
        pairing.record.id.issuedSeq ≤ other.record.id.issuedSeq
  honours : ∀ authority, tokens.checkAuthority authority = .ok () →
    tokens.closed = false ∧ authority.journal = tokens.journal ∧
      ∃ pairing, LivePairing pairings pairing ∧ pairing.record.id = authority.id ∧
        pairing.record.binding = authority.binding
  cached : tokens.closed = false →
    tokens.records = pairings.map fun pairing => cachedRecord pairing.record
  refuses : tokens.closed = true →
    (∀ presented, tokens.authenticate digestOf presented = .error .unauthenticated) ∧
      (∀ binding, tokens.operatorAuthority binding = .error .unauthenticated) ∧
      ∀ authority, tokens.checkAuthority authority = .error .unauthenticated

/-- A mutation that does not complete leaves the store closed. -/
def ClosesUncertain (journal : PairingJournal) (digestOf : String → TokenDigest)
    (tokens : TokenStore) (store : Store) : Prop :=
  (∀ binding met, ¬ (tokens.issue journal digestOf store binding met).1.Completed →
    (tokens.issue journal digestOf store binding met).2.1.closed = true) ∧
  ∀ id met, ¬ (tokens.revoke journal store id met).1.Completed →
    (tokens.revoke journal store id met).2.1.closed = true

/-- A revocation that went through to its end leaves the pairing of its id revoked in the file,
beside all the others as they were. -/
def RevokesDurably (journal : PairingJournal) (tokens : TokenStore) (store : Store)
    (pairings : List Pairing) : Prop :=
  ∀ id met, (tokens.revoke journal store id met).1.Completed →
    ∃ next, Paired journal (tokens.revoke journal store id met).2.2 next ∧
      PairingsKept pairings next ∧ RevokedIn next id

section Guarantees

variable {dec : Decimals} {journal : PairingJournal} {digestOf : String → TokenDigest}
  {gateway : Gateway} {pairings : List Pairing} {behind : Nat}

/-- A live record of an open store is a live pairing. -/
theorem Cached.live (cached : Cached journal gateway pairings) {tokens : TokenStore}
    (held : tokens ∈ gateway.tokens) (opened : tokens.closed = false) {record : TokenRecord}
    (member : record ∈ tokens.records) (unrevoked : record.revoked = false) :
    ∃ pairing, LivePairing pairings pairing ∧ record = cachedRecord pairing.record := by
  obtain ⟨pairing, inside, rfl⟩ := cached.pairing held opened member
  have live : pairing.record.revokedAtMs.isSome = false := unrevoked
  rw [Option.isSome_eq_false_iff, Option.isNone_iff_eq_none] at live
  exact ⟨pairing, ⟨inside, live⟩, rfl⟩

/-- What the store of tokens answers is what the pairings say. -/
theorem Cached.faithful (cached : Cached journal gateway pairings) {tokens : TokenStore}
    (held : tokens ∈ gateway.tokens) : Faithful digestOf tokens pairings where
  authenticates presented authority run := by
    obtain ⟨opened, record, member, digest, unrevoked, rfl⟩ := authenticate_ok run
    obtain ⟨pairing, live, rfl⟩ := cached.live held opened member unrevoked
    exact ⟨opened, pairing, live, digest, rfl, rfl, rfl⟩
  operates binding authority run := by
    obtain ⟨opened, record, member, bound, unrevoked, rfl, least⟩ := operatorAuthority_ok run
    obtain ⟨pairing, live, rfl⟩ := cached.live held opened member unrevoked
    refine ⟨opened, bound, pairing, live, rfl, rfl, fun other here same => ?_⟩
    refine least (cachedRecord other.record) ?_ same ?_
    · rw [cached.records tokens held opened]
      exact List.mem_map_of_mem here.1
    · rw [cachedRecord, here.2]
      rfl
  honours authority run := by
    obtain ⟨opened, ours, record, member, id, binding, unrevoked⟩ := checkAuthority_ok run
    obtain ⟨pairing, live, rfl⟩ := cached.live held opened member unrevoked
    exact ⟨opened, ours, pairing, live, id, binding⟩
  cached := cached.records tokens held
  refuses := closed_refuses

/-- A store closes when it cannot tell whether its write was committed. -/
theorem Cached.closesUncertain (cached : Cached journal gateway pairings)
    (tracks : Tracks journal.lib journal.handle behind gateway.ledger) {tokens : TokenStore}
    (held : tokens ∈ gateway.tokens) :
    ClosesUncertain journal digestOf tokens gateway.ledger := by
  constructor
  · intro binding met incomplete
    obtain ⟨_, mutates⟩ := issue_mutates digestOf cached.paired tracks (cached.records tokens held)
      binding met
    exact mutates.uncertain incomplete
  · intro id met incomplete
    obtain ⟨_, mutates, -⟩ := revoke_mutates cached.paired tracks (cached.records tokens held) id
      met
    exact mutates.uncertain incomplete

/-- A revocation that succeeds is committed to the journal. -/
theorem Cached.revokesDurably (cached : Cached journal gateway pairings)
    (tracks : Tracks journal.lib journal.handle behind gateway.ledger) {tokens : TokenStore}
    (held : tokens ∈ gateway.tokens) :
    RevokesDurably journal tokens gateway.ledger pairings := by
  intro id met completed
  obtain ⟨next, mutates, revoked⟩ := revoke_mutates cached.paired tracks
    (cached.records tokens held) id met
  exact ⟨next, mutates.paired, mutates.kept, revoked completed⟩

end Guarantees

/-- What holds of a gateway, by the pairings in its history. The pairings are those the rows of the
journal say, so durable means that they are in the file. -/
structure TokenAuthority (dec : Decimals) (journal : PairingJournal)
    (digestOf : String → TokenDigest) (gateway : Gateway) (pairings : List Pairing) : Prop where
  paired : Paired journal gateway.ledger pairings
  replays : ∀ read, pairingReplay journal gateway.ledger = .ok read → read = pairings
  recent : journal.handle.anchored = true →
    (pairingReplay journal gateway.ledger = .ok pairings ↔ ∀ anchor ∈ gateway.ledger.anchor,
      gateway.ledger.db.events.length ≤ anchor.seq + 1)
  faithful : ∀ tokens ∈ gateway.tokens, Faithful digestOf tokens pairings
  uncertain : ∀ tokens ∈ gateway.tokens, ClosesUncertain journal digestOf tokens gateway.ledger
  revokes : ∀ tokens ∈ gateway.tokens, RevokesDurably journal tokens gateway.ledger pairings
  sessions : ∀ authority ∈ gateway.sessions, ∃ pairing ∈ pairings,
    pairing.record.id = authority.id ∧ pairing.record.binding = authority.binding
  final : ∀ acts later, Run (@TokenStep dec journal digestOf) gateway acts later →
    ∃ next, Cached journal later next ∧ PairingsKept pairings next ∧
      ∀ pairing ∈ pairings, pairing.record.revokedAtMs.isSome = true →
        ∀ tokens ∈ later.tokens,
          (∀ presented, digestOf presented = pairing.record.digest →
            ∃ error, tokens.authenticate digestOf presented = .error error) ∧
          ∀ authority, authority.id = pairing.record.id →
            ∃ error, tokens.checkAuthority authority = .error error

/-- A revoked digest and a revoked pairing are answered with an error, now and later. -/
theorem Cached.final {dec : Decimals} {journal : PairingJournal} {digestOf : String → TokenDigest}
    {gateway later : Gateway} {pairings : List Pairing} {behind : Nat}
    (cached : Cached journal gateway pairings)
    (tracks : Tracks journal.lib journal.handle behind gateway.ledger)
    {acts : List (TokenAct dec)} (run : Run (TokenStep journal digestOf) gateway acts later) :
    ∃ next, Cached journal later next ∧ PairingsKept pairings next ∧
      ∀ pairing ∈ pairings, pairing.record.revokedAtMs.isSome = true →
        ∀ tokens ∈ later.tokens,
          (∀ presented, digestOf presented = pairing.record.digest →
            ∃ error, tokens.authenticate digestOf presented = .error error) ∧
          ∀ authority, authority.id = pairing.record.id →
            ∃ error, tokens.checkAuthority authority = .error error := by
  obtain ⟨_, next, tracks', cached', kept⟩ := cached.run tracks run
  refine ⟨next, cached', kept, fun pairing member revoked tokens held => ?_⟩
  obtain ⟨same, inside, id, _, digest, gone⟩ := kept pairing member
  have faithful : Faithful digestOf tokens next := cached'.faithful held
  have lost {live : Pairing} (found : LivePairing next live) : live ≠ same := by
    rintro rfl
    have absent := gone revoked
    rw [found.2] at absent
    cases absent
  constructor
  · intro presented known
    cases run : tokens.authenticate digestOf presented with
    | error error => exact ⟨error, rfl⟩
    | ok authority =>
        obtain ⟨_, live, found, matched, _⟩ := faithful.authenticates presented authority run
        have digests := cached'.paired.sound.digests
        exact absurd (List.inj_on_of_nodup_map digests found.1 inside
          (matched.trans (known.trans digest.symm))) (lost found)
  · intro authority known
    cases run : tokens.checkAuthority authority with
    | error error => exact ⟨error, rfl⟩
    | ok done =>
        obtain ⟨_, _, live, found, named, _⟩ := faithful.honours authority run
        have seqs := cached'.paired.sound.seqs
        exact absurd (List.inj_on_of_nodup_map seqs found.1 inside
          (congrArg PairingId.issuedSeq (named.trans (known.trans id.symm)))) (lost found)

/-- **Token authority.** Whatever a gateway issues, revokes, authenticates and reopens, and
whatever fails on the way, its store answers for a digest and a session only while a pairing
of that digest, that id and that binding is durably issued and not revoked; an open store
says what the journal replays; a mutation without a certain outcome closes the store; a revocation
that went through is durable; and what was revoked is never answered for again. -/
theorem token_authority {dec : Decimals} (journal : PairingJournal)
    (digestOf : String → TokenDigest) {acts : List (TokenAct dec)} {gateway : Gateway}
    (run : Run (TokenStep journal digestOf) (Gateway.fresh journal) acts gateway) :
    ∃ pairings, TokenAuthority dec journal digestOf gateway pairings := by
  obtain ⟨behind, pairings, tracks, cached, _⟩ := fresh_cached.run opened_tracks run
  refine ⟨pairings, cached.paired, fun read => cached.paired.of_replay, fun anchored => ?_,
    fun tokens held => cached.faithful held, fun tokens held => cached.closesUncertain tracks held,
    fun tokens held => cached.revokesDurably tracks held, cached.sessions,
      fun acts later onward => cached.final tracks onward⟩
  obtain ⟨anchor, present, position, _⟩ := tracks.anchored anchored
  rw [cached.paired.replay_iff tracks anchored]
  constructor
  · intro near other held
    obtain rfl := Option.some.inj (present.symm.trans held)
    omega
  · intro recent
    have within := recent anchor present
    omega

namespace OneToken

/-- The compact reader and the checksum in place of the real libraries, and one tag for every
message. -/
def journal : PairingJournal where
  lib := .reference checksum
  handle := ⟨.testnet, true⟩
  key := .constant

/-- The length of a token in place of its hash. -/
def digestOf (token : String) : TokenDigest :=
  ⟨UInt8.ofNat token.length :: List.replicate 31 0, rfl⟩

def binding : PairingBinding := ⟨"maker", .filled 1⟩

def reopen : TokenAct .reference := .reopen

def issue : TokenAct .reference := .issue binding ⟨some "secret", some 5, true, false⟩

def authenticate : TokenAct .reference := .authenticate "secret"

def opened : Gateway := (Gateway.fresh journal).perform journal digestOf reopen

def issued : Gateway := opened.perform journal digestOf issue

def entered : Gateway := issued.perform journal digestOf authenticate

/-- The sample is reopened, issues a token and authenticates it. -/
theorem entered_run :
    Run (TokenStep journal digestOf) (.fresh journal) [reopen, issue, authenticate] entered := by
  refine .snoc (.snoc (.single ⟨fun request other => ?_, rfl⟩) ⟨fun request other => ?_, rfl⟩)
    ⟨fun request other => ?_, rfl⟩
  all_goals cases other

/-- A session is open, of a pairing that is durably live. -/
theorem entered_authority : entered.sessions.length = 1 ∧
    ∃ pairings, TokenAuthority .reference journal digestOf entered pairings :=
  ⟨by decide +kernel, token_authority journal digestOf entered_run⟩

end OneToken

end Oppen.Mcp
