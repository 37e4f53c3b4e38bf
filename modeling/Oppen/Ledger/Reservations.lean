import Oppen.Ledger.LifecycleRows

/-! # Reservations

An account holds at most one reservation. The state is the replay of the stored rows, so
each result is about the table a run leaves and the replay that reads it: the replay
always succeeds, and between two tables of a run it either stays as it is or begins or
resolves one reservation of one account.
-/

namespace Oppen.Ledger

open Foundation Oppen.Json Oppen.Guardrail

/-! ## What a replay holds -/

/-- The account and the cloid a reservation uses up. -/
def SubmissionReceipt.uses (receipt : SubmissionReceipt) : Address × Cloid :=
  (receipt.start.account, receipt.start.cloid)

/-- What the replay of every table with that many rows satisfies. -/
structure Replay.Sound (length : Nat) (replay : Replay) : Prop where
  bounded : ∀ receipt ∈ replay.starts, receipt.seq ≤ length
  distinct : (replay.starts.map SubmissionReceipt.seq).Nodup
  used : replay.used = replay.starts.map SubmissionReceipt.uses
  unused : replay.used.Nodup
  pilot : replay.pilot.map PilotSubmission.seq = replay.starts.map SubmissionReceipt.seq
  pending : ∀ account receipt, (replay.accounts account).pending = some receipt ↔
    receipt ∈ replay.starts ∧ receipt.start.account = account ∧ receipt.seq ∉ replay.resolved
  resolved : ∀ seq ∈ replay.resolved, seq ≤ length
  revision : ∀ account, (replay.accounts account).revision ≤ length

namespace Replay.Sound

variable {length : Nat} {replay : Replay}

/-- An empty replay is sound. -/
theorem empty : Replay.empty.Sound 0 where
  bounded := nofun
  distinct := List.nodup_nil
  used := rfl
  unused := List.nodup_nil
  pilot := rfl
  pending _ _ := ⟨nofun, fun held => absurd held.1 List.not_mem_nil⟩
  resolved := nofun
  revision _ := le_rfl

/-- A longer table. -/
theorem mono (sound : replay.Sound length) {longer : Nat} (within : length ≤ longer) :
    replay.Sound longer :=
  { sound with
    bounded := fun receipt member => (sound.bounded receipt member).trans within
    resolved := fun seq member => (sound.resolved seq member).trans within
    revision := fun account => (sound.revision account).trans within }

/-- A position singles out a reservation. -/
theorem eq_of_seq (sound : replay.Sound length) {first second : SubmissionReceipt}
    (member : first ∈ replay.starts) (member' : second ∈ replay.starts)
    (same : first.seq = second.seq) : first = second :=
  List.inj_on_of_nodup_map sound.distinct member member' same

/-- The start that is found at a position is the one that was made there. -/
theorem startAt_iff (sound : replay.Sound length) {receipt : SubmissionReceipt} :
    replay.startAt receipt.seq = some receipt ↔ receipt ∈ replay.starts := by
  constructor
  · exact List.mem_of_find?_eq_some
  · intro member
    cases found : replay.startAt receipt.seq with
    | none =>
        exact absurd (decide_eq_true rfl) (List.find?_eq_none.mp found receipt member)
    | some held =>
        have position : held.seq = receipt.seq := by simpa using List.find?_some found
        rw [sound.eq_of_seq (List.mem_of_find?_eq_some found) member position]

/-- A start on an idle account, with a cloid the account has not used. -/
theorem started (sound : replay.Sound length) {receipt : SubmissionReceipt} {intent : Value}
    (next : receipt.seq = length + 1)
    (idle : (replay.accounts receipt.start.account).pending = none)
    (fresh : receipt.uses ∉ replay.used) :
    (replay.started receipt intent).Sound (length + 1) where
  bounded held member := by
    rcases List.mem_append.mp member with older | last
    · exact (sound.bounded held older).trans (Nat.le_succ length)
    · rw [List.mem_singleton.mp last, next]
  distinct := by
    have past : receipt.seq ∉ replay.starts.map SubmissionReceipt.seq := by
      intro member
      obtain ⟨held, older, same⟩ := List.mem_map.mp member
      have within := sound.bounded held older
      omega
    rw [Replay.started, List.map_append, List.nodup_append]
    refine ⟨sound.distinct, List.nodup_singleton _, fun seq member last final same => past ?_⟩
    rw [List.map_singleton, List.mem_singleton] at final
    rwa [← final, ← same]
  used := by
    rw [Replay.started, List.map_append, ← sound.used]
    rfl
  unused := by
    refine List.nodup_append.mpr ⟨sound.unused, List.nodup_singleton _, ?_⟩
    intro pair member last final same
    rw [List.mem_singleton] at final
    exact fresh (by rwa [SubmissionReceipt.uses, ← final, ← same])
  pilot := by
    rw [Replay.started, List.map_append, List.map_append, sound.pilot]
    rfl
  pending account held := by
    change (Function.update replay.accounts receipt.start.account _ account).pending = some held ↔
      held ∈ replay.starts ++ [receipt] ∧ _ ∧ _
    rw [List.mem_append, List.mem_singleton]
    by_cases here : account = receipt.start.account
    · subst here
      rw [Function.update_self, Option.some_inj]
      constructor
      · rintro rfl
        refine ⟨.inr rfl, rfl, fun resolved => ?_⟩
        have within := sound.resolved _ resolved
        omega
      · rintro ⟨older | rfl, owner, unresolved⟩
        · rw [(sound.pending _ held).mpr ⟨older, owner, unresolved⟩] at idle
          cases idle
        · rfl
    · rw [Function.update_of_ne here, sound.pending]
      constructor
      · rintro ⟨older, rest⟩
        exact ⟨.inl older, rest⟩
      · rintro ⟨older | rfl, owner, unresolved⟩
        · exact ⟨older, owner, unresolved⟩
        · exact absurd owner.symm here
  resolved seq member := (sound.resolved seq member).trans (Nat.le_succ length)
  revision account := by
    change (Function.update replay.accounts receipt.start.account _ account).revision ≤ _
    by_cases here : account = receipt.start.account
    · subst here
      rw [Function.update_self, next]
    · rw [Function.update_of_ne here]
      exact (sound.revision account).trans (Nat.le_succ length)

/-- A resolution of the pending reservation. -/
theorem resolve (sound : replay.Sound length) {receipt : SubmissionReceipt}
    {outcome : SubmissionResolution} (member : receipt ∈ replay.starts)
    (unresolved : receipt.seq ∉ replay.resolved) :
    (replay.resolve receipt (length + 1) outcome).Sound (length + 1) where
  bounded held member := (sound.bounded held member).trans (Nat.le_succ length)
  distinct := sound.distinct
  used := sound.used
  unused := sound.unused
  pilot := by
    change (replay.pilot.map _).map PilotSubmission.seq = replay.starts.map SubmissionReceipt.seq
    rw [← sound.pilot, List.map_map]
    refine List.map_congr_left fun submission _ => ?_
    rw [Function.comp_apply]
    split <;> rfl
  pending account held := by
    change (Function.update replay.accounts receipt.start.account _ account).pending = some held ↔
      held ∈ replay.starts ∧ _ ∧ held.seq ∉ replay.resolved ++ [receipt.seq]
    rw [List.mem_append, List.mem_singleton, not_or]
    by_cases here : account = receipt.start.account
    · subst here
      rw [Function.update_self]
      constructor
      · exact nofun
      · rintro ⟨inside, owner, isOpen, other⟩
        have holds := (sound.pending _ held).mpr ⟨inside, owner, isOpen⟩
        rw [(sound.pending _ receipt).mpr ⟨member, rfl, unresolved⟩] at holds
        exact absurd (congrArg SubmissionReceipt.seq (Option.some.inj holds).symm) other
    · rw [Function.update_of_ne here, sound.pending]
      constructor
      · rintro ⟨inside, owner, unresolved⟩
        refine ⟨inside, owner, unresolved, fun same => here ?_⟩
        rw [← owner, sound.eq_of_seq inside member same]
      · rintro ⟨inside, owner, unresolved, _⟩
        exact ⟨inside, owner, unresolved⟩
  resolved seq member' := by
    rcases List.mem_append.mp member' with older | last
    · exact (sound.resolved seq older).trans (Nat.le_succ length)
    · rw [List.mem_singleton.mp last]
      exact (sound.bounded receipt member).trans (Nat.le_succ length)
  revision account := by
    change (Function.update replay.accounts receipt.start.account _ account).revision ≤ _
    by_cases here : account = receipt.start.account
    · subst here
      rw [Function.update_self]
    · rw [Function.update_of_ne here]
      exact (sound.revision account).trans (Nat.le_succ length)

end Replay.Sound

/-! ## What one call does to the replay -/

/-- A table and the replay that reads it. -/
structure Reserved (lib : Libraries) (dec : Decimals) (handle : Handle) (db : Db)
    (replay : Replay) : Prop where
  read : replayRows (D := dec.Decimal) lib handle db = .ok replay
  sound : replay.Sound db.events.length
  chain : ∀ receipt ∈ replay.starts, receipt.chain = handle.genesis lib

/-- What a committed start satisfies: it is the next row, of an idle account, at the
revision its caller read, with a cloid the account has not used, and names an intent with
the cleared terms. -/
structure Starts (db : Db) (before : Replay) (clearance : Clearance) (expectedRevision : Nat)
    (receipt : SubmissionReceipt) (intent : Value) : Prop where
  position : receipt.seq = db.events.length + 1
  named : clearance.kind.cloid? = some receipt.start.cloid
  idle : (before.accounts receipt.start.account).pending = none
  current : (before.accounts receipt.start.account).revision = expectedRevision
  fresh : receipt.uses ∉ before.used
  terms : sameValue (withoutReason intent) clearance.toValue = true

/-- How a call moves the replay: not at all, by one start, or by one resolution of a
reservation not resolved before. -/
inductive Advance {dec : Decimals} (db : Db) (before : Replay) : Call dec → Replay → Prop
  | kept (call : Call dec) : Advance db before call before
  | began {registry : Option (RegistryChecks dec.Decimal)} {clearance : Clearance}
      {expectedRevision atMs : Nat} {receipt : SubmissionReceipt} {intent : Value}
      (starts : Starts db before clearance expectedRevision receipt intent) :
      Advance db before
        (.begin registry receipt.start.account clearance expectedRevision atMs)
        (before.started receipt intent)
  | resolved {receipt : SubmissionReceipt} {outcome : SubmissionResolution} {atMs : Nat}
      (member : receipt ∈ before.starts) (unresolved : receipt.seq ∉ before.resolved) :
      Advance db before (.resolve receipt outcome atMs)
        (before.resolve receipt (db.events.length + 1) outcome)

section Stepping

variable {lib : Libraries} {dec : Decimals} {handle : Handle} {store : Store} {replay : Replay}

/-- An append keeps the intents of the ledger and adds a row whose payload was written in its
canonical form. -/
theorem Grows.replays {db grown : Db} {event : NewEvent} {idemKey : Option String}
    {appended : Appended}
    (grows : Grows lib (handle.genesis lib) db event idemKey appended grown) :
    KeepsIntents db grown ∧ ∃ canonical, canonicalJson event.payload = .ok canonical ∧
      db.events.length + 1 < 2 ^ 63 ∧ grown.events.length = db.events.length + 1 ∧
      appended.seq = db.events.length + 1 ∧
      appended.hash = (nextRow lib (handle.genesis lib) db event canonical idemKey).hash ∧
      grown.events.filter Row.isLifecycle = db.events.filter Row.isLifecycle ++
        [nextRow lib (handle.genesis lib) db event canonical idemKey].filter Row.isLifecycle := by
  obtain ⟨canonical, written, small, rfl, rfl⟩ := grows.row
  refine ⟨fun seq row found _ => ?_, canonical, written, small, ?_, rfl, rfl, ?_⟩
  · rw [Db.rowAt, Db.extend, List.find?_append]
    exact Option.or_eq_some_iff.mpr (.inl found)
  · rw [Db.extend, List.length_append, List.length_singleton]
  · rw [Db.extend, List.filter_append]

/-- A row that is none of the lifecycle leaves the replay as it is. -/
theorem Reserved.other {db changed : Db} {event : NewEvent} {idemKey : Option String}
    {appended : Appended} (reserved : Reserved lib dec handle db replay)
    (consistent : Consistent lib (handle.genesis lib) db)
    (change : Change lib (handle.genesis lib) db event idemKey appended changed)
    (spared : ∀ seq reason tsMs row, event = redactionEvent seq reason tsMs →
      db.rowAt (seq : Nat) = some row → row.isJournal = false)
    (notStarted : event.kind ≠ .submissionStarted)
    (notResolved : event.kind ≠ .submissionResolved) :
    Reserved lib dec handle changed replay := by
  obtain ⟨keeps, row, kind, same⟩ := change.keepsJournal consistent spared
  have outside : row.isLifecycle = false := by
    simp only [Row.isLifecycle, kind, Bool.or_eq_false_iff, decide_eq_false_iff_not]
    exact ⟨fun same => notStarted (EventKind.asStr_injective same),
      fun same => notResolved (EventKind.asStr_injective same)⟩
  rw [List.filter_cons_of_neg (by rw [outside]; exact Bool.false_ne_true), List.filter_nil,
    List.append_nil] at same
  refine ⟨?_, reserved.sound.mono (by have := change.head.2.2; omega), reserved.chain⟩
  rw [replayRows, same]
  exact replay_kept keeps reserved.read

/-- A start row whose checks all pass. -/
theorem replayRow_started {db : Db} {row : Row} {event : Event} {agent : String} {payload : Value}
    {start : Started} {intent : Value} (read : eventFromRow lib row = .ok event)
    (agentId : event.agentId = some agent) (present : event.payload = some payload)
    (kind : event.kind = .submissionStarted) (parsed : Started.ofValue payload = some start)
    (version : start.version = 1) (positive : 0 < start.intentSeq)
    (order : start.intentSeq < event.seq) (keyed : row.idemKey = some (startKey start))
    (valid : validateIntent (D := dec.Decimal) lib handle db start agent = .ok intent)
    (fresh : (start.account, start.cloid) ∉ replay.used)
    (idle : (replay.accounts start.account).pending = none) :
    replayRow (D := dec.Decimal) lib handle db replay row =
      .ok (replay.started ⟨handle.genesis lib, event.seq, event.hash, agent, start⟩ intent) := by
  have ordered : ¬ (start.version ≠ 1 ∨ event.seq ≤ start.intentSeq ∨ start.intentSeq = 0) := by
    omega
  have numbered : ¬ row.idemKey ≠ some (startKey start) := not_not.mpr keyed
  have vacant : ¬ (replay.accounts start.account).pending ≠ none := not_not.mpr idle
  unfold replayRow
  rw [read]
  simp only [mapError, bind, Except.bind, agentId, present, kind, replayStarted, parsed, refuseIf,
    if_neg ordered, if_neg numbered, valid, if_neg fresh, if_neg vacant]
  rfl

/-- A resolution row whose checks all pass. -/
theorem replayRow_resolved {db : Db} {row : Row} {event : Event} {payload : Value}
    {resolved : Resolved} {receipt : SubmissionReceipt} (read : eventFromRow lib row = .ok event)
    (agentId : event.agentId = some receipt.agent) (present : event.payload = some payload)
    (kind : event.kind = .submissionResolved) (parsed : Resolved.ofValue payload = some resolved)
    (version : resolved.version = 1) (known : replay.startAt resolved.startSeq = some receipt)
    (account : resolved.account = receipt.start.account) (hash : resolved.startHash = receipt.hash)
    (keyed : row.idemKey = some (resolveKey receipt.seq))
    (unresolved : receipt.seq ∉ replay.resolved)
    (holds : (replay.accounts receipt.start.account).pending = some receipt)
    (submitted : receipt.seq ∈ replay.pilot.map PilotSubmission.seq) :
    replayRow (D := dec.Decimal) lib handle db replay row =
      .ok (replay.resolve receipt event.seq resolved.outcome) := by
  have linked : ¬ (resolved.version ≠ 1 ∨ resolved.account ≠ receipt.start.account ∨
      resolved.startHash ≠ receipt.hash ∨ receipt.agent ≠ receipt.agent ∨
      row.idemKey ≠ some (resolveKey receipt.seq) ∨ receipt.seq ∈ replay.resolved) := by
    simp only [version, account, hash, keyed, unresolved, ne_eq, not_true_eq_false, or_self,
      not_false_eq_true]
  have pending : ¬ (replay.accounts resolved.account).pending ≠ some receipt := by
    rw [account]
    exact not_not.mpr holds
  have validated : ¬ ¬ ∃ submission ∈ replay.pilot, submission.seq = receipt.seq :=
    not_not.mpr (List.mem_map.mp submitted)
  unfold replayRow
  rw [read]
  simp only [mapError, bind, Except.bind, agentId, present, kind, replayResolved, parsed, known,
    refuseIf, if_neg linked, if_neg pending, if_neg validated]
  rfl

/-- The row of a reservation is one its replay accepts. -/
theorem Reserved.started {db grown : Db} {clearance : Clearance} {account : Address}
    {cloid : Cloid} {intentSeq : Nat} {intentHash : String} {tsMs : Int64} {appended : Appended}
    (reserved : Reserved lib dec handle db replay)
    (consistent : Consistent lib (handle.genesis lib) db)
    (network : clearance.network = handle.network)
    (vault : ∀ vault ∈ clearance.vaultAddress, vault = account)
    (named : clearance.kind.cloid? = some cloid)
    (idle : (replay.accounts account).pending = none) (fresh : (account, cloid) ∉ replay.used)
    (found : findIntent lib dec clearance.toValue (intentRows db clearance.agent) =
      .ok (some (intentSeq, intentHash)))
    (grows : Grows lib (handle.genesis lib) db
      (startedEvent clearance.agent tsMs ⟨1, account, cloid, intentSeq, intentHash⟩)
      (some (startKey ⟨1, account, cloid, intentSeq, intentHash⟩)) appended grown) :
    ∃ intent, sameValue (withoutReason intent) clearance.toValue = true ∧
      Reserved lib dec handle grown
        (replay.started ⟨handle.genesis lib, appended.seq, appended.hash, clearance.agent,
          ⟨1, account, cloid, intentSeq, intentHash⟩⟩ intent) := by
  obtain ⟨keeps, canonical, written, small, length, seq, hash, rows⟩ := grows.replays
  obtain ⟨positive, within, intent, valid, terms⟩ :=
    validateIntent_of_found consistent.rows small network vault named found
  have read := @eventFromRow_chainedRow lib _ _ written
    (lt_of_eq_of_lt (nesting_started _) (by decide)) (db.events.length + 1)
    (tipDigest Row.hash (handle.genesis lib) db.events)
    (some (startKey ⟨1, account, cloid, intentSeq, intentHash⟩))
  have parsed := Started.ofValue_sorted ⟨1, account, cloid, intentSeq, intentHash⟩
    (by change 1 < 2 ^ 64; decide) (by change intentSeq < 2 ^ 64; omega)
  refine ⟨intent, terms, ?_, ?_, ?_⟩
  · rw [replayRows, rows]
    refine foldlM_concat_ok_iff.mpr ⟨replay, replay_kept keeps reserved.read, ?_⟩
    rw [seq, hash]
    exact replayRow_started read rfl rfl rfl parsed rfl positive (Nat.lt_succ_of_le within) rfl
      (validateIntent_kept keeps valid) fresh idle
  · rw [length]
    exact reserved.sound.started seq idle fresh
  · intro held member
    rcases List.mem_append.mp member with older | last
    · exact reserved.chain held older
    · rw [List.mem_singleton.mp last]

/-- The row of a resolution is one its replay accepts. -/
theorem Reserved.resolved {db grown : Db} {receipt : SubmissionReceipt}
    {outcome : SubmissionResolution} {tsMs : Int64} {appended : Appended}
    (reserved : Reserved lib dec handle db replay) (member : receipt ∈ replay.starts)
    (unresolved : receipt.seq ∉ replay.resolved)
    (grows : Grows lib (handle.genesis lib) db
      (resolvedEvent receipt.agent tsMs
        ⟨1, receipt.start.account, receipt.seq, receipt.hash, outcome⟩)
      (some (resolveKey receipt.seq)) appended grown) :
    Reserved lib dec handle grown (replay.resolve receipt (db.events.length + 1) outcome) := by
  obtain ⟨keeps, canonical, written, small, length, seq, hash, rows⟩ := grows.replays
  have sound := reserved.sound
  have within := sound.bounded receipt member
  have read := @eventFromRow_chainedRow lib _ _ written
    (lt_of_eq_of_lt (nesting_resolved _) (by decide)) (db.events.length + 1)
    (tipDigest Row.hash (handle.genesis lib) db.events) (some (resolveKey receipt.seq))
  have parsed := Resolved.ofValue_sorted
    ⟨1, receipt.start.account, receipt.seq, receipt.hash, outcome⟩
    (by change 1 < 2 ^ 64; decide) (by change receipt.seq < 2 ^ 64; omega)
  refine ⟨?_, ?_, reserved.chain⟩
  · rw [replayRows, rows]
    refine foldlM_concat_ok_iff.mpr ⟨replay, replay_kept keeps reserved.read, ?_⟩
    refine replayRow_resolved read rfl rfl rfl parsed rfl (sound.startAt_iff.mpr member) rfl rfl
      rfl unresolved ((sound.pending _ receipt).mpr ⟨member, rfl, unresolved⟩) ?_
    rw [sound.pilot]
    exact List.mem_map_of_mem member
  · rw [length]
    exact sound.resolve member unresolved

/-- What `begin` does: it refuses and leaves the file as it was, or it commits one start. -/
theorem begin_cases (reserved : Reserved lib dec handle store.db replay)
    (consistent : Consistent lib (handle.genesis lib) store.db)
    (registry : Option (RegistryChecks dec.Decimal)) (publish : Bool) (account : Address)
    (clearance : Clearance) (expectedRevision atMs : Nat) :
    (∃ error, begin lib dec handle registry publish account clearance expectedRevision atMs store =
      (.error error, store)) ∨
    ∃ receipt intent, receipt.start.account = account ∧
      Starts store.db replay clearance expectedRevision receipt intent ∧
      Reserved lib dec handle
        (begin lib dec handle registry publish account clearance expectedRevision atMs store).2.db
        (replay.started receipt intent) ∧
      ((begin lib dec handle registry publish account clearance expectedRevision atMs store).1 =
          .ok receipt ∨
        handle.anchored = true ∧ publish = false ∧
          (begin lib dec handle registry publish account clearance expectedRevision atMs store).1 =
            .error (.ledger .io)) := by
  rcases transact_cases publish SubmissionError.ledger store
      (beginBody lib dec handle registry account clearance expectedRevision atMs store) with
    ⟨error, _, refused⟩ | ⟨done, run, tables, answered⟩
  · exact .inl ⟨error, refused⟩
  · have began := beginBody_ok consistent run
    obtain ⟨read, cloid, intentSeq, intentHash, tsMs, appended, db, replayed, named, idle, current,
      fresh, found, grows, _, rfl⟩ := began.reserved
    obtain rfl : read = replay := Except.ok.inj (replayed.symm.trans reserved.read)
    obtain ⟨intent, terms, next⟩ := reserved.started consistent began.network began.vault named idle
      fresh found grows
    refine .inr ⟨⟨handle.genesis lib, appended.seq, appended.hash, clearance.agent,
      ⟨1, account, cloid, intentSeq, intentHash⟩⟩, intent, rfl,
      ⟨grows.head.2.1, named, idle, current, fresh, terms⟩, ?_, ?_⟩
    · change Reserved lib dec handle (transact handle publish SubmissionError.ledger store _).2.db _
      rw [tables]
      exact next
    · exact answered

/-- What `resolve` does: it refuses or finds the receipt resolved and leaves the file as it
was, or it commits the resolution. -/
theorem resolve_cases (reserved : Reserved lib dec handle store.db replay)
    (consistent : Consistent lib (handle.genesis lib) store.db) (publish : Bool)
    (receipt : SubmissionReceipt) (outcome : SubmissionResolution) (atMs : Nat) :
    (∃ error, resolve lib dec handle publish receipt outcome atMs store = (.error error, store)) ∨
    receipt ∈ replay.starts ∧ receipt.seq ∈ replay.resolved ∧
      resolve lib dec handle publish receipt outcome atMs store = (.ok (), store) ∨
    receipt ∈ replay.starts ∧ receipt.seq ∉ replay.resolved ∧
      Reserved lib dec handle
        (resolve lib dec handle publish receipt outcome atMs store).2.db
        (replay.resolve receipt (store.db.events.length + 1) outcome) ∧
      ((resolve lib dec handle publish receipt outcome atMs store).1 = .ok () ∨
        handle.anchored = true ∧ publish = false) := by
  rcases transact_cases publish SubmissionError.ledger store
      (resolveBody lib dec handle receipt outcome atMs store) with
    ⟨error, _, refused⟩ | ⟨done, run, tables, answered⟩
  · exact .inl ⟨error, refused⟩
  · obtain ⟨read, replayed, known, resolves⟩ := resolveBody_ok consistent run
    obtain rfl : read = replay := Except.ok.inj (replayed.symm.trans reserved.read)
    have member := reserved.sound.startAt_iff.mp known
    cases resolves with
    | repeated resolved =>
        refine .inr (.inl ⟨member, resolved, ?_⟩)
        unfold resolve
        rw [run]
        rfl
    | resolved unresolved grows fresh =>
        refine .inr (.inr ⟨member, unresolved, ?_, ?_⟩)
        · change Reserved lib dec handle
            (transact handle publish SubmissionError.ledger store _).2.db _
          rw [tables]
          exact reserved.resolved member unresolved grows
        · exact answered.imp id fun failed => ⟨failed.1, failed.2.1⟩

/-- The rows other calls write are none of the lifecycle. -/
theorem Writes.notLifecycle {call : Call dec} {event : NewEvent} {idemKey : Option String}
    (writes : Writes dec call event idemKey)
    (notBegin : ∀ registry account clearance expectedRevision atMs,
      call ≠ .begin registry account clearance expectedRevision atMs)
    (notResolve : ∀ receipt outcome atMs, call ≠ .resolve receipt outcome atMs) :
    event.kind ≠ .submissionStarted ∧ event.kind ≠ .submissionResolved := by
  have generic {tsMs : Int64} (generic : Generic tsMs event idemKey) :
      event.kind ≠ .submissionStarted ∧ event.kind ≠ .submissionResolved := by
    refine ⟨fun same => ?_, fun same => ?_⟩
    all_goals
      rcases generic.kind with door | intent
      · rw [same] at door
        cases door
      · rw [same] at intent
        cases intent
  cases writes with
  | append facts | recordIntent facts | recordOutcome facts | openGap facts | closeGap facts =>
      exact generic facts
  | fill | halt | redact => exact ⟨nofun, nofun⟩
  | started => exact absurd rfl (notBegin _ _ _ _ _)
  | resolved => exact absurd rfl (notResolve _ _ _)
  | journal other _ =>
      refine ⟨fun same => ?_, fun same => ?_⟩
      all_goals
        rw [same] at other
        cases other

/-- A call that spares the journal redacts none of it. -/
theorem Writes.spared {call : Call dec} {event : NewEvent} {idemKey : Option String} {db : Db}
    (writes : Writes dec call event idemKey) (spares : call.spares db = true) :
    ∀ seq reason tsMs row, event = redactionEvent seq reason tsMs →
      db.rowAt (seq : Nat) = some row → row.isJournal = false := by
  intro seq reason tsMs row explains found
  have kind : event.kind = .payloadRedacted := by rw [explains]; rfl
  have generic {tsMs : Int64} (generic : Generic tsMs event idemKey) : False := by
    rcases generic.kind with door | intent
    · exact notRedaction_of_door door kind
    · rw [kind] at intent
      cases intent
  cases writes with
  | append facts | recordIntent facts | recordOutcome facts | openGap facts | closeGap facts =>
      exact (generic facts).elim
  | fill | halt | started | resolved => cases kind
  | redact =>
      rw [Call.spares, redactionEvent_seq explains, found, Option.all_some,
        decide_eq_true_eq] at spares
      exact spares
  | journal other _ =>
      rw [kind] at other
      cases other

/-- **One call.** The replay of the table a call leaves, and how the call moved it. -/
theorem Reserved.step {behind : Nat} (reserved : Reserved lib dec handle store.db replay)
    (tracks : Tracks lib handle behind store) {request : Request dec} {after : Store}
    (step : SparingStep lib dec handle store request after) :
    ∃ next, Reserved lib dec handle after.db next ∧ Advance store.db replay request.call next := by
  obtain ⟨spares, step⟩ := step
  have consistent := tracks.consistent
  by_cases isBegin : ∃ registry account clearance expectedRevision atMs,
      request.call = .begin registry account clearance expectedRevision atMs
  · obtain ⟨registry, account, clearance, expectedRevision, atMs, called⟩ := isBegin
    obtain ⟨call, publish⟩ := request
    subst called
    change (begin lib dec handle registry publish account clearance expectedRevision atMs
      store).2 = after at step
    subst step
    rcases begin_cases reserved consistent registry publish account clearance expectedRevision
        atMs with ⟨error, refused⟩ | ⟨receipt, intent, rfl, starts, next, _⟩
    · rw [refused]
      exact ⟨replay, reserved, .kept _⟩
    · exact ⟨_, next, .began starts⟩
  by_cases isResolve : ∃ receipt outcome atMs, request.call = .resolve receipt outcome atMs
  · obtain ⟨receipt, outcome, atMs, called⟩ := isResolve
    obtain ⟨call, publish⟩ := request
    subst called
    change (resolve lib dec handle publish receipt outcome atMs store).2 = after at step
    subst step
    rcases resolve_cases reserved consistent publish receipt outcome atMs with
      ⟨error, refused⟩ | ⟨_, _, repeated⟩ | ⟨member, unresolved, next, _⟩
    · rw [refused]
      exact ⟨replay, reserved, .kept _⟩
    · rw [repeated]
      exact ⟨replay, reserved, .kept _⟩
    · exact ⟨_, next, .resolved member unresolved⟩
  push Not at isBegin isResolve
  obtain ⟨reply, moved⟩ := tracks.moved step
  have other {event : NewEvent} {idemKey : Option String} {appended : Appended} {changed : Db}
      (writes : Writes dec request.call event idemKey)
      (change : Change lib (handle.genesis lib) store.db event idemKey appended changed) :
      Reserved lib dec handle changed replay := by
    obtain ⟨notStarted, notResolved⟩ := writes.notLifecycle isBegin isResolve
    exact reserved.other consistent change (writes.spared spares) notStarted notResolved
  cases moved with
  | unchanged => exact ⟨replay, reserved, .kept _⟩
  | published writes change => exact ⟨replay, other writes change, .kept _⟩
  | unpublished writes change => exact ⟨replay, other writes change, .kept _⟩

end Stepping

/-! ## Runs -/

/-- What a replay keeps of an earlier one: its starts and resolutions, and the state of every
account whose revision has not grown. -/
structure Replay.Extends (before after : Replay) : Prop where
  starts : ∀ receipt ∈ before.starts, receipt ∈ after.starts
  resolved : ∀ seq ∈ before.resolved, seq ∈ after.resolved
  revised : ∀ account, after.accounts account = before.accounts account ∨
    (before.accounts account).revision < (after.accounts account).revision

theorem Replay.Extends.refl (replay : Replay) : replay.Extends replay :=
  ⟨fun _ member => member, fun _ member => member, fun _ => .inl rfl⟩

/-- A replay that extends another through a third extends it. -/
theorem Replay.Extends.trans {first second third : Replay} (earlier : first.Extends second)
    (later : second.Extends third) : first.Extends third where
  starts receipt member := later.starts receipt (earlier.starts receipt member)
  resolved seq member := later.resolved seq (earlier.resolved seq member)
  revised account := by
    rcases earlier.revised account with same | grew
    · rw [← same]
      exact later.revised account
    · rcases later.revised account with same | grew'
      · rw [same]
        exact .inr grew
      · exact .inr (grew.trans grew')

/-- A call only ever extends the replay. -/
theorem Advance.extends {dec : Decimals} {db : Db} {before after : Replay} {call : Call dec}
    (advance : Advance db before call after) (sound : before.Sound db.events.length) :
    before.Extends after := by
  have revised (account owner : Address) (state : SubmissionState)
      (next : state.revision = db.events.length + 1) :
      Function.update before.accounts owner state account = before.accounts account ∨
        (before.accounts account).revision <
          (Function.update before.accounts owner state account).revision := by
    by_cases here : account = owner
    · subst here
      rw [Function.update_self, next]
      exact .inr (Nat.lt_succ_of_le (sound.revision account))
    · rw [Function.update_of_ne here]
      exact .inl rfl
  cases advance with
  | kept => exact .refl before
  | began starts =>
      exact ⟨fun receipt member => List.mem_append_left _ member, fun _ member => member,
        fun account => revised account _ _ starts.position⟩
  | resolved member unresolved =>
      exact ⟨fun _ member => member, fun seq member => List.mem_append_left _ member,
        fun account => revised account _ _ rfl⟩

section Running

variable {lib : Libraries} {dec : Decimals} {handle : Handle} {store : Store} {replay : Replay}

/-- A ledger that was just opened reserves nothing. -/
theorem opened_reserved : Reserved lib dec handle (opened lib handle).db .empty :=
  ⟨rfl, .empty, nofun⟩

/-- **Runs.** Every later table is read, and its replay extends the earlier one. -/
theorem Reserved.run {behind : Nat} (reserved : Reserved lib dec handle store.db replay)
    (tracks : Tracks lib handle behind store) {requests : List (Request dec)} {last : Store}
    (run : Run (SparingStep lib dec handle) store requests last) :
    ∃ behind' next, Tracks lib handle behind' last ∧ Reserved lib dec handle last.db next ∧
      replay.Extends next := by
  refine run.invariant (fun last => ∃ behind' next, Tracks lib handle behind' last ∧
    Reserved lib dec handle last.db next ∧ replay.Extends next) ?_
    ⟨behind, replay, tracks, reserved, .refl replay⟩
  rintro before request after ⟨_, middle, tracks, reserved, extended⟩ step
  obtain ⟨behind', tracks', _⟩ := tracks.step step.2
  obtain ⟨next, reserved', advance⟩ := reserved.step tracks step
  exact ⟨behind', next, tracks', reserved', extended.trans (advance.extends reserved.sound)⟩

/-- The whole replay, chain and anchor included, of a table within the tolerance. -/
theorem Tracks.replays {behind : Nat} (tracks : Tracks lib handle behind store) (near : behind ≤ 1)
    (read : replayRows (D := dec.Decimal) lib handle store.db = .ok replay) :
    Ledger.replay (D := dec.Decimal) lib handle true store = .ok replay := by
  obtain ⟨report, verified, intact⟩ := tracks.verify_iff.mpr fun _ => near
  have unbroken : ¬ report.firstBreak ≠ none := not_not.mpr (Option.isNone_iff_eq_none.mp intact)
  have chain : chainVerified (D := dec.Decimal) lib handle true store = .ok () := by
    unfold chainVerified
    cases anchored : handle.anchored with
    | false =>
        simp only [verify, anchored, Bool.false_eq_true, if_false] at verified
        simp only [Bool.false_eq_true, false_and, if_false,
          chainVerified.walked, verified, mapError,
          bind, Except.bind, refuseIf, if_neg unbroken]
    | true =>
        obtain ⟨anchor, present, _⟩ := tracks.anchored anchored
        simp only [verify, anchored, present, if_true] at verified
        simp only [and_self, if_true, present, chainVerified.walked, verified, mapError, bind,
          Except.bind, refuseIf, if_neg unbroken]
  simp only [Ledger.replay, chain, bind, Except.bind]
  exact read

end Running

/-! ## The journal -/

section Journal

variable (lib : Libraries) (dec : Decimals) (handle : Handle) (store : Store) (replay : Replay)

/-- `begin` refuses and leaves the file as it is, or starts one reservation: of an idle
account, at the revision its caller read and with a cloid the account has not used. -/
def BeginsOnce : Prop :=
  ∀ registry publish account clearance expectedRevision atMs,
    (∃ error, begin lib dec handle registry publish account clearance expectedRevision atMs
      store = (.error error, store)) ∨
    ∃ receipt intent, receipt.start.account = account ∧
      clearance.kind.cloid? = some receipt.start.cloid ∧
      (replay.accounts account).pending = none ∧
      (replay.accounts account).revision = expectedRevision ∧ receipt.uses ∉ replay.used ∧
      replayRows (D := dec.Decimal) lib handle
        (begin lib dec handle registry publish account clearance expectedRevision atMs store).2.db =
          .ok (replay.started receipt intent) ∧
      ((begin lib dec handle registry publish account clearance expectedRevision atMs store).1 =
          .ok receipt ∨
        handle.anchored = true ∧ publish = false)

/-- `resolve` refuses or finds the receipt resolved, and leaves the file as it is, or
releases the reservation its receipt names, which is the pending one of the account. -/
def ResolvesPending : Prop :=
  ∀ publish receipt outcome atMs,
    (∃ error, resolve lib dec handle publish receipt outcome atMs store = (.error error, store)) ∨
    receipt.seq ∈ replay.resolved ∧
      resolve lib dec handle publish receipt outcome atMs store = (.ok (), store) ∨
    (replay.accounts receipt.start.account).pending = some receipt ∧
      replayRows (D := dec.Decimal) lib handle
        (resolve lib dec handle publish receipt outcome atMs store).2.db =
          .ok (replay.resolve receipt (store.db.events.length + 1) outcome) ∧
      ((resolve lib dec handle publish receipt outcome atMs store).1 = .ok () ∨
        handle.anchored = true ∧ publish = false)

/-- Whatever is pending, only its own receipt releases it. -/
def HoldsAgainstOthers : Prop :=
  ∀ publish receipt outcome atMs account held,
    (replay.accounts account).pending = some held → receipt ≠ held →
      ∃ next, replayRows (D := dec.Decimal) lib handle
        (resolve lib dec handle publish receipt outcome atMs store).2.db = .ok next ∧
          (next.accounts account).pending = some held

/-- A later `begin` at a revision read here commits only if the account's state is still the
one that was read. -/
def LosesNoUpdate (later : Store) (replay' : Replay) : Prop :=
  ∀ registry publish account clearance atMs,
    (begin lib dec handle registry publish account clearance (replay.accounts account).revision
      atMs later).2 ≠ later → replay'.accounts account = replay.accounts account

/-- A receipt resolved here is a no-op later, and is accepted whenever the journal reads. -/
def ResolvesOnce (later : Store) (replay' : Replay) : Prop :=
  ∀ publish outcome atMs, ∀ receipt ∈ replay.starts, receipt.seq ∈ replay.resolved →
    (resolve lib dec handle publish receipt outcome atMs later).2 = later ∧
      (Ledger.replay (D := dec.Decimal) lib handle true later = .ok replay' →
        (resolve lib dec handle publish receipt outcome atMs later).1 = .ok ())

end Journal

section Guarantees

variable {lib : Libraries} {dec : Decimals} {handle : Handle} {store : Store} {replay : Replay}
  {behind : Nat}

/-- `begin` refuses, or starts one reservation of an idle account. -/
theorem Reserved.beginsOnce (reserved : Reserved lib dec handle store.db replay)
    (tracks : Tracks lib handle behind store) : BeginsOnce lib dec handle store replay := by
  intro registry publish account clearance expectedRevision atMs
  rcases begin_cases reserved tracks.consistent registry publish account clearance expectedRevision
      atMs with refused | ⟨receipt, intent, rfl, starts, next, answered⟩
  · exact .inl refused
  · exact .inr ⟨receipt, intent, rfl, starts.named, starts.idle, starts.current, starts.fresh,
      next.read, answered.imp_right fun failed => ⟨failed.1, failed.2.1⟩⟩

/-- `resolve` refuses, finds the receipt resolved, or releases the reservation that is pending. -/
theorem Reserved.resolvesPending (reserved : Reserved lib dec handle store.db replay)
    (tracks : Tracks lib handle behind store) : ResolvesPending lib dec handle store replay := by
  intro publish receipt outcome atMs
  rcases resolve_cases reserved tracks.consistent publish receipt outcome atMs with
    refused | ⟨_, resolved, repeated⟩ | ⟨member, unresolved, next, answered⟩
  · exact .inl refused
  · exact .inr (.inl ⟨resolved, repeated⟩)
  · exact .inr (.inr ⟨(reserved.sound.pending _ receipt).mpr ⟨member, rfl, unresolved⟩, next.read,
      answered⟩)

/-- While an order is pending no resolution of another one releases it. -/
theorem Reserved.holdsAgainstOthers (reserved : Reserved lib dec handle store.db replay)
    (tracks : Tracks lib handle behind store) : HoldsAgainstOthers lib dec handle store replay := by
  intro publish receipt outcome atMs account held pending other
  rcases reserved.resolvesPending tracks publish receipt outcome atMs with
    ⟨error, refused⟩ | ⟨_, repeated⟩ | ⟨released, next, _⟩
  · rw [refused]
    exact ⟨replay, reserved.read, pending⟩
  · rw [repeated]
    exact ⟨replay, reserved.read, pending⟩
  · refine ⟨_, next, ?_⟩
    have elsewhere : account ≠ receipt.start.account := by
      rintro rfl
      exact other (Option.some.inj (released.symm.trans pending))
    change (Function.update replay.accounts receipt.start.account _ account).pending = _
    rw [Function.update_of_ne elsewhere, pending]

/-- A `begin` at a revision that was read earlier commits only if the account has not changed
since. -/
theorem Reserved.losesNoUpdate {later : Store} {replay' : Replay} {behind' : Nat}
    (reserved : Reserved lib dec handle later.db replay') (tracks : Tracks lib handle behind' later)
    (extended : replay.Extends replay') : LosesNoUpdate lib dec handle replay later replay' := by
  intro registry publish account clearance atMs committed
  rcases reserved.beginsOnce tracks registry publish account clearance
      (replay.accounts account).revision atMs with
    ⟨error, refused⟩ | ⟨_, _, _, _, _, current, _⟩
  · rw [refused] at committed
    exact absurd rfl committed
  · rcases extended.revised account with same | grew
    · exact same
    · omega

/-- A receipt that was resolved stays so: a second resolution is a no-op. -/
theorem Reserved.resolvesOnce {later : Store} {replay' : Replay} {behind' : Nat}
    (reserved : Reserved lib dec handle later.db replay') (tracks : Tracks lib handle behind' later)
    (extended : replay.Extends replay') : ResolvesOnce lib dec handle replay later replay' := by
  intro publish outcome atMs receipt member resolved
  have resolved' := extended.resolved _ resolved
  have member' := extended.starts _ member
  constructor
  · rcases resolve_cases reserved tracks.consistent publish receipt outcome atMs with
      ⟨error, refused⟩ | ⟨_, _, repeated⟩ | ⟨_, unresolved, _⟩
    · rw [refused]
    · rw [repeated]
    · exact absurd resolved' unresolved
  · intro read
    have chain : ¬ receipt.chain ≠ handle.genesis lib := not_not.mpr (reserved.chain _ member')
    have known : ¬ replay'.startAt receipt.seq ≠ some receipt :=
      not_not.mpr (reserved.sound.startAt_iff.mpr member')
    simp only [resolve, resolveBody, refuseIf, if_neg chain, bind, Except.bind, read, if_neg known,
      if_pos resolved']
    rfl

end Guarantees

/-- **Reservations.** In every state a ledger reaches without its intents and lifecycle rows
being redacted, the stored history replays, the chain and the anchor included as long as
publications went through. An account has at most one reservation that is not resolved, and
it is the pending one; no cloid of an account is accepted twice; `begin` and `resolve`
change nothing or advance the replay by one step they checked; and in every later state a
revision read here still guards what was read, and a receipt resolved here is a no-op. -/
theorem reservations_hold (lib : Libraries) (dec : Decimals) (handle : Handle)
    {requests : List (Request dec)} {store : Store}
    (run : Run (SparingStep lib dec handle) (opened lib handle) requests store) :
    ∃ replay, replayRows (D := dec.Decimal) lib handle store.db = .ok replay ∧
      ((∀ request ∈ requests.dropLast, request.publish = true) →
        Ledger.replay (D := dec.Decimal) lib handle true store = .ok replay) ∧
      (∀ account receipt, (replay.accounts account).pending = some receipt ↔
        receipt ∈ replay.starts ∧ receipt.start.account = account ∧
          receipt.seq ∉ replay.resolved) ∧
      (∀ first ∈ replay.starts, ∀ second ∈ replay.starts,
        first.start.account = second.start.account → first.seq ∉ replay.resolved →
          second.seq ∉ replay.resolved → first = second) ∧
      replay.used = replay.starts.map SubmissionReceipt.uses ∧ replay.used.Nodup ∧
      BeginsOnce lib dec handle store replay ∧ ResolvesPending lib dec handle store replay ∧
      HoldsAgainstOthers lib dec handle store replay ∧
      ∀ requests' later, Run (SparingStep lib dec handle) store requests' later →
        ∃ replay', replayRows (D := dec.Decimal) lib handle later.db = .ok replay' ∧
          replay.Extends replay' ∧ LosesNoUpdate lib dec handle replay later replay' ∧
          ResolvesOnce lib dec handle replay later replay' := by
  obtain ⟨behind, replay, tracks, reserved, _⟩ := opened_reserved.run opened_tracks run
  have sound := reserved.sound
  refine ⟨replay, reserved.read, ?_, sound.pending, ?_, sound.used, sound.unused,
    reserved.beginsOnce tracks, reserved.resolvesPending tracks, reserved.holdsAgainstOthers tracks,
    ?_⟩
  · intro published
    obtain ⟨near, within, tracks⟩ :=
      published_but_last (run.mono fun _ _ _ step => step.2) published
    exact tracks.replays within reserved.read
  · intro first member second member' owner unresolved unresolved'
    have pending := (sound.pending _ first).mpr ⟨member, owner, unresolved⟩
    rw [(sound.pending _ second).mpr ⟨member', rfl, unresolved'⟩] at pending
    exact (Option.some.inj pending).symm
  · intro requests' later onward
    obtain ⟨_, replay', tracks', reserved', extended⟩ := reserved.run tracks onward
    exact ⟨replay', reserved'.read, extended, reserved'.losesNoUpdate tracks' extended,
      reserved'.resolvesOnce tracks' extended⟩

namespace OneReservation

/-- The compact reader, the checksum and exact decimals in place of the real libraries. -/
def lib : Libraries := .reference checksum

def handle : Handle := ⟨.testnet, true⟩

def cloid : Cloid := ⟨"0x00000000000000000000000000000001", by decide +kernel⟩

def clearance : Clearance where
  approvalReviewDigest := none
  agent := "scout"
  route := ⟨.testnet, 1, ⟨"scout", .zero, none, ⟨1, .zero, 0, 10⟩⟩⟩
  policyRevision := 1
  vaultAddress := none
  network := .testnet
  evaluatedAtMs := 5
  kind := .order "BTC" true "1" "1" "1" false "0" "1" "1" (some cloid) none none
  utilization := .null

def record : Request Decimals.reference :=
  ⟨.recordIntent ⟨"scout", 5, clearance.toValue, none⟩, true⟩

def reserve : Request Decimals.reference := ⟨.begin none .zero clearance 0 6, true⟩

/-- The intent is recorded. -/
def recorded : Store := (perform lib Decimals.reference handle record (Ledger.opened lib handle)).2

/-- The sample records the intent its order will name. -/
theorem recorded_run :
    Run (SparingStep lib Decimals.reference handle) (Ledger.opened lib handle) [record] recorded :=
  .single ⟨rfl, rfl⟩

/-- The account is reserved for it. -/
theorem reserved_holds : recorded.db.events.length = 1 ∧
    ∃ replay, Ledger.replay (D := Decimals.reference.Decimal) lib handle true
      (perform lib Decimals.reference handle reserve recorded).2 = .ok replay ∧
        replay.used.Nodup := by
  have spares : reserve.call.spares recorded.db = true := rfl
  obtain ⟨replay, _, whole, _, _, _, unused, _⟩ :=
    reservations_hold lib Decimals.reference handle (recorded_run.snoc ⟨spares, rfl⟩)
  refine ⟨by decide +kernel, replay, whole ?_, unused⟩
  intro request member
  rw [List.mem_singleton.mp member]
  rfl

end OneReservation

end Oppen.Ledger
