import Oppen.Foundation.Run
import Oppen.Ledger.Journal
import Oppen.Ledger.RecordFill
import Oppen.Ledger.Transaction

/-! # The ledger as one system

Every call on the ledger, by any number of handles on one file, is one transaction;
a run is the sequence in which they commit. What any call can do to the file is said
once, and with it what every run keeps: a consistent chain, distinct keys and an
anchor that is behind by the rows committed since its last publication.
-/

namespace Oppen.Ledger

open Foundation Oppen.Json Oppen.Guardrail

/-- The calls on a ledger. The rows of the journals modelled elsewhere (registry, policy,
pairing, approvals, submission evidence and pilot consent) are taken as they come. -/
inductive Call (dec : Decimals) where
  | append (event : NewEvent)
  | recordIntent (intent : NewIntent)
  | recordOutcome (receipt : IntentReceipt) (kind : EventKind) (tsMs : Int64) (outcome : Value)
  | recordFill (fill : NewFill)
  | redact (seq : Nat) (reason : String) (tsMs : Int64)
  | openGap (scope : String) (tsMs : Int64) (note : Option String)
  | closeGap (gapId : Int) (tsMs : Int64)
  | begin (registry : Option (RegistryChecks dec.Decimal)) (account : Address)
      (clearance : Clearance) (expectedRevision atMs : Nat)
  | resolve (receipt : SubmissionReceipt) (resolution : SubmissionResolution) (atMs : Nat)
  | journal (event : NewEvent) (idemKey : String)
  | reopen

/-- A call, and whether the publication of a head it commits goes through. A publication that fails
leaves the row committed and the caller with an error. -/
structure Request (dec : Decimals) where
  call : Call dec
  publish : Bool

/-- What a caller learns: the call went through, its fill was already there, or an error. -/
inductive Answer where
  | done
  | duplicate
  | failed
  deriving DecidableEq, Repr

/-- The answer a result amounts to. -/
def answer {α ε : Type} : Except ε α → Answer
  | .ok _ => .done
  | .error _ => .failed

/-- The answer of `record_fill`: a fill already recorded is no error. -/
def fillAnswer : Result (Option Appended) → Answer
  | .ok (some _) => .done
  | .ok none => .duplicate
  | .error _ => .failed

/-- The kinds whose rows belong to journals modelled elsewhere. -/
def otherJournal : EventKind → Bool
  | .submissionSigned | .submissionAccepted | .pilotAuthorized | .pilotAdopted | .pairingIssued
  | .pairingRevoked | .registryGranted | .registryRetired | .policyInitialized | .policyReplaced
  | .approvalProposed | .approvalClaimed | .approvalDisposed => true
  | _ => false

/-- The bytes SQLite compares texts by. -/
def codes (text : String) : List Nat := (utf8 text).map UInt8.toNat

/-- Whether a key begins as a fill's does. -/
def isFillKey (key : String) : Bool := (codes "fill:").isPrefixOf (codes key)

section Perform

variable (lib : Libraries) (dec : Decimals) (handle : Handle)

/-- A row of a journal modelled elsewhere, under a key that is no fill's. -/
def appendJournal (publish : Bool) (event : NewEvent) (idemKey : String) (store : Store) :
    Result Unit × Store :=
  transact handle publish id store do
    refuseIf (otherJournal event.kind = false ∨ isFillKey idemKey = true) .sqlite
    let (appended, db) ← appendKeyedInTx lib store.db event idemKey
    return ⟨(), db, appended⟩

/-- What a request does. -/
def perform (request : Request dec) (store : Store) : Answer × Store :=
  let publish := request.publish
  match request.call with
  | .append event => (append lib handle publish event store).map answer id
  | .recordIntent intent => (recordIntent lib handle publish intent store).map answer id
  | .recordOutcome receipt kind tsMs outcome =>
      (recordOutcome lib handle publish receipt kind tsMs outcome store).map answer id
  | .recordFill fill => (recordFill lib dec handle publish fill store).map fillAnswer id
  | .redact seq reason tsMs => (redact lib handle publish seq reason tsMs store).map answer id
  | .openGap scope tsMs note => (openGap lib handle publish scope tsMs note store).map answer id
  | .closeGap gapId tsMs => (closeGap lib handle publish gapId tsMs store).map answer id
  | .begin registry account clearance expectedRevision atMs =>
      (begin lib dec handle registry publish account clearance expectedRevision atMs store).map
        answer id
  | .resolve receipt resolution atMs =>
      (resolve lib dec handle publish receipt resolution atMs store).map answer id
  | .journal event idemKey => (appendJournal lib handle publish event idemKey store).map answer id
  | .reopen => (openAnchored lib handle publish store).map answer id

/-- One step of the system. The runs of these are all that any process can do to a ledger through
its interface. -/
def Step (before : Store) (request : Request dec) (after : Store) : Prop :=
  (perform lib dec handle request before).2 = after

/-- A new file, opened. -/
def opened : Store where
  db := { Db.migrated with
    network := some (networkKey handle.network), chainHead := some (0, handle.genesis lib) }
  anchor := if handle.anchored then some ⟨0, handle.genesis lib⟩ else none

end Perform

/-! ## What a call can write -/

/-- The rows a call may append, with their keys. -/
inductive Writes (dec : Decimals) : Call dec → NewEvent → Option String → Prop
  | append {event written : NewEvent} {idemKey : Option String}
      (generic : Generic event.tsMs written idemKey) : Writes dec (.append event) written idemKey
  | recordIntent {intent : NewIntent} {written : NewEvent} {idemKey : Option String}
      (generic : Generic intent.tsMs written idemKey) :
      Writes dec (.recordIntent intent) written idemKey
  | recordOutcome {receipt : IntentReceipt} {kind : EventKind} {tsMs : Int64} {outcome : Value}
      {written : NewEvent} {idemKey : Option String} (generic : Generic tsMs written idemKey) :
      Writes dec (.recordOutcome receipt kind tsMs outcome) written idemKey
  | fill {fill : NewFill} {payload : Value}
      (carried : payload = fill.payload ∨
        ∃ embedded, payload = stoppedPayload fill.payload embedded) :
      Writes dec (.recordFill fill) (fillEvent fill payload)
        (some (fillIdemKey fill.account fill.tid))
  | halt {fill : NewFill} (authority : Authority dec.Decimal) (trigger : Row)
      (stop : PilotStop dec.Decimal) :
      Writes dec (.recordFill fill) (haltEvent dec authority trigger fill.tsMs stop)
        (some (haltKey authority.seq))
  | redact {seq : Nat} {reason : String} {tsMs : Int64} :
      Writes dec (.redact seq reason tsMs) (redactionEvent seq reason tsMs) none
  | openGap {scope : String} {tsMs : Int64} {note : Option String} {written : NewEvent}
      {idemKey : Option String} (generic : Generic tsMs written idemKey) :
      Writes dec (.openGap scope tsMs note) written idemKey
  | closeGap {gapId : Int} {tsMs : Int64} {written : NewEvent} {idemKey : Option String}
      (generic : Generic tsMs written idemKey) : Writes dec (.closeGap gapId tsMs) written idemKey
  | started {registry : Option (RegistryChecks dec.Decimal)} {account : Address}
      {clearance : Clearance} {expectedRevision atMs : Nat} (tsMs : Int64) (start : Started) :
      Writes dec (.begin registry account clearance expectedRevision atMs)
        (startedEvent clearance.agent tsMs start) (some (startKey start))
  | resolved {receipt : SubmissionReceipt} {resolution : SubmissionResolution} {atMs : Nat}
      (tsMs : Int64) :
      Writes dec (.resolve receipt resolution atMs)
        (resolvedEvent receipt.agent tsMs
          ⟨1, receipt.start.account, receipt.seq, receipt.hash, resolution⟩)
        (some (resolveKey receipt.seq))
  | journal {event : NewEvent} {idemKey : String} (other : otherJournal event.kind = true)
      (keyed : isFillKey idemKey = false) : Writes dec (.journal event idemKey) event (some idemKey)

section Moving

variable {lib : Libraries} {dec : Decimals} {handle : Handle} {store : Store}

/-- A call that commits what is allowed commits what is allowed in a wider sense. -/
theorem Moves.mono {publish : Bool} {α ε : Type} {lift : LedgerError → ε}
    {allowed wider : NewEvent → Option String → Prop} {result : Except ε α} {after : Store}
    (moves : Moves lib handle publish lift allowed store result after)
    (within : ∀ event idemKey, allowed event idemKey → wider event idemKey) :
    Moves lib handle publish lift wider store result after := by
  cases moves with
  | refused error => exact .refused error
  | idle value => exact .idle value
  | published value permitted change stored =>
      exact .published value (within _ _ permitted) change stored
  | unpublished permitted change anchored failed =>
      exact .unpublished (within _ _ permitted) change anchored failed

/-- An append under a new key is one change of the ledger. -/
theorem Grows.change {db grown : Db} {event : NewEvent} {idemKey : String} {appended : Appended}
    (grows : Grows lib (handle.genesis lib) db event (some idemKey) appended grown)
    (plain : event.kind ≠ .payloadRedacted)
    (fresh : ∀ held ∈ db.events, held.idemKey ≠ some idemKey) :
    Change lib (handle.genesis lib) db event (some idemKey) appended grown :=
  ⟨⟨db, grown, grown.feedGaps, .plain plain, grows, rfl⟩, by rintro _ ⟨⟩; exact fresh⟩

/-- Recording a fill commits the fill's row, or nothing. -/
theorem moves_recordFill (consistent : Consistent lib (handle.genesis lib) store.db)
    (publish : Bool) (fill : NewFill) :
    Moves lib handle publish id (Writes dec (.recordFill fill)) store
      (recordFill lib dec handle publish fill store).1
      (recordFill lib dec handle publish fill store).2 := by
  refine moves_transact id fun done run => ?_
  cases insertFill_ok consistent run with
  | duplicate => exact .inl ⟨rfl, rfl⟩
  | recorded grows fresh carried =>
      exact .inr ⟨_, _, _, rfl, .fill carried, grows.change (by rintro ⟨⟩) fresh⟩
  | latched _ _ grows fresh =>
      exact .inr ⟨_, _, _, rfl, .halt _ _ _, grows.change (by rintro ⟨⟩) fresh⟩

/-- Beginning a submission commits its start, or nothing. -/
theorem moves_begin (consistent : Consistent lib (handle.genesis lib) store.db)
    (registry : Option (RegistryChecks dec.Decimal)) (publish : Bool) (account : Address)
    (clearance : Clearance) (expectedRevision atMs : Nat) :
    Moves lib handle publish .ledger
      (Writes dec (.begin registry account clearance expectedRevision atMs)) store
      (begin lib dec handle registry publish account clearance expectedRevision atMs store).1
      (begin lib dec handle registry publish account clearance expectedRevision atMs store).2 := by
  refine moves_transact _ fun done run => ?_
  obtain ⟨replay, cloid, intentSeq, intentHash, tsMs, appended, db, _, _, _, _, _, _, grows, fresh,
    rfl⟩ := (beginBody_ok consistent run).reserved
  exact .inr ⟨_, _, appended, rfl, .started tsMs _, grows.change (by rintro ⟨⟩) fresh⟩

/-- Resolving a submission commits its resolution, or nothing. -/
theorem moves_resolve (consistent : Consistent lib (handle.genesis lib) store.db) (publish : Bool)
    (receipt : SubmissionReceipt) (resolution : SubmissionResolution) (atMs : Nat) :
    Moves lib handle publish .ledger (Writes dec (.resolve receipt resolution atMs)) store
      (resolve lib dec handle publish receipt resolution atMs store).1
      (resolve lib dec handle publish receipt resolution atMs store).2 := by
  refine moves_transact _ fun done run => ?_
  obtain ⟨_, _, _, resolves⟩ := resolveBody_ok consistent run
  cases resolves with
  | repeated => exact .inl ⟨rfl, rfl⟩
  | resolved _ grows fresh =>
      exact .inr ⟨_, _, _, rfl, .resolved _, grows.change (by rintro ⟨⟩) fresh⟩

/-- An append to the journal commits its event under its key, or nothing. -/
theorem moves_appendJournal (consistent : Consistent lib (handle.genesis lib) store.db)
    (publish : Bool) (event : NewEvent) (idemKey : String) :
    Moves lib handle publish id (Writes dec (.journal event idemKey)) store
      (appendJournal lib handle publish event idemKey store).1
      (appendJournal lib handle publish event idemKey store).2 := by
  refine moves_transact id fun done run => ?_
  obtain ⟨_, guarded, run⟩ := bind_eq_ok run
  have permitted := refuseIf_ok guarded
  simp only [not_or, Bool.not_eq_false, Bool.not_eq_true] at permitted
  obtain ⟨⟨appended, db⟩, append, run⟩ := bind_eq_ok run
  cases run
  have plain : event.kind ≠ .payloadRedacted := by
    intro kind
    rw [kind] at permitted
    cases permitted.1
  rcases appendKeyedInTx_ok consistent.headed append with
    ⟨row, rfl, grows, fresh⟩ | ⟨rfl, rfl, _⟩
  · exact .inr ⟨event, some idemKey, row, rfl, .journal permitted.1 permitted.2,
      grows.change plain fresh⟩
  · exact .inl ⟨rfl, rfl⟩

/-! ## What every run keeps -/

/-- The file is bound and consistent, no two rows share a key, and an anchored ledger is
that many rows ahead of its anchor. -/
structure Tracks (lib : Libraries) (handle : Handle) (behind : Nat) (store : Store) : Prop where
  network : store.db.network = some (networkKey handle.network)
  consistent : Consistent lib (handle.genesis lib) store.db
  keys : (store.db.events.filterMap Row.idemKey).Nodup
  anchored : handle.anchored = true → ∃ anchor, store.anchor = some anchor ∧
    anchor.seq + behind = store.db.events.length ∧
    anchor.hash = tipDigest Row.hash (handle.genesis lib) (store.db.events.take anchor.seq)

/-- What a request does to the file: nothing, or one change whose head is published or,
when the publication fails, is not. -/
inductive Moved (lib : Libraries) (dec : Decimals) (handle : Handle) (request : Request dec)
    (store : Store) : Answer → Store → Prop
  | unchanged (answer : Answer) : Moved lib dec handle request store answer store
  | published {answer : Answer} {event : NewEvent} {idemKey : Option String} {appended : Appended}
      {changed : Db} (written : Writes dec request.call event idemKey)
      (change : Change lib (handle.genesis lib) store.db event idemKey appended changed)
      (stored : handle.anchored = true → request.publish = true) (well : answer ≠ .failed) :
      Moved lib dec handle request store answer
        ⟨changed, if handle.anchored then some ⟨appended.seq, appended.hash⟩ else store.anchor⟩
  | unpublished {event : NewEvent} {idemKey : Option String} {appended : Appended} {changed : Db}
      (written : Writes dec request.call event idemKey)
      (change : Change lib (handle.genesis lib) store.db event idemKey appended changed)
      (anchored : handle.anchored = true) (failed : request.publish = false) :
      Moved lib dec handle request store .failed ⟨changed, store.anchor⟩

/-- What a call does to the store is what its request did, once it is answered. -/
theorem moved_of_moves (request : Request dec) {α ε : Type} {lift : LedgerError → ε}
    {result : Except ε α} {after : Store} (reply : Except ε α → Answer)
    (moves : Moves lib handle request.publish lift (Writes dec request.call) store result after)
    (answers : ∀ value, reply (.ok value) ≠ .failed)
    (fails : ∀ error, reply (.error error) = .failed) :
    Moved lib dec handle request store (reply result) after := by
  cases moves with
  | refused error => exact .unchanged _
  | idle value => exact .unchanged _
  | published value written change stored =>
      exact .published written change stored (answers value)
  | unpublished written change anchored failed =>
      rw [fails]
      exact .unpublished written change anchored failed

/-- An `Ok` is no failure. -/
theorem moved_of_moves_answer (request : Request dec) {α ε : Type} {lift : LedgerError → ε}
    {result : Except ε α} {after : Store}
    (moves : Moves lib handle request.publish lift (Writes dec request.call) store result after) :
    Moved lib dec handle request store (answer result) after :=
  moved_of_moves request answer moves (fun _ => nofun) fun _ => rfl

/-- Reopening a tracked file changes nothing. -/
theorem Tracks.openAnchored {behind : Nat} (tracks : Tracks lib handle behind store)
    (publish : Bool) : openAnchored lib handle publish store = (.ok (), store) := by
  have held : ¬ (handle.anchored = true ∧ store.anchor = none) := by
    rintro ⟨anchored, missing⟩
    obtain ⟨anchor, present, _⟩ := tracks.anchored anchored
    rw [present] at missing
    cases missing
  simp only [Ledger.openAnchored, bindNetwork_of_bound tracks.network, held, if_false]

/-- **What a request can do.** -/
theorem perform_moved {behind : Nat} (tracks : Tracks lib handle behind store)
    (request : Request dec) :
    Moved lib dec handle request store (perform lib dec handle request store).1
      (perform lib dec handle request store).2 := by
  have consistent := tracks.consistent
  obtain ⟨call, publish⟩ := request
  cases call with
  | append event =>
      exact moved_of_moves_answer ⟨.append event, publish⟩
        ((moves_append consistent event).mono fun _ _ => .append)
  | recordIntent intent =>
      exact moved_of_moves_answer ⟨.recordIntent intent, publish⟩
        ((moves_recordIntent consistent intent).mono fun _ _ => .recordIntent)
  | recordOutcome receipt kind tsMs outcome =>
      exact moved_of_moves_answer ⟨.recordOutcome receipt kind tsMs outcome, publish⟩
        ((moves_recordOutcome consistent receipt kind tsMs outcome).mono fun _ _ => .recordOutcome)
  | recordFill fill =>
      refine moved_of_moves ⟨.recordFill fill, publish⟩ fillAnswer
        (moves_recordFill consistent publish fill) ?_ fun _ => rfl
      rintro (_ | _) <;> exact nofun
  | redact seq reason tsMs =>
      refine moved_of_moves_answer ⟨.redact seq reason tsMs, publish⟩
        ((moves_redact consistent seq reason tsMs).mono fun _ _ => ?_)
      rintro ⟨rfl, rfl⟩
      exact .redact
  | openGap scope tsMs note =>
      exact moved_of_moves_answer ⟨.openGap scope tsMs note, publish⟩
        ((moves_openGap consistent scope tsMs note).mono fun _ _ => .openGap)
  | closeGap gapId tsMs =>
      exact moved_of_moves_answer ⟨.closeGap gapId tsMs, publish⟩
        ((moves_closeGap consistent gapId tsMs).mono fun _ _ => .closeGap)
  | begin registry account clearance expectedRevision atMs =>
      exact moved_of_moves_answer ⟨.begin registry account clearance expectedRevision atMs, publish⟩
        (moves_begin consistent registry publish account clearance expectedRevision atMs)
  | resolve receipt resolution atMs =>
      exact moved_of_moves_answer ⟨.resolve receipt resolution atMs, publish⟩
        (moves_resolve consistent publish receipt resolution atMs)
  | journal event idemKey =>
      exact moved_of_moves_answer ⟨.journal event idemKey, publish⟩
        (moves_appendJournal consistent publish event idemKey)
  | reopen =>
      change Moved lib dec handle _ store _ (openAnchored lib handle publish store).2
      rw [tracks.openAnchored]
      exact .unchanged _

/-- A row of a changed table is an old one or the new one. -/
theorem Change.row_cases {genesis : String} {db changed : Db} {event : NewEvent}
    {idemKey : Option String} {appended : Appended}
    (change : Change lib genesis db event idemKey appended changed) {row : Row}
    (member : row ∈ changed.events) :
    (∃ held ∈ db.events, Kept held row) ∨
      row.kind = event.kind.asStr ∧ row.idemKey = idemKey := by
  obtain ⟨base, canonical, prepared, _, same⟩ := change.events
  rw [same] at member
  rcases List.mem_append.mp member with older | last
  · cases prepared with
    | plain => exact .inl ⟨row, older, .refl row⟩
    | tombstone =>
        obtain ⟨held, inside, rfl⟩ := List.mem_map.mp older
        exact .inl ⟨held, inside, Kept.tombstoned _ _ _ held⟩
  · obtain rfl := List.mem_singleton.mp last
    exact .inr ⟨rfl, rfl⟩

/-- The keys of a changed table. -/
theorem Change.keys {event : NewEvent} {idemKey : Option String} {appended : Appended}
    {db changed : Db} (change : Change lib (handle.genesis lib) db event idemKey appended changed) :
    changed.events.filterMap Row.idemKey = db.events.filterMap Row.idemKey ++ idemKey.toList := by
  obtain ⟨base, canonical, prepared, _, same⟩ := change.events
  have kept : base.events.filterMap Row.idemKey = db.events.filterMap Row.idemKey := by
    cases prepared with
    | plain => rfl
    | tombstone =>
        rw [events_tombstone, List.filterMap_map]
        exact List.filterMap_congr fun row _ => tombstoned_idemKey _ _ _ row
  rw [same, List.filterMap_append, kept]
  cases idemKey <;> rfl

/-- A change keeps the keys of the rows apart. -/
theorem Change.keys_nodup {event : NewEvent} {idemKey : Option String} {appended : Appended}
    {db changed : Db} (change : Change lib (handle.genesis lib) db event idemKey appended changed)
    (distinct : (db.events.filterMap Row.idemKey).Nodup) :
    (changed.events.filterMap Row.idemKey).Nodup := by
  rw [change.keys]
  cases idemKey with
  | none => rwa [Option.toList_none, List.append_nil]
  | some key =>
      refine List.nodup_append.mpr ⟨distinct, List.nodup_singleton key, ?_⟩
      intro held inside other same
      obtain rfl := List.mem_singleton.mp same
      obtain ⟨row, member, keyed⟩ := List.mem_filterMap.mp inside
      rintro rfl
      exact change.fresh _ rfl row member keyed

/-- The anchor of a tracked store still names a row of the changed table. -/
theorem Tracks.changed {behind : Nat} (tracks : Tracks lib handle behind store) {event : NewEvent}
    {idemKey : Option String} {appended : Appended} {changed : Db}
    (change : Change lib (handle.genesis lib) store.db event idemKey appended changed) :
    Tracks lib handle (behind + 1) ⟨changed, store.anchor⟩ where
  network := change.network.trans tracks.network
  consistent := change.consistent tracks.consistent
  keys := change.keys_nodup tracks.keys
  anchored anchored := by
    obtain ⟨anchor, present, seq, hash⟩ := tracks.anchored anchored
    obtain ⟨kept, added, same, keeps⟩ := change.evolves
    have length := change.head.2.2
    refine ⟨anchor, present, ?_, ?_⟩
    · change anchor.seq + (behind + 1) = changed.events.length
      omega
    · change _ = tipDigest Row.hash _ (changed.events.take anchor.seq)
      rw [hash, same, tipDigest_take_kept keeps (by omega)]

/-- Publishing the head of a changed table leaves the anchor at it. -/
theorem Tracks.published {behind : Nat} (tracks : Tracks lib handle behind store)
    {event : NewEvent} {idemKey : Option String} {appended : Appended} {changed : Db}
    (change : Change lib (handle.genesis lib) store.db event idemKey appended changed) :
    Tracks lib handle 0
      ⟨changed, if handle.anchored then some ⟨appended.seq, appended.hash⟩ else store.anchor⟩ where
  network := change.network.trans tracks.network
  consistent := change.consistent tracks.consistent
  keys := change.keys_nodup tracks.keys
  anchored anchored := by
    obtain ⟨named, seq, length⟩ := change.head
    have head := Intact.head (change.consistent tracks.consistent)
    rw [named] at head
    simp only [Option.some.injEq, Prod.mk.injEq] at head
    refine ⟨⟨appended.seq, appended.hash⟩, if_pos anchored, ?_, ?_⟩
    · change appended.seq + 0 = changed.events.length
      omega
    · change appended.hash = tipDigest Row.hash _ (changed.events.take appended.seq)
      rw [List.take_of_length_le (by omega)]
      exact head.2

/-- Every step of a ledger that keeps its anchor is one that `Moved` describes. -/
theorem Tracks.moved {behind : Nat} (tracks : Tracks lib handle behind store)
    {request : Request dec} {after : Store} (step : Step lib dec handle store request after) :
    ∃ reply, Moved lib dec handle request store reply after :=
  ⟨_, step ▸ perform_moved tracks request⟩

/-- What a step does to the lag: it falls to nothing, stays, or grows by one row whose
publication failed. -/
theorem Tracks.step {behind : Nat} (tracks : Tracks lib handle behind store)
    {request : Request dec} {after : Store} (step : Step lib dec handle store request after) :
    ∃ behind', Tracks lib handle behind' after ∧ behind' ≤ behind + 1 ∧
      (request.publish = true → behind' ≤ behind) := by
  obtain ⟨reply, moved⟩ := tracks.moved step
  cases moved with
  | unchanged => exact ⟨behind, tracks, by omega, fun _ => le_rfl⟩
  | published _ change => exact ⟨0, tracks.published change, by omega, fun _ => by omega⟩
  | unpublished _ change _ failed =>
      refine ⟨behind + 1, tracks.changed change, le_rfl, fun publish => ?_⟩
      rw [failed] at publish
      cases publish

/-- A ledger that was just opened keeps its anchor, with no row behind. -/
theorem opened_tracks : Tracks lib handle 0 (opened lib handle) where
  network := rfl
  consistent := Consistent.created
  keys := List.nodup_nil
  anchored anchored := ⟨_, if_pos anchored, rfl, rfl⟩

/-- Along a step the file only evolves. -/
theorem Tracks.evolves {behind : Nat} (tracks : Tracks lib handle behind store)
    {request : Request dec} {after : Store} (step : Step lib dec handle store request after) :
    Evolves store.db after.db := by
  obtain ⟨reply, moved⟩ := tracks.moved step
  cases moved with
  | unchanged => exact .refl _
  | published _ change => exact change.evolves
  | unpublished _ change => exact change.evolves

/-- A run from a tracked store stays tracked, and the file only evolves. -/
theorem Tracks.run {behind : Nat} (tracks : Tracks lib handle behind store)
    {requests : List (Request dec)} {last : Store}
    (run : Run (Step lib dec handle) store requests last) :
    (∃ behind', Tracks lib handle behind' last) ∧ Evolves store.db last.db := by
  refine run.invariant
    (fun last => (∃ behind', Tracks lib handle behind' last) ∧ Evolves store.db last.db) ?_
    ⟨⟨behind, tracks⟩, .refl _⟩
  rintro before request after ⟨⟨_, tracks⟩, evolves⟩ step
  obtain ⟨behind', tracks', _⟩ := tracks.step step
  exact ⟨⟨behind', tracks'⟩, evolves.trans (tracks.evolves step)⟩

/-- Every reachable store is tracked. -/
theorem run_tracks {requests : List (Request dec)} {last : Store}
    (run : Run (Step lib dec handle) (opened lib handle) requests last) :
    ∃ behind, Tracks lib handle behind last :=
  (opened_tracks.run run).1

/-- While every publication goes through, the anchor is never behind. -/
theorem published_run {requests : List (Request dec)}
    (run : Run (Step lib dec handle) (opened lib handle) requests store)
    (published : ∀ request ∈ requests, request.publish = true) : Tracks lib handle 0 store := by
  refine run.persists (fun store => Tracks lib handle 0 store)
    (fun request => request.publish = true) ?_ published opened_tracks
  intro before request after tracks publish step
  obtain ⟨behind', tracks', _, level⟩ := tracks.step step
  obtain rfl : behind' = 0 := Nat.le_zero.mp (level publish)
  exact tracks'

/-- When every publication but perhaps the last goes through, the anchor is at most one row
behind. -/
theorem published_but_last {requests : List (Request dec)}
    (run : Run (Step lib dec handle) (opened lib handle) requests store)
    (published : ∀ request ∈ requests.dropLast, request.publish = true) :
    ∃ behind ≤ 1, Tracks lib handle behind store := by
  cases run with
  | nil => exact ⟨0, Nat.zero_le 1, opened_tracks⟩
  | snoc prior step =>
      rw [List.dropLast_concat] at published
      obtain ⟨behind', tracks', near, _⟩ := (published_run prior published).step step
      exact ⟨behind', near, tracks'⟩

/-- A tracked ledger verifies exactly when it is within the tolerance of its anchor. -/
theorem Tracks.verify_iff {behind : Nat} (tracks : Tracks lib handle behind store) :
    (∃ report, verify lib handle store = .ok report ∧ report.isIntact = true) ↔
      (handle.anchored = true → behind ≤ anchorLagTolerance) := by
  have consistent := tracks.consistent
  cases anchored : handle.anchored with
  | false =>
      have unfolded : verify lib handle store = walk lib none store.db (handle.genesis lib) := by
        simp only [verify, anchored, Bool.false_eq_true, if_false]
      rw [unfolded, walk_isIntact_iff]
      exact ⟨fun _ => nofun, fun _ => consistent⟩
  | true =>
      obtain ⟨anchor, present, seq, hash⟩ := tracks.anchored anchored
      have unfolded : verify lib handle store =
          walk lib (some anchor) store.db (handle.genesis lib) := by
        simp only [verify, anchored, present, if_true]
      rw [unfolded, walk_isIntact_iff]
      constructor
      · intro intact _
        have recent := (intact.witnessed anchor rfl).recent
        omega
      · intro tolerated
        refine ⟨consistent.rows, consistent.explained, ?_, Intact.head consistent⟩
        rintro remembered ⟨⟩
        have within := tolerated rfl
        exact ⟨by omega, by omega, hash⟩

end Moving

end Oppen.Ledger
