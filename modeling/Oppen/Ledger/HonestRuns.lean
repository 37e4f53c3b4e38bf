import Oppen.Ledger.System

/-! # Honest runs

The writer and the verifier are separate code. Whatever the ledger's own operations
append, in whatever order, the walk accepts, as long as the anchor was published after
every row but the last.
-/

namespace Oppen.Ledger

open Foundation Oppen.Json

/-- The operations of the ledger itself, without its journals. -/
def Call.isPlain {dec : Decimals} : Call dec → Bool
  | .append _ | .recordIntent _ | .recordOutcome .. | .recordFill _ | .redact .. | .openGap ..
  | .closeGap .. => true
  | _ => false

/-- The timestamp the caller of such an operation gives. -/
def Call.tsMs {dec : Decimals} : Call dec → Option Int64
  | .append event => some event.tsMs
  | .recordIntent intent => some intent.tsMs
  | .recordOutcome _ _ tsMs _ => some tsMs
  | .recordFill fill => some fill.tsMs
  | .redact _ _ tsMs => some tsMs
  | .openGap _ tsMs _ => some tsMs
  | .closeGap _ tsMs => some tsMs
  | _ => none

section Runs

variable {lib : Libraries} {dec : Decimals} {handle : Handle} {store : Store} {behind : Nat}

/-- A plain operation writes rows of its caller's timestamp. -/
theorem Writes.stamped {call : Call dec} {event : NewEvent} {idemKey : Option String}
    (written : Writes dec call event idemKey) (plain : call.isPlain = true) :
    call.tsMs = some event.tsMs := by
  cases written with
  | append generic | recordIntent generic | recordOutcome generic | openGap generic
  | closeGap generic => exact congrArg some generic.stamped.symm
  | fill | halt | redact => rfl
  | started | resolved | journal => cases plain

/-- Whether a row makes the pilot active. -/
def Row.isAuthority (row : Row) : Prop :=
  row.kind = EventKind.pilotAuthorized.asStr ∨ row.kind = EventKind.pilotHalted.asStr

/-- A ledger has no authority exactly if none of its rows is one. -/
theorem hasAuthority_eq_false {db : Db} :
    hasAuthority db = false ↔ ∀ row ∈ db.events, ¬ row.isAuthority := by
  simp only [hasAuthority, Row.isAuthority, List.any_eq_false, Bool.or_eq_true, decide_eq_true_eq]

/-- Without a pilot a fill is recorded as given, or was there. -/
theorem insertFill_inactive (consistent : Consistent lib (handle.genesis lib) store.db)
    (inactive : hasAuthority store.db = false) {fill : NewFill} {done : Committed (Option Appended)}
    (run : insertFill lib dec handle fill store = .ok done) :
    done = ⟨none, store.db, none⟩ ∨ ∃ appended, done.value = some appended ∧
      done.noted = some appended ∧ Change lib (handle.genesis lib) store.db
        (fillEvent fill fill.payload) (some (fillIdemKey fill.account fill.tid)) appended
        done.db := by
  simp only [insertFill, inactive, if_true] at run
  obtain ⟨⟨appended, db⟩, append, run⟩ := bind_eq_ok run
  cases run
  rcases appendKeyedInTx_ok consistent.headed append with
    ⟨row, rfl, grows, fresh⟩ | ⟨rfl, rfl, _⟩
  · exact .inr ⟨row, rfl, rfl, grows.change nofun fresh⟩
  · exact .inl rfl

/-- Committing a change whose head is noted, with its value. -/
theorem transact_noted {α ε : Type} (publish : Bool) (lift : LedgerError → ε) (value : α)
    (db : Db) (appended : Appended) :
    (transact handle publish lift store (.ok ⟨value, db, some appended⟩)).1 = .ok value ∨
      (transact handle publish lift store (.ok ⟨value, db, some appended⟩)).1 =
        .error (lift .io) := by
  cases anchored : handle.anchored <;> cases publish <;>
    simp [transact, noteHead, anchored]

/-- A call reports a duplicate only when it changed nothing, as long as no pilot is active. -/
theorem perform_duplicate (tracks : Tracks lib handle behind store)
    (inactive : hasAuthority store.db = false) {request : Request dec}
    (reply : (perform lib dec handle request store).1 = .duplicate) :
    (perform lib dec handle request store).2 = store := by
  have plain {α ε : Type} {result : Except ε α} (reply : answer result = .duplicate) : False := by
    cases result <;> cases reply
  obtain ⟨call, publish⟩ := request
  cases call with
  | recordFill fill =>
      change fillAnswer (recordFill lib dec handle publish fill store).1 = .duplicate at reply
      change (recordFill lib dec handle publish fill store).2 = store
      unfold recordFill at reply ⊢
      cases inserted : insertFill lib dec handle fill store with
      | error error => rfl
      | ok done =>
          rw [inserted] at reply
          rcases insertFill_inactive tracks.consistent inactive inserted with
            rfl | ⟨appended, value, noted, _⟩
          · rfl
          · obtain ⟨held, db, last⟩ := done
            cases value
            cases noted
            rcases transact_noted publish id (some appended) db appended with
              committed | committed <;> rw [committed] at reply <;> cases reply
  | append | recordIntent | recordOutcome | redact | openGap | closeGap | begin | resolve
  | journal | reopen => exact (plain reply).elim

/-- A plain operation starts no pilot. -/
theorem inactive_step (tracks : Tracks lib handle behind store)
    (inactive : hasAuthority store.db = false) {request : Request dec}
    (plain : request.call.isPlain = true) {after : Store}
    (step : Step lib dec handle store request after) : hasAuthority after.db = false := by
  have kept {event : NewEvent} {idemKey : Option String} {appended : Appended} {changed : Db}
      (change : Change lib (handle.genesis lib) store.db event idemKey appended changed)
      (other : event.kind ≠ .pilotAuthorized ∧ event.kind ≠ .pilotHalted) :
      hasAuthority changed = false := by
    rw [hasAuthority_eq_false] at inactive ⊢
    intro row member
    rcases change.row_cases member with ⟨held, inside, keep⟩ | ⟨kind, _⟩
    · rw [Row.isAuthority, keep.kind]
      exact inactive held inside
    · rw [Row.isAuthority, kind]
      rintro (authorized | halted)
      · exact other.1 (EventKind.asStr_injective authorized)
      · exact other.2 (EventKind.asStr_injective halted)
  have generic {tsMs : Int64} {event : NewEvent} {idemKey : Option String}
      (generic : Generic tsMs event idemKey) :
      event.kind ≠ .pilotAuthorized ∧ event.kind ≠ .pilotHalted := by
    constructor <;> intro kind <;> rcases generic.kind with door | intent
    · rw [kind] at door; cases door
    · rw [kind] at intent; cases intent
    · rw [kind] at door; cases door
    · rw [kind] at intent; cases intent
  obtain ⟨call, publish⟩ := request
  have written {event : NewEvent} {idemKey : Option String}
      (notFill : ∀ fill, call ≠ .recordFill fill) (written : Writes dec call event idemKey) :
      event.kind ≠ .pilotAuthorized ∧ event.kind ≠ .pilotHalted := by
    cases written with
    | append facts | recordIntent facts | recordOutcome facts | openGap facts
    | closeGap facts => exact generic facts
    | fill | halt => exact absurd rfl (notFill _)
    | redact => exact ⟨nofun, nofun⟩
    | started | resolved | journal => cases plain
  by_cases isFill : ∃ fill, call = .recordFill fill
  · obtain ⟨fill, rfl⟩ := isFill
    have moves : Moves lib handle publish id (fun event _ => event.kind = .fill) store
        (recordFill lib dec handle publish fill store).1
        (recordFill lib dec handle publish fill store).2 := by
      refine moves_transact id fun done run => ?_
      rcases insertFill_inactive tracks.consistent inactive run with
        rfl | ⟨appended, _, noted, change⟩
      · exact .inl ⟨rfl, rfl⟩
      · exact .inr ⟨_, _, appended, noted, rfl, change⟩
    change (recordFill lib dec handle publish fill store).2 = after at step
    rw [step] at moves
    generalize (recordFill lib dec handle publish fill store).1 = result at moves
    cases moves with
    | refused | idle => exact inactive
    | published _ kind change => exact kept change (by rw [kind]; exact ⟨nofun, nofun⟩)
    | unpublished kind change => exact kept change (by rw [kind]; exact ⟨nofun, nofun⟩)
  · obtain ⟨reply, moved⟩ := tracks.moved step
    have notFill (fill : NewFill) : call ≠ .recordFill fill := fun same => isFill ⟨fill, same⟩
    cases moved with
    | unchanged => exact inactive
    | published facts change => exact kept change (written notFill facts)
    | unpublished facts change => exact kept change (written notFill facts)

/-- After a run of plain requests the ledger has no authority. -/
theorem inactive_run {requests : List (Request dec)}
    (run : Run (Step lib dec handle) (opened lib handle) requests store)
    (plain : ∀ request ∈ requests, request.call.isPlain = true) :
    hasAuthority store.db = false := by
  have both : (∃ behind, Tracks lib handle behind store) ∧ hasAuthority store.db = false := by
    refine run.persists (fun store => (∃ behind, Tracks lib handle behind store) ∧
      hasAuthority store.db = false) (fun request => request.call.isPlain = true) ?_ plain
      ⟨⟨0, opened_tracks⟩, rfl⟩
    rintro before request after ⟨⟨behind, tracks⟩, inactive⟩ plain step
    obtain ⟨behind', tracks', _⟩ := tracks.step step
    exact ⟨⟨behind', tracks'⟩, inactive_step tracks inactive plain step⟩
  exact both.2

end Runs

/-- What one committed call did: nothing to the events and the head, or one row at the end
with its caller's timestamp, and the head at it; earlier rows keep all but a nulled
payload. -/
def CommitsInOrder {dec : Decimals} (request : Request dec) (before after : Db) : Prop :=
  after.events = before.events ∧ after.chainHead = before.chainHead ∨
    ∃ (kept : List Row) (row : Row),
      after.events = kept ++ [row] ∧ List.Forall₂ Kept before.events kept ∧
      row.seq = before.events.length + 1 ∧ request.call.tsMs = some row.tsMs ∧
      after.chainHead = some (row.seq, row.hash)

section Commits

variable {lib : Libraries} {dec : Decimals} {handle : Handle} {store : Store} {behind : Nat}

/-- A change commits its event at the next position, under the time it was given. -/
theorem Change.commitsInOrder {request : Request dec} {event : NewEvent} {idemKey : Option String}
    {appended : Appended} {genesis : String} {db changed : Db}
    (change : Change lib genesis db event idemKey appended changed)
    (stamped : request.call.tsMs = some event.tsMs) : CommitsInOrder request db changed := by
  obtain ⟨base, grown, gaps, prepared, grows, rfl⟩ := change.made
  obtain ⟨canonical, _, _, _, rfl⟩ := grows.row
  have kept : List.Forall₂ Kept db.events base.events ∧ base.events.length = db.events.length := by
    cases prepared with
    | plain => exact ⟨List.forall₂_same.mpr fun row _ => .refl row, rfl⟩
    | tombstone =>
        rw [events_tombstone, List.forall₂_map_right_iff]
        exact ⟨List.forall₂_same.mpr fun row _ => Kept.tombstoned _ _ _ row, List.length_map _⟩
  refine .inr ⟨base.events, _, rfl, kept.1, ?_, stamped, rfl⟩
  change ((base.events.length + 1 : Nat) : Int) = _
  rw [kept.2]
  rfl

/-- Every plain request commits in order, or commits nothing. -/
theorem step_commitsInOrder (tracks : Tracks lib handle behind store) {request : Request dec}
    (plain : request.call.isPlain = true) {after : Store}
    (step : Step lib dec handle store request after) :
    CommitsInOrder request store.db after.db := by
  obtain ⟨reply, moved⟩ := tracks.moved step
  cases moved with
  | unchanged => exact .inl ⟨rfl, rfl⟩
  | published written change => exact change.commitsInOrder (written.stamped plain)
  | unpublished written change => exact change.commitsInOrder (written.stamped plain)

/-- A call that fails although its publication would go through changed nothing. -/
theorem perform_failed (tracks : Tracks lib handle behind store) {request : Request dec}
    (reachable : handle.anchored = true → request.publish = true)
    (reply : (perform lib dec handle request store).1 = .failed) :
    (perform lib dec handle request store).2 = store := by
  have moved := perform_moved tracks request
  rw [reply] at moved
  generalize (perform lib dec handle request store).2 = after at moved
  cases moved with
  | unchanged => rfl
  | published _ _ _ well => exact absurd rfl well
  | unpublished _ _ anchored failed =>
      have publish := reachable anchored
      rw [failed] at publish
      cases publish

end Commits

/-- **Honest runs verify.** After any sequence of the ledger's own operations on a new file,
with every publication but perhaps the last gone through, the chain verifies, positions are
contiguous and the head names the last row; every further operation adds at most one row,
at the end and with its caller's timestamp, and changes nothing when it reports a
duplicate or fails for another reason than its publication. -/
theorem honest_runs_verify (lib : Libraries) (dec : Decimals) (handle : Handle)
    {requests : List (Request dec)} {store : Store}
    (run : Run (Step lib dec handle) (opened lib handle) requests store)
    (plain : ∀ request ∈ requests, request.call.isPlain = true)
    (published : ∀ request ∈ requests.dropLast, request.publish = true) :
    (∃ report, verify lib handle store = .ok report ∧ report.isIntact = true) ∧
    (∀ (index : Nat) (row : Row), store.db.events[index]? = some row → row.seq = index + 1) ∧
    head store.db = .ok (store.db.events.length,
      tipDigest Row.hash (handle.genesis lib) store.db.events) ∧
    ∀ request : Request dec, request.call.isPlain = true →
      CommitsInOrder request store.db (perform lib dec handle request store).2.db ∧
      ((perform lib dec handle request store).1 = .duplicate →
        (perform lib dec handle request store).2 = store) ∧
      ((perform lib dec handle request store).1 = .failed →
        (handle.anchored = true → request.publish = true) →
          (perform lib dec handle request store).2 = store) := by
  obtain ⟨behind, near, tracks⟩ := published_but_last run published
  have inactive := inactive_run run plain
  refine ⟨tracks.verify_iff.mpr fun _ => near, tracks.consistent.rows.positions,
    tracks.consistent.headed.head_eq, fun request isPlain => ⟨?_, ?_, ?_⟩⟩
  · exact step_commitsInOrder tracks isPlain rfl
  · exact fun reply => perform_duplicate tracks inactive reply
  · exact fun reply reachable => perform_failed tracks reachable reply

namespace Honest

/-- The compact reader, the checksum and exact decimals in place of the real libraries. -/
def lib : Libraries := .reference checksum

def handle : Handle := ⟨.testnet, true⟩

def alert (tsMs : Int64) : NewEvent where
  kind := .alert
  tsMs := tsMs
  agentId := none
  payload := .ofFields [("text", .string "drift")]
  snapshot := none

def requests : List (Request Decimals.reference) :=
  [⟨.append (alert 5), true⟩, ⟨.append (alert 3), true⟩, ⟨.redact 1 "typo" 9, false⟩]

def after (requests : List (Request Decimals.reference)) : Store :=
  requests.foldl (fun store request => (perform lib Decimals.reference handle request store).2)
    (Ledger.opened lib handle)

/-- The sample after two of its requests. -/
theorem two_run : Run (Step lib Decimals.reference handle) (Ledger.opened lib handle)
    (requests.take 2) (after (requests.take 2)) :=
  .snoc (.single rfl) rfl

/-- The sample after all of its requests. -/
theorem three_run :
    Run (Step lib Decimals.reference handle) (Ledger.opened lib handle) requests (after requests) :=
  .snoc two_run rfl

/-- Two rows with falling timestamps and a redaction whose publication failed verify. -/
theorem unpublished_redaction_verifies :
    ∃ report, verify lib handle (after requests) = .ok report ∧ report.isIntact = true :=
  (honest_runs_verify lib Decimals.reference handle three_run (by decide) (by decide)).1

/-- Timestamps are the callers' and need not follow the commits, and a publication that fails
is reported after its row is committed. -/
theorem timestamps_and_publications :
    (¬ ∀ (requests : List (Request Decimals.reference)) (store : Store),
      Run (Step lib Decimals.reference handle) (Ledger.opened lib handle) requests store →
      (∀ request ∈ requests, request.call.isPlain = true) →
        store.db.events.Pairwise fun earlier later => earlier.tsMs.toInt ≤ later.tsMs.toInt) ∧
    ¬ ∀ (requests : List (Request Decimals.reference)) (store : Store),
      Run (Step lib Decimals.reference handle) (Ledger.opened lib handle) requests store →
      (∀ request ∈ requests, request.call.isPlain = true) →
      ∀ request : Request Decimals.reference, request.call.isPlain = true →
        (perform lib Decimals.reference handle request store).1 = .failed →
          (perform lib Decimals.reference handle request store).2.db = store.db := by
  constructor
  · intro ordered
    have rising := ordered _ _ two_run (by decide)
    have falling : ¬ (after (requests.take 2)).db.events.Pairwise
        fun earlier later => earlier.tsMs.toInt ≤ later.tsMs.toInt := by decide +kernel
    exact falling rising
  · intro unchanged
    have failed : (perform lib Decimals.reference handle ⟨.append (alert 5), false⟩
        (Ledger.opened lib handle)).1 = .failed := by decide +kernel
    have grown : (perform lib Decimals.reference handle ⟨.append (alert 5), false⟩
        (Ledger.opened lib handle)).2.db.events.length = 1 := by decide +kernel
    rw [unchanged [] (Ledger.opened lib handle) .nil (fun _ member => nomatch member)
      ⟨.append (alert 5), false⟩ rfl failed] at grown
    cases grown

end Honest

end Oppen.Ledger
