import Oppen.Ledger.FillAnchor
import Oppen.Reconcile.GapWalk
import Oppen.Reconcile.Venue

/-! # Recovery

A ledger, a venue and the walks that close gaps, in any order of their steps: live fills,
disconnects, reconnects, restarts, pages, recorded fills and marks, of any number of walks at
once, each of which may be given up at any step.
-/

namespace Oppen.Reconcile

open Foundation Oppen.Ledger

/-! ## Walks -/

/-- How far the work on a gap got, with what it holds; `State` is the venue's. -/
inductive Phase (dec : Quotients) (State : Type) where
  | paging (window : Window) (budget : Nat) (taken : Taken dec)
  | fetched (window : Window) (fills : List (Fill dec)) (last : State)
  | recording (attributions : Attributions dec) (recoveredFrom : Option RecoveredWindow)
      (todo : List (Fill dec)) (last : State)
  /-- What is left are the orders and the mark; a gap without fills has no last page. -/
  | recorded (last : Option State)

/-- The work on one gap. -/
structure Walk (dec : Quotients) (State : Type) where
  gap : Gap
  user : Address
  phase : Phase dec State

/-- The scope a walk in this phase is for. -/
def Phase.scope {dec : Quotients} {State : Type} (user : Address) : Phase dec State → GapScope
  | .recorded none => .orderUpdates user
  | _ => .userFills user

/-- The whole: the file, the venue, the gaps that were read from the work list, the walks under
way, and the walks that went through, each with the venue as of its last page. -/
structure Recovery {dec : Quotients} {VenueError : Type}
    (source : ReconcileSource dec VenueError) where
  store : Store
  venue : source.State
  listed : List Gap
  walks : List (Walk dec source.State)
  closed : List (Gap × source.State)

/-- A file just opened. -/
def Recovery.opened {dec : Quotients} {VenueError : Type} {source : ReconcileSource dec VenueError}
    (reconciler : Reconciler) (venue : source.State) : Recovery source :=
  ⟨Ledger.opened reconciler.lib reconciler.handle, venue, [], [], []⟩

inductive RecoveryAct (dec : Quotients) where
  | call (request : Request dec.toDecimals)
  | live (fill : NewFill)
  | down (scope : String)
  | venue
  | list
  | walk (gapId : Int)
  | mark (gapId : Int)

section Steps

variable {dec : Quotients} {VenueError : Type} {source : ReconcileSource dec VenueError}
  (reconciler : Reconciler)

/-- One step of the work on a gap: what is left of it, with the file and the venue after it.
Whatever stops it, the work is given up. -/
inductive WalkStep (gap : Gap) (user : Address) (store : Store) (now : source.State) :
    Phase dec source.State → Store → source.State → Option (Phase dec source.State) → Prop
  | shortPage {window : Window} {budget : Nat} {taken : Taken dec} {page : List (Fill dec)}
      {after : source.State}
      (answer : source.userFillsByTime user taken.newest none now = (.ok page, after))
      (short : page.length < reconciler.config.pageLimit) :
      WalkStep gap user store now (.paging window (budget + 1) taken) store after
        (some (.fetched window (page.foldl Taken.take taken).out after))
  | fullPage {window : Window} {budget : Nat} {taken : Taken dec} {page : List (Fill dec)}
      {after : source.State}
      (answer : source.userFillsByTime user taken.newest none now = (.ok page, after))
      (past : taken.newest < (page.foldl Taken.take taken).newest) :
      WalkStep gap user store now (.paging window (budget + 1) taken) store after
        (some (.paging window budget (page.foldl Taken.take taken)))
  | join {window : Window} {fills : List (Fill dec)} {last : source.State}
      {attributions : Attributions dec}
      (read : (if fills.any fun fill => fill.cloid.isSome
        then Attributions.read reconciler.lib dec store.db else .ok ⟨[], []⟩) = .ok attributions) :
      WalkStep gap user store now (.fetched window fills last) store now
        (some (.recording attributions (window.recoveredFrom gap.gapId) (sortFills fills) last))
  | record {attributions : Attributions dec} {recoveredFrom : Option RecoveredWindow}
      {fill : Fill dec} {todo : List (Fill dec)} {last : source.State} {publish : Bool}
      {appended : Option Appended} {after : Store} (inRange : fill.time < 2 ^ 63)
      (run : recordFill reconciler.lib dec.toDecimals reconciler.handle publish
        (recoveredFill user fill (attributions.of fill.cloid) recoveredFrom) store =
          (.ok appended, after)) :
      WalkStep gap user store now (.recording attributions recoveredFrom (fill :: todo) last)
        after now (some (.recording attributions recoveredFrom todo last))
  | recordFailed {attributions : Attributions dec} {recoveredFrom : Option RecoveredWindow}
      {fill : Fill dec} {todo : List (Fill dec)} {last : source.State} {publish : Bool}
      {error : LedgerError} {after : Store} (inRange : fill.time < 2 ^ 63)
      (run : recordFill reconciler.lib dec.toDecimals reconciler.handle publish
        (recoveredFill user fill (attributions.of fill.cloid) recoveredFrom) store =
          (.error error, after)) :
      WalkStep gap user store now (.recording attributions recoveredFrom (fill :: todo) last)
        after now none
  | recorded {attributions : Attributions dec} {recoveredFrom : Option RecoveredWindow}
      {last : source.State} :
      WalkStep gap user store now (.recording attributions recoveredFrom [] last) store now
        (some (.recorded (some last)))
  | drop {phase : Phase dec source.State} : WalkStep gap user store now phase store now none

/-- Every fill stamped more than the margin before one that is recorded is recorded. -/
def UpToMargin (db : Db) (account : Address) (fills : List (Fill dec)) : Prop :=
  ∀ row ∈ db.events, ∀ tid, IsFillOf account.display tid row → ∀ fill ∈ fills,
    ((fill.time + venueClockMarginMs : Nat) : Int) < row.tsMs.toInt →
      Recorded db account.display fill.tid

/-- The fill is one of these, under its stamp. -/
def Genuine (fills : List (Fill dec)) (new : NewFill) : Prop :=
  ∃ fill ∈ fills, fill.tid = new.tid ∧ fill.time < 2 ^ 63 ∧ new.tsMs = .ofNat fill.time

/-- The calls other than a fill and a disconnect. -/
def Quiet (request : Request dec.toDecimals) : Prop :=
  (∀ fill, request.call ≠ .recordFill fill) ∧ request.call.opens = none

variable (account : Address) (venue : TruthfulVenue source account reconciler.config.pageLimit)

/-- One step. A live fill of the account is one of the venue's, with its stamp. -/
inductive RecoveryStep (state : Recovery source) : RecoveryAct dec → Recovery source → Prop
  | call {request : Request dec.toDecimals} {store : Store} (quiet : Quiet request)
      (step : Step reconciler.lib dec.toDecimals reconciler.handle state.store request store) :
      RecoveryStep state (.call request) { state with store }
  | live {owner : Address} {new : NewFill} {publish : Bool} {result : Result (Option Appended)}
      {store : Store} (owned : new.account = owner.display)
      (genuine : owner = account → Genuine (venue.fills state.venue) new)
      (run : recordFill reconciler.lib dec.toDecimals reconciler.handle publish new state.store =
        (result, store)) :
      RecoveryStep state (.live new) { state with store }
  | down {scope : String} {publish : Bool} {tsMs : Int64} {note : Option String}
      {result : Result Gap} {store : Store}
      (served : @GapScope.parse VenueError scope = .ok (.userFills account) →
        UpToMargin state.store.db account (venue.fills state.venue))
      (run : openGap reconciler.lib reconciler.handle publish scope tsMs note state.store =
        (result, store)) :
      RecoveryStep state (.down scope) { state with store }
  | grow {after : source.State} (later : Later (venue.fills state.venue) (venue.fills after)) :
      RecoveryStep state .venue { state with venue := after }
  | ask {after : source.State} (asks : Asks source state.venue after) :
      RecoveryStep state .venue { state with venue := after }
  | list {gaps : List Gap} (read : unreconciledGaps state.store.db = .ok gaps) :
      RecoveryStep state .list { state with listed := state.listed ++ gaps }
  | begin {gap : Gap} {user : Address} {closedTsMs : Int64} {anchor : Option Nat} {window : Window}
      (inside : gap ∈ state.listed)
      (parsed : @GapScope.parse VenueError gap.scope = .ok (.userFills user))
      (closed : gap.closedTsMs = some closedTsMs)
      (read : newestFillTsMs state.store.db user.display gap.openSeq = .ok anchor)
      (bounded : @outageWindow VenueError gap closedTsMs anchor = .ok window) :
      RecoveryStep state (.walk gap.gapId)
        { state with
          walks := state.walks ++ [⟨gap, user,
            .paging window reconciler.config.maxPages ⟨window.startMs, [], []⟩⟩] }
  | beginOrders {gap : Gap} {user : Address} {closedTsMs : Int64} (inside : gap ∈ state.listed)
      (parsed : @GapScope.parse VenueError gap.scope = .ok (.orderUpdates user))
      (closed : gap.closedTsMs = some closedTsMs) :
      RecoveryStep state (.walk gap.gapId)
        { state with walks := state.walks ++ [⟨gap, user, .recorded none⟩] }
  | walk {before rest : List (Walk dec source.State)} {gap : Gap} {user : Address}
      {phase : Phase dec source.State} {left : Option (Phase dec source.State)} {store : Store}
      {after : source.State} (here : state.walks = before ++ ⟨gap, user, phase⟩ :: rest)
      (step : WalkStep reconciler gap user state.store state.venue phase store after left) :
      RecoveryStep state (.walk gap.gapId)
        { state with
          store
          venue := after
          walks := before ++ left.toList.map (fun phase => ⟨gap, user, phase⟩) ++ rest }
  | mark {before rest : List (Walk dec source.State)} {gap : Gap} {user : Address}
      {last : Option source.State} {tsMs : Int64} {store : Store}
      (here : state.walks = before ++ ⟨gap, user, .recorded last⟩ :: rest)
      (run : markGapReconciled gap.gapId tsMs state.store = (.ok (), store)) :
      RecoveryStep state (.mark gap.gapId)
        { state with
          store
          walks := before ++ rest
          closed := state.closed ++ last.toList.map fun page => (gap, page) }

end Steps

/-! ## The file and the venue -/

section File

variable {dec : Quotients} {VenueError : Type} {source : ReconcileSource dec VenueError}
  (reconciler : Reconciler) (account : Address)
  (venue : TruthfulVenue source account reconciler.config.pageLimit)

/-- What the file has to say about the venue is true. -/
structure Truthful (store : Store) (now : source.State) : Prop where
  upheld : Upheld reconciler.lib reconciler.handle store
  owned : ∀ row ∈ store.db.events, row.kind = EventKind.fill.asStr →
    ∃ (owner : Address) (tid : UInt64), IsFillOf owner.display tid row
  stamped : ∀ row ∈ store.db.events, ∀ tid, IsFillOf account.display tid row →
    ∃ fill ∈ venue.fills now, fill.tid = tid ∧ fill.time < 2 ^ 63 ∧ row.tsMs = .ofNat fill.time
  ids : (store.db.feedGaps.map GapRow.gapId).Nodup
  placed : ∀ row ∈ store.db.feedGaps, row.openSeq ≤ ((store.db.events.length + 1 : Nat) : Int)
  /-- What is stamped more than the margin before the newest fill at a gap is recorded. -/
  settled : ∀ row ∈ store.db.feedGaps,
    @GapScope.parse VenueError row.scope = .ok (.userFills account) →
    ∀ openSeq : Nat, row.openSeq = openSeq → ∀ newest,
      newestFillTsMs store.db account.display openSeq = .ok (some newest) →
      ∀ fill ∈ venue.fills now, fill.time + venueClockMarginMs < newest →
        Recorded store.db account.display fill.tid

variable {reconciler account venue} {store after : Store} {now next : source.State}

/-- A row the anchor of the account is read from is a fill of the account. -/
theorem Truthful.isFill (truthful : Truthful reconciler account venue store now) {row : Row}
    (member : row ∈ store.db.events) {beforeSeq : Nat}
    (scanned : scannedBefore account.display beforeSeq row = true) :
    (∃ tid, IsFillOf account.display tid row) ∧ row.seq < (beforeSeq : Int) := by
  obtain ⟨inside, before⟩ := (Bool.and_eq_true _ _).mp scanned
  refine ⟨?_, of_decide_eq_true before⟩
  obtain ⟨key, keyed, within⟩ := (Option.any_eq_true _ _).mp inside
  have within := of_decide_eq_true within
  have kind := truthful.upheld.keyed row member key keyed (isFillKey_of_inRange within)
  obtain ⟨owner, tid, isFill⟩ := truthful.owned row member kind
  have same : key = fillIdemKey owner.display tid := Option.some.inj (keyed.symm.trans isFill.2)
  rw [same, inRange_fillIdemKey_iff] at within
  rcases within with owned | extension
  · exact ⟨tid, owned ▸ isFill⟩
  · exact absurd extension (not_extendsByColon_display account owner)

/-- The anchor is the stamp of a fill recorded before the position. -/
theorem Truthful.attained (truthful : Truthful reconciler account venue store now)
    {beforeSeq newest : Nat}
    (found : newestFillTsMs store.db account.display beforeSeq = .ok (some newest)) :
    ∃ row ∈ store.db.events, (∃ tid, IsFillOf account.display tid row) ∧
      row.tsMs.toInt = (newest : Int) := by
  obtain ⟨row, member, scanned, stamp⟩ := newestFillTsMs_attained found
  exact ⟨row, member, (truthful.isFill member scanned).1, stamp⟩

/-- A row of a fill has the venue's time of that fill. -/
theorem Truthful.stamp (truthful : Truthful reconciler account venue store now) {row : Row}
    (member : row ∈ store.db.events) {tid : UInt64} (isFill : IsFillOf account.display tid row) :
    ∃ fill ∈ venue.fills now, row.tsMs.toInt = (fill.time : Int) := by
  obtain ⟨fill, inside, _, inRange, stamp⟩ := truthful.stamped row member tid isFill
  exact ⟨fill, inside, by rw [stamp, Int64.toInt_ofNat_of_lt inRange]⟩

/-- The venue may add fills. -/
theorem Truthful.later (truthful : Truthful reconciler account venue store now)
    (later : Later (venue.fills now) (venue.fills next)) :
    Truthful reconciler account venue store next where
  upheld := truthful.upheld
  owned := truthful.owned
  stamped row member tid isFill := by
    obtain ⟨fill, inside, facts⟩ := truthful.stamped row member tid isFill
    exact ⟨fill, later.keeps inside, facts⟩
  ids := truthful.ids
  placed := truthful.placed
  settled row member scope openSeq same newest found fill inside early := by
    rcases later.added fill inside with older | above
    · exact truthful.settled row member scope openSeq same newest found fill older early
    · -- a fill added later is not older than the one that is the anchor
      obtain ⟨held, here, ⟨tid, isFill⟩, stamp⟩ := truthful.attained found
      obtain ⟨anchor, there, stamp'⟩ := truthful.stamp here isFill
      have := above anchor there
      omega

/-- A step of the file keeps it true, if it records what the venue has and opens a gap only
where the feed is up to the margin. -/
theorem Truthful.step (truthful : Truthful reconciler account venue store now)
    {act : LedgerAct dec.toDecimals}
    (step : LedgerStep reconciler.lib dec.toDecimals reconciler.handle store act after)
    (genuine : ∀ fill publish, act = .call ⟨.recordFill fill, publish⟩ → ∃ owner : Address,
      fill.account = owner.display ∧ (owner = account → Genuine (venue.fills now) fill))
    (served : ∀ scope ∈ act.opens, @GapScope.parse VenueError scope = .ok (.userFills account) →
      UpToMargin store.db account (venue.fills now)) :
    Truthful reconciler account venue after now := by
  obtain ⟨upheld, evolves⟩ := truthful.upheld.step step
  have gaps := step.gaps truthful.upheld.consistent
  have longer := evolves.length_le
  refine ⟨upheld, fun row member kind => ?_, fun row member tid isFill => ?_,
    gaps.ids truthful.ids, fun row member => ?_,
      fun row member scope openSeq same newest found => ?_⟩
  · rcases truthful.upheld.fill_row step member kind with ⟨older, inside, kept⟩ |
      ⟨fill, publish, call, isFill, _⟩
    · obtain ⟨owner, tid, isFill⟩ := truthful.owned older inside (kept.kind.symm.trans kind)
      exact ⟨owner, tid, isFill.kept kept⟩
    · obtain ⟨owner, owned, _⟩ := genuine fill publish call
      exact ⟨owner, fill.tid, owned ▸ isFill⟩
  · rcases truthful.upheld.fill_row step member isFill.1 with ⟨older, inside, kept⟩ |
      ⟨fill, publish, call, isFill', stamp⟩
    · obtain ⟨held, there, tid, inRange, stamp⟩ :=
        truthful.stamped older inside tid (isFill.of_kept kept)
      exact ⟨held, there, tid, inRange, kept.tsMs.trans stamp⟩
    · obtain ⟨owner, owned, genuine⟩ := genuine fill publish call
      obtain ⟨same, tids⟩ := fillIdemKey_injective (Option.some.inj (isFill.2.symm.trans isFill'.2))
      obtain ⟨held, there, tid, inRange, stamp'⟩ :=
        genuine (Address.display_injective (owned.symm.trans same.symm))
      exact ⟨held, there, tid.trans tids.symm, inRange, stamp.trans stamp'⟩
  · rcases gaps.row member with ⟨older, inside, kept⟩ | ⟨_, _, opened⟩
    · have := truthful.placed older inside
      have := kept.openSeq
      omega
    · have := opened.openSeq
      omega
  · intro fill inside early
    rcases gaps.row member with ⟨older, here, kept⟩ | ⟨scope', opens, opened⟩
    · have placed := truthful.placed older here
      have position := kept.openSeq
      rw [newestFillTsMs_evolves upheld.consistent.rows evolves _ (by omega)] at found
      exact (truthful.settled older here (kept.scope ▸ scope) openSeq (position.symm.trans same)
        newest found fill inside early).evolves evolves
    · have position := opened.openSeq
      rw [newestFillTsMs_evolves upheld.consistent.rows evolves _ (by omega)] at found
      obtain ⟨row', there, ⟨tid, isFill⟩, stamp⟩ := truthful.attained found
      have upTo := served scope' opens (opened.scope ▸ scope)
      exact (upTo row' there tid isFill fill inside (by omega)).evolves evolves

/-- A file just opened says nothing. -/
theorem Truthful.opened (now : source.State) : Truthful reconciler account venue
    (Ledger.opened reconciler.lib reconciler.handle) now where
  upheld := .opened
  owned _ member := absurd member List.not_mem_nil
  stamped _ member := absurd member List.not_mem_nil
  ids := List.nodup_nil
  placed _ member := absurd member List.not_mem_nil
  settled _ member := absurd member List.not_mem_nil

/-- From one state of the file and the venue to a later one. -/
structure Advances (store : Store) (now : source.State) (after : Store) (next : source.State) :
    Prop where
  rows : SoundRows reconciler.lib (reconciler.handle.genesis reconciler.lib) after.db.events
  evolves : Evolves store.db after.db
  later : Later (venue.fills now) (venue.fills next)
  gaps : ∀ row ∈ store.db.feedGaps, ∃ held ∈ after.db.feedGaps, GapRow.Kept row held

/-- The gap rows that are reconciled were so before. -/
def MarksNone (store after : Store) : Prop :=
  ∀ row ∈ after.db.feedGaps, row.reconciledTsMs ≠ none →
    ∃ older ∈ store.db.feedGaps, GapRow.Kept older row ∧ older.reconciledTsMs ≠ none

theorem MarksNone.refl (store : Store) : MarksNone store store :=
  fun row member reconciled => ⟨row, member, .refl row, reconciled⟩

/-- The venue moves on. -/
theorem Truthful.venue_advances (truthful : Truthful reconciler account venue store now)
    (later : Later (venue.fills now) (venue.fills next)) :
    @Advances _ _ _ reconciler account venue store now store next where
  rows := truthful.upheld.consistent.rows
  evolves := .refl _
  later := later
  gaps row member := ⟨row, member, .refl row⟩

/-- The file moves on. -/
theorem Truthful.step_advances (truthful : Truthful reconciler account venue store now)
    {act : LedgerAct dec.toDecimals}
    (step : LedgerStep reconciler.lib dec.toDecimals reconciler.handle store act after) :
    @Advances _ _ _ reconciler account venue store now after now where
  rows := (truthful.upheld.step step).1.consistent.rows
  evolves := (truthful.upheld.step step).2
  later := .refl _
  gaps _ member := (step.gaps truthful.upheld.consistent).kept member

/-- No request of the ledger marks a gap. -/
theorem Truthful.marksNone (truthful : Truthful reconciler account venue store now)
    {request : Request dec.toDecimals}
    (step : Step reconciler.lib dec.toDecimals reconciler.handle store request after) :
    MarksNone store after := by
  intro row member reconciled
  rcases (gaps_of_step truthful.upheld.consistent step).row member with
    ⟨older, inside, kept⟩ | ⟨_, _, opened⟩
  · exact ⟨older, inside, kept.toKept, kept.unmarked ▸ reconciled⟩
  · exact absurd opened.unreconciled reconciled

end File

/-! ## The walks -/

section Walks

variable {dec : Quotients} {VenueError : Type} {source : ReconcileSource dec VenueError}
  (reconciler : Reconciler) (account : Address)
  (venue : TruthfulVenue source account reconciler.config.pageLimit)

/-- The gap has a row. -/
def Named (db : Db) (gap : Gap) : Prop :=
  ∃ row ∈ db.feedGaps, row.gapId = gap.gapId ∧ row.scope = gap.scope ∧
    row.openSeq = (gap.openSeq : Int)

/-- The fill is recorded, or stamped more than the margin before the anchor if there is one. -/
def Covered (db : Db) (anchor : Option Nat) (fill : Fill dec) : Prop :=
  Recorded db account.display fill.tid ∨ ∀ newest ∈ anchor, fill.time + venueClockMarginMs < newest

/-- What a walk of the account's fills has, by its phase. -/
def Phase.Sound (db : Db) (now : source.State) (anchor : Option Nat) :
    Phase dec source.State → Prop
  | .paging window _ taken =>
      (∀ newest ∈ anchor, window.startMs ≤ newest - venueClockMarginMs) ∧
        venue.Paged window.startMs taken now
  | .fetched window fills last =>
      (∀ newest ∈ anchor, window.startMs ≤ newest - venueClockMarginMs) ∧
        Complete (venue.fills last) window.startMs fills ∧ venue.fills last ⊆ venue.fills now
  | .recording _ _ todo last =>
      todo ⊆ venue.fills last ∧ venue.fills last ⊆ venue.fills now ∧
        ∀ fill ∈ venue.fills last,
          Covered account db anchor fill ∨ ∃ held ∈ todo, held.tid = fill.tid
  | .recorded last => ∀ page ∈ last, venue.fills page ⊆ venue.fills now ∧
      ∀ fill ∈ venue.fills page, Covered account db anchor fill

structure Walk.Sound (store : Store) (now : source.State) (walk : Walk dec source.State) :
    Prop where
  named : Named store.db walk.gap
  parsed : @GapScope.parse VenueError walk.gap.scope = .ok (walk.phase.scope walk.user)
  phase : walk.phase.scope walk.user = .userFills account → ∃ anchor,
    newestFillTsMs store.db account.display walk.gap.openSeq = .ok anchor ∧
      walk.phase.Sound reconciler account venue store.db now anchor

variable {reconciler account venue} {store after : Store} {now next : source.State}

/-- A gap that is in the table stays in it. -/
theorem Named.advances {gap : Gap} (named : Named store.db gap)
    (advances : @Advances _ _ _ reconciler account venue store now after next) :
    Named after.db gap := by
  obtain ⟨row, member, id, scope, position⟩ := named
  obtain ⟨held, inside, kept⟩ := advances.gaps row member
  exact ⟨held, inside, kept.gapId.trans id, kept.scope.trans scope, kept.openSeq.trans position⟩

/-- A fill that is covered stays so in a ledger that has grown. -/
theorem Covered.evolves {anchor : Option Nat} {fill : Fill dec} {db grown : Db}
    (covered : Covered account db anchor fill) (evolves : Evolves db grown) :
    Covered account grown anchor fill :=
  covered.imp_left fun recorded => recorded.evolves evolves

/-- A phase of a walk stays sound while the ledger and the venue grow. -/
theorem Phase.Sound.advances {phase : Phase dec source.State} {anchor : Option Nat}
    (sound : phase.Sound reconciler account venue store.db now anchor)
    (advances : @Advances _ _ _ reconciler account venue store now after next) :
    phase.Sound reconciler account venue after.db next anchor := by
  have keeps := advances.later.keeps
  cases phase with
  | paging window budget taken =>
      obtain ⟨starts, paged⟩ := sound
      exact ⟨starts, paged.later advances.later⟩
  | fetched window fills last =>
      obtain ⟨starts, complete, within⟩ := sound
      exact ⟨starts, complete, List.Subset.trans within keeps⟩
  | recording attributions recoveredFrom todo last =>
      obtain ⟨genuine, within, covers⟩ := sound
      refine ⟨genuine, List.Subset.trans within keeps, fun fill member => ?_⟩
      exact (covers fill member).imp_left fun covered => covered.evolves advances.evolves
  | recorded last =>
      intro page named
      obtain ⟨within, covers⟩ := sound page named
      exact ⟨List.Subset.trans within keeps,
        fun fill member => (covers fill member).evolves advances.evolves⟩

/-- What a walk has stays good whatever happens meanwhile. -/
theorem Walk.Sound.advances {walk : Walk dec source.State}
    (sound : walk.Sound reconciler account venue store now)
    (truthful : Truthful reconciler account venue store now)
    (advances : @Advances _ _ _ reconciler account venue store now after next) :
    walk.Sound reconciler account venue after next where
  named := sound.named.advances advances
  parsed := sound.parsed
  phase scope := by
    obtain ⟨anchor, found, phase⟩ := sound.phase scope
    refine ⟨anchor, ?_, phase.advances advances⟩
    obtain ⟨row, member, _, _, position⟩ := sound.named
    have placed := truthful.placed row member
    rw [newestFillTsMs_evolves advances.rows advances.evolves _ (by omega)]
    exact found

/-- The walk of a gap starts before its anchor. -/
theorem outageWindow_start {gap : Gap} {closedTsMs : Int64} {anchor : Option Nat} {window : Window}
    (bounded : @outageWindow VenueError gap closedTsMs anchor = .ok window) :
    ∀ newest ∈ anchor, window.startMs ≤ newest - venueClockMarginMs := by
  rintro newest ⟨⟩
  obtain ⟨_, _, bounded⟩ := bind_eq_ok bounded
  obtain ⟨_, _, bounded⟩ := bind_eq_ok bounded
  obtain ⟨_, _, bounded⟩ := bind_eq_ok bounded
  by_cases credible : newest ≤ saturatingAdd gap.openedTsMs.toInt.toNat firstRunLookbackMs
  · rw [Option.filter_some, if_pos (decide_eq_true credible)] at bounded
    rw [← Except.ok.inj bounded]
  · -- the anchor is not believed: the walk starts a lookback before the host's disconnect
    rw [Option.filter_some, if_neg (by rwa [decide_eq_true_eq])] at bounded
    rw [← Except.ok.inj bounded]
    have bound := gap.openedTsMs.toInt_lt
    rw [saturatingAdd] at credible
    have lookback : firstRunLookbackMs = 2592000000 := rfl
    have margin : venueClockMarginMs = 300000 := rfl
    dsimp only
    omega

/-- A step that asks the venue or records a fill the walk holds. -/
theorem WalkStep.file {gap : Gap} {user : Address} {phase : Phase dec source.State}
    {left : Option (Phase dec source.State)}
    (step : WalkStep reconciler gap user store now phase after next left)
    (truthful : Truthful reconciler account venue store now)
    (sound : Walk.Sound reconciler account venue store now ⟨gap, user, phase⟩) :
    Truthful reconciler account venue after next ∧
      @Advances _ _ _ reconciler account venue store now after next ∧ MarksNone store after := by
  have asked {cursor : Nat} {page : List (Fill dec)} {after : source.State}
      (answer : source.userFillsByTime user cursor none now = (.ok page, after)) :
      Later (venue.fills now) (venue.fills after) := by
    have asks : Asks source now (source.userFillsByTime user cursor none now).2 := .fills _ _ _
    rw [answer] at asks
    exact venue.grows now after asks
  have recorded {attributions : Attributions dec} {recoveredFrom : Option RecoveredWindow}
      {fill : Fill dec} {todo : List (Fill dec)} {last : source.State} {publish : Bool}
      {result : Result (Option Appended)} {after : Store} (inRange : fill.time < 2 ^ 63)
      (sound : Walk.Sound reconciler account venue store now
        ⟨gap, user, .recording attributions recoveredFrom (fill :: todo) last⟩)
      (run : recordFill reconciler.lib dec.toDecimals reconciler.handle publish
        (recoveredFill user fill (attributions.of fill.cloid) recoveredFrom) store =
          (result, after)) :
      Truthful reconciler account venue after now ∧
        @Advances _ _ _ reconciler account venue store now after now ∧ MarksNone store after := by
    have step : LedgerStep reconciler.lib dec.toDecimals reconciler.handle store
        (.call ⟨.recordFill (recoveredFill user fill (attributions.of fill.cloid) recoveredFrom),
          publish⟩) after := congrArg Prod.snd run
    refine ⟨truthful.step step ?_ nofun, truthful.step_advances step, truthful.marksNone step⟩
    rintro new publish' ⟨⟩
    refine ⟨user, rfl, ?_⟩
    rintro rfl
    obtain ⟨_, _, genuine, within, _⟩ := sound.phase rfl
    exact ⟨fill, within (genuine List.mem_cons_self), rfl, inRange, rfl⟩
  cases step with
  | shortPage answer short =>
      exact ⟨truthful.later (asked answer), truthful.venue_advances (asked answer), .refl _⟩
  | fullPage answer past =>
      exact ⟨truthful.later (asked answer), truthful.venue_advances (asked answer), .refl _⟩
  | join | recorded | drop =>
      exact ⟨truthful, truthful.venue_advances (.refl _), .refl _⟩
  | record inRange run => exact recorded inRange sound run
  | recordFailed inRange run => exact recorded inRange sound run

/-- **A step of a walk leaves it sound.** -/
theorem WalkStep.sound {gap : Gap} {user : Address} {phase : Phase dec source.State}
    {left : Option (Phase dec source.State)}
    (step : WalkStep reconciler gap user store now phase after next left)
    (truthful : Truthful reconciler account venue store now)
    (sound : Walk.Sound reconciler account venue store now ⟨gap, user, phase⟩) :
    ∀ phase' ∈ left, Walk.Sound reconciler account venue after next ⟨gap, user, phase'⟩ := by
  have advances := (step.file truthful sound).2.1
  have kept := sound.advances truthful advances
  intro phase' continues
  cases step with
  | shortPage answer short =>
      cases continues
      refine ⟨kept.named, kept.parsed, fun scope => ?_⟩
      obtain rfl := GapScope.userFills.inj scope
      obtain ⟨_, _, before⟩ := sound.phase rfl
      obtain ⟨anchor, found, starts, _⟩ := kept.phase rfl
      exact ⟨anchor, found, starts, before.2.short answer short, List.Subset.refl _⟩
  | fullPage answer past =>
      cases continues
      refine ⟨kept.named, kept.parsed, fun scope => ?_⟩
      obtain rfl := GapScope.userFills.inj scope
      obtain ⟨_, _, before⟩ := sound.phase rfl
      obtain ⟨anchor, found, starts, _⟩ := kept.phase rfl
      exact ⟨anchor, found, starts, before.2.full answer past⟩
  | join read =>
      cases continues
      refine ⟨kept.named, kept.parsed, fun scope => ?_⟩
      obtain ⟨anchor, found, starts, complete, within⟩ := kept.phase scope
      refine ⟨anchor, found, fun fill member => ?_, within, fun fill member => ?_⟩
      · exact (complete.genuine fill (mem_sortFills.mp member)).1
      · rename_i window fills last attributions
        by_cases asked : window.startMs ≤ fill.time
        · obtain ⟨held, inside, same⟩ := complete.listed fill member asked
          exact .inr ⟨held, mem_sortFills.mpr inside, same⟩
        · -- the walk did not ask for it: it is older than the anchor by the margin
          refine .inl (.inr fun newest anchored => ?_)
          have := starts newest anchored
          omega
  | record inRange run =>
      cases continues
      refine ⟨kept.named, kept.parsed, fun scope => ?_⟩
      obtain rfl := GapScope.userFills.inj scope
      obtain ⟨anchor, found, genuine, within, covers⟩ := kept.phase rfl
      refine ⟨anchor, found, fun fill member => genuine (List.mem_cons_of_mem _ member), within,
        fun fill member => ?_⟩
      rcases covers fill member with covered | ⟨held, inside, same⟩
      · exact .inl covered
      · rcases List.mem_cons.mp inside with rfl | waiting
        · have recorded := truthful.upheld.recordFill run
          rw [recoveredFill, same] at recorded
          exact .inl (.inl recorded)
        · exact .inr ⟨held, waiting, same⟩
  | recordFailed => cases continues
  | recorded =>
      cases continues
      refine ⟨kept.named, kept.parsed, fun scope => ?_⟩
      obtain ⟨anchor, found, _, within, covers⟩ := kept.phase scope
      refine ⟨anchor, found, ?_⟩
      rintro page ⟨⟩
      refine ⟨within, fun fill member => ?_⟩
      rcases covers fill member with covered | ⟨_, none, _⟩
      · exact covered
      · cases none
  | drop => cases continues

end Walks

end Oppen.Reconcile
