import Oppen.Reconcile.Recovery

/-! # No fill is lost

Over every run of a recovery, a reconciled gap has every fill the venue held at the last page
of the walk that closed it. Working a gap as the reconciler does is such a run.
-/

namespace Oppen.Reconcile

open Foundation Oppen.Ledger

/-- The fill has one row, and no other row has its key. -/
def RecordedOnce (db : Db) (account : String) (tid : UInt64) : Prop :=
  ∃ row, IsFillOf account tid row ∧
    db.events.filter (fun held => held.idemKey = some (fillIdemKey account tid)) = [row]

/-- A recorded fill is recorded once. -/
theorem RecordedOnce.of_recorded {lib : Libraries} {handle : Handle} {store : Store}
    (upheld : Upheld lib handle store) {account : String} {tid : UInt64}
    (recorded : Recorded store.db account tid) : RecordedOnce store.db account tid := by
  obtain ⟨row, member, isFill⟩ := recorded
  obtain ⟨_, tracks⟩ := upheld.tracks
  refine ⟨row, isFill, ?_⟩
  have matching : row ∈ store.db.events.filter fun held =>
      held.idemKey = some (fillIdemKey account tid) :=
    List.mem_filter.mpr ⟨member, decide_eq_true isFill.2⟩
  have distinct := tracks.keys.sublist
    ((@List.filter_sublist _
      (fun held => held.idemKey = some (fillIdemKey account tid)) _).filterMap
      Row.idemKey)
  have keyed : ∀ held ∈ store.db.events.filter fun held =>
      held.idemKey = some (fillIdemKey account tid),
        held.idemKey = some (fillIdemKey account tid) :=
    fun held inside => of_decide_eq_true (List.mem_filter.mp inside).2
  revert matching distinct keyed
  generalize store.db.events.filter _ = rows
  intro inside distinct keyed
  match rows with
  | [] => cases inside
  | [only] => rw [List.mem_singleton.mp inside]
  | first :: second :: rest =>
      have firstKey := keyed first List.mem_cons_self
      have secondKey := keyed second (List.mem_cons_of_mem _ List.mem_cons_self)
      rw [List.filterMap_cons_some firstKey, List.filterMap_cons_some secondKey] at distinct
      exact absurd List.mem_cons_self (List.nodup_cons.mp distinct).1

section Runs

variable {dec : Quotients} {VenueError : Type} {source : ReconcileSource dec VenueError}
  (reconciler : Reconciler) (account : Address)
  (venue : TruthfulVenue source account reconciler.config.pageLimit)

/-- What a recovery keeps. Every gap is followed from the disconnect that opened it to the mark that
closes it. -/
structure Lossless (state : Recovery source) : Prop where
  file : Truthful reconciler account venue state.store state.venue
  listed : ∀ gap ∈ state.listed, Named state.store.db gap
  walks : ∀ walk ∈ state.walks, walk.Sound reconciler account venue state.store state.venue
  closed : ∀ entry ∈ state.closed, ∃ user, Walk.Sound reconciler account venue state.store
    state.venue ⟨entry.1, user, .recorded (some entry.2)⟩
  marked : ∀ row ∈ state.store.db.feedGaps, row.reconciledTsMs ≠ none →
    @GapScope.parse VenueError row.scope = .ok (.userFills account) →
    ∃ entry ∈ state.closed, entry.1.gapId = row.gapId

variable {reconciler account venue} {state next : Recovery source}

/-- The file and the venue move on under everything the recovery holds. -/
theorem Lossless.moved (lossless : Lossless reconciler account venue state) {store : Store}
    {now : source.State} (file : Truthful reconciler account venue store now)
    (advances : @Advances _ _ _ reconciler account venue state.store state.venue store now)
    (marks : MarksNone state.store store) :
    Lossless reconciler account venue { state with store, venue := now } where
  file := file
  listed gap member := (lossless.listed gap member).advances advances
  walks walk member := (lossless.walks walk member).advances lossless.file advances
  closed entry member := by
    obtain ⟨user, sound⟩ := lossless.closed entry member
    exact ⟨user, sound.advances lossless.file advances⟩
  marked row member reconciled scope := by
    obtain ⟨older, inside, kept, earlier⟩ := marks row member reconciled
    obtain ⟨entry, here, same⟩ := lossless.marked older inside earlier (kept.scope ▸ scope)
    exact ⟨entry, here, same.trans kept.gapId.symm⟩

/-- A call that records what the venue has keeps the recovery lossless. -/
theorem Lossless.call (lossless : Lossless reconciler account venue state) {store : Store}
    {request : Request dec.toDecimals}
    (step : Step reconciler.lib dec.toDecimals reconciler.handle state.store request store)
    (genuine : ∀ fill, request.call = .recordFill fill → ∃ owner : Address,
      fill.account = owner.display ∧ (owner = account → Genuine (venue.fills state.venue) fill))
    (served : ∀ scope ∈ request.call.opens,
      @GapScope.parse VenueError scope = .ok (.userFills account) →
        UpToMargin state.store.db account (venue.fills state.venue)) :
    Lossless reconciler account venue { state with store } := by
  have act : LedgerStep reconciler.lib dec.toDecimals reconciler.handle state.store
      (.call request) store := step
  refine lossless.moved (lossless.file.step act ?_ served) (lossless.file.step_advances act)
    (lossless.file.marksNone step)
  intro fill publish same
  cases same
  exact genuine fill rfl

/-- The gaps that are listed have rows. -/
theorem unreconciledGaps_named {db : Db} {gaps : List Gap} (read : unreconciledGaps db = .ok gaps) :
    ∀ gap ∈ gaps, Named db gap := by
  intro gap member
  obtain ⟨row, inside, here⟩ := forall₂_left_of_right (mapM_ok_iff.mp read) member
  obtain ⟨_, positive, here⟩ := bind_eq_ok here
  obtain ⟨_, _, here⟩ := bind_eq_ok here
  cases here
  refine ⟨row, List.mem_of_mem_filter inside, rfl, rfl, ?_⟩
  exact (Int.toNat_of_nonneg (Int.not_lt.mp (refuseIf_ok positive))).symm

/-- The mark of a walk that went through. -/
theorem Lossless.mark (lossless : Lossless reconciler account venue state)
    {before rest : List (Walk dec source.State)} {gap : Gap} {user : Address}
    {last : Option source.State} {tsMs : Int64} {store : Store}
    (here : state.walks = before ++ ⟨gap, user, .recorded last⟩ :: rest)
    (run : markGapReconciled gap.gapId tsMs state.store = (.ok (), store)) :
    Lossless reconciler account venue
      { state with
        store
        walks := before ++ rest
        closed := state.closed ++ last.toList.map fun page => (gap, page) } := by
  have step : LedgerStep reconciler.lib dec.toDecimals reconciler.handle state.store
      (.mark gap.gapId tsMs) store := congrArg Prod.snd run
  have advances :
      @Advances _ _ _ reconciler account venue state.store state.venue store state.venue :=
    lossless.file.step_advances step
  have inside : (⟨gap, user, .recorded last⟩ : Walk dec source.State) ∈ state.walks :=
    here ▸ List.mem_append_right _ List.mem_cons_self
  have sound := lossless.walks _ inside
  refine ⟨lossless.file.step step nofun nofun,
    fun gap member => (lossless.listed gap member).advances advances, fun walk member => ?_,
    fun entry member => ?_, fun row member reconciled scope => ?_⟩
  · refine (lossless.walks walk ?_).advances lossless.file advances
    rw [here]
    exact (List.mem_append.mp member).elim (List.mem_append_left _)
      fun later => List.mem_append_right _ (List.mem_cons_of_mem _ later)
  · rcases List.mem_append.mp member with older | new
    · obtain ⟨user, sound⟩ := lossless.closed entry older
      exact ⟨user, sound.advances lossless.file advances⟩
    · obtain ⟨page, named, rfl⟩ := List.mem_map.mp new
      obtain rfl := Option.mem_toList.mp named
      exact ⟨user, sound.advances lossless.file advances⟩
  · have grow : GapsGrow (GapRow.MarkedAs gap.gapId) none state.store.db store.db := by
      have grow := @markGapReconciled_grow state.store gap.gapId tsMs
      rwa [run] at grow
    rcases grow.row member with ⟨older, there, kept⟩ | ⟨_, none, _⟩
    · rcases kept.marked with same | target
      · obtain ⟨entry, closed, id⟩ := lossless.marked older there (same ▸ reconciled)
          (kept.scope ▸ scope)
        exact ⟨entry, List.mem_append_left _ closed, id.trans kept.gapId.symm⟩
      · -- the row is the one the walk was for, so the walk had a last page
        obtain ⟨named, member', id, scope', _⟩ := sound.named
        obtain rfl := List.inj_on_of_nodup_map lossless.file.ids member' there
          (id.trans target.symm)
        have parsed := sound.parsed
        rw [← scope', ← kept.scope, scope] at parsed
        cases last with
        | none => cases parsed
        | some page =>
            exact ⟨(gap, page), List.mem_append_right _ (List.mem_singleton_self _),
              target.symm.trans kept.gapId.symm⟩
    · cases none

/-- **Every step keeps the recovery lossless.** -/
theorem Lossless.step (lossless : Lossless reconciler account venue state) {act : RecoveryAct dec}
    (step : RecoveryStep reconciler account venue state act next) :
    Lossless reconciler account venue next := by
  have file := lossless.file
  cases step with
  | call quiet step =>
      refine lossless.call step (fun fill same => absurd same (quiet.1 fill)) ?_
      rw [quiet.2]
      exact nofun
  | @live owner new publish result store owned genuine run =>
      have step : Step reconciler.lib dec.toDecimals reconciler.handle state.store
          ⟨.recordFill new, publish⟩ store := congrArg Prod.snd run
      refine lossless.call step ?_ nofun
      rintro fill ⟨⟩
      exact ⟨owner, owned, genuine⟩
  | @down scope publish tsMs note result store served run =>
      have step : Step reconciler.lib dec.toDecimals reconciler.handle state.store
          ⟨.openGap scope tsMs note, publish⟩ store := congrArg Prod.snd run
      refine lossless.call step nofun ?_
      rintro other ⟨⟩
      exact served
  | grow later => exact lossless.moved (file.later later) (file.venue_advances later) (.refl _)
  | ask asks =>
      have later := venue.grows _ _ asks
      exact lossless.moved (file.later later) (file.venue_advances later) (.refl _)
  | list read =>
      refine ⟨file, fun gap member => ?_, lossless.walks, lossless.closed, lossless.marked⟩
      exact (List.mem_append.mp member).elim (lossless.listed gap) (unreconciledGaps_named read gap)
  | @begin gap user _ anchor window inside parsed closed read bounded =>
      refine ⟨file, lossless.listed, fun walk member => ?_, lossless.closed, lossless.marked⟩
      rcases List.mem_append.mp member with older | new
      · exact lossless.walks walk older
      · obtain rfl := List.mem_singleton.mp new
        refine ⟨lossless.listed gap inside, parsed, fun scope => ?_⟩
        obtain rfl := GapScope.userFills.inj scope
        exact ⟨anchor, read, outageWindow_start bounded, .start _ _⟩
  | @beginOrders gap user _ inside parsed closed =>
      refine ⟨file, lossless.listed, fun walk member => ?_, lossless.closed, lossless.marked⟩
      rcases List.mem_append.mp member with older | new
      · exact lossless.walks walk older
      · obtain rfl := List.mem_singleton.mp new
        exact ⟨lossless.listed gap inside, parsed, nofun⟩
  | @walk before rest gap user phase left store after here step =>
      have inside : (⟨gap, user, phase⟩ : Walk dec source.State) ∈ state.walks :=
        here ▸ List.mem_append_right _ List.mem_cons_self
      have sound := lossless.walks _ inside
      obtain ⟨truthful, advances, marks⟩ := step.file file sound
      have moved := lossless.moved truthful advances marks
      refine ⟨truthful, moved.listed, fun walk member => ?_, moved.closed, moved.marked⟩
      have others {walk : Walk dec source.State} (other : walk ∈ before ∨ walk ∈ rest) :
          walk.Sound reconciler account venue store after := by
        refine moved.walks walk ?_
        rw [here]
        exact other.elim (List.mem_append_left _)
          fun later => List.mem_append_right _ (List.mem_cons_of_mem _ later)
      rcases List.mem_append.mp member with front | later
      · rcases List.mem_append.mp front with other | new
        · exact others (.inl other)
        · obtain ⟨phase', continues, rfl⟩ := List.mem_map.mp new
          exact step.sound file sound phase' (Option.mem_toList.mp continues)
      · exact others (.inr later)
  | mark here run => exact lossless.mark here run

/-- Nothing is lost at the start, where no gap is. -/
theorem Lossless.opened (start : source.State) :
    Lossless reconciler account venue (.opened reconciler start) where
  file := .opened start
  listed _ member := absurd member List.not_mem_nil
  walks _ member := absurd member List.not_mem_nil
  closed _ member := absurd member List.not_mem_nil
  marked _ member := absurd member List.not_mem_nil

/-- A reconciled gap has the fills of the walk that closed it. -/
theorem Lossless.recorded (lossless : Lossless reconciler account venue state) {row : GapRow}
    (member : row ∈ state.store.db.feedGaps)
    (scope : @GapScope.parse VenueError row.scope = .ok (.userFills account))
    (served : ∃ held ∈ state.store.db.events, ∃ tid, IsFillOf account.display tid held ∧
      held.seq < row.openSeq)
    {entry : Gap × source.State} (closed : entry ∈ state.closed)
    (same : entry.1.gapId = row.gapId) :
    ∀ fill ∈ venue.fills entry.2, Recorded state.store.db account.display fill.tid := by
  have file := lossless.file
  obtain ⟨user, sound⟩ := lossless.closed entry closed
  obtain ⟨named, inside, id, scope', position⟩ := sound.named
  obtain rfl := List.inj_on_of_nodup_map file.ids inside member (id.trans same)
  have parsed := sound.parsed
  rw [← scope', scope] at parsed
  obtain ⟨anchor, found, phase⟩ := sound.phase (Except.ok.inj parsed).symm
  obtain ⟨within, covers⟩ := phase entry.2 rfl
  obtain ⟨held, there, tid, isFill, before⟩ := served
  have scanned : scannedBefore account.display entry.1.openSeq held = true := by
    rw [scannedBefore, isFill.2, Option.any_some, Bool.and_eq_true]
    exact ⟨decide_eq_true (inRange_fillIdemKey_iff.mpr (.inl rfl)),
      decide_eq_true (position ▸ before)⟩
  obtain ⟨newest, rfl⟩ := newestFillTsMs_some found there scanned fun row member scanned => by
    obtain ⟨⟨tid, isFill⟩, _⟩ := file.isFill member scanned
    obtain ⟨fill, _, stamp⟩ := file.stamp member isFill
    omega
  intro fill listed
  rcases covers fill listed with recorded | early
  · exact recorded
  · exact file.settled named inside scope entry.1.openSeq position newest found fill (within listed)
      (early newest rfl)

/-! ## Working a gap is a run -/

variable (reconciler account venue)

def Reaches (state next : Recovery source) : Prop :=
  ∃ acts, Run (RecoveryStep reconciler account venue) state acts next

variable {reconciler account venue}

theorem Reaches.refl (state : Recovery source) : Reaches reconciler account venue state state :=
  ⟨[], .nil⟩

/-- What is reached by a run is reached by a longer one. -/
theorem Reaches.snoc {start : Recovery source}
    (before : Reaches reconciler account venue start state)
    {act : RecoveryAct dec} (step : RecoveryStep reconciler account venue state act next) :
    Reaches reconciler account venue start next := by
  obtain ⟨acts, run⟩ := before
  exact ⟨_, run.snoc step⟩

/-- The recovery with a file, a venue and walks under way besides its own. -/
def Recovery.working (state : Recovery source) (store : Store) (now : source.State)
    (walks : List (Walk dec source.State)) : Recovery source :=
  { state with store, venue := now, walks := state.walks ++ walks }

/-- The walks left when the work went on, and none when it failed. -/
def walksLeft {ε α β : Type} : Except ε α → (α → List β) → List β
  | .ok value, left => left value
  | .error _, _ => []

section Working

variable {start : Recovery source} {store : Store} {now : source.State} {gap : Gap}
  {user : Address} {phase : Phase dec source.State}

/-- What a walk does in one step is reached by one more act. -/
theorem Reaches.walk
    (before : Reaches reconciler account venue start (state.working store now [⟨gap, user, phase⟩]))
    {after : Store} {later : source.State} {left : Option (Phase dec source.State)}
    (step : WalkStep reconciler gap user store now phase after later left) :
    Reaches reconciler account venue start
      (state.working after later (left.toList.map fun phase => ⟨gap, user, phase⟩)) := by
  have moved := before.snoc (.walk rfl step)
  rwa [List.append_nil] at moved

/-- What a question to the venue does is reached by one more act. -/
theorem Reaches.ask {walks : List (Walk dec source.State)}
    (before : Reaches reconciler account venue start (state.working store now walks))
    {later : source.State} (asks : Asks source now later) :
    Reaches reconciler account venue start (state.working store later walks) :=
  before.snoc (.ask asks)

/-- The pages are walked, or the walk is given up. -/
theorem Reaches.walkPages {window : Window} {budget : Nat} {taken : Taken dec}
    (before : Reaches reconciler account venue start
      (state.working store now [⟨gap, user, .paging window budget taken⟩]))
    {result : Except (ReconcileError VenueError) (List (Fill dec) × Nat)} {later : source.State}
    (walked : Reconcile.walkPages source user window.startMs reconciler.config budget taken.newest
      taken.seen taken.out now = (result, later)) :
    Reaches reconciler account venue start (state.working store later
      (walksLeft result fun fetched => [⟨gap, user, .fetched window fetched.1 later⟩])) := by
  induction budget generalizing now taken with
  | zero =>
      cases walked
      exact before.walk .drop
  | succ budget ih =>
      rw [Reconcile.walkPages] at walked
      cases answer : source.userFillsByTime user taken.newest none now with
      | mk response after =>
          have asks : Asks source now after := by
            have asks : Asks source now (source.userFillsByTime user taken.newest none now).2 :=
              .fills _ _ _
            rwa [answer] at asks
          rw [answer] at walked
          cases response with
          | error error =>
              cases walked
              exact (before.ask asks).walk .drop
          | ok page =>
              dsimp only at walked
              split at walked
              · rename_i short
                cases walked
                exact before.walk (.shortPage answer short)
              · split at walked
                · cases walked
                  exact (before.ask asks).walk .drop
                · rename_i past
                  exact ih (before.walk (.fullPage answer (Nat.not_le.mp past))) walked

/-- The fills are recorded, or the walk is given up. -/
theorem Reaches.recordFills {attributions : Attributions dec}
    {recoveredFrom : Option RecoveredWindow} {last : source.State} {fills : List (Fill dec)}
    (before : Reaches reconciler account venue start
      (state.working store now [⟨gap, user, .recording attributions recoveredFrom fills last⟩]))
    {publish : Nat → Bool} {recovered : Recovered}
    {result : Except (ReconcileError VenueError) Recovered} {after : Store}
    (recorded : Reconcile.recordFills reconciler.lib dec VenueError reconciler.handle user
      attributions recoveredFrom fills publish recovered store = (result, after)) :
    Reaches reconciler account venue start (state.working after now
      (walksLeft result fun _ => [⟨gap, user, .recorded (some last)⟩])) := by
  induction fills generalizing store publish recovered with
  | nil =>
      cases recorded
      exact before.walk .recorded
  | cons fill rest ih =>
      rw [Reconcile.recordFills] at recorded
      split at recorded
      · cases recorded
        exact before.walk .drop
      · rename_i inRange
        dsimp only at recorded
        split at recorded
        · rename_i failed
          cases recorded
          exact before.walk (.recordFailed (Nat.not_le.mp inRange) failed)
        · rename_i done
          exact ih (before.walk (.record (Nat.not_le.mp inRange) done)) recorded

/-- Settling the pending orders is reached by asking for each. -/
theorem Reaches.settleAll {walks : List (Walk dec source.State)} {cloids : List Cloid}
    (before : Reaches reconciler account venue start (state.working store now walks)) :
    Reaches reconciler account venue start
      (state.working store (Reconcile.settleAll source user cloids now).2 walks) := by
  induction cloids generalizing now with
  | nil => exact before
  | cons cloid rest ih =>
      have asked := before.ask (.status user cloid)
      rw [Reconcile.settleAll]
      cases answer : source.orderStatus user cloid now with
      | mk response after =>
          rw [answer] at asked
          cases response with
          | error error => exact asked
          | ok response =>
              have later := ih asked
              dsimp only
              split
              · rename_i failed
                rwa [failed] at later
              · rename_i done
                rwa [done] at later

/-- The questions of a scope are reached by asking each. -/
theorem Reaches.queryScope {walks : List (Walk dec source.State)} {pending : List Cloid}
    {scope : GapScope}
    (before : Reaches reconciler account venue start (state.working store now walks)) :
    Reaches reconciler account venue start
      (state.working store (Reconcile.queryScope source user pending now scope).2 walks) := by
  have queried : Reaches reconciler account venue start
      (state.working store (queryOrders source user pending now).2 walks) := by
    have asked := before.ask (.orders user)
    rw [queryOrders]
    cases answer : source.frontendOpenOrders user now with
    | mk response after =>
        rw [answer] at asked
        cases response with
        | error error => exact asked
        | ok openOrders =>
            have later := @Reaches.settleAll _ _ _ _ _ _ _ _ _ _ user _
              (unknownOrders pending openOrders) asked
            dsimp only
            split
            · rename_i failed
              rwa [failed] at later
            · rename_i done
              rwa [done] at later
  rw [Reconcile.queryScope]
  split
  · split
    · rename_i failed
      rwa [failed] at queried
    · rename_i done
      rwa [done] at queried
  · exact before

end Working

/-- The fills walk of a gap that was listed. -/
theorem walkFills_reaches {around : Surroundings} {gap : Gap} {user : Address} {closedTsMs : Int64}
    (inside : gap ∈ state.listed)
    (parsed : @GapScope.parse VenueError gap.scope = .ok (.userFills user))
    (closed : gap.closedTsMs = some closedTsMs)
    {result : Except (ReconcileError VenueError) (Recovered × FillWalkReceipt)}
    {later : source.State} {after : Store}
    (walked : walkFills source reconciler around gap user closedTsMs state.venue state.store =
      (result, later, after)) :
    Reaches reconciler account venue state (state.working after later
      (walksLeft result fun _ => [⟨gap, user, .recorded (some later)⟩])) := by
  have idle : Reaches reconciler account venue state
    (state.working state.store state.venue []) := by
    rw [Recovery.working, List.append_nil]
    exact .refl state
  rw [walkFills, fetchFills] at walked
  cases read : newestFillTsMs state.store.db user.display gap.openSeq with
  | error error =>
      rw [read] at walked
      cases walked
      exact idle
  | ok anchor =>
      rw [read] at walked
      dsimp only at walked
      cases bounded : @outageWindow VenueError gap closedTsMs anchor with
      | error error =>
          rw [bounded] at walked
          cases walked
          exact idle
      | ok window =>
          rw [bounded] at walked
          dsimp only at walked
          have begun : Reaches reconciler account venue state (state.working state.store
              state.venue [⟨gap, user,
                .paging window reconciler.config.maxPages ⟨window.startMs, [], []⟩⟩]) :=
            (Reaches.refl state).snoc (.begin inside parsed closed read bounded)
          cases paged : backfillFills source user window.startMs reconciler.config state.venue with
          | mk response now =>
              have fetched := begun.walkPages paged
              rw [paged] at walked
              cases response with
              | error error =>
                  cases walked
                  exact fetched
              | ok pages =>
                  obtain ⟨fills, pages⟩ := pages
                  dsimp only at walked fetched
                  cases applied : applyFills reconciler.lib dec VenueError reconciler.handle
                      around.publish user fills (window.recoveredFrom gap.gapId) state.store with
                  | mk recorded store =>
                      have done : Reaches reconciler account venue state (state.working store now
                          (walksLeft recorded fun _ => [⟨gap, user, .recorded (some now)⟩])) := by
                        rw [applyFills] at applied
                        dsimp only at applied
                        split at applied
                        · cases applied
                          exact fetched.walk .drop
                        · rename_i attributions joined
                          exact (fetched.walk (.join joined)).recordFills applied
                      rw [applied] at walked
                      cases recorded with
                      | error error =>
                          cases walked
                          exact done
                      | ok recovered =>
                          cases walked
                          exact done

/-- The work on a listed gap up to its mark. -/
theorem walkScope_reaches {around : Surroundings} {gap : Gap} {scope : GapScope} {user : Address}
    {closedTsMs : Int64} (inside : gap ∈ state.listed)
    (parsed : @GapScope.parse VenueError gap.scope = .ok scope) (owned : scope.account = some user)
    (closed : gap.closedTsMs = some closedTsMs)
    {result : Except (ReconcileError VenueError) (Recovered × Option FillWalkReceipt)}
    {later : source.State} {after : Store}
    (walked : walkScope source reconciler around gap closedTsMs state.venue state.store scope =
      (result, later, after)) :
    ∃ last, Reaches reconciler account venue state (state.working after later
      (walksLeft result fun _ => [⟨gap, user, .recorded last⟩])) := by
  cases scope with
  | userFills account =>
      cases owned
      rw [walkScope] at walked
      cases walk : walkFills source reconciler around gap user closedTsMs
        state.venue state.store with
      | mk response rest =>
          obtain ⟨now, store⟩ := rest
          have reached : Reaches reconciler account venue state _ :=
            walkFills_reaches inside parsed closed walk
          rw [walk] at walked
          cases response with
          | error error =>
              cases walked
              exact ⟨none, reached⟩
          | ok recovered =>
              cases walked
              exact ⟨_, reached⟩
  | orderUpdates account =>
      cases owned
      cases walked
      exact ⟨none, (Reaches.refl state).snoc (.beginOrders inside parsed closed)⟩
  | other => cases owned

/-- **Working a listed gap is a run**, and leaves no walk behind. -/
theorem reconcileGap_reaches {around : Surroundings} {gap : Gap} {pending : List Cloid}
    (inside : gap ∈ state.listed)
    {result : Except (ReconcileError VenueError) (GapOutcome VenueError)} {later : source.State}
    {after : Store}
    (worked : reconcileGap source reconciler around gap pending state.venue state.store =
      (result, later, after)) :
    ∃ closed, Reaches reconciler account venue state
      { state with store := after, venue := later, closed := closed } := by
  have idle : ∃ closed, Reaches reconciler account venue state { state with closed := closed } :=
    ⟨state.closed, .refl state⟩
  have given {store : Store} {now : source.State}
      (reached : Reaches reconciler account venue state (state.working store now [])) :
      ∃ closed, Reaches reconciler account venue state
        { state with store := store, venue := now, closed := closed } := by
    rw [Recovery.working, List.append_nil] at reached
    exact ⟨state.closed, reached⟩
  rw [reconcileGap] at worked
  split at worked
  · cases worked
    exact idle
  · rename_i scope parsed
    split at worked
    · cases worked
      exact idle
    · rename_i user owned
      split at worked
      · cases worked
        exact idle
      · rename_i closedTsMs closed
        rw [closeWindow] at worked
        cases walk : walkScope source reconciler around gap closedTsMs state.venue state.store
            scope with
        | mk response rest =>
            obtain ⟨now, store⟩ := rest
            obtain ⟨last, reached⟩ := walkScope_reaches inside parsed owned closed walk
            rw [walk] at worked
            cases response with
            | error error =>
                cases worked
                exact given reached
            | ok recovered =>
                obtain ⟨recovered, fillWalk⟩ := recovered
                dsimp only at worked
                have queried := @Reaches.queryScope _ _ _ _ _ _ _ _ _ _ user _ pending scope reached
                split at worked
                · rename_i failed
                  cases worked
                  rw [failed] at queried
                  exact given (queried.walk .drop)
                · rename_i resting settled now answered
                  rw [answered] at queried
                  split at worked
                  · rename_i error refused
                    cases worked
                    obtain rfl := markGapReconciled_error refused
                    exact given (Reaches.walk queried .drop)
                  · rename_i marked
                    cases worked
                    have done := Reaches.snoc queried (.mark rfl marked)
                    rw [List.append_nil] at done
                    exact ⟨_, done⟩

/-! ## A gap that was not closed -/

/-- What is recorded for a gap leaves the gap rows. -/
theorem walkFills_gaps {store : Store} (upheld : Upheld reconciler.lib reconciler.handle store)
    (around : Surroundings) (gap : Gap) (user : Address) (closedTsMs : Int64) (now : source.State) :
    (walkFills source reconciler around gap user closedTsMs now store).2.2.db.feedGaps =
      store.db.feedGaps := by
  rw [walkFills]
  split
  · rfl
  · rename_i window fills pages _ _
    obtain ⟨requests, run, offers⟩ := @applyFills_run reconciler.lib dec reconciler.handle user
      (window.recoveredFrom gap.gapId) VenueError around.publish fills store
    have kept := upheld.gaps_of_fills run fun request member => by
      obtain ⟨_, _, _, call⟩ := offers request member
      exact ⟨_, call⟩
    split
    · rename_i failed
      rwa [failed] at kept
    · rename_i done
      rwa [done] at kept

/-- **Only a gap that is reported reconciled is marked.** -/
theorem reconcileGap_gaps {store after : Store}
    (upheld : Upheld reconciler.lib reconciler.handle store) {around : Surroundings} {gap : Gap}
    {pending : List Cloid} {now later : source.State}
    {result : Except (ReconcileError VenueError) (GapOutcome VenueError)}
    (worked : reconcileGap source reconciler around gap pending now store = (result, later, after))
    (unmarked : ∀ outcome, result = .ok outcome → outcome.status ≠ .reconciled) :
    after.db.feedGaps = store.db.feedGaps := by
  rw [reconcileGap] at worked
  split at worked
  · cases worked
    rfl
  · rename_i scope parsed
    split at worked
    · cases worked
      rfl
    · split at worked
      · cases worked
        rfl
      · rename_i closedTsMs _
        have walked : (walkScope source reconciler around gap closedTsMs now store
            scope).2.2.db.feedGaps = store.db.feedGaps := by
          cases scope with
          | userFills user =>
              have walked := walkFills_gaps upheld around gap user closedTsMs now
              rw [walkScope]
              split
              · rename_i failed
                rwa [failed] at walked
              · rename_i done
                rwa [done] at walked
          | _ => rfl
        rw [closeWindow] at worked
        split at worked
        · rename_i failed
          cases worked
          rwa [failed] at walked
        · rename_i done
          rw [done] at walked
          split at worked
          · cases worked
            exact walked
          · split at worked
            · rename_i refused
              cases worked
              rw [markGapReconciled_error refused]
              exact walked
            · cases worked
              exact absurd rfl (unmarked _ rfl)

/-- A walk that cannot be fetched is the failure of its gap, and nothing is recorded. -/
theorem reconcileGap_unfetched {store : Store} {around : Surroundings} {gap : Gap}
    {pending : List Cloid} {user : Address} {closedTsMs : Int64} {now later : source.State}
    {error : ReconcileError VenueError}
    (parsed : @GapScope.parse VenueError gap.scope = .ok (.userFills user))
    (closed : gap.closedTsMs = some closedTsMs)
    (failed : fetchFills source reconciler gap user closedTsMs now store = (.error error, later)) :
    reconcileGap source reconciler around gap pending now store = (.error error, later, store) := by
  simp only [reconcileGap, parsed, GapScope.account, closed, closeWindow, walkScope, walkFills,
    failed]

end Runs

/-- **A reconciled gap has lost no fill.** Whatever the order of live fills, disconnects,
reconnects, restarts, pages, recorded fills and marks of any number of walks, whatever they
fail at and whatever the host's clock says: where the venue's stamps are true and at each
disconnect the fills stamped more than the margin before a recorded one were recorded, a gap of
an account that had recorded a fill before it and that is marked reconciled was closed by a walk,
and every fill the venue held at the last page of a walk that closed it is in the chain once. A
gap that is not reported reconciled is not marked, and a walk that failed, stalled or ran out of
pages is the failure of its gap, with nothing recorded. -/
theorem reconciled_gap_lost_none {dec : Quotients} {VenueError : Type}
    {source : ReconcileSource dec VenueError} (reconciler : Reconciler) (account : Address)
    (venue : TruthfulVenue source account reconciler.config.pageLimit) {start : source.State}
    {acts : List (RecoveryAct dec)} {last : Recovery source}
    (run : Run (RecoveryStep reconciler account venue) (.opened reconciler start) acts last) :
    (∀ row ∈ last.store.db.feedGaps, row.reconciledTsMs ≠ none →
      @GapScope.parse VenueError row.scope = .ok (.userFills account) →
      (∃ held ∈ last.store.db.events, ∃ tid, IsFillOf account.display tid held ∧
        held.seq < row.openSeq) →
      (∃ entry ∈ last.closed, entry.1.gapId = row.gapId) ∧
        ∀ entry ∈ last.closed, entry.1.gapId = row.gapId → ∀ fill ∈ venue.fills entry.2,
          RecordedOnce last.store.db account.display fill.tid) ∧
    (∀ around gap pending result later after,
      reconcileGap source reconciler around gap pending last.venue last.store =
        (result, later, after) →
      (∀ outcome, result = .ok outcome → outcome.status ≠ .reconciled) →
        after.db.feedGaps = last.store.db.feedGaps) ∧
    (∀ around gap pending user closedTsMs error later,
      @GapScope.parse VenueError gap.scope = .ok (.userFills user) →
      gap.closedTsMs = some closedTsMs →
      fetchFills source reconciler gap user closedTsMs last.venue last.store =
        (.error error, later) →
      reconcileGap source reconciler around gap pending last.venue last.store =
        (.error error, later, last.store)) := by
  have lossless : Lossless reconciler account venue last :=
    run.invariant _ (fun _ _ _ lossless step => lossless.step step) (.opened start)
  have upheld := lossless.file.upheld
  refine ⟨fun row member reconciled scope served => ?_,
    fun _ _ _ _ _ _ worked unmarked => reconcileGap_gaps upheld worked unmarked,
    fun _ _ _ _ _ _ _ parsed closed failed => reconcileGap_unfetched parsed closed failed⟩
  refine ⟨lossless.marked row member reconciled scope, fun entry closed same fill held => ?_⟩
  exact .of_recorded upheld (lossless.recorded member scope served closed same fill held)

namespace ClosedOutage

/-- The compact reader, the checksum and exact decimals in place of the real libraries. -/
def reconciler : Reconciler := ⟨.reference checksum, ⟨.testnet, false⟩, 0, .default⟩

def account : Address := .zero

def fill (tid : UInt64) (time : Nat) : Fill Quotients.reference where
  coin := "BTC"
  px := ⟨10, 0⟩
  sz := ⟨1, 0⟩
  side := .buy
  time := time
  startPosition := ⟨0, 0⟩
  dir := "Open Long"
  closedPnl := ⟨0, 0⟩
  hash := "0x"
  oid := 1
  crossed := true
  fee := ⟨0, 0⟩
  feeToken := "USDC"
  builderFee := none
  tid := tid
  cloid := none

/-- The fill that arrives live, and the one that falls into the outage. -/
def fills : List (Fill Quotients.reference) := [fill 1 1000000, fill 2 1030000]

def fake : FakeVenue Quotients.reference := ⟨.testnet, fun _ => fills, [], fun _ => none, 2000⟩

def source : ReconcileSource Quotients.reference Empty := fake.source Empty

def venue : TruthfulVenue source account reconciler.config.pageLimit := fake.truthful Empty account

def scope : String := "userFills:0x0000000000000000000000000000000000000000"

def opened : Store := Ledger.opened reconciler.lib reconciler.handle

def live : NewFill := recoveredFill account (fill 1 1000000) .external none

/-- The file with the live fill, with the gap, and with the gap closed. -/
def served : Store :=
  (recordFill reconciler.lib Decimals.reference reconciler.handle true live opened).2

def down : Store :=
  (openGap reconciler.lib reconciler.handle true scope 1010000 none served).2

def up : Store := (closeGap reconciler.lib reconciler.handle true 1 1040000 down).2

/-- The gap as the work list shows it. -/
def gap : Gap := ⟨1, scope, 1010000, some 1040000, none, 2, some 3, none⟩

def around : Surroundings := ⟨fun _ => 1050000, fun _ => true⟩

def recovered : Store := (reconcileGap source reconciler around gap [] [] up).2.2

/-- The scope of the sample is the one of its account's fills. -/
theorem parsed : @GapScope.parse Empty scope = .ok (.userFills account) :=
  eq_ok_of_some (by decide +kernel)

/-- What the files hold. -/
theorem contents : (∀ row ∈ served.db.events, row.tsMs.toInt ≤ 1000000) ∧
    (unreconciledGaps up.db).toOption = some [gap] ∧
    (∃ row ∈ recovered.db.feedGaps, row.reconciledTsMs = some 1050000 ∧ row.scope = scope ∧
      row.openSeq = 2) ∧
    ∃ held ∈ recovered.db.events, (held.kind = EventKind.fill.asStr ∧
      held.idemKey = some (fillIdemKey account.display 1)) ∧ held.seq < 2 := by
  decide +kernel

/-- The disconnect: nothing is older than the live fill. -/
theorem upToMargin : UpToMargin served.db account (venue.fills []) := by
  have stamps := contents.1
  have newer : ∀ fill ∈ venue.fills [], 1000000 ≤ fill.time := by decide
  intro row member tid isFill fill inside early
  have := stamps row member
  have := newer fill inside
  omega

/-- The socket returns. -/
theorem restored {before after : Store} {gapId : Int} {tsMs : Int64} {publish : Bool}
    {result : Result Appended}
    (run : closeGap reconciler.lib reconciler.handle publish gapId tsMs before = (result, after)) :
    RecoveryStep reconciler account venue ⟨before, [], [], [], []⟩
      (.call ⟨.closeGap gapId tsMs, publish⟩) ⟨after, [], [], [], []⟩ := by
  have step : Step reconciler.lib Decimals.reference reconciler.handle before
      ⟨.closeGap gapId tsMs, publish⟩ after := congrArg Prod.snd run
  exact .call ⟨fun _ => nofun, rfl⟩ step

/-- The work list is read. -/
theorem read {store : Store} {gaps : List Gap} (read : unreconciledGaps store.db = .ok gaps) :
    RecoveryStep reconciler account venue ⟨store, [], [], [], []⟩ .list
      ⟨store, [], gaps, [], []⟩ :=
  .list read

/-- The gap is worked. -/
theorem worked {store after : Store} {now : source.State}
    {result : Except (ReconcileError Empty) (GapOutcome Empty)}
    (run : reconcileGap source reconciler around gap [] [] store = (result, now, after)) :
    ∃ closed, Reaches reconciler account venue ⟨store, [], [gap], [], []⟩
      ⟨after, now, [gap], [], closed⟩ :=
  reconcileGap_reaches (List.mem_singleton_self gap) run

/-- The sample loses its feed, has it restored and lists its gap. -/
theorem listed_run : Run (RecoveryStep reconciler account venue) (.opened reconciler [])
    [.live live, .down scope, .call ⟨.closeGap 1 1040000, true⟩, .list]
    ⟨up, [], [gap], [], []⟩ :=
  have genuine : Genuine (venue.fills []) live :=
    ⟨fill 1 1000000, mem_sortFills.mpr List.mem_cons_self, rfl, by decide, rfl⟩
  have recorded : RecoveryStep reconciler account venue (.opened reconciler []) (.live live)
      ⟨served, [], [], [], []⟩ := .live rfl (fun _ => genuine) Prod.mk.eta.symm
  have opened : openGap reconciler.lib reconciler.handle true scope 1010000 none served =
    ((openGap reconciler.lib reconciler.handle true scope 1010000 none served).1, down) :=
      Prod.mk.eta.symm
  have lost : RecoveryStep reconciler account venue ⟨served, [], [], [], []⟩ (.down scope)
      ⟨down, [], [], [], []⟩ := .down (fun _ => upToMargin) opened
  have closed : closeGap reconciler.lib reconciler.handle true 1 1040000 down =
    ((closeGap reconciler.lib reconciler.handle true 1 1040000 down).1, up) := Prod.mk.eta.symm
  .snoc (.snoc (.snoc (.single recorded) lost) (restored closed))
    (read (eq_ok_of_some contents.2.1))

/-- The gap is closed, and the fill that fell into it is in the chain. -/
theorem gap_closed : (∃ row ∈ recovered.db.feedGaps, row.reconciledTsMs = some 1050000) ∧
    RecordedOnce recovered.db account.display 2 := by
  obtain ⟨closed, acts, run⟩ := @worked up recovered _ _
    (Prod.mk.eta.symm.trans (congrArg (Prod.mk _) Prod.mk.eta.symm))
  have rows := contents.2.2.1
  have held := contents.2.2.2
  generalize recovered = after at run rows held ⊢
  obtain ⟨row, member, reconciled, named, position⟩ := rows
  obtain ⟨held, inside, isFill, before⟩ := held
  obtain ⟨⟨entry, listed, same⟩, every⟩ := (reconciled_gap_lost_none reconciler account venue
    (listed_run.append run)).1 row member (by rw [reconciled]; exact nofun) (named ▸ parsed)
    ⟨held, inside, 1, isFill, position ▸ before⟩
  exact ⟨⟨row, member, reconciled⟩, every entry listed same (fill 2 1030000)
    (mem_sortFills.mpr (List.mem_cons_of_mem _ List.mem_cons_self))⟩

end ClosedOutage

end Oppen.Reconcile
