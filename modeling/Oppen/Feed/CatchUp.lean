import Oppen.Feed.Pump
import Oppen.Ledger.OpenGaps

/-! # Catching up at start-up

Start-up opens and closes a window of each account scope and works the whole list of gaps. It ends
ready exactly when every gap on the list can be worked off, and a gap of another account that an
earlier run left open cannot: nothing here ends it.
-/

namespace Oppen.Feed

open Foundation Oppen.Ledger Oppen.Reconcile

/-! ## What start-up does -/

/-- How errors read. -/
structure Texts (VenueError : Type) where
  ledger : LedgerError → String
  reconcile : ReconcileError VenueError → String

section CatchUp

variable {dec : Quotients} {VenueError : Type} (source : ReconcileSource dec VenueError)
  (reconciler : Reconciler) (account : Address) (texts : Texts VenueError)
  (monitors : Nat → Monitor)

/-- The loop of `catch_up`: a window that cannot be opened or closed is a failure of the session. -/
def startWindows (publish : Nat → Bool × Bool) (atMs : Int64) :
    List String → FeedSession → Store → FeedSession × Store
  | [], session, store => (session, store)
  | scope :: scopes, session, store =>
      let next := fun call => publish (call + 1)
      match startWindow reconciler.lib reconciler.handle (publish 0) scope atMs store with
      | (.ok (), store) => startWindows next atMs scopes session store
      | (.error error, store) =>
          startWindows next atMs scopes
            (session.recordFailure
              ("could not open or close startup window " ++ scope ++ ": " ++ texts.ledger error))
            store

/-- `record_reconcile_failure`. -/
def recordReconcileFailure (error : ReconcileError VenueError) (session : FeedSession) :
    FeedSession :=
  if isLocalFailure error then
    session.recordFailure ("reconcile local evidence failure: " ++ texts.reconcile error)
  else session

/-- The session with the receipt of an outcome's walk. -/
def reportFillWalk (stamp : FeedStamp) (session : FeedSession) (outcome : GapOutcome VenueError) :
    FeedSession :=
  match outcome.fillWalk with
  | some receipt => session.recordFillWalk monitors stamp receipt
  | none => session

/-- What the report of an outcome leaves of the session. -/
def reportOutcome (stamp : FeedStamp) (session : FeedSession) (outcome : GapOutcome VenueError) :
    FeedSession :=
  match outcome.status with
  | .failed error =>
      recordReconcileFailure texts error (reportFillWalk monitors stamp session outcome)
  | _ => reportFillWalk monitors stamp session outcome

/-- `FeedPump::reconcile`. -/
def reconcile (around : Nat → Surroundings) (atMs : Nat) (session : FeedSession)
    (venue : source.State) (store : Store) : FeedSession × source.State × Store :=
  let session := session.invalidate
  let stamp := session.stamp monitors
  match reconcileAll source reconciler [] around venue store with
  | (.error error, venue, store) => (recordReconcileFailure texts error session, venue, store)
  | (.ok outcomes, venue, store) =>
      let session := outcomes.foldl (reportOutcome texts monitors stamp) session
      (if outcomes.countP GapOutcome.isOutstanding = 0 then
          session.markReconciled monitors stamp atMs
        else session, venue, store)

/-- What a start-up meets outside: the clock, which heads are published, and the surroundings of
each gap. -/
structure StartUp where
  publish : Nat → Bool × Bool
  atMs : Int64
  around : Nat → Surroundings
  doneAtMs : Nat

/-- `FeedPump::catch_up`. -/
def catchUp (startUp : StartUp) (session : FeedSession) (venue : source.State) (store : Store) :
    FeedSession × source.State × Store :=
  let (session, store) := startWindows reconciler texts startUp.publish startUp.atMs
    (accountScopes account) session store
  reconcile source reconciler texts monitors startUp.around startUp.doneAtMs session venue store

end CatchUp

/-! ## It is what the task does -/

section Task

variable {dec : Quotients} {VenueError : Type} {source : ReconcileSource dec VenueError}
  (reconciler : Reconciler) (account : Address) (texts : Texts VenueError)

/-- Writing the startup windows is a run of the pump, window after window. -/
theorem startWindows_run (atMs : Int64) (scopes : List String) (publish : Nat → Bool × Bool)
    (pump : Pump source) :
    ∃ acts, Run (PumpStep reconciler account) { pump with task := .startup scopes } acts
      { pump with
        session := (startWindows reconciler texts publish atMs scopes pump.session pump.store).1
        store := (startWindows reconciler texts publish atMs scopes pump.session pump.store).2
        task := .reconciling none } := by
  induction scopes generalizing publish pump with
  | nil => exact ⟨[], .nil⟩
  | cons scope scopes rest =>
      have step : PumpStep reconciler account { pump with task := .startup (scope :: scopes) }
          (.startUp (publish 0) atMs)
          { pump with
            store := (startWindow reconciler.lib reconciler.handle (publish 0) scope atMs
              pump.store).2
            task := .after
              (startWindow reconciler.lib reconciler.handle (publish 0) scope atMs pump.store).1
              (.startup scopes) } :=
        @PumpStep.startUp _ _ _ _ _ { pump with task := .startup (scope :: scopes) } scope scopes
          (publish 0) atMs rfl
      rw [startWindows]
      cases ran : startWindow reconciler.lib reconciler.handle
        (publish 0) scope atMs pump.store with
      | mk result store =>
          rw [ran] at step
          cases result with
          | ok =>
              obtain ⟨acts, run⟩ :=
                rest (fun call => publish (call + 1)) { pump with store := store }
              exact ⟨_, (Run.single step).append run⟩
          | error error =>
              let detail :=
                "could not open or close startup window " ++ scope ++ ": " ++ texts.ledger error
              have failed : PumpStep reconciler account
                  { pump with store := store, task := .failing (.startup scopes) } (.fail detail)
                  { pump with
                    session := pump.session.recordFailure detail
                    store := store
                    task := .startup scopes } :=
                @PumpStep.fail _ _ _ _ _
                  { pump with store := store, task := .failing (.startup scopes) } _ detail rfl
              obtain ⟨acts, run⟩ := rest (fun call => publish (call + 1))
                { pump with session := pump.session.recordFailure detail, store := store }
              exact ⟨_, ((Run.single step).snoc failed).append run⟩

/-- Working on the gaps is a run of the pump, gap after gap. -/
theorem workGaps_run (stamp : FeedStamp) (gaps : List Gap) (around : Nat → Surroundings)
    (outcomes : List (GapOutcome VenueError)) (pump : Pump source) :
    ∃ acts, Run (PumpStep reconciler account) { pump with task := .worked stamp outcomes none gaps }
      acts
      { pump with
        venue := (workGaps source reconciler [] gaps around pump.venue pump.store).2.1
        store := (workGaps source reconciler [] gaps around pump.venue pump.store).2.2
        task := .reporting stamp
          (outcomes ++ (workGaps source reconciler [] gaps around pump.venue pump.store).1) 0
          none } := by
  induction gaps generalizing around outcomes pump with
  | nil =>
      refine ⟨[], ?_⟩
      rw [workGaps, List.append_nil]
      exact .nil
  | cons gap gaps rest =>
      rw [workGaps]
      cases ran : workGap source reconciler (around 0) gap [] pump.venue pump.store with
      | mk outcome after =>
          obtain ⟨venue, store⟩ := after
          have step : PumpStep reconciler account
              { pump with task := .worked stamp outcomes none (gap :: gaps) } (.workGap (around 0))
              { pump with
                venue := venue, store := store
                task := .worked stamp (outcomes ++ [outcome]) none gaps } :=
            @PumpStep.workGap _ _ _ _ _
              { pump with task := .worked stamp outcomes none (gap :: gaps) }
                stamp gap gaps outcomes
              none (around 0) outcome venue store rfl ran
          obtain ⟨acts, run⟩ := rest (fun call => around (call + 1)) (outcomes ++ [outcome])
            { pump with venue := venue, store := store }
          rw [List.append_assoc] at run
          exact ⟨_, (Run.single step).append run⟩

/-- Reporting one outcome is a run of the pump. -/
theorem reportOutcome_run (stamp : FeedStamp) (outcome : GapOutcome VenueError)
    (outcomes : List (GapOutcome VenueError)) (outstanding : Nat) (pump : Pump source) :
    ∃ acts, Run (PumpStep reconciler account)
      { pump with task := .reporting stamp (outcome :: outcomes) outstanding none } acts
      { pump with
        session := reportOutcome texts pump.monitors stamp pump.session outcome
        task := .reporting stamp outcomes
          (if outcome.isOutstanding then outstanding + 1 else outstanding) none } := by
  have step : PumpStep reconciler account
      { pump with task := .reporting stamp (outcome :: outcomes) outstanding none } .report
      { pump with
        session := pump.reportWalk stamp outcome
        task := Pump.reported stamp outcome outcomes outstanding none } :=
    @PumpStep.report _ _ _ _ _
      { pump with task := .reporting stamp (outcome :: outcomes) outstanding none } stamp outcome
      outcomes outstanding none rfl
  have walked : pump.reportWalk stamp outcome =
      reportFillWalk pump.monitors stamp pump.session outcome := rfl
  rw [reportOutcome, ← walked]
  unfold Pump.reported latches at step
  cases status : outcome.status with
  | failed error =>
      rw [status] at step
      dsimp only at step ⊢
      unfold recordReconcileFailure
      split
      · rename_i isLocal
        rw [if_pos isLocal] at step
        exact ⟨_, (Run.single step).snoc (@PumpStep.fail _ _ _ _ _ { pump with
          session := pump.reportWalk stamp outcome
          task := .failing _ } _ _ rfl)⟩
      · rename_i remote
        rw [if_neg remote] at step
        exact ⟨_, .single step⟩
  | _ =>
      rw [status] at step
      exact ⟨_, .single step⟩

/-- Reporting the outcomes is a run of the pump, one after another. -/
theorem reportOutcomes_run (stamp : FeedStamp) (outcomes : List (GapOutcome VenueError))
    (outstanding : Nat) (pump : Pump source) :
    ∃ acts, Run (PumpStep reconciler account)
      { pump with task := .reporting stamp outcomes outstanding none } acts
      { pump with
        session := outcomes.foldl (reportOutcome texts pump.monitors stamp) pump.session
        task := .reporting stamp [] (outstanding + outcomes.countP GapOutcome.isOutstanding)
          none } := by
  induction outcomes generalizing outstanding pump with
  | nil => exact ⟨[], .nil⟩
  | cons outcome outcomes rest =>
      obtain ⟨first, reported⟩ := reportOutcome_run reconciler account texts stamp outcome
        outcomes outstanding pump
      obtain ⟨later, run⟩ := rest (if outcome.isOutstanding then outstanding + 1 else outstanding)
        { pump with session := reportOutcome texts pump.monitors stamp pump.session outcome }
      refine ⟨first ++ later, reported.append ?_⟩
      have counted : (if outcome.isOutstanding then outstanding + 1 else outstanding) +
          outcomes.countP GapOutcome.isOutstanding =
            outstanding + (outcome :: outcomes).countP GapOutcome.isOutstanding := by
        rw [List.countP_cons]
        split
        · omega
        · omega
      rw [counted] at run
      exact run

/-- **`catch_up` is what the task does** when nothing else happens. -/
theorem catchUp_run (startUp : StartUp) (pump : Pump source) (here : pump.task = .starting) :
    ∃ acts, Run (PumpStep reconciler account) pump acts
      { pump with
        session := (catchUp source reconciler account texts pump.monitors startUp pump.session
          pump.venue pump.store).1
        venue := (catchUp source reconciler account texts pump.monitors startUp pump.session
          pump.venue pump.store).2.1
        store := (catchUp source reconciler account texts pump.monitors startUp pump.session
          pump.venue pump.store).2.2
        task := .idle } := by
  have begun : PumpStep reconciler account pump .catchUp
      { pump with task := .startup (accountScopes account) } := .catchUp here
  obtain ⟨opening, opened⟩ := startWindows_run reconciler account texts startUp.atMs
    (accountScopes account) startUp.publish pump
  rw [catchUp]
  cases windows : startWindows reconciler texts startUp.publish startUp.atMs (accountScopes account)
      pump.session pump.store with
  | mk session store =>
      rw [windows] at opened
      dsimp only at opened ⊢
      have walk : PumpStep reconciler account
          { pump with session := session, store := store, task := .reconciling none } .startWalk
          { pump with
            session := session.invalidate, store := store
            task := .reading (session.invalidate.stamp pump.monitors) none } :=
        @PumpStep.startWalk _ _ _ _ _
          { pump with session := session, store := store, task := .reconciling none } none rfl
      have listed := @PumpStep.readGaps _ _ _ reconciler account
        { pump with
          session := session.invalidate, store := store
          task := .reading (session.invalidate.stamp pump.monitors) none } _ none rfl
      have read := (((Run.single begun).append opened).snoc walk).snoc listed
      unfold reconcile reconcileAll
      dsimp only
      cases list : unreconciledGaps store.db with
      | error error =>
          rw [list] at read
          exact ⟨_, read.snoc (@PumpStep.fail _ _ _ _ _ { pump with
            session := session.invalidate, store := store, task := .failing .idle } _ _ rfl)⟩
      | ok gaps =>
          rw [list] at read
          dsimp only
          obtain ⟨working, worked⟩ := workGaps_run reconciler account
            (session.invalidate.stamp pump.monitors) gaps startUp.around []
            { pump with session := session.invalidate, store := store }
          cases ran : workGaps source reconciler [] gaps startUp.around pump.venue store with
          | mk outcomes after =>
              obtain ⟨venue, done⟩ := after
              dsimp only at worked
              rw [ran, List.nil_append] at worked
              dsimp only at worked
              obtain ⟨reporting, reported⟩ := reportOutcomes_run reconciler account texts
                (session.invalidate.stamp pump.monitors) outcomes 0
                  { pump with session := session.invalidate, venue := venue, store := done }
              rw [Nat.zero_add] at reported
              let told := outcomes.foldl (reportOutcome texts pump.monitors
                (session.invalidate.stamp pump.monitors)) session.invalidate
              let outstanding := outcomes.countP GapOutcome.isOutstanding
              have finished : PumpStep reconciler account
                  { pump with
                    session := told, venue := venue, store := done
                    task := .reporting (session.invalidate.stamp pump.monitors)
                      [] outstanding none }
                  (.finish startUp.doneAtMs)
                  { pump with
                    session := if outstanding = 0 then told.markReconciled pump.monitors
                        (session.invalidate.stamp pump.monitors) startUp.doneAtMs
                      else told
                    venue := venue, store := done, task := .idle } :=
                @PumpStep.finish _ _ _ _ _ { pump with
                  session := told, venue := venue, store := done
                  task := .reporting (session.invalidate.stamp pump.monitors) [] outstanding none }
                  (session.invalidate.stamp pump.monitors) outstanding startUp.doneAtMs none rfl
              exact ⟨_, ((read.append worked).append reported).snoc finished⟩

end Task

/-! ## Which gaps are worked off -/

section Gaps

variable {dec : Quotients} {VenueError : Type} {source : ReconcileSource dec VenueError}
  {reconciler : Reconciler}

/-- The errors that are about the row of a gap itself. -/
def ofRow : ReconcileError VenueError → Bool
  | .unusableWindow .. | .unreadableScope _ => true
  | _ => false

/-- No read of the venue failed, no walk stalled or ran out of pages, and the ledger served. -/
def Undisturbed (outcomes : List (GapOutcome VenueError)) : Prop :=
  ∀ outcome ∈ outcomes, ∀ error, outcome.status = .failed error → ofRow error = true

/-- A gap is worked off if it is of no account, or it has ended, and a window of fills does not
run backwards. -/
def Workable (VenueError : Type) (scope : String) (opened : Int64) (closed : Option Int64) : Prop :=
  match (GapScope.parse scope : Except (ReconcileError VenueError) GapScope) with
  | .error _ => False
  | .ok (.other _) => True
  | .ok (.orderUpdates _) => closed ≠ none
  | .ok (.userFills _) => ∃ closedTsMs ∈ closed, 0 ≤ opened.toInt ∧
      opened.toInt ≤ closedTsMs.toInt

/-- A walk over the pages fails for the venue or its budget, and never for the row of the gap. -/
theorem walkPages_error {user : Address} {startMs : Nat} {config : ReconcileConfig} {budget : Nat}
    {cursor : Nat} {seen : List UInt64} {out : List (Fill dec)} {state after : source.State}
    {error : ReconcileError VenueError}
    (run : walkPages source user startMs config budget cursor seen out state =
      (.error error, after)) : ofRow error = false := by
  induction budget generalizing cursor seen out state with
  | zero =>
      cases run
      rfl
  | succ budget more =>
      rw [walkPages] at run
      split at run
      · cases run
        rfl
      · dsimp only at run
        split at run
        · cases run
        · split at run
          · cases run
            rfl
          · exact more run

/-- Asking after pending orders fails for the venue, and never for the row of the gap. -/
theorem settleAll_error {account : Address} {pending : List Cloid} {state after : source.State}
    {error : ReconcileError VenueError}
    (run : settleAll source account pending state = (.error error, after)) :
    ofRow error = false := by
  induction pending generalizing state after with
  | nil => cases run
  | cons cloid rest more =>
      rw [settleAll] at run
      split at run
      · cases run
        rfl
      · dsimp only at run
        split at run
        · rename_i failed
          cases run
          exact more failed
        · cases run

/-- Querying the venue for a scope fails never for the row of the gap. -/
theorem queryScope_error {account : Address} {pending : List Cloid} {state after : source.State}
    {scope : GapScope} {error : ReconcileError VenueError}
    (run : queryScope source account pending state scope = (.error error, after)) :
    ofRow error = false := by
  unfold queryScope at run
  split at run
  · split at run
    · rename_i asked
      cases run
      unfold queryOrders at asked
      split at asked
      · cases asked
        rfl
      · split at asked
        · rename_i failed
          cases asked
          exact settleAll_error failed
        · cases asked
    · cases run
  · cases run

/-- A window reads exactly if it does not run backwards. -/
theorem outageWindow_ok_iff {gap : Gap} {closedTsMs : Int64} {anchor : Option Nat} :
    (∃ window, (outageWindow gap closedTsMs anchor : Except (ReconcileError VenueError) Window) =
      .ok window) ↔ 0 ≤ gap.openedTsMs.toInt ∧ gap.openedTsMs.toInt ≤ closedTsMs.toInt := by
  unfold outageWindow
  constructor
  · rintro ⟨window, read⟩
    obtain ⟨_, opened, read⟩ := bind_eq_ok read
    obtain ⟨_, closed, read⟩ := bind_eq_ok read
    obtain ⟨_, forward, read⟩ := bind_eq_ok read
    have started := refuseIf_ok opened
    have ended := refuseIf_ok closed
    have ordered := refuseIf_ok forward
    omega
  · rintro ⟨opened, closed⟩
    have started : ¬ gap.openedTsMs.toInt < 0 := by omega
    have ended : ¬ closedTsMs.toInt < 0 := by omega
    have forward : ¬ closedTsMs.toInt.toNat < gap.openedTsMs.toInt.toNat := by omega
    simp only [refuseIf, started, ended, forward, if_false]
    cases anchor.filter fun anchorMs =>
        anchorMs ≤ saturatingAdd gap.openedTsMs.toInt.toNat firstRunLookbackMs with
    | none => exact ⟨_, rfl⟩
    | some => exact ⟨_, rfl⟩

/-- Recording what a walk found fails for the ledger, and never for the row of the gap. -/
theorem recordFills_error {account : Address} {attributions : Attributions dec}
    {recoveredFrom : Option RecoveredWindow} {fills : List (Fill dec)} {publish : Nat → Bool}
    {recovered : Recovered} {store after : Store} {error : ReconcileError VenueError}
    (run : recordFills reconciler.lib dec VenueError reconciler.handle account attributions
      recoveredFrom fills publish recovered store = (.error error, after)) :
    ofRow error = false := by
  induction fills generalizing publish recovered store with
  | nil => cases run
  | cons fill rest more =>
      rw [recordFills] at run
      split at run
      · cases run
        rfl
      · dsimp only at run
        split at run
        · cases run
          rfl
        · exact more run

/-- Applying what a walk found fails for the ledger, and never for the row of the gap. -/
theorem applyFills_error {account : Address} {recoveredFrom : Option RecoveredWindow}
    {fills : List (Fill dec)} {publish : Nat → Bool} {store after : Store}
    {error : ReconcileError VenueError}
    (run : applyFills reconciler.lib dec VenueError reconciler.handle publish account fills
      recoveredFrom store = (.error error, after)) : ofRow error = false := by
  unfold applyFills at run
  dsimp only at run
  split at run
  · cases run
    rfl
  · exact recordFills_error run

/-- If fetching fails for the row itself, the window of the row runs backwards or starts before
time. -/
theorem fetchFills_error {gap : Gap} {account : Address} {closedTsMs : Int64}
    {state after : source.State} {store : Store} {error : ReconcileError VenueError}
    (run : fetchFills source reconciler gap account closedTsMs state store = (.error error, after))
    (row : ofRow error = true) :
    ¬ (0 ≤ gap.openedTsMs.toInt ∧ gap.openedTsMs.toInt ≤ closedTsMs.toInt) := by
  intro usable
  unfold fetchFills at run
  split at run
  · cases run
    cases row
  · split at run
    · rename_i anchor _ _ _ failed
      obtain ⟨window, read⟩ := (@outageWindow_ok_iff VenueError gap closedTsMs anchor).mpr usable
      rw [read] at failed
      cases failed
    · split at run
      · rename_i walked
        cases run
        rw [walkPages_error walked] at row
        cases row
      · cases run

/-- What was fetched is of a window that does not run backwards. -/
theorem fetchFills_ok {gap : Gap} {account : Address} {closedTsMs : Int64}
    {state after : source.State} {store : Store} {fetched : Window × List (Fill dec) × Nat}
    (run : fetchFills source reconciler gap account closedTsMs state store = (.ok fetched, after)) :
    0 ≤ gap.openedTsMs.toInt ∧ gap.openedTsMs.toInt ≤ closedTsMs.toInt := by
  unfold fetchFills at run
  split at run
  · cases run
  · split at run
    · cases run
    · rename_i window read
      exact outageWindow_ok_iff.mp ⟨window, read⟩

/-- If a walk fails for the row itself, the window of the row runs backwards or starts before
time. -/
theorem walkFills_error {around : Surroundings} {gap : Gap} {account : Address}
    {closedTsMs : Int64} {state after : source.State} {store reached : Store}
    {error : ReconcileError VenueError}
    (run : walkFills source reconciler around gap account closedTsMs state store =
      (.error error, after, reached)) (row : ofRow error = true) :
    ¬ (0 ≤ gap.openedTsMs.toInt ∧ gap.openedTsMs.toInt ≤ closedTsMs.toInt) := by
  unfold walkFills at run
  cases fetched : fetchFills source reconciler gap account closedTsMs state store with
  | mk result state' =>
      rw [fetched] at run
      cases result with
      | error failed =>
          cases run
          exact fetchFills_error fetched row
      | ok done =>
          obtain ⟨window, fills, pages⟩ := done
          dsimp only at run
          split at run
          · rename_i applied
            cases run
            rw [applyFills_error applied] at row
            cases row
          · cases run

/-- A walk that goes through is of a window that does not run backwards. -/
theorem walkFills_ok {around : Surroundings} {gap : Gap} {account : Address} {closedTsMs : Int64}
    {state after : source.State} {store reached : Store} {walked : Recovered × FillWalkReceipt}
    (run : walkFills source reconciler around gap account closedTsMs state store =
      (.ok walked, after, reached)) :
    0 ≤ gap.openedTsMs.toInt ∧ gap.openedTsMs.toInt ≤ closedTsMs.toInt := by
  unfold walkFills at run
  cases fetched : fetchFills source reconciler gap account closedTsMs state store with
  | mk result state' =>
      rw [fetched] at run
      cases result with
      | error failed => cases run
      | ok done => exact fetchFills_ok fetched

/-- The walk of a scope fails for its row only where a window of fills runs backwards. -/
theorem walkScope_error {around : Surroundings} {gap : Gap} {scope : GapScope}
    {closedTsMs : Int64} {state after : source.State} {store reached : Store}
    {error : ReconcileError VenueError}
    (run : walkScope source reconciler around gap closedTsMs state store scope =
      (.error error, after, reached)) (row : ofRow error = true) :
    ∃ user, scope = .userFills user ∧
      ¬ (0 ≤ gap.openedTsMs.toInt ∧ gap.openedTsMs.toInt ≤ closedTsMs.toInt) := by
  cases scope with
  | userFills user =>
      rw [walkScope] at run
      cases walked : walkFills source reconciler around gap user closedTsMs state store with
      | mk result rest =>
          obtain ⟨state', store'⟩ := rest
          rw [walked] at run
          cases result with
          | error failed =>
              cases run
              exact ⟨user, rfl, walkFills_error walked row⟩
          | ok done => cases run
  | orderUpdates => cases run
  | other => cases run

/-- A walk of a scope of fills that goes through is of a window that does not run backwards. -/
theorem walkScope_ok {around : Surroundings} {gap : Gap} {user : Address} {closedTsMs : Int64}
    {state after : source.State} {store reached : Store}
    {walked : Recovered × Option FillWalkReceipt}
    (run : walkScope source reconciler around gap closedTsMs state store (.userFills user) =
      (.ok walked, after, reached)) :
    0 ≤ gap.openedTsMs.toInt ∧ gap.openedTsMs.toInt ≤ closedTsMs.toInt := by
  rw [walkScope] at run
  cases fills : walkFills source reconciler around gap user closedTsMs state store with
  | mk result rest =>
      obtain ⟨state', store'⟩ := rest
      rw [fills] at run
      cases result with
      | error failed => cases run
      | ok done => exact walkFills_ok fills

/-- A closed gap of an account is worked off unless a window of fills runs backwards. -/
theorem closeWindow_outcome {around : Surroundings} {gap : Gap} {scope : GapScope}
    {account : Address} {closedTsMs : Int64} {state after : source.State} {store reached : Store}
    {result : Except (ReconcileError VenueError) (GapOutcome VenueError)}
    (run : closeWindow source reconciler around gap scope account closedTsMs [] state store =
      (result, after, reached)) :
    (∀ outcome, result = .ok outcome → outcome.isOutstanding = false ∧
      ∀ user, scope = .userFills user →
        0 ≤ gap.openedTsMs.toInt ∧ gap.openedTsMs.toInt ≤ closedTsMs.toInt) ∧
    ∀ error, result = .error error → ofRow error = true → ∃ user, scope = .userFills user ∧
      ¬ (0 ≤ gap.openedTsMs.toInt ∧ gap.openedTsMs.toInt ≤ closedTsMs.toInt) := by
  unfold closeWindow at run
  cases walked : walkScope source reconciler around gap closedTsMs state store scope with
  | mk walk rest =>
      obtain ⟨state', store'⟩ := rest
      rw [walked] at run
      cases walk with
      | error error =>
          cases run
          refine ⟨fun _ same => (nomatch same), ?_⟩
          rintro _ ⟨⟩ row
          exact walkScope_error walked row
      | ok done =>
          obtain ⟨recovered, fillWalk⟩ := done
          dsimp only at run
          cases asked : queryScope source account [] state' scope with
          | mk query last =>
              rw [asked] at run
              cases query with
              | error error =>
                  cases run
                  refine ⟨fun _ same => (nomatch same), ?_⟩
                  rintro _ ⟨⟩ row
                  rw [queryScope_error asked] at row
                  cases row
              | ok answer =>
                  obtain ⟨restingOrders, settled⟩ := answer
                  dsimp only at run
                  split at run
                  · cases run
                    refine ⟨fun _ same => (nomatch same), ?_⟩
                    rintro _ ⟨⟩ row
                    cases row
                  · cases run
                    refine ⟨?_, fun _ same => nomatch same⟩
                    rintro _ ⟨⟩
                    refine ⟨rfl, ?_⟩
                    rintro user rfl
                    exact walkScope_ok walked

/-- **Which gap stays outstanding** when nothing disturbs the work on it. -/
theorem workGap_outstanding {around : Surroundings} {gap : Gap} {state after : source.State}
    {store reached : Store} {outcome : GapOutcome VenueError}
    (run : workGap source reconciler around gap [] state store = (outcome, after, reached))
    (undisturbed : ∀ error, outcome.status = .failed error → ofRow error = true) :
    outcome.isOutstanding = false ↔
      Workable VenueError gap.scope gap.openedTsMs gap.closedTsMs := by
  unfold workGap at run
  cases work : reconcileGap source reconciler around gap [] state store with
  | mk result rest =>
      rw [work] at run
      unfold Workable
      unfold reconcileGap at work
      split at work
      · rename_i unreadable
        cases work
        cases run
        rw [unreadable]
        exact ⟨nofun, False.elim⟩
      · rename_i scope parsed
        rw [parsed]
        cases scope with
        | other name =>
            cases work
            cases run
            exact ⟨fun _ => trivial, fun _ => rfl⟩
        | orderUpdates user =>
            dsimp only [GapScope.account] at work ⊢
            split at work
            · rename_i still
              cases work
              cases run
              rw [still]
              exact ⟨nofun, fun ended => absurd rfl ended⟩
            · rename_i closedTsMs ended
              obtain ⟨done, failed⟩ := closeWindow_outcome work
              rw [ended]
              cases result with
              | ok outcome =>
                  cases run
                  exact ⟨fun _ => nofun, fun _ => (done _ rfl).1⟩
              | error error =>
                  cases run
                  obtain ⟨_, other, _⟩ := failed error rfl (undisturbed error rfl)
                  cases other
        | userFills user =>
            dsimp only [GapScope.account] at work ⊢
            split at work
            · rename_i still
              cases work
              cases run
              rw [still]
              exact ⟨nofun, nofun⟩
            · rename_i closedTsMs ended
              obtain ⟨done, failed⟩ := closeWindow_outcome work
              rw [ended]
              cases result with
              | ok outcome =>
                  cases run
                  exact ⟨fun _ => ⟨closedTsMs, rfl, (done _ rfl).2 user rfl⟩,
                    fun _ => (done _ rfl).1⟩
              | error error =>
                  cases run
                  obtain ⟨_, _, backwards⟩ := failed error rfl (undisturbed error rfl)
                  refine ⟨nofun, ?_⟩
                  rintro ⟨_, ⟨⟩, usable⟩
                  exact absurd usable backwards

/-- If nothing disturbs the work, no gap is left outstanding exactly when each of them can be worked
off. -/
theorem workGaps_outstanding {gaps : List Gap} {around : Nat → Surroundings}
    {state after : source.State} {store reached : Store} {outcomes : List (GapOutcome VenueError)}
    (run : workGaps source reconciler [] gaps around state store = (outcomes, after, reached))
    (undisturbed : Undisturbed outcomes) :
    (∀ outcome ∈ outcomes, outcome.isOutstanding = false) ↔
      ∀ gap ∈ gaps, Workable VenueError gap.scope gap.openedTsMs gap.closedTsMs := by
  induction gaps generalizing around state store outcomes with
  | nil =>
      cases run
      exact ⟨fun _ _ member => absurd member List.not_mem_nil,
        fun _ _ member => absurd member List.not_mem_nil⟩
  | cons gap gaps rest =>
      rw [workGaps] at run
      cases work : workGap source reconciler (around 0) gap [] state store with
      | mk outcome middle =>
          obtain ⟨state', store'⟩ := middle
          rw [work] at run
          cases more : workGaps source reconciler [] gaps (fun call => around (call + 1)) state'
              store' with
          | mk others last =>
              dsimp only at run
              rw [more] at run
              cases run
              rw [List.forall_mem_cons, List.forall_mem_cons,
                workGap_outstanding work (undisturbed outcome List.mem_cons_self),
                rest more fun other member => undisturbed other (List.mem_cons_of_mem _ member)]

/-- The work list is finished if every unreconciled row can be worked off. -/
theorem reconcileAll_finished {around : Nat → Surroundings} {state after : source.State}
    {store reached : Store} {outcomes : List (GapOutcome VenueError)}
    (run : reconcileAll source reconciler [] around state store = (.ok outcomes, after, reached))
    (undisturbed : Undisturbed outcomes) :
    outcomes.countP GapOutcome.isOutstanding = 0 ↔
      ∀ row ∈ store.db.feedGaps, row.reconciledTsMs = none →
        Workable VenueError row.scope row.openedTsMs row.closedTsMs := by
  unfold reconcileAll at run
  cases listed : unreconciledGaps store.db with
  | error error =>
      rw [listed] at run
      cases run
  | ok gaps =>
      rw [listed] at run
      dsimp only at run
      cases worked : workGaps source reconciler [] gaps around state store with
      | mk others rest =>
          rw [worked] at run
          cases run
          have rows := mapM_ok_iff.mp listed
          rw [List.countP_eq_zero]
          constructor
          · intro none row member unreconciled
            have all := (workGaps_outstanding worked undisturbed).mp fun outcome inside =>
              Bool.eq_false_iff.mpr (none outcome inside)
            obtain ⟨gap, found, read⟩ := forall₂_left_of_right rows.flip
              (List.mem_filter.mpr ⟨member, decide_eq_true unreconciled⟩)
            have workable := all gap found
            obtain ⟨_, _, read⟩ := bind_eq_ok read
            obtain ⟨_, _, read⟩ := bind_eq_ok read
            cases read
            exact workable
          · intro all outcome inside
            refine Bool.eq_false_iff.mp
              ((workGaps_outstanding worked undisturbed).mpr (fun gap found => ?_) outcome inside)
            obtain ⟨row, member, read⟩ := forall₂_left_of_right rows found
            obtain ⟨inside, unreconciled⟩ := List.mem_filter.mp member
            have workable := all row inside (of_decide_eq_true unreconciled)
            obtain ⟨_, _, read⟩ := bind_eq_ok read
            obtain ⟨_, _, read⟩ := bind_eq_ok read
            cases read
            exact workable

end Gaps

/-! ## The session -/

section Session

variable {dec : Quotients} {VenueError : Type} {source : ReconcileSource dec VenueError}
  (reconciler : Reconciler) (texts : Texts VenueError) (monitors : Nat → Monitor)

/-- Reporting a walk of fills changes neither the readiness of the session nor its channel. -/
theorem reportFillWalk_kept (stamp : FeedStamp) (session : FeedSession)
    (outcome : GapOutcome VenueError) :
    (reportFillWalk monitors stamp session outcome).reconciled = session.reconciled ∧
      (reportFillWalk monitors stamp session outcome).failure = session.failure ∧
      (reportFillWalk monitors stamp session outcome).ingress = session.ingress ∧
      (reportFillWalk monitors stamp session outcome).stamp monitors =
        session.stamp monitors := by
  unfold reportFillWalk FeedSession.recordFillWalk
  split
  · split
    · exact ⟨rfl, rfl, rfl, rfl⟩
    · exact ⟨rfl, rfl, rfl, rfl⟩
  · exact ⟨rfl, rfl, rfl, rfl⟩

/-- A report never makes a session ready. -/
theorem reportOutcome_unready (stamp : FeedStamp) {session : FeedSession}
    (outcome : GapOutcome VenueError) (unready : session.reconciled = false) :
    (reportOutcome texts monitors stamp session outcome).reconciled = false := by
  have walked : (reportFillWalk monitors stamp session outcome).reconciled = false :=
    (reportFillWalk_kept monitors stamp session outcome).1.trans unready
  unfold reportOutcome
  split
  · unfold recordReconcileFailure
    split
    · rfl
    · exact walked
  · exact walked

/-- The report of a gap that is not outstanding leaves the session but for its receipt. -/
theorem reportOutcome_kept (stamp : FeedStamp) (session : FeedSession)
    {outcome : GapOutcome VenueError} (done : outcome.isOutstanding = false) :
    (reportOutcome texts monitors stamp session outcome).failure = session.failure ∧
      (reportOutcome texts monitors stamp session outcome).ingress = session.ingress ∧
      (reportOutcome texts monitors stamp session outcome).stamp monitors =
        session.stamp monitors := by
  have walked := (reportFillWalk_kept monitors stamp session outcome).2
  unfold reportOutcome
  unfold GapOutcome.isOutstanding at done
  cases status : outcome.status with
  | reconciled => exact walked
  | notAnAccountFeed => exact walked
  | stillOpen =>
      rw [status] at done
      cases done
  | failed error =>
      rw [status] at done
      cases done

/-- No report of an outcome makes a session ready. -/
theorem reports_unready (stamp : FeedStamp) (outcomes : List (GapOutcome VenueError))
    {session : FeedSession} (unready : session.reconciled = false) :
    (outcomes.foldl (reportOutcome texts monitors stamp) session).reconciled = false := by
  induction outcomes generalizing session with
  | nil => exact unready
  | cons outcome rest more =>
      exact more (reportOutcome_unready texts monitors stamp outcome unready)

/-- Reports of gaps that are worked off fail nothing and withdraw nothing. -/
theorem reports_kept (stamp : FeedStamp) {outcomes : List (GapOutcome VenueError)}
    (done : ∀ outcome ∈ outcomes, outcome.isOutstanding = false) (session : FeedSession) :
    (outcomes.foldl (reportOutcome texts monitors stamp) session).failure = session.failure ∧
      (outcomes.foldl (reportOutcome texts monitors stamp) session).ingress = session.ingress ∧
      (outcomes.foldl (reportOutcome texts monitors stamp) session).stamp monitors =
        session.stamp monitors := by
  induction outcomes generalizing session with
  | nil => exact ⟨rfl, rfl, rfl⟩
  | cons outcome rest more =>
      obtain ⟨first, others⟩ := List.forall_mem_cons.mp done
      obtain ⟨failure, ingress, same⟩ := more others
        (reportOutcome texts monitors stamp session outcome)
      obtain ⟨failure', ingress', same'⟩ :=
        reportOutcome_kept texts monitors stamp session first
      exact ⟨failure.trans failure', ingress.trans ingress', same.trans same'⟩

/-- A reconcile of a sound session ends ready exactly when nothing is outstanding. -/
theorem reconcile_ready {around : Nat → Surroundings} {atMs : Nat} {session : FeedSession}
    {venue after : source.State} {store reached : Store} {outcomes : List (GapOutcome VenueError)}
    (sound : session.failure = none) (drained : session.drained monitors = true)
    (run : reconcileAll source reconciler [] around venue store = (.ok outcomes, after, reached)) :
    ((reconcile source reconciler texts monitors around atMs session venue store).1.state
        monitors).reconciled = true ↔ outcomes.countP GapOutcome.isOutstanding = 0 := by
  unfold reconcile
  rw [run]
  dsimp only
  by_cases noneThere : outcomes.countP GapOutcome.isOutstanding = 0
  · have done : ∀ outcome ∈ outcomes, outcome.isOutstanding = false := fun outcome member =>
      Bool.eq_false_iff.mpr (List.countP_eq_zero.mp noneThere outcome member)
    obtain ⟨failure, ingress, same⟩ := reports_kept texts monitors
      (session.invalidate.stamp monitors) done session.invalidate
    have kept : (session.invalidate).failure = none := sound
    have still : session.invalidate.drained monitors = true := drained
    rw [if_pos noneThere, FeedSession.markReconciled, if_neg (not_not.mpr same.symm)]
    unfold FeedSession.drained at still
    simp only [FeedSession.state, FeedSession.tick, FeedSession.drained, failure, kept, ingress,
      Option.isNone_none, Bool.true_and, noneThere]
    exact ⟨fun _ => trivial, fun _ => still⟩
  · rw [if_neg noneThere]
    have unready := reports_unready texts monitors (session.invalidate.stamp monitors) outcomes
      (show session.invalidate.reconciled = false from rfl)
    simp only [FeedSession.state, unready, Bool.false_and, noneThere, Bool.false_eq_true]

/-! ## The startup windows -/

/-- Writing the startup windows never takes the epoch back. -/
theorem startWindows_epoch (publish : Nat → Bool × Bool) (atMs : Int64) (scopes : List String)
    (session : FeedSession) (store : Store) :
    session.epoch ≤ (startWindows reconciler texts publish atMs scopes session store).1.epoch := by
  induction scopes generalizing publish session store with
  | nil => exact le_rfl
  | cons scope scopes rest =>
      rw [startWindows]
      split
      · exact rest (fun call => publish (call + 1)) session _
      · exact (Nat.le_succ _).trans
          (rest (fun call => publish (call + 1)) (session.recordFailure _) _)

/-- Only a failure moves the session. -/
theorem startWindows_same {publish : Nat → Bool × Bool} {atMs : Int64} {scopes : List String}
    {session : FeedSession} {store : Store}
    (same : (startWindows reconciler texts publish atMs scopes session store).1.epoch =
      session.epoch) :
    (startWindows reconciler texts publish atMs scopes session store).1 = session := by
  induction scopes generalizing publish store with
  | nil => rfl
  | cons scope scopes rest =>
      rw [startWindows] at same ⊢
      split at same
      · exact rest same
      · rename_i error after _
        have later := startWindows_epoch reconciler texts (fun call => publish (call + 1)) atMs
          scopes
          (session.recordFailure
            ("could not open or close startup window " ++ scope ++ ": " ++
              texts.ledger error)) after
        rw [same] at later
        exact absurd later (Nat.not_succ_le_self _)

/-- Windows that record no failure of the session are all closed. -/
theorem startWindows_closed {publish : Nat → Bool × Bool} {atMs : Int64} {scopes : List String}
    {session : FeedSession} {store middle : Store} (single : SingleGaps store.db.feedGaps)
    (windows : startWindows reconciler texts publish atMs scopes session store =
      (session, middle)) :
    WindowsClosed scopes atMs store.db.feedGaps middle.db.feedGaps := by
  induction scopes generalizing publish store with
  | nil =>
      cases windows
      exact .none atMs _
  | cons scope scopes rest =>
      rw [startWindows] at windows
      split at windows
      · rename_i after ran
        unfold startWindow at ran
        split at ran
        · cases ran
        · rename_i gap opened opening
          cases closing : closeGap reconciler.lib reconciler.handle (publish 0).2 gap.gapId atMs
              opened with
          | mk result closed =>
              rw [closing] at ran
              cases result with
              | error error => cases ran
              | ok appended =>
                  cases ran
                  obtain ⟨single', first⟩ := single.window opening closing
                  exact first.cons (rest single' windows)
      · -- a failure moves the session on
        rename_i error after ran
        have later := startWindows_epoch reconciler texts (fun call => publish (call + 1)) atMs
          scopes
          (session.recordFailure
            ("could not open or close startup window " ++ scope ++ ": " ++
              texts.ledger error)) after
        rw [windows] at later
        exact absurd later (Nat.not_succ_le_self _)

/-- When a row's window ends: where it did, or at start-up if it is one of the account's. -/
def endsAt (account : Address) (atMs : Int64) (row : GapRow) : Option Int64 :=
  row.closedTsMs.or (if row.scope ∈ accountScopes account then some atMs else none)

/-- Stripping a stem gives back what was put behind it. -/
theorem stripPrefix_append (stem rest : String) : stripPrefix stem (stem ++ rest) = some rest := by
  simp [stripPrefix]

/-- The key of an account's fills parses as the scope of these fills. -/
theorem parse_userFills (VenueError : Type) (account : Address) :
    (GapScope.parse (Subscription.userFills account).key :
      Except (ReconcileError VenueError) GapScope) = .ok (.userFills account) := by
  simp only [GapScope.parse, Subscription.key, stripPrefix_append, Address.parse_display]

/-- The key of an account's order updates parses as the scope of these updates. -/
theorem parse_orderUpdates (VenueError : Type) (account : Address) :
    (GapScope.parse (Subscription.orderUpdates account).key :
      Except (ReconcileError VenueError) GapScope) = .ok (.orderUpdates account) := by
  have fills : stripPrefix "userFills:" (Subscription.orderUpdates account).key = none := by
    simp [stripPrefix, Subscription.key]
  rw [GapScope.parse, fills]
  simp only [Subscription.key, stripPrefix_append, Address.parse_display]

/-- A window that start-up opens and closes can be worked off. -/
theorem workable_startWindow (VenueError : Type) {account : Address} {scope : String}
    {atMs : Int64} (named : scope ∈ accountScopes account) (clock : 0 ≤ atMs.toInt) :
    Workable VenueError scope atMs (some atMs) := by
  rcases List.mem_cons.mp named with rfl | other
  · rw [Workable, parse_userFills]
    exact ⟨atMs, rfl, clock, le_rfl⟩
  · rw [List.mem_singleton.mp other, Workable, parse_orderUpdates]
    exact Option.some_ne_none _

end Session

/-- **Start-up ends ready exactly if every gap left open can be worked off.** Whatever earlier runs
left in the ledger: if the startup windows could be written, no read of the venue failed, no walk
stalled or ran out of pages and the ledger served the work, the session is ready after
`catch_up` if and only if every unreconciled gap is of no account, or it has ended (or is one of
the two that start-up ends) and, if it is a window of fills, does not run backwards. -/
theorem catchUp_ready_iff {dec : Quotients} {VenueError : Type}
    {source : ReconcileSource dec VenueError} {reconciler : Reconciler} {account : Address}
    {texts : Texts VenueError} {monitors : Nat → Monitor} {startUp : StartUp}
    {priors : List (LedgerAct dec.toDecimals)} {store middle reached : Store}
    {session : FeedSession} {venue after : source.State}
    {outcomes : List (GapOutcome VenueError)}
    (prior : Run (LedgerStep reconciler.lib dec.toDecimals reconciler.handle)
      (opened reconciler.lib reconciler.handle) priors store)
    (sound : session.failure = none) (drained : session.drained monitors = true)
    (clock : 0 ≤ startUp.atMs.toInt)
    (windows : startWindows reconciler texts startUp.publish startUp.atMs (accountScopes account)
      session store = (session, middle))
    (walked : reconcileAll source reconciler [] startUp.around venue middle =
      (.ok outcomes, after, reached))
    (undisturbed : Undisturbed outcomes) :
    ((catchUp source reconciler account texts monitors startUp session venue store).1.state
        monitors).reconciled = true ↔
      ∀ row ∈ store.db.feedGaps, row.reconciledTsMs = none →
        Workable VenueError row.scope row.openedTsMs (endsAt account startUp.atMs row) := by
  obtain ⟨-, single⟩ := SingleGaps.run prior
  have closed := startWindows_closed reconciler texts single windows
  rw [catchUp, windows]
  dsimp only
  rw [reconcile_ready reconciler texts monitors sound drained walked,
    reconcileAll_finished walked undisturbed]
  constructor
  · intro all row member unreconciled
    obtain ⟨held, inside, ended⟩ := closed.kept row member
    have workable := all held inside (ended.reconciled.trans unreconciled)
    rwa [ended.scope, ended.opened, ended.closed] at workable
  · intro all held inside unreconciled
    rcases closed.only held inside with ⟨row, member, ended⟩ | ⟨named, opened, closed⟩
    · have workable := all row member (ended.reconciled.symm.trans unreconciled)
      rwa [ended.scope, ended.opened, ended.closed]
    · rw [opened, closed]
      exact workable_startWindow VenueError named clock

namespace LeftOpen

def lib : Libraries := .reference checksum

def account : Address := .filled 0

/-- An account that an earlier run traded. -/
def earlier : Address := .filled 1

def reconciler : Reconciler := ⟨lib, ⟨.testnet, false⟩, 0, .default⟩

/-- A venue without fills. -/
def source : ReconcileSource Quotients.reference Empty :=
  FakeVenue.source ⟨.testnet, fun _ => [], [], fun _ => none, 2000⟩ Empty

def texts : Texts Empty := ⟨fun _ => "", fun _ => ""⟩

def monitors : Nat → Monitor := fun _ => .new

def startUp : StartUp := ⟨fun _ => (true, true), 10, fun _ => ⟨fun _ => 10, fun _ => true⟩, 10⟩

/-- The session of a pump that begins. -/
def session : FeedSession := ⟨2, some 0, some (.testnet, account), none, false, none, none, some 0⟩

/-- A run that lost its socket at the fifth millisecond and ended. -/
def lost (user : Address) : LedgerAct Quotients.reference.toDecimals :=
  .call ⟨.openGap (Subscription.userFills user).key 5 (some "socket closed"), true⟩

/-- The ledger that it left. -/
def store (user : Address) : Store :=
  (openGap lib reconciler.handle true (Subscription.userFills user).key 5 (some "socket closed")
    (Ledger.opened lib reconciler.handle)).2

theorem store_run (user : Address) :
    Run (LedgerStep lib Quotients.reference.toDecimals reconciler.handle)
      (Ledger.opened lib reconciler.handle) [lost user] (store user) :=
  .single rfl

/-- The ledger once the startup windows are closed. -/
def middle (user : Address) : Store :=
  (startWindows reconciler texts startUp.publish startUp.atMs (accountScopes account) session
    (store user)).2

/-- Where the epoch stands, the startup windows were closed and the session is as it was. -/
theorem windows_closed {user : Address}
    (same : (startWindows reconciler texts startUp.publish startUp.atMs (accountScopes account)
      session (store user)).1.epoch = session.epoch) :
    startWindows reconciler texts startUp.publish startUp.atMs (accountScopes account) session
      (store user) = (session, middle user) := by
  rw [middle]
  exact Prod.ext (startWindows_same reconciler texts same) rfl

/-- Whether a work list was read and nothing disturbed the work on it. -/
def served : Except (ReconcileError Empty) (List (GapOutcome Empty)) → Bool
  | .ok outcomes => outcomes.all fun outcome =>
      match outcome.status with
      | .failed error => ofRow error
      | _ => true
  | .error _ => false

/-- A work list that was served was read and undisturbed. -/
theorem undisturbed_of_served {State : Type}
    {ran : Except (ReconcileError Empty) (List (GapOutcome Empty)) × State × Store}
    (fine : served ran.1 = true) :
    ∃ outcomes, ran = (.ok outcomes, ran.2.1, ran.2.2) ∧ Undisturbed outcomes := by
  obtain ⟨result, after, reached⟩ := ran
  cases result with
  | error error => cases fine
  | ok outcomes =>
      refine ⟨outcomes, rfl, fun outcome member error failed => ?_⟩
      have here := List.all_eq_true.mp fine outcome member
      rwa [failed] at here

/-- The window that an earlier run left open for its account keeps start-up from ending ready. -/
theorem earlier_account_blocks : ¬ ∀ priors store middle reached after outcomes,
    Run (LedgerStep lib Quotients.reference.toDecimals reconciler.handle)
      (Ledger.opened lib reconciler.handle) priors store →
    startWindows reconciler texts startUp.publish startUp.atMs (accountScopes account) session
      store = (session, middle) →
    reconcileAll source reconciler [] startUp.around [] middle = (.ok outcomes, after, reached) →
    Undisturbed outcomes →
    ((catchUp source reconciler account texts monitors startUp session [] store).1.state
      monitors).reconciled = true := by
  intro always
  obtain ⟨outcomes, walked, undisturbed⟩ := undisturbed_of_served
    (show served (reconcileAll source reconciler [] startUp.around [] (middle earlier)).1 = true by
      decide +kernel)
  have ready := always [lost earlier] (store earlier) (middle earlier) _ _ outcomes
    (store_run earlier) (windows_closed (by decide +kernel)) walked undisturbed
  have blocked : ((catchUp source reconciler account texts monitors startUp session []
      (store earlier)).1.state monitors).reconciled = false := by decide +kernel
  rw [blocked] at ready
  cases ready

/-- A window that an earlier run of the account left open does not. -/
theorem own_window_ready : ((catchUp source reconciler account texts monitors startUp session []
    (store account)).1.state monitors).reconciled = true := by
  obtain ⟨outcomes, walked, undisturbed⟩ := undisturbed_of_served
    (show served (reconcileAll source reconciler [] startUp.around [] (middle account)).1 = true by
      decide +kernel)
  refine (catchUp_ready_iff (store_run account) rfl rfl (by decide)
    (windows_closed (by decide +kernel)) walked undisturbed).mpr ?_
  intro row member _
  have only : (store account).db.feedGaps =
      [⟨1, (Subscription.userFills account).key, 5, none, none, 1, none,
        some "socket closed"⟩] := by
    decide +kernel
  rw [only, List.mem_singleton] at member
  subst member
  rw [Workable, parse_userFills]
  exact ⟨10, rfl, by decide, by decide⟩

end LeftOpen

end Oppen.Feed
