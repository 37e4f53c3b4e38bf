import Oppen.Ledger.FillKeys
import Oppen.Ledger.GapCalls
import Oppen.Reconcile.Attribution
import Oppen.Reconcile.Backfill

/-! # Closing a gap

One gap of an account feed is closed by walking its fills into the ledger and asking for
the orders that are not resting. It is marked reconciled last, and only if all of that went
through.
-/

namespace Oppen.Reconcile

open Foundation Oppen.Ledger

/-! ## Scopes -/

/-- What a gap's scope names. -/
inductive GapScope where
  | userFills (account : Address)
  | orderUpdates (account : Address)
  | other (scope : String)
  deriving DecidableEq

/-- `str::strip_prefix`. -/
def stripPrefix (stem text : String) : Option String :=
  if stem.toList.isPrefixOf text.toList then
    some (String.ofList (text.toList.drop stem.toList.length))
  else none

/-- `GapScope::parse`: an account feed whose address does not read is an error. -/
def GapScope.parse {VenueError : Type} (scope : String) :
    Except (ReconcileError VenueError) GapScope :=
  match stripPrefix "userFills:" scope with
  | some rest =>
      match Address.parse rest with
      | some account => .ok (.userFills account)
      | none => .error (.unreadableScope scope)
  | none =>
      match stripPrefix "orderUpdates:" scope with
      | some rest =>
          match Address.parse rest with
          | some account => .ok (.orderUpdates account)
          | none => .error (.unreadableScope scope)
      | none => .ok (.other scope)

def GapScope.account : GapScope → Option Address
  | .userFills account | .orderUpdates account => some account
  | .other _ => none

/-! ## The window -/

/-- `VENUE_CLOCK_MARGIN_MS`. -/
def venueClockMarginMs : Nat := 5 * 60 * 1000

/-- `FIRST_RUN_LOOKBACK_MS`. -/
def firstRunLookbackMs : Nat := 30 * 24 * 60 * 60 * 1000

/-- `u64::saturating_add`. -/
def saturatingAdd (left right : Nat) : Nat := min (left + right) (2 ^ 64 - 1)

/-- The venue-time window of a gap's walk. -/
structure Window where
  startMs : Nat
  outageEndsMs : Option Nat
  deriving DecidableEq, Repr

/-- `Window::recovered_from`. -/
def Window.recoveredFrom (window : Window) (gapId : Int) : Option RecoveredWindow :=
  window.outageEndsMs.map fun horizonMs => ⟨gapId, horizonMs⟩

/-- `outage_window`: a host reading only bounds the anchor from above. -/
def outageWindow {VenueError : Type} (gap : Gap) (closedTsMs : Int64) (anchor : Option Nat) :
    Except (ReconcileError VenueError) Window := do
  let unusable := .unusableWindow gap.gapId gap.openedTsMs closedTsMs
  refuseIf (gap.openedTsMs.toInt < 0) unusable
  refuseIf (closedTsMs.toInt < 0) unusable
  let openedMs := gap.openedTsMs.toInt.toNat
  let closedMs := closedTsMs.toInt.toNat
  refuseIf (closedMs < openedMs) unusable
  let outageMs := closedMs - openedMs
  match anchor.filter fun anchorMs => anchorMs ≤ saturatingAdd openedMs firstRunLookbackMs with
  | some anchorMs =>
      return ⟨anchorMs - venueClockMarginMs,
        some (saturatingAdd (saturatingAdd anchorMs outageMs) venueClockMarginMs)⟩
  | none => return ⟨openedMs - firstRunLookbackMs, none⟩

/-! ## Orders -/

/-- What the venue said about an order that is not resting. -/
inductive Settlement where
  | known (oid : UInt64) (status : String) (statusTsMs : UInt64)
  | retired
  deriving DecidableEq

/-- `OrderReconciliation::partition`: the pending orders that do not rest, by their text. -/
def unknownOrders (pending : List Cloid) (openOrders : List OpenOrder) : List Cloid :=
  (pending.dedup.insertionSort fun first second => first.text ≤ second.text).filter fun cloid =>
    some cloid ∉ openOrders.map OpenOrder.cloid

section Closing

variable {dec : Quotients} {VenueError : Type} (source : ReconcileSource dec VenueError)

/-- `OrderReconciliation::settle_all`. -/
def settleAll (account : Address) :
    List Cloid → source.State →
      Except (ReconcileError VenueError) (List (Cloid × Settlement)) × source.State
  | [], state => (.ok [], state)
  | cloid :: rest, state =>
      match source.orderStatus account cloid state with
      | (.error error, state) => (.error (.venue error), state)
      | (.ok response, state) =>
          let settlement := match response with
            | .order oid status statusTimestamp => .known oid status statusTimestamp
            | .unknownOid => .retired
          match settleAll account rest state with
          | (.error error, state) => (.error error, state)
          | (.ok settled, state) => (.ok ((cloid, settlement) :: settled), state)

/-! ## One gap -/

/-- What a completed fills walk covered. -/
structure FillWalkReceipt where
  ledgerIdentity : Nat
  network : Network
  account : Address
  requestedStartMs : Nat
  requestedEndMs : Option Nat
  pages : Nat
  terminatedByShortPage : Bool
  localReadStartedAtMs : Int64
  localReadCompletedAtMs : Int64
  initialWindow : Bool
  deriving DecidableEq

/-- What happened to one gap. -/
inductive GapStatus (VenueError : Type) where
  | reconciled
  | stillOpen
  | notAnAccountFeed
  | failed (error : ReconcileError VenueError)

/-- The report for one gap. -/
structure GapOutcome (VenueError : Type) where
  gapId : Int
  scope : String
  status : GapStatus VenueError
  recovered : Recovered
  restingOrders : Option Nat
  settled : List (String × Settlement)
  fillWalk : Option FillWalkReceipt

/-- Whether a gap is still to be worked; a gap of no account is for another component. -/
def GapOutcome.isOutstanding {VenueError : Type} (outcome : GapOutcome VenueError) : Bool :=
  match outcome.status with
  | .reconciled | .notAnAccountFeed => false
  | .stillOpen | .failed _ => true

/-- A report of a gap that was not closed. -/
def GapOutcome.unfinished (gap : Gap) (status : GapStatus VenueError) : GapOutcome VenueError :=
  ⟨gap.gapId, gap.scope, status, .empty, none, [], none⟩

/-- What a reconciler is given: the libraries, the ledger it writes to and how it pages. -/
structure Reconciler where
  lib : Libraries
  handle : Handle
  ledgerIdentity : Nat
  config : ReconcileConfig

/-- What a pass meets outside: the clock at each reading, and which heads are published. -/
structure Surroundings where
  clock : Nat → Int64
  publish : Nat → Bool

variable (reconciler : Reconciler)

/-- The fills of a gap from the venue, with the window they were asked for. -/
def fetchFills (gap : Gap) (account : Address) (closedTsMs : Int64) (state : source.State)
    (store : Store) :
    Except (ReconcileError VenueError) (Window × List (Fill dec) × Nat) × source.State :=
  -- the anchor is read where the gap was opened, so nothing written later moves it
  match newestFillTsMs store.db account.display gap.openSeq with
  | .error error => (.error (.ledger error), state)
  | .ok anchor =>
      match outageWindow gap closedTsMs anchor with
      | .error error => (.error error, state)
      | .ok window =>
          match backfillFills source account window.startMs reconciler.config state with
          | (.error error, state) => (.error error, state)
          | (.ok (fills, pages), state) => (.ok (window, fills, pages), state)

/-- The fills walk of a gap: fetch, then record. -/
def walkFills (around : Surroundings) (gap : Gap) (account : Address) (closedTsMs : Int64)
    (state : source.State) (store : Store) :
    Except (ReconcileError VenueError) (Recovered × FillWalkReceipt) × source.State × Store :=
  match fetchFills source reconciler gap account closedTsMs state store with
  | (.error error, state) => (.error error, state, store)
  | (.ok (window, fills, pages), state) =>
      match applyFills reconciler.lib dec VenueError reconciler.handle around.publish account fills
          (window.recoveredFrom gap.gapId) store with
      | (.error error, store) => (.error error, state, store)
      | (.ok recovered, store) =>
          let recovered := if window.outageEndsMs = none then
              { recovered with
                findings := recovered.findings ++ [.firstRunWindow account.display window.startMs] }
            else recovered
          (.ok (recovered,
            { ledgerIdentity := reconciler.ledgerIdentity, network := reconciler.handle.network
              account, requestedStartMs := window.startMs, requestedEndMs := none, pages
              terminatedByShortPage := true, localReadStartedAtMs := around.clock 0
              localReadCompletedAtMs := around.clock 1
              initialWindow := window.outageEndsMs.isNone }), state, store)

/-- The orders of a gap: what rests, and what became of the pending ones that do not. -/
def queryOrders (account : Address) (pending : List Cloid) (state : source.State) :
    Except (ReconcileError VenueError) (Nat × List (Cloid × Settlement)) × source.State :=
  match source.frontendOpenOrders account state with
  | (.error error, state) => (.error (.venue error), state)
  | (.ok openOrders, state) =>
      match settleAll source account (unknownOrders pending openOrders) state with
      | (.error error, state) => (.error error, state)
      | (.ok settled, state) => (.ok (openOrders.length, settled), state)

/-- The orders that were retired, as findings. -/
def retiredFindings (settled : List (Cloid × Settlement)) : List Finding :=
  (settled.filter fun entry => entry.2 = .retired).map fun entry => .orderRetired entry.1

/-- The fills walk, of a gap whose scope has fills. -/
def walkScope (around : Surroundings) (gap : Gap) (closedTsMs : Int64) (state : source.State)
    (store : Store) : GapScope →
      Except (ReconcileError VenueError) (Recovered × Option FillWalkReceipt) × source.State × Store
  | .userFills account =>
      match walkFills source reconciler around gap account closedTsMs state store with
      | (.error error, state, store) => (.error error, state, store)
      | (.ok (recovered, receipt), state, store) => (.ok (recovered, some receipt), state, store)
  | _ => (.ok (.empty, none), state, store)

/-- The order query, of a gap whose scope has transitions, or with something outstanding. -/
def queryScope (account : Address) (pending : List Cloid) (state : source.State)
    (scope : GapScope) :
    Except (ReconcileError VenueError) (Option Nat × List (Cloid × Settlement)) × source.State :=
  if scope = .orderUpdates account ∨ pending ≠ [] then
    match queryOrders source account pending state with
    | (.error error, state) => (.error error, state)
    | (.ok (resting, settled), state) => (.ok (some resting, settled), state)
  else (.ok (none, []), state)

/-- The work on a closed gap of an account: fills first, the mark last. -/
def closeWindow (around : Surroundings) (gap : Gap) (scope : GapScope) (account : Address)
    (closedTsMs : Int64) (pending : List Cloid) (state : source.State) (store : Store) :
    Except (ReconcileError VenueError) (GapOutcome VenueError) × source.State × Store :=
  match walkScope source reconciler around gap closedTsMs state store scope with
  | (.error error, state, store) => (.error error, state, store)
  | (.ok (recovered, fillWalk), state, store) =>
      match queryScope source account pending state scope with
      | (.error error, state) => (.error error, state, store)
      | (.ok (restingOrders, settled), state) =>
          match markGapReconciled gap.gapId (around.clock 2) store with
          | (.error error, store) => (.error (.ledger error), state, store)
          | (.ok (), store) =>
              (.ok {
                gapId := gap.gapId, scope := gap.scope, status := .reconciled
                recovered := { recovered with
                  findings := recovered.findings ++ retiredFindings settled }
                restingOrders
                settled := settled.map fun entry => (entry.1.text, entry.2)
                fillWalk }, state, store)

/-- `reconcile_gap`. -/
def reconcileGap (around : Surroundings) (gap : Gap) (pending : List Cloid)
    (state : source.State) (store : Store) :
    Except (ReconcileError VenueError) (GapOutcome VenueError) × source.State × Store :=
  match (GapScope.parse gap.scope : Except (ReconcileError VenueError) GapScope) with
  | .error error => (.error error, state, store)
  | .ok scope =>
      match scope.account with
      | none => (.ok (.unfinished gap .notAnAccountFeed), state, store)
      | some account =>
          match gap.closedTsMs with
          | none => (.ok (.unfinished gap .stillOpen), state, store)
          | some closedTsMs =>
              closeWindow source reconciler around gap scope account closedTsMs pending state store

/-- One gap of `reconcile_all`: a failure is the outcome of its gap. -/
def workGap (around : Surroundings) (gap : Gap) (pending : List Cloid) (state : source.State)
    (store : Store) : GapOutcome VenueError × source.State × Store :=
  match reconcileGap source reconciler around gap pending state store with
  | (.error error, state, store) => (.unfinished gap (.failed error), state, store)
  | (.ok outcome, state, store) => (outcome, state, store)

/-- The gaps of a work list, in order. -/
def workGaps (pending : List Cloid) : List Gap → (around : Nat → Surroundings) → source.State →
    Store → List (GapOutcome VenueError) × source.State × Store
  | [], _, state, store => ([], state, store)
  | gap :: rest, around, state, store =>
      let (outcome, state, store) := workGap source reconciler (around 0) gap pending state store
      let (outcomes, state, store) :=
        workGaps pending rest (fun call => around (call + 1)) state store
      (outcome :: outcomes, state, store)

/-- `reconcile_all`: only the work list itself is fatal. -/
def reconcileAll (pending : List Cloid) (around : Nat → Surroundings) (state : source.State)
    (store : Store) :
    Except (ReconcileError VenueError) (List (GapOutcome VenueError)) × source.State × Store :=
  match unreconciledGaps store.db with
  | .error error => (.error (.ledger error), state, store)
  | .ok gaps =>
      let (outcomes, state, store) := workGaps source reconciler pending gaps around state store
      (.ok outcomes, state, store)

end Closing

/-! ## What the work on a gap does to the ledger -/

section Runs

variable {dec : Quotients} {VenueError : Type} {source : ReconcileSource dec VenueError}
  {reconciler : Reconciler} {around : Surroundings} {gap : Gap} {store : Store}

/-- The ledger got there without a gap being opened. -/
def OpensNone (reconciler : Reconciler) (dec : Quotients) (before after : Store) : Prop :=
  ∃ acts, Run (LedgerStep reconciler.lib dec.toDecimals reconciler.handle) before acts after ∧
    ∀ act ∈ acts, act.opens = none

theorem OpensNone.refl (store : Store) : OpensNone reconciler dec store store :=
  ⟨[], .nil, fun _ member => absurd member List.not_mem_nil⟩

/-- A run that opens no gap stays one after an act that opens none. -/
theorem OpensNone.snoc {middle after : Store} (before : OpensNone reconciler dec store middle)
    {act : LedgerAct dec.toDecimals}
    (step : LedgerStep reconciler.lib dec.toDecimals reconciler.handle middle act after)
    (opens : act.opens = none) : OpensNone reconciler dec store after := by
  obtain ⟨acts, run, none⟩ := before
  refine ⟨acts ++ [act], .snoc run step, fun other member => ?_⟩
  rcases List.mem_append.mp member with older | last
  · exact none other older
  · rw [List.mem_singleton.mp last]
    exact opens

/-- Marking a gap opens none. -/
theorem OpensNone.mark {middle after : Store} (before : OpensNone reconciler dec store middle)
    {gapId : Int} {tsMs : Int64} {result : Except LedgerError Unit}
    (run : markGapReconciled gapId tsMs middle = (result, after)) :
    OpensNone reconciler dec store after := by
  have step : LedgerStep reconciler.lib dec.toDecimals reconciler.handle middle
      (.mark gapId tsMs) after := congrArg Prod.snd run
  exact before.snoc step rfl

/-- A walk over fills opens no gap. -/
theorem walkFills_opensNone (account : Address) (closedTsMs : Int64) (state : source.State) :
    OpensNone reconciler dec store
      (walkFills source reconciler around gap account closedTsMs state store).2.2 := by
  rw [walkFills]
  split
  · exact .refl store
  · rename_i window fills pages state _
    obtain ⟨requests, run, offers⟩ := @applyFills_run reconciler.lib dec reconciler.handle account
      (window.recoveredFrom gap.gapId) VenueError around.publish fills store
    have recorded : OpensNone reconciler dec store (applyFills reconciler.lib dec VenueError
        reconciler.handle around.publish account fills
          (window.recoveredFrom gap.gapId) store).2 := by
      refine ⟨requests.map .call, ledgerRun_of_run run, fun act member => ?_⟩
      obtain ⟨request, inside, rfl⟩ := List.mem_map.mp member
      obtain ⟨fill, _, attribution, call⟩ := offers request inside
      rw [LedgerAct.opens, call]
      rfl
    split
    · rename_i failed
      rwa [failed] at recorded
    · rename_i done
      rwa [done] at recorded

/-- A walk over a scope opens no gap. -/
theorem walkScope_opensNone (scope : GapScope) (closedTsMs : Int64) (state : source.State) :
    OpensNone reconciler dec store
      (walkScope source reconciler around gap closedTsMs state store scope).2.2 := by
  cases scope with
  | userFills account =>
      have walked : OpensNone reconciler dec store
          (walkFills source reconciler around gap account closedTsMs state store).2.2 :=
        walkFills_opensNone account closedTsMs state
      rw [walkScope]
      split
      · rename_i failed
        rwa [failed] at walked
      · rename_i done
        rwa [done] at walked
  | _ => exact .refl store

/-- A gap that is not outstanding is none of an account, or its rows are reconciled. -/
structure Worked (reconciler : Reconciler) (dec : Quotients) (gap : Gap) (before after : Store)
    (outcome : GapOutcome VenueError) : Prop where
  opensNone : OpensNone reconciler dec before after
  closed : outcome.isOutstanding = false →
    (∃ other, (GapScope.parse gap.scope : Except (ReconcileError VenueError) GapScope) =
      .ok (.other other)) ∨
    ∀ row ∈ after.db.feedGaps, row.gapId = gap.gapId → row.reconciledTsMs ≠ none

/-- **What working a gap does**: no gap is opened, and what is not outstanding was marked. -/
theorem workGap_worked (pending : List Cloid) {state reached : source.State} {after : Store}
    {outcome : GapOutcome VenueError}
    (run : workGap source reconciler around gap pending state store = (outcome, reached, after)) :
    Worked reconciler dec gap store after outcome := by
  unfold workGap at run
  cases work : reconcileGap source reconciler around gap pending state store with
  | mk result rest =>
      obtain ⟨reached', after'⟩ := rest
      rw [work] at run
      suffices spec : OpensNone reconciler dec store after' ∧ ∀ outcome, result = .ok outcome →
          outcome.isOutstanding = false →
          (∃ other, (GapScope.parse gap.scope : Except (ReconcileError VenueError) GapScope) =
            .ok (.other other)) ∨
          ∀ row ∈ after'.db.feedGaps, row.gapId = gap.gapId → row.reconciledTsMs ≠ none by
        cases result with
        | error error =>
            cases run
            exact ⟨spec.1, nofun⟩
        | ok done =>
            cases run
            exact ⟨spec.1, spec.2 _ rfl⟩
      clear run
      unfold reconcileGap at work
      split at work
      · cases work
        exact ⟨.refl _, fun _ same => nomatch same⟩
      · rename_i scope parsed
        split at work
        · rename_i unowned
          cases work
          refine ⟨.refl _, fun _ _ _ => .inl ?_⟩
          cases scope with
          | other other => exact ⟨other, parsed⟩
          | _ => cases unowned
        · split at work
          · cases work
            refine ⟨.refl _, ?_⟩
            rintro _ ⟨⟩ ⟨⟩
          · rename_i account _ _ closedTsMs _
            unfold closeWindow at work
            have walked : OpensNone reconciler dec store
                (walkScope source reconciler around gap closedTsMs state store scope).2.2 :=
              walkScope_opensNone scope closedTsMs state
            split at work
            · rename_i failed
              cases work
              rw [failed] at walked
              exact ⟨walked, fun _ same => nomatch same⟩
            · rename_i recovered fillWalk state' store' done
              rw [done] at walked
              split at work
              · cases work
                exact ⟨walked, fun _ same => nomatch same⟩
              · split at work
                · rename_i error marked
                  cases work
                  exact ⟨walked.mark marked, fun _ same => nomatch same⟩
                · rename_i marked
                  cases work
                  exact ⟨walked.mark marked, fun _ _ _ => .inr (markGapReconciled_ok marked).1⟩

end Runs

end Oppen.Reconcile
