import Oppen.Feed.Ingress
import Oppen.Ledger.Gaps
import Oppen.Ledger.System
import Oppen.Reconcile.GapWalk

/-! # The feed session

Freshness, completeness and failure of one network's feeds, and what each event does to
the ledger. Identities compared by pointer are numbers; the ingress monitors a session may
be bound to are told apart by theirs.
-/

namespace Oppen.Feed

open Foundation Oppen.Json Oppen.Ledger Oppen.Reconcile

/-- The cached state of `FeedSession::state`. -/
structure FeedState where
  lastTickMs : Option Nat
  reconciled : Bool
  failure : Option String
  deriving DecidableEq

/-- What `apply` wants done that it cannot do itself. The caller carries it out, and reports what
became of it. -/
inductive Action where
  | none
  | reconcile
  deriving DecidableEq, Repr

/-- An observation of an ingress monitor: which monitor, and its epoch. -/
structure IngressObservation where
  monitor : Nat
  epoch : Nat
  deriving DecidableEq, Repr

/-- Provenance of a snapshot. -/
structure FeedStamp where
  epoch : Nat
  ingress : Option IngressObservation
  deriving DecidableEq, Repr

/-- `Inner`; the epochs handed out before it are smaller. An epoch is begun whenever what the
session speaks of changes, so that a report of an earlier walk is told from a current one. -/
structure FeedSession where
  epoch : Nat
  ingress : Option Nat
  scope : Option (Network × Address)
  lastTickMs : Option Nat
  reconciled : Bool
  failure : Option String
  initialFillWalk : Option FillWalkReceipt
  ledgerIdentity : Option Nat

namespace FeedSession

/-- `FeedSession::new`. -/
def new : FeedSession := ⟨0, none, none, none, false, none, none, none⟩

section Readiness

variable (monitors : Nat → Monitor)

/-- The identity the monitor hands out. -/
def observation (monitor : Nat) : IngressObservation := ⟨monitor, (monitors monitor).epoch⟩

/-- `FeedSession::stamp`. -/
def stamp (session : FeedSession) : FeedStamp :=
  ⟨session.epoch, session.ingress.map (observation monitors)⟩

/-- The bound monitor owes nothing and has neither failed nor completed. -/
def drained (session : FeedSession) : Bool :=
  session.ingress.any fun monitor =>
    (monitors monitor).pending = 0 && !(monitors monitor).hasFailed &&
      !(monitors monitor).completed

/-- `FeedSession::state`. -/
def state (session : FeedSession) : FeedState where
  lastTickMs := session.lastTickMs
  reconciled := session.reconciled && session.drained monitors
  failure := session.failure.or (session.ingress.bind fun monitor =>
    if (monitors monitor).hasFailed then
      some "ingress evidence was abandoned or its lock poisoned" else none)

end Readiness

/-- A fresh epoch, with the account no longer known to be caught up. -/
def invalidate (session : FeedSession) : FeedSession :=
  { session with epoch := session.epoch + 1, reconciled := false }

/-- `FeedSession::bind`. -/
def bind {VenueError : Type} (network : Network) (account : Address) (session : FeedSession) :
    Except (ReconcileError VenueError) Unit × FeedSession :=
  match session.scope with
  | some scope =>
      if scope ≠ (network, account) then (.error .feedScopeMismatch, session) else (.ok (), session)
  | none => (.ok (), { session.invalidate with scope := some (network, account) })

/-- `FeedSession::bind_ingress`. -/
def bindIngress {VenueError : Type} (monitors : Nat → Monitor) (monitor : Nat)
    (session : FeedSession) : Except (ReconcileError VenueError) Unit × FeedSession :=
  if session.ingress = some monitor then (.ok (), session)
  else if session.ingress.any fun old => !(monitors old).replacementEligible then
    (.error .feedIngressUnavailable, session.invalidate)
  else (.ok (), { session.invalidate with ingress := some monitor, initialFillWalk := none })

/-- `FeedSession::record_fill_walk`. -/
def recordFillWalk (monitors : Nat → Monitor) (stamp : FeedStamp) (receipt : FillWalkReceipt)
    (session : FeedSession) : FeedSession :=
  if stamp = session.stamp monitors ∧ receipt.initialWindow = true ∧
      session.scope = some (receipt.network, receipt.account) ∧
      session.ledgerIdentity = some receipt.ledgerIdentity ∧ session.initialFillWalk = none then
    { session with initialFillWalk := some receipt }
  else session

/-- `FeedSession::bind_ledger`. -/
def bindLedger {VenueError : Type} (ledger : Nat) (session : FeedSession) :
    Except (ReconcileError VenueError) Unit × FeedSession :=
  if session.ledgerIdentity.any fun identity => identity ≠ ledger then
    (.error .feedIngressUnavailable, session.invalidate)
  else (.ok (), { session with ledgerIdentity := some ledger })

/-- `FeedSession::admit`, with the monitor after it; any refusal is `FeedAdmission`. -/
def admission (monitors : Nat → Monitor) (stamp : Option FeedStamp) (network : Network)
    (account : Address) (session : FeedSession) : Option (Nat × Monitor) :=
  if stamp.all (fun stamp => stamp.epoch ≠ session.epoch) ∨
      session.scope ≠ some (network, account) ∨ session.reconciled = false ∨
      session.failure.isSome = true then none
  else do
    let monitor ← session.ingress
    let observed ← stamp.bind FeedStamp.ingress
    if observed.monitor ≠ monitor then none
    else
      match (monitors monitor).admission observed.epoch with
      | .ok admitted => some (monitor, admitted)
      | .error _ => none

/-- Advance the tick clock, never backwards. -/
def tick (atMs : Nat) (session : FeedSession) : FeedSession :=
  { session with lastTickMs := some (session.lastTickMs.elim atMs (max atMs)) }

/-- `FeedSession::reconciled`. -/
def markReconciled (monitors : Nat → Monitor) (stamp : FeedStamp) (atMs : Nat)
    (session : FeedSession) : FeedSession :=
  if stamp ≠ session.stamp monitors then session
  else { session with reconciled := session.failure.isNone }.tick atMs

/-- `FeedSession::record_failure`. -/
def recordFailure (detail : String) (session : FeedSession) : FeedSession :=
  { session.invalidate with failure := session.failure.or (some detail) }

end FeedSession

/-! ## Folding events -/

/-- A pool timestamp as the ledger stores it, saturated. -/
def ms (atMs : Nat) : Int64 := if atMs < 2 ^ 63 then .ofNat atMs else Int64.maxValue

/-- The payload of a fill as it arrives. -/
def livePayload {dec : Quotients} (account : String) (fill : Fill dec) : Value :=
  .ofFields [("account", .string account),
    ("cloid", .ofOption (fill.cloid.map Cloid.text)),
    ("coin", .string fill.coin),
    ("px", .string (dec.display fill.px)),
    ("sz", .string (dec.display fill.sz)),
    ("side", .string (sideText fill.side)),
    ("ts_ms", .ofInt fill.time),
    ("start_position", .string (dec.display fill.startPosition)),
    ("dir", .string fill.dir),
    ("closed_pnl", .string (dec.display fill.closedPnl)),
    ("hash", .string fill.hash),
    ("oid", .ofInt fill.oid.toNat),
    ("crossed", .bool fill.crossed),
    ("fee", .string (dec.display fill.fee)),
    ("fee_token", .string fill.feeToken),
    ("builder_fee", .ofOption (fill.builderFee.map dec.display)),
    ("tid", .ofInt fill.tid.toNat)]

/-- The fill `record` offers to the ledger; its time is cast to a signed number. -/
def liveFill {dec : Quotients} (account : String) (fill : Fill dec) : NewFill where
  account := account
  tid := fill.tid
  tsMs := .ofNat fill.time
  agentId := none
  payload := livePayload account fill

/-- Writes in order, up to the first that fails. -/
def writeEach {α : Type} (write : (publish : Bool) → α → Store → Result Unit × Store) :
    List α → (publish : Nat → Bool) → Store → Result Unit × Store
  | [], _, store => (.ok (), store)
  | item :: rest, publish, store =>
      match write (publish 0) item store with
      | (.error error, store) => (.error error, store)
      | (.ok (), store) => writeEach write rest (fun call => publish (call + 1)) store

section Apply

variable (lib : Libraries) (dec : Quotients) (handle : Handle)

/-- `FeedSession::record`. -/
def record (account : String) (publish : Bool) (fill : Fill dec) (store : Store) :
    Result Unit × Store :=
  (recordFill lib dec.toDecimals handle publish (liveFill account fill) store).map
    (Except.map fun _ => ()) id

/-- The gap of a subscription that went down. -/
def openDropped (openedAt : Int64) (reason : String) (publish : Bool) (sub : Subscription)
    (store : Store) : Result Unit × Store :=
  (openGap lib handle publish sub.key openedAt (some reason) store).map
    (Except.map fun _ => ()) id

/-- Close the gap of a feed that came back. -/
def closeResumed (closedAt : Int64) (publish : Bool) (gap : Gap) (store : Store) :
    Result Unit × Store :=
  (closeGap lib handle publish gap.gapId closedAt store).map (Except.map fun _ => ()) id

/-- The open gaps of the feeds a connection resumed. -/
def resumedGaps (resubscribed : List Subscription) (gaps : List Gap) : List Gap :=
  gaps.filter fun gap => gap.closedTsMs = none && resubscribed.any fun sub => sub.key = gap.scope

/-- `FeedSession::apply`. -/
def apply (publish : Nat → Bool) (account : String) (event : WsEvent dec) (nowMs : Nat)
    (session : FeedSession) (store : Store) : Result Action × FeedSession × Store :=
  match event with
  | .disconnected dropped =>
      let openedAt := ms (dropped.lastMessageMs.getD dropped.atMs)
      let (result, store) := writeEach (openDropped lib handle openedAt dropped.reason)
        dropped.subscriptions publish store
      (result.map fun _ => .none, session.invalidate, store)
  | .reconnected back =>
      let session := session.tick back.atMs
      match unreconciledGaps store.db with
      | .error error => (.error error, session, store)
      | .ok gaps =>
          let (result, store) := writeEach (closeResumed lib handle (ms back.atMs))
            (resumedGaps back.resubscribed gaps) publish store
          (result.map fun _ => .reconcile, session, store)
  | .userFills user _ fills =>
      let account := if user.display = "" then account else user.display
      let (result, store) := writeEach (record lib dec handle account) fills publish store
      (result.map fun _ => .none, session.tick nowMs, store)
  | .activeAssetCtx _ receivedAtMs => (.ok .none, session.tick receivedAtMs, store)
  | .bbo _ venueTimeMs => (.ok .none, session.tick venueTimeMs, store)
  | .trades _ | .candle | .l2Book | .orderUpdates _ => (.ok .none, session.tick nowMs, store)
  | .subscriptionQuarantined .. | .venueError .. | .messageDropped .. => (.ok .none, session, store)

end Apply

/-! ## What an event writes -/

/-- The ledger calls an event leads to. -/
inductive LeadsTo (dec : Quotients) : WsEvent dec → Call dec.toDecimals → Prop
  | opened {dropped : Disconnected} {sub : Subscription} (lost : sub ∈ dropped.subscriptions) :
      LeadsTo dec (.disconnected dropped)
        (.openGap sub.key (ms (dropped.lastMessageMs.getD dropped.atMs)) (some dropped.reason))
  | closed {back : Reconnected} {gapId : Int} :
      LeadsTo dec (.reconnected back) (.closeGap gapId (ms back.atMs))
  | recorded {user : Address} {isSnapshot : Bool} {fills : List (Fill dec)} {fill : Fill dec}
      (carried : fill ∈ fills) :
      LeadsTo dec (.userFills user isSnapshot fills) (.recordFill (liveFill user.display fill))

section Writes

variable {lib : Libraries} {dec : Quotients} {handle : Handle}

/-- Writes in order are a run of their calls. -/
theorem writeEach_run {α : Type} (write : Bool → α → Store → Result Unit × Store)
    (call : α → Call dec.toDecimals)
    (steps : ∀ publish item store, Step lib dec.toDecimals handle store ⟨call item, publish⟩
      (write publish item store).2)
    (items : List α) (publish : Nat → Bool) (store : Store) :
    ∃ requests, Run (Step lib dec.toDecimals handle) store requests
        (writeEach write items publish store).2 ∧
      ∀ request ∈ requests, ∃ item ∈ items, request.call = call item := by
  induction items generalizing publish store with
  | nil => exact ⟨[], .nil, fun _ member => absurd member List.not_mem_nil⟩
  | cons item rest ih =>
      let request : Request dec.toDecimals := ⟨call item, publish 0⟩
      have step := steps (publish 0) item store
      have single : ∀ other ∈ [request], ∃ held ∈ item :: rest, other.call = call held :=
        fun other member => ⟨item, List.mem_cons_self, List.mem_singleton.mp member ▸ rfl⟩
      rw [writeEach]
      split
      · rename_i after failed
        rw [failed] at step
        exact ⟨[request], .single step, single⟩
      · rename_i after written
        rw [written] at step
        obtain ⟨later, run, called⟩ := ih (fun call => publish (call + 1)) after
        refine ⟨[request] ++ later, (Run.single step).append run, fun other member => ?_⟩
        rcases List.mem_append.mp member with here | there
        · exact single other here
        · obtain ⟨held, inside, same⟩ := called other there
          exact ⟨held, List.mem_cons_of_mem _ inside, same⟩

/-- **Folding an event is a run of the calls it leads to.** -/
theorem apply_run (publish : Nat → Bool) (account : String) (event : WsEvent dec) (nowMs : Nat)
    (session : FeedSession) (store : Store) :
    ∃ requests, Run (Step lib dec.toDecimals handle) store requests
        (apply lib dec handle publish account event nowMs session store).2.2 ∧
      ∀ request ∈ requests, LeadsTo dec event request.call := by
  have idle : ∃ requests, Run (Step lib dec.toDecimals handle) store requests store ∧
      ∀ request ∈ requests, LeadsTo dec event request.call :=
    ⟨[], .nil, fun _ member => absurd member List.not_mem_nil⟩
  cases event with
  | disconnected dropped =>
      obtain ⟨requests, run, called⟩ := writeEach_run
        (openDropped lib handle (ms (dropped.lastMessageMs.getD dropped.atMs)) dropped.reason)
        (fun sub => Call.openGap sub.key (ms (dropped.lastMessageMs.getD dropped.atMs))
          (some dropped.reason))
        (fun _ _ _ => rfl)
        dropped.subscriptions publish store
      refine ⟨requests, run, fun request member => ?_⟩
      obtain ⟨sub, lost, same⟩ := called request member
      exact same ▸ .opened lost
  | reconnected back =>
      rw [apply]
      dsimp only
      split
      · exact idle
      · rename_i gaps _
        obtain ⟨requests, run, called⟩ := writeEach_run
          (closeResumed lib handle (ms back.atMs))
            (fun gap => Call.closeGap gap.gapId (ms back.atMs))
          (fun _ _ _ => rfl)
          (resumedGaps back.resubscribed gaps) publish store
        refine ⟨requests, run, fun request member => ?_⟩
        obtain ⟨gap, _, same⟩ := called request member
        exact same ▸ .closed
  | userFills user isSnapshot fills =>
      have named : (if user.display = "" then account else user.display) = user.display :=
        if_neg user.display_ne_empty
      obtain ⟨requests, run, called⟩ := writeEach_run
        (record lib dec handle user.display)
          (fun fill => Call.recordFill (liveFill user.display fill))
        (fun _ _ _ => rfl) fills publish store
      refine ⟨requests, ?_, fun request member => ?_⟩
      · rw [apply, named]
        exact run
      · obtain ⟨fill, carried, same⟩ := called request member
        exact same ▸ .recorded carried
  | _ => exact idle

end Writes

end Oppen.Feed
