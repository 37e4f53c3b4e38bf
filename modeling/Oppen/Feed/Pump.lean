import Mathlib.Logic.Function.Basic
import Oppen.Feed.Session
import Oppen.Ledger.GapCalls

/-! # The pump

The task that drives the feeds of one account: it takes envelopes from its channel, folds
them into the session and works the gap list. Around it the producers send, signers are
admitted, the ledger is written and the session is bound and told of failures, in any order
and between any two steps of the task. Only the pump opens gaps.
-/

namespace Oppen.Feed

open Foundation Oppen.Ledger Oppen.Reconcile

/-! ## Frames -/

/-- Why a frame is not understood. -/
inductive FrameError where
  | parse (channel detail : String)
  | unattributableOrderUpdates
  deriving DecidableEq, Repr

def FrameError.text : FrameError → String
  | .parse channel detail => "malformed `" ++ channel ++ "` payload: " ++ detail
  | .unattributableOrderUpdates =>
      "orderUpdates arrived on a connection that owns no orderUpdates subscription"

/-- A frame of an account channel that could not be decoded. -/
def WsEvent.isUndecoded {dec : Quotients} : WsEvent dec → Bool
  | .messageDropped _ channel _ => channel = "userFills" || channel = "orderUpdates"
  | _ => false

/-- A frame of an account channel. -/
def WsEvent.isAccountFrame {dec : Quotients} : WsEvent dec → Bool
  | .userFills .. | .orderUpdates _ => true
  | event => event.isUndecoded

/-! ## The task -/

/-- The errors of `record_reconcile_failure`: local evidence is missing or malformed. -/
def isLocalFailure {VenueError : Type} : ReconcileError VenueError → Bool
  | .ledger _ | .unusableWindow .. | .unreadableScope _ => true
  | _ => false

/-- Whether the outcome of a gap latches a failure. -/
def latches {VenueError : Type} (outcome : GapOutcome VenueError) : Bool :=
  match outcome.status with
  | .failed error => isLocalFailure error
  | _ => false

/-- Where the task is. Work done for an envelope ends with its settlement. -/
inductive Task (VenueError : Type) where
  | absent
  | built
  | starting
  | catchingUp (scopes : List String)
  | idle
  | holding (index : Nat)
  /-- About to record a failure. -/
  | failing (next : Task VenueError)
  | reconciling (held : Option Nat)
  | reading (stamp : FeedStamp) (held : Option Nat)
  | walking (stamp : FeedStamp) (todo : List Gap) (outcomes : List (GapOutcome VenueError))
      (held : Option Nat)
  | reporting (stamp : FeedStamp) (outcomes : List (GapOutcome VenueError)) (outstanding : Nat)
      (held : Option Nat)
  | settling (index : Nat)
  | stopping

namespace Task

variable {VenueError : Type}

/-- Back to the envelope the work was done for. -/
def resume : Option Nat → Task VenueError
  | some index => .settling index
  | none => .idle

/-- The startup windows that are left. -/
def startup : List String → Task VenueError
  | [] => .reconciling none
  | scopes => .catchingUp scopes

/-- The gaps of the work list that are left. -/
def worked (stamp : FeedStamp) (outcomes : List (GapOutcome VenueError)) (held : Option Nat) :
    List Gap → Task VenueError
  | [] => .reporting stamp outcomes 0 held
  | todo => .walking stamp todo outcomes held

/-- A step that may fail, and where it goes on. -/
def after {ε α : Type} (result : Except ε α) (next : Task VenueError) : Task VenueError :=
  match result with
  | .ok _ => next
  | .error _ => .failing next

end Task

/-- The pump with all it shares: channels are told apart by their monitors, and the task is where
`FeedPump::run` stands between two of its awaits. -/
structure Pump {dec : Quotients} {VenueError : Type} (source : ReconcileSource dec VenueError) where
  session : FeedSession
  channels : Nat → Ingress dec
  store : Store
  venue : source.State
  task : Task VenueError
  channel : Nat

/-- What happens at the pump or around it. What is around it are the senders of the channels, the
ledger's other writers and the venue. -/
inductive PumpAct (dec : Quotients) where
  | ingress (channel : Nat) (act : Act dec)
  | bind (network : Network) (account : Address)
  | bindIngress (channel : Nat)
  | bindLedger (ledger : Nat)
  | recordFailure (detail : String)
  | unreconciled
  | call (request : Request dec.toDecimals)
  | venue
  | build
  | begin (channel : Nat)
  | skipStartup
  | catchUp
  | startUp (publish : Bool × Bool) (atMs : Int64)
  | retry
  | startWalk
  | readGaps
  | workGap (around : Surroundings)
  | report
  | finish (atMs : Nat)
  | receive (index : Nat)
  | apply (event : WsEvent dec) (publish : Nat → Bool) (draining : Bool)
  | fail (detail : String)
  | settle (acknowledged : Bool)
  | stop

/-- The acts of a channel that are the consumer's. -/
def Act.isConsumer {dec : Quotients} : Act dec → Bool
  | .recv _ | .acknowledge _ => true
  | _ => false

/-- `STARTUP_NOTE`. -/
def startupNote : String := "oppen was not watching"

/-- `account_scopes`. -/
def accountScopes (account : Address) : List String :=
  [(Subscription.userFills account).key, (Subscription.orderUpdates account).key]

/-- A startup window: opened, or found open, and closed at once. -/
def startWindow (lib : Libraries) (handle : Handle) (publish : Bool × Bool) (scope : String)
    (atMs : Int64) (store : Store) : Result Unit × Store :=
  match openGap lib handle publish.1 scope atMs (some startupNote) store with
  | (.error error, store) => (.error error, store)
  | (.ok gap, store) =>
      (closeGap lib handle publish.2 gap.gapId atMs store).map (Except.map fun _ => ()) id

section Pump

variable {dec : Quotients} {VenueError : Type} {source : ReconcileSource dec VenueError}

namespace Pump

/-- The monitors of the channels. -/
def monitors (pump : Pump source) (channel : Nat) : Monitor := (pump.channels channel).monitor

/-- `session.state().reconciled`. -/
def ready (pump : Pump source) : Bool := (pump.session.state pump.monitors).reconciled

/-- The pump with one channel moved on. -/
def moveChannel (pump : Pump source) (channel : Nat) (after : Ingress dec) : Pump source :=
  { pump with channels := Function.update pump.channels channel after }

@[simp] theorem channels_moveChannel_self (pump : Pump source) (channel : Nat)
    (after : Ingress dec) : (pump.moveChannel channel after).channels channel = after := by
  simp only [moveChannel, Function.update_self]

/-- Moving one channel leaves the others as they were. -/
theorem channels_moveChannel_of_ne (pump : Pump source) {channel other : Nat}
    (after : Ingress dec) (ne : other ≠ channel) :
    (pump.moveChannel channel after).channels other = pump.channels other := by
  simp only [moveChannel, Function.update_of_ne ne]

/-- Where the task goes once an event was applied. -/
def applied (index : Nat) (draining : Bool) (result : Result Action) : Task VenueError :=
  match result with
  | .error _ => .failing (.settling index)
  | .ok .none => .settling index
  | .ok .reconcile => if draining then .settling index else .reconciling (some index)

/-- What reporting an outcome leaves of the session. -/
def reportWalk (pump : Pump source) (stamp : FeedStamp) (outcome : GapOutcome VenueError) :
    FeedSession :=
  match outcome.fillWalk with
  | some receipt => pump.session.recordFillWalk pump.monitors stamp receipt
  | none => pump.session

/-- Where the task goes once an outcome is reported. -/
def reported (stamp : FeedStamp) (outcome : GapOutcome VenueError)
    (rest : List (GapOutcome VenueError)) (outstanding : Nat) (held : Option Nat) :
    Task VenueError :=
  let next := Task.reporting stamp rest
    (if outcome.isOutstanding then outstanding + 1 else outstanding) held
  if latches outcome then .failing next else next

/-- The session once a walk is through: caught up only if nothing is outstanding. -/
def finished (pump : Pump source) (stamp : FeedStamp) (outstanding atMs : Nat) : FeedSession :=
  if outstanding = 0 then pump.session.markReconciled pump.monitors stamp atMs else pump.session

end Pump

variable (reconciler : Reconciler) (account : Address)

/-- One step. The task evaluates alerts before it applies an event; what that writes or
records is one of the steps around it. -/
inductive PumpStep : Pump source → PumpAct dec → Pump source → Prop
  | ingress {pump : Pump source} {channel : Nat} {act : Act dec} {after : Ingress dec}
      (producer : act.isConsumer = false) (moved : IngressStep (pump.channels channel) act after) :
      PumpStep pump (.ingress channel act) (pump.moveChannel channel after)
  | bind {pump : Pump source} {network : Network} {named : Address} :
      PumpStep pump (.bind network named)
        { pump with session := (@FeedSession.bind VenueError network named pump.session).2 }
  | bindIngress {pump : Pump source} {channel : Nat} :
      PumpStep pump (.bindIngress channel)
        { pump with
          session := (@FeedSession.bindIngress VenueError pump.monitors channel pump.session).2 }
  | bindLedger {pump : Pump source} {ledger : Nat} :
      PumpStep pump (.bindLedger ledger)
        { pump with session := (@FeedSession.bindLedger VenueError ledger pump.session).2 }
  | recordFailure {pump : Pump source} {detail : String} :
      PumpStep pump (.recordFailure detail)
        { pump with session := pump.session.recordFailure detail }
  | unreconciled {pump : Pump source} :
      PumpStep pump .unreconciled { pump with session := pump.session.invalidate }
  | call {pump : Pump source} {request : Request dec.toDecimals} {store : Store}
      (opens : request.call.opens = none)
      (step : Step reconciler.lib dec.toDecimals reconciler.handle pump.store request store) :
      PumpStep pump (.call request) { pump with store := store }
  | venue {pump : Pump source} {venue : source.State} :
      PumpStep pump .venue { pump with venue := venue }
  | build {pump : Pump source} {bound built : FeedSession} (here : pump.task = .absent)
      (scope : @FeedSession.bind VenueError reconciler.handle.network account pump.session =
        (.ok (), bound))
      (ledger : @FeedSession.bindLedger VenueError reconciler.ledgerIdentity bound =
        (.ok (), built)) :
      PumpStep pump .build { pump with session := built, task := .built }
  | begin {pump : Pump source} {channel : Nat} (here : pump.task = .built) :
      PumpStep pump (.begin channel)
        { pump with
          session := (@FeedSession.bindIngress VenueError pump.monitors channel pump.session).2
          task := match @FeedSession.bindIngress VenueError pump.monitors channel pump.session with
            | (.ok (), _) => .starting
            | (.error _, _) => .failing .stopping
          channel := channel }
  | skipStartup {pump : Pump source} (here : pump.task = .starting) :
      PumpStep pump .skipStartup { pump with task := .idle }
  | catchUp {pump : Pump source} (here : pump.task = .starting) :
      PumpStep pump .catchUp { pump with task := .startup (accountScopes account) }
  | startUp {pump : Pump source} {scope : String} {scopes : List String} {publish : Bool × Bool}
      {atMs : Int64} (here : pump.task = .catchingUp (scope :: scopes)) :
      PumpStep pump (.startUp publish atMs)
        { pump with
          store := (startWindow reconciler.lib reconciler.handle publish scope atMs pump.store).2
          task := .after
            (startWindow reconciler.lib reconciler.handle publish scope atMs pump.store).1
            (.startup scopes) }
  | retry {pump : Pump source} (here : pump.task = .idle) (waiting : pump.ready = false) :
      PumpStep pump .retry { pump with task := .reconciling none }
  | startWalk {pump : Pump source} {held : Option Nat} (here : pump.task = .reconciling held) :
      PumpStep pump .startWalk
        { pump with
          session := pump.session.invalidate
          task := .reading (pump.session.invalidate.stamp pump.monitors) held }
  | readGaps {pump : Pump source} {stamp : FeedStamp} {held : Option Nat}
      (here : pump.task = .reading stamp held) :
      PumpStep pump .readGaps
        { pump with
          task := match unreconciledGaps pump.store.db with
            | .error _ => .failing (.resume held)
            | .ok gaps => .worked stamp [] held gaps }
  | workGap {pump : Pump source} {stamp : FeedStamp} {gap : Gap} {todo : List Gap}
      {outcomes : List (GapOutcome VenueError)} {held : Option Nat} {around : Surroundings}
      {outcome : GapOutcome VenueError} {venue : source.State} {store : Store}
      (here : pump.task = .walking stamp (gap :: todo) outcomes held)
      (worked : Reconcile.workGap source reconciler around gap [] pump.venue pump.store =
        (outcome, venue, store)) :
      PumpStep pump (.workGap around)
        { pump with
          venue := venue, store := store
          task := .worked stamp (outcomes ++ [outcome]) held todo }
  | report {pump : Pump source} {stamp : FeedStamp} {outcome : GapOutcome VenueError}
      {rest : List (GapOutcome VenueError)} {outstanding : Nat} {held : Option Nat}
      (here : pump.task = .reporting stamp (outcome :: rest) outstanding held) :
      PumpStep pump .report
        { pump with
          session := pump.reportWalk stamp outcome
          task := Pump.reported stamp outcome rest outstanding held }
  | finish {pump : Pump source} {stamp : FeedStamp} {outstanding atMs : Nat} {held : Option Nat}
      (here : pump.task = .reporting stamp [] outstanding held) :
      PumpStep pump (.finish atMs)
        { pump with session := pump.finished stamp outstanding atMs, task := .resume held }
  | receive {pump : Pump source} {index : Nat} {after : Ingress dec} (here : pump.task = .idle)
      (moved : IngressStep (pump.channels pump.channel) (.recv index) after) :
      PumpStep pump (.receive index)
        { pump.moveChannel pump.channel after with task := .holding index }
  | apply {pump : Pump source} {index : Nat} {envelope : Envelope dec} {publish : Nat → Bool}
      {draining : Bool} {result : Result Action} {session : FeedSession} {store : Store}
      (here : pump.task = .holding index)
      (held : (pump.channels pump.channel).envelopes[index]? = some envelope)
      (folded : Feed.apply reconciler.lib dec reconciler.handle publish account.display
        envelope.event envelope.receivedAtMs pump.session pump.store = (result, session, store)) :
      PumpStep pump (.apply envelope.event publish draining)
        { pump with
          session := session, store := store, task := Pump.applied index draining result }
  | fail {pump : Pump source} {next : Task VenueError} {detail : String}
      (here : pump.task = .failing next) :
      PumpStep pump (.fail detail)
        { pump with session := pump.session.recordFailure detail, task := next }
  | acknowledge {pump : Pump source} {index : Nat} {after : Ingress dec}
      (here : pump.task = .settling index)
      (sound : (pump.session.state pump.monitors).failure = none)
      (moved : IngressStep (pump.channels pump.channel) (.acknowledge index) after) :
      PumpStep pump (.settle true) { pump.moveChannel pump.channel after with task := .idle }
  | abandon {pump : Pump source} {index : Nat} {after : Ingress dec}
      (here : pump.task = .settling index)
      (failed : (pump.session.state pump.monitors).failure ≠ none)
      (moved : IngressStep (pump.channels pump.channel) (.discard index) after) :
      PumpStep pump (.settle false) { pump.moveChannel pump.channel after with task := .idle }
  | stop {pump : Pump source} (here : pump.task = .idle ∨ pump.task = .starting ∨
        pump.task = .stopping) :
      PumpStep pump .stop { pump with session := pump.session.invalidate, task := .built }

/-- A session that has seen nothing, new channels and no pump yet. -/
def Pump.start (source : ReconcileSource dec VenueError) (store : Store) (venue : source.State) :
    Pump source where
  session := .new
  channels := fun _ => .new dec
  store := store
  venue := venue
  task := .absent
  channel := 0

end Pump

end Oppen.Feed
