import Oppen.Foundation.Run
import Oppen.Feed.Event

/-! # One connection of the pool

The reconnect state, the subscriptions of one connection with their quarantines, and the
task that drives both. Clocks, the venue and the operator are inputs of the steps. What
frames carry, beyond acknowledgments, is left out.
-/

namespace Oppen.Feed

open Foundation Oppen.Reconcile

/-! ## The registry slot -/

structure SubEntry where
  sub : Subscription
  acked : Bool
  strikes : Nat
  quarantinedUntilMs : Option Nat
  quarantines : Nat
  deriving DecidableEq

def SubEntry.new (sub : Subscription) : SubEntry := ⟨sub, false, 0, none, 0⟩

/-- Whether the quarantine is in force now. -/
def SubEntry.quarantinedAt (entry : SubEntry) (nowMs : Nat) : Bool :=
  entry.quarantinedUntilMs.any fun untilMs => nowMs < untilMs

/-- The subscriptions of a connection, in the order of their keys. -/
structure ConnectionSlot where
  subs : List SubEntry
  connected : Bool
  lastMessageMs : Option Nat
  deriving DecidableEq

namespace ConnectionSlot

def holds (slot : ConnectionSlot) (key : String) : Bool :=
  slot.subs.any fun entry => entry.sub.key = key

/-- Change the entry of a key. -/
def update (slot : ConnectionSlot) (key : String) (change : SubEntry → SubEntry) : ConnectionSlot :=
  { slot with subs := slot.subs.map fun entry =>
      if entry.sub.key = key then change entry else entry }

/-- The insertion of `place` into a slot that does not hold the key. -/
def place (slot : ConnectionSlot) (sub : Subscription) : ConnectionSlot :=
  { slot with
    subs := slot.subs.takeWhile (fun entry => entry.sub.key < sub.key) ++
      .new sub :: slot.subs.dropWhile (fun entry => entry.sub.key < sub.key) }

def remove (slot : ConnectionSlot) (sub : Subscription) : ConnectionSlot :=
  { slot with subs := slot.subs.filter fun entry => entry.sub.key ≠ sub.key }

/-- Everything the connection owns, quarantined included. -/
def subscriptions (slot : ConnectionSlot) : List Subscription := slot.subs.map SubEntry.sub

def unacked (slot : ConnectionSlot) : List Subscription :=
  (slot.subs.filter fun entry => !entry.acked).map SubEntry.sub

/-- `resubscribe_set`. -/
def resubscribeSet (slot : ConnectionSlot) (nowMs : Nat) : List Subscription :=
  (slot.subs.filter fun entry => !entry.quarantinedAt nowMs).map SubEntry.sub

/-- An entry whose quarantine has lapsed. -/
def lapsed (nowMs : Nat) (entry : SubEntry) : Bool :=
  entry.quarantinedUntilMs.any fun untilMs => untilMs ≤ nowMs

/-- `take_expired_quarantines`: what to subscribe again, and the slot without them. -/
def takeExpiredQuarantines (slot : ConnectionSlot) (nowMs : Nat) :
    List Subscription × ConnectionSlot :=
  ((slot.subs.filter (lapsed nowMs)).map SubEntry.sub,
    { slot with
      subs := slot.subs.map fun entry =>
        if lapsed nowMs entry then { entry with quarantinedUntilMs := none } else entry })

/-- `clear_quarantine`. -/
def clearQuarantine (slot : ConnectionSlot) (sub : Subscription) : ConnectionSlot :=
  slot.update sub.key fun entry =>
    { entry with quarantinedUntilMs := none, quarantines := 0, strikes := 0 }

/-- A `u32` counter, saturated. -/
def saturatingSucc (count : Nat) : Nat := min (count + 1) (2 ^ 32 - 1)

/-- `QUARANTINE_BACKOFF.nominal`, in milliseconds. -/
def quarantineMs (quarantines : Nat) : Nat := min (60000 * 2 ^ min quarantines 32) 3600000

/-- A strike against an entry, and its quarantine when it runs out of them. -/
def strike (quarantineAfter nowMs : Nat) (entry : SubEntry) : Bool × SubEntry :=
  let struck := { entry with strikes := saturatingSucc entry.strikes }
  if max quarantineAfter 1 ≤ struck.strikes then
    (true, { struck with
      quarantines := saturatingSucc entry.quarantines
      quarantinedUntilMs := some (min (nowMs + quarantineMs entry.quarantines) (2 ^ 64 - 1)) })
  else (false, struck)

/-- `record_failed_session`: the first unacknowledged subscription takes a strike. -/
def recordFailedSession (quarantineAfter nowMs : Nat) :
    List SubEntry → Option (Subscription × Nat) × List SubEntry
  | [] => (none, [])
  | entry :: rest =>
      if entry.acked = false ∧ entry.quarantinedAt nowMs = false then
        let (quarantined, struck) := strike quarantineAfter nowMs entry
        (if quarantined then some (struck.sub, struck.strikes) else none, struck :: rest)
      else
        let (quarantined, struck) := recordFailedSession quarantineAfter nowMs rest
        (quarantined, entry :: struck)

def touchConnection (slot : ConnectionSlot) (nowMs : Nat) : ConnectionSlot :=
  { slot with lastMessageMs := some nowMs }

def ack (slot : ConnectionSlot) (key : String) : ConnectionSlot :=
  slot.update key fun entry => { entry with acked := true, strikes := 0 }

/-- `set_connected`: either way every acknowledgment is forgotten. -/
def setConnected (slot : ConnectionSlot) (connected : Bool) (nowMs : Nat) : ConnectionSlot where
  subs := slot.subs.map fun entry => { entry with acked := false }
  connected := connected
  lastMessageMs := if connected then some nowMs else slot.lastMessageMs

end ConnectionSlot

/-! ## The reconnect decision -/

structure ConnState where
  attempt : Nat
  announcedDown : Bool
  lastSeenMs : Option Nat
  disconnectedAtMs : Nat
  deriving DecidableEq, Repr

def ConnState.new (nowMs : Nat) : ConnState := ⟨0, false, none, nowMs⟩

/-- One turn of the task: how an attempt or a session ended, or that a session began. -/
inductive Turn where
  | connectFailed (atMs : Nat) (reason : String)
  | resubscribeFailed (atMs : Nat) (lastSeenMs : Option Nat) (reason : String)
  | subscribed (atMs : Nat)
  | sessionDropped (atMs : Nat) (lastSeenMs : Option Nat) (reason : String) (lived grace : Nat)

/-- What a turn asks for. -/
inductive TurnStep where
  | idle
  | reportDown (reason : String) (strike : Bool)
  | reportUp (gap : GapWindow) (attempts : Nat)

/-- `announce_down`: an outage is announced once. -/
def ConnState.announceDown (state : ConnState) (atMs : Nat) (lastSeenMs : Option Nat)
    (reason : String) (strike : Bool) : ConnState × TurnStep :=
  if state.announcedDown then (state, .idle)
  else
    ({ state with announcedDown := true, lastSeenMs := lastSeenMs, disconnectedAtMs := atMs },
      .reportDown reason strike)

/-- `next_step`. -/
def nextStep (state : ConnState) : Turn → ConnState × TurnStep
  | .connectFailed atMs reason =>
      { state with attempt := ConnectionSlot.saturatingSucc state.attempt }.announceDown
        atMs none reason false
  | .resubscribeFailed atMs lastSeenMs reason =>
      { state with attempt := ConnectionSlot.saturatingSucc state.attempt }.announceDown
        atMs lastSeenMs reason false
  | .sessionDropped atMs lastSeenMs reason lived grace =>
      let proved : Bool := grace ≤ lived
      { state with
        attempt := if proved then 0 else ConnectionSlot.saturatingSucc state.attempt }.announceDown
          atMs lastSeenMs reason !proved
  | .subscribed atMs =>
      if state.announcedDown = false then (state, .idle)
      else
        ({ state with announcedDown := false },
          .reportUp ⟨min (state.lastSeenMs.getD state.disconnectedAtMs) atMs, atMs⟩ state.attempt)

/-! ## The task -/

/-- What a connection uses of the pool's configuration. The pool hands every connection the same. -/
structure ConnectionConfig where
  idleTimeoutMs : Nat
  quarantineAfter : Nat
  sessionGrace : Nat
  deriving DecidableEq, Repr

inductive ConnCommand where
  | subscribe (sub : Subscription)
  | unsubscribe (sub : Subscription)
  deriving DecidableEq

/-- Where the task is. A live session knows what is subscribed on its socket. -/
inductive Phase where
  | connecting
  | resubscribing (subs : List Subscription)
  | live (socket : List Subscription)
  | dropping (reason : String)
  | backoff
  | ended
  deriving DecidableEq

/-- A connection: its slot, its reconnect state, its task, the commands sent to the task and
the events it sent, oldest first. -/
structure Connection (dec : Quotients) where
  id : Nat
  slot : ConnectionSlot
  state : ConnState
  phase : Phase
  commands : List ConnCommand
  events : List (WsEvent dec)

section Connection

variable {dec : Quotients}

/-- A connection opened for its first subscription. -/
def Connection.new (dec : Quotients) (id : Nat) (sub : Subscription) (nowMs : Nat) :
    Connection dec where
  id := id
  slot := ⟨[.new sub], false, none⟩
  state := .new nowMs
  phase := .connecting
  commands := []
  events := []

/-- `report_disconnect`: acknowledgments are read before they are cleared. -/
def Connection.reportDisconnect (cfg : ConnectionConfig) (nowMs : Nat) (reason : String)
    (strike : Bool) (conn : Connection dec) : Connection dec :=
  let (quarantined, subs) :=
    if strike then ConnectionSlot.recordFailedSession cfg.quarantineAfter nowMs conn.slot.subs
    else (none, conn.slot.subs)
  { conn with
    slot := { conn.slot with subs }.setConnected false nowMs
    events := conn.events ++
      .disconnected {
        connection := conn.id, atMs := nowMs, lastMessageMs := conn.slot.lastMessageMs
        subscriptions := conn.slot.subscriptions, unacked := conn.slot.unacked, reason } ::
      quarantined.toList.map fun suspect =>
        .subscriptionQuarantined conn.id suspect.1 suspect.2 }

/-- `apply`: carry out what a turn means. -/
def Connection.turn (cfg : ConnectionConfig) (turn : Turn) (nowMs : Nat)
    (resubscribed : List Subscription) (conn : Connection dec) : Connection dec :=
  let (state, outcome) := nextStep conn.state turn
  let conn := { conn with state }
  match outcome with
  | .idle => conn
  | .reportDown reason strike => conn.reportDisconnect cfg nowMs reason strike
  | .reportUp gap attempts =>
      { conn with
        events := conn.events ++ [.reconnected {
          connection := conn.id, atMs := gap.endMs, gap, resubscribed, attempts }] }

/-- What happens at a connection: its task moves on, the venue sends a frame, or the operator
calls. -/
inductive ConnAct where
  | connect (nowMs : Nat)
  | connectFailed (atMs nowMs : Nat) (reason : String)
  | resubscribeFailed (atMs nowMs : Nat) (reason : String)
  | subscribed (atMs : Nat)
  /-- A command whose frame is sent, or whose frame cannot be sent. -/
  | deliver (failure : Option String)
  /-- A frame, perhaps acknowledging a subscription. -/
  | frame (nowMs : Nat) (acked : Option String)
  /-- A frame that arrives after too long a silence. -/
  | late (nowMs : Nat) (reason : String)
  /-- A ping that retries lapsed quarantines; the first so many frames are sent. -/
  | ping (nowMs sent : Nat) (reason : String)
  | fail (reason : String)
  | drop (atMs nowMs lived : Nat)
  | wake
  /-- The backoff cut short by a command, which is lost. -/
  | wakeByCommand
  | subscribe (sub : Subscription)
  | unsubscribe (sub : Subscription)
  | clearQuarantine (sub : Subscription)
  /-- A shutdown, or a consumer that is gone. -/
  | stop (nowMs : Nat)

/-- The socket after a command's frame was sent. -/
def ConnCommand.sent (socket : List Subscription) : ConnCommand → List Subscription
  | .subscribe sub => socket ++ [sub]
  | .unsubscribe sub => socket.filter fun held => held.key ≠ sub.key

/-- Whether a connection has been silent for too long. -/
def Connection.idle (cfg : ConnectionConfig) (nowMs : Nat) (conn : Connection dec) : Bool :=
  conn.slot.lastMessageMs.any fun last => cfg.idleTimeoutMs < nowMs - last

/-- Where a ping leaves the session, given what it has to subscribe again. -/
def Connection.pinged (cfg : ConnectionConfig) (nowMs sent : Nat) (reason : String)
    (socket revived : List Subscription) (conn : Connection dec) : Phase :=
  if conn.idle cfg nowMs ∨ sent < revived.length then .dropping reason
  else .live (socket ++ revived)

/-- A connection is given a subscription; its task is told to send it. -/
def Connection.subscribe (sub : Subscription) (conn : Connection dec) : Connection dec :=
  { conn with slot := conn.slot.place sub, commands := conn.commands ++ [.subscribe sub] }

/-- A connection loses a subscription, and its task is told. -/
def Connection.unsubscribe (sub : Subscription) (conn : Connection dec) : Connection dec :=
  { conn with slot := conn.slot.remove sub, commands := conn.commands ++ [.unsubscribe sub] }

/-- A subscription's quarantine is lifted, and it is to be sent again. -/
def Connection.clearQuarantine (sub : Subscription) (conn : Connection dec) : Connection dec :=
  { conn with slot := conn.slot.clearQuarantine sub, commands := conn.commands ++ [.subscribe sub] }

section Calls

variable (sub : Subscription) (conn : Connection dec)

@[simp] theorem Connection.slot_subscribe :
    (conn.subscribe sub).slot = conn.slot.place sub := rfl

@[simp] theorem Connection.slot_unsubscribe :
    (conn.unsubscribe sub).slot = conn.slot.remove sub := rfl

@[simp] theorem Connection.slot_clearQuarantine :
    (conn.clearQuarantine sub).slot = conn.slot.clearQuarantine sub := rfl

end Calls

/-- One step of a connection. The task, the venue and the operator interleave as they like: each
constructor is what one of them does where the phase lets it. -/
inductive ConnStep (cfg : ConnectionConfig) : Connection dec → ConnAct → Connection dec → Prop
  | connect {conn : Connection dec} {nowMs : Nat} (here : conn.phase = .connecting) :
      ConnStep cfg conn (.connect nowMs)
        { conn with
          slot := conn.slot.setConnected true nowMs
          phase := .resubscribing ((conn.slot.setConnected true nowMs).resubscribeSet nowMs) }
  | connectFailed {conn : Connection dec} {atMs nowMs : Nat} {reason : String}
      (here : conn.phase = .connecting) :
      ConnStep cfg conn (.connectFailed atMs nowMs reason)
        { conn.turn cfg (.connectFailed atMs reason) nowMs [] with phase := .backoff }
  | resubscribeFailed {conn : Connection dec} {subs : List Subscription} {atMs nowMs : Nat}
      {reason : String} (here : conn.phase = .resubscribing subs) :
      ConnStep cfg conn (.resubscribeFailed atMs nowMs reason)
        { conn.turn cfg (.resubscribeFailed atMs conn.slot.lastMessageMs reason) nowMs subs with
          phase := .backoff }
  | subscribed {conn : Connection dec} {subs : List Subscription} {atMs : Nat}
      (here : conn.phase = .resubscribing subs) :
      ConnStep cfg conn (.subscribed atMs)
        { conn.turn cfg (.subscribed atMs) atMs subs with phase := .live subs }
  | deliver {conn : Connection dec} {socket : List Subscription} {command : ConnCommand}
      {rest : List ConnCommand} (here : conn.phase = .live socket)
      (next : conn.commands = command :: rest) :
      ConnStep cfg conn (.deliver none)
        { conn with phase := .live (command.sent socket), commands := rest }
  | deliverFailed {conn : Connection dec} {socket : List Subscription} {command : ConnCommand}
      {rest : List ConnCommand} {reason : String} (here : conn.phase = .live socket)
      (next : conn.commands = command :: rest) :
      ConnStep cfg conn (.deliver (some reason))
        { conn with phase := .dropping reason, commands := rest }
  | frame {conn : Connection dec} {socket : List Subscription} {nowMs : Nat}
      {acked : Option String} (here : conn.phase = .live socket)
      (fresh : conn.idle cfg nowMs = false) :
      ConnStep cfg conn (.frame nowMs acked)
        { conn with
          slot := acked.elim (conn.slot.touchConnection nowMs)
            (conn.slot.touchConnection nowMs).ack }
  | late {conn : Connection dec} {socket : List Subscription} {nowMs : Nat} {reason : String}
      (here : conn.phase = .live socket) (silent : conn.idle cfg nowMs = true) :
      ConnStep cfg conn (.late nowMs reason) { conn with phase := .dropping reason }
  | ping {conn : Connection dec} {socket : List Subscription} {nowMs sent : Nat}
      {reason : String} (here : conn.phase = .live socket) :
      ConnStep cfg conn (.ping nowMs sent reason)
        { conn with
          slot := (conn.slot.takeExpiredQuarantines nowMs).2
          phase := conn.pinged cfg nowMs sent reason socket
            (conn.slot.takeExpiredQuarantines nowMs).1 }
  | fail {conn : Connection dec} {socket : List Subscription} {reason : String}
      (here : conn.phase = .live socket) :
      ConnStep cfg conn (.fail reason) { conn with phase := .dropping reason }
  | drop {conn : Connection dec} {reason : String} {atMs nowMs lived : Nat}
      (here : conn.phase = .dropping reason) :
      ConnStep cfg conn (.drop atMs nowMs lived)
        { conn.turn cfg (.sessionDropped atMs conn.slot.lastMessageMs reason lived
            cfg.sessionGrace) nowMs [] with phase := .backoff }
  | wake {conn : Connection dec} (here : conn.phase = .backoff) :
      ConnStep cfg conn .wake { conn with phase := .connecting }
  | wakeByCommand {conn : Connection dec} {command : ConnCommand} {rest : List ConnCommand}
      (here : conn.phase = .backoff) (next : conn.commands = command :: rest) :
      ConnStep cfg conn .wakeByCommand { conn with phase := .connecting, commands := rest }
  | subscribe {conn : Connection dec} {sub : Subscription}
      (absent : conn.slot.holds sub.key = false) :
      ConnStep cfg conn (.subscribe sub) (conn.subscribe sub)
  | unsubscribe {conn : Connection dec} {sub : Subscription}
      (present : conn.slot.holds sub.key = true) :
      ConnStep cfg conn (.unsubscribe sub) (conn.unsubscribe sub)
  | clearQuarantine {conn : Connection dec} {sub : Subscription}
      (present : conn.slot.holds sub.key = true) :
      ConnStep cfg conn (.clearQuarantine sub) (conn.clearQuarantine sub)
  | stop {conn : Connection dec} {nowMs : Nat} :
      ConnStep cfg conn (.stop nowMs)
        { conn with slot := conn.slot.setConnected false nowMs, phase := .ended }

end Connection

end Oppen.Feed
