import Oppen.Feed.Connection

/-! # The pool

The registry places each subscription on one connection and tells the task of the connection by a
command; both happen under one lock. A reconnect subscribes what the registry holds, and the
commands that are still queued are carried out after it. The last command of a key always agrees
with the registry, so the socket does once the queue is empty.
-/

namespace Oppen.Feed

open Foundation Oppen.Reconcile

/-! ## Placement -/

/-- `WsPoolConfig`, as far as the pool reads it. -/
structure PoolConfig where
  maxConnections : Nat
  maxSubsPerConnection : Nat
  connection : ConnectionConfig
  deriving DecidableEq, Repr

/-- `MAX_SUBSCRIPTIONS_PER_IP`. -/
def maxSubscriptionsPerIp : Nat := 1000

/-- The limits as the registry keeps them, at least one. -/
def PoolConfig.connections (cfg : PoolConfig) : Nat := max cfg.maxConnections 1

def PoolConfig.subs (cfg : PoolConfig) : Nat := max cfg.maxSubsPerConnection 1

/-- `capacity`. -/
def PoolConfig.capacity (cfg : PoolConfig) : Nat :=
  min (cfg.connections * cfg.subs) maxSubscriptionsPerIp

inductive PoolError where
  | shutdown
  | capacityExhausted (used cap connections : Nat)
  | exclusiveSlotExhausted (kind : String) (connections : Nat)
  | notSubscribed (key : String)
  deriving DecidableEq, Repr

/-- Where a subscription was put. -/
inductive Placement where
  | alreadyPresent (id : Nat)
  | existing (id : Nat)
  | newConnection (id : Nat)
  deriving DecidableEq, Repr

/-- The venue's channel name. -/
def Subscription.kind : Subscription → String
  | .activeAssetCtx _ => "activeAssetCtx"
  | .bbo _ => "bbo"
  | .trades _ => "trades"
  | .candle .. => "candle"
  | .l2Book _ => "l2Book"
  | .userFills _ => "userFills"
  | .orderUpdates _ => "orderUpdates"

/-- `exclusive_per_connection`: frames of order updates name no user. -/
def Subscription.exclusivePerConnection : Subscription → Bool
  | .orderUpdates _ => true
  | _ => false

/-- Whether a connection can take a subscription. -/
def ConnectionSlot.hasRoom (cfg : PoolConfig) (sub : Subscription) (slot : ConnectionSlot) : Bool :=
  slot.subs.length < cfg.subs &&
    !(sub.exclusivePerConnection && slot.subs.any fun entry => entry.sub.exclusivePerConnection)

/-- The pool: its connections by their ids, and whether it was shut down. -/
structure Pool (dec : Quotients) where
  conns : List (Connection dec)
  shutdown : Bool

section Pool

variable {dec : Quotients} (cfg : PoolConfig)

/-- `WsPool::new`. -/
def Pool.new : Pool dec := ⟨[], false⟩

/-- `len`: the subscriptions held across the pool. -/
def Pool.len (pool : Pool dec) : Nat := (pool.conns.map fun conn => conn.slot.subs.length).sum

/-- `place`: the first connection with room, or a new one. -/
def Pool.place (pool : Pool dec) (sub : Subscription) : Except PoolError Placement :=
  let exhausted := .capacityExhausted pool.len cfg.capacity pool.conns.length
  match pool.conns.findIdx? fun conn => conn.slot.holds sub.key with
  | some id => .ok (.alreadyPresent id)
  | none =>
      if cfg.capacity ≤ pool.len then .error exhausted
      else
        match pool.conns.findIdx? fun conn => conn.slot.hasRoom cfg sub with
        | some id => .ok (.existing id)
        | none =>
            if cfg.connections ≤ pool.conns.length then
              -- room that this kind may not take is not a full pool
              if sub.exclusivePerConnection &&
                  pool.conns.any fun conn => conn.slot.subs.length < cfg.subs then
                .error (.exclusiveSlotExhausted sub.kind pool.conns.length)
              else .error exhausted
            else .ok (.newConnection pool.conns.length)

/-! ## The calls -/

/-- `subscribe_to`. -/
def Pool.subscribe (pool : Pool dec) (sub : Subscription) (nowMs : Nat) :
    Except PoolError Unit × Pool dec :=
  if pool.shutdown then (.error .shutdown, pool)
  else
    match pool.place cfg sub with
    | .error error => (.error error, pool)
    | .ok (.alreadyPresent _) => (.ok (), pool)
    | .ok (.existing id) =>
        (.ok (), { pool with conns := pool.conns.modify id (Connection.subscribe sub) })
    | .ok (.newConnection id) =>
        (.ok (), { pool with conns := pool.conns ++ [Connection.new dec id sub nowMs] })

/-- A call on the connection that holds a subscription. -/
def Pool.onHolder (pool : Pool dec) (sub : Subscription)
    (call : Connection dec → Connection dec) : Except PoolError Unit × Pool dec :=
  if pool.shutdown then (.error .shutdown, pool)
  else
    match pool.conns.findIdx? fun conn => conn.slot.holds sub.key with
    | none => (.error (.notSubscribed sub.key), pool)
    | some id => (.ok (), { pool with conns := pool.conns.modify id call })

/-- `WsPool::unsubscribe`. -/
def Pool.unsubscribe (pool : Pool dec) (sub : Subscription) : Except PoolError Unit × Pool dec :=
  pool.onHolder sub (Connection.unsubscribe sub)

/-- `WsPool::clear_quarantine`. -/
def Pool.clearQuarantine (pool : Pool dec) (sub : Subscription) :
    Except PoolError Unit × Pool dec :=
  pool.onHolder sub (Connection.clearQuarantine sub)

/-- What happens at the pool: a call, or a step of the task of a connection. -/
inductive PoolAct where
  | subscribe (sub : Subscription) (nowMs : Nat)
  | unsubscribe (sub : Subscription)
  | clearQuarantine (sub : Subscription)
  | task (id : Nat) (act : ConnAct)
  | shutdown

/-- The acts of a connection that are its task's. -/
def ConnAct.isTask : ConnAct → Bool
  | .subscribe _ | .unsubscribe _ | .clearQuarantine _ => false
  | _ => true

/-- One step of the pool. The calls on it take its lock, and the tasks of its connections move on
between them. -/
inductive PoolStep : Pool dec → PoolAct → Pool dec → Prop
  | subscribe {pool : Pool dec} {sub : Subscription} {nowMs : Nat} :
      PoolStep pool (.subscribe sub nowMs) (pool.subscribe cfg sub nowMs).2
  | unsubscribe {pool : Pool dec} {sub : Subscription} :
      PoolStep pool (.unsubscribe sub) (pool.unsubscribe sub).2
  | clearQuarantine {pool : Pool dec} {sub : Subscription} :
      PoolStep pool (.clearQuarantine sub) (pool.clearQuarantine sub).2
  | task {pool : Pool dec} {id : Nat} {conn after : Connection dec} {act : ConnAct}
      (here : pool.conns[id]? = some conn) (own : act.isTask = true)
      (step : ConnStep cfg.connection conn act after) :
      PoolStep pool (.task id act) { pool with conns := pool.conns.set id after }
  | shutdown {pool : Pool dec} : PoolStep pool .shutdown { pool with shutdown := true }

end Pool

/-! ## What is promised -/

section Promise

variable {dec : Quotients}

/-- Each key is on one connection, and no connection holds more than it may. -/
structure Pool.Placed (cfg : PoolConfig) (pool : Pool dec) : Prop where
  once : ∀ (key : String) (id other : Nat) (left right : Connection dec),
    pool.conns[id]? = some left → pool.conns[other]? = some right →
      left.slot.holds key = true → right.slot.holds key = true → id = other
  distinct : ∀ conn ∈ pool.conns, (conn.slot.subscriptions.map Subscription.key).Nodup
  within : ∀ conn ∈ pool.conns, conn.slot.subscriptions.length ≤ cfg.subs
  exclusive : ∀ conn ∈ pool.conns,
    conn.slot.subscriptions.countP Subscription.exclusivePerConnection ≤ 1

/-- What is subscribed on a socket opened at this time is what the slot holds, but for entries
whose quarantine was in force then and has not been lifted. -/
structure ConnectionSlot.CarriedBy (openedMs : Nat) (slot : ConnectionSlot)
    (socket : List Subscription) : Prop where
  carried : ∀ entry ∈ slot.subs, entry.quarantinedAt openedMs = false →
    ∃ sub ∈ socket, sub.key = entry.sub.key
  held : ∀ sub ∈ socket, slot.holds sub.key = true

/-- When the socket was opened, after an act of the connection. -/
def ConnAct.openedMs (since : Nat) : ConnAct → Nat
  | .connect nowMs => nowMs
  | _ => since

/-- When the socket of a connection was opened, after an act of the pool. -/
def PoolAct.openedMs (id since : Nat) : PoolAct → Nat
  | .task other act => if other = id then act.openedMs since else since
  | _ => since

/-- When the socket of a connection was opened last. -/
def openedMs (id : Nat) (acts : List PoolAct) : Nat := acts.foldl (PoolAct.openedMs id) 0

/-- The subscription an act names. -/
def PoolAct.names : PoolAct → Option Subscription
  | .subscribe sub _ | .unsubscribe sub | .clearQuarantine sub => some sub
  | _ => none

end Promise

end Oppen.Feed
