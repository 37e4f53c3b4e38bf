import Oppen.Reconcile.Source

/-! # Events of the websocket pool

Subscriptions, outages and everything a consumer of the pool sees.
-/

namespace Oppen.Feed

open Oppen.Ledger Oppen.Reconcile

/-- A websocket subscription. -/
inductive Subscription where
  | activeAssetCtx (coin : String)
  | bbo (coin : String)
  | trades (coin : String)
  | candle (coin interval : String)
  | l2Book (coin : String)
  | userFills (user : Address)
  | orderUpdates (user : Address)
  deriving DecidableEq

/-- Stable identity for the registry, the gap rows and feed-health reporting. -/
def Subscription.key : Subscription → String
  | .activeAssetCtx coin => "activeAssetCtx:" ++ coin
  | .bbo coin => "bbo:" ++ coin
  | .trades coin => "trades:" ++ coin
  | .candle coin interval => "candle:" ++ coin ++ ":" ++ interval
  | .l2Book coin => "l2Book:" ++ coin
  | .userFills user => "userFills:" ++ user.display
  | .orderUpdates user => "orderUpdates:" ++ user.display

/-- The gap a reconnect left in the record. -/
structure GapWindow where
  startMs : Nat
  endMs : Nat
  deriving DecidableEq, Repr

/-- A connection lost its socket. -/
structure Disconnected where
  connection : Nat
  atMs : Nat
  lastMessageMs : Option Nat
  subscriptions : List Subscription
  unacked : List Subscription
  reason : String
  deriving DecidableEq

/-- A connection came back and re-established what it owned. -/
structure Reconnected where
  connection : Nat
  atMs : Nat
  gap : GapWindow
  resubscribed : List Subscription
  attempts : Nat
  deriving DecidableEq

/-- Everything a consumer sees. -/
inductive WsEvent (dec : Quotients) where
  | activeAssetCtx (coin : String) (receivedAtMs : Nat)
  | bbo (coin : String) (venueTimeMs : Nat)
  | trades (coin : String)
  | candle
  | l2Book
  | userFills (user : Address) (isSnapshot : Bool) (fills : List (Fill dec))
  | orderUpdates (user : Address)
  | disconnected (dropped : Disconnected)
  | reconnected (back : Reconnected)
  | subscriptionQuarantined (connection : Nat) (subscription : Subscription) (strikes : Nat)
  | venueError (connection : Nat) (message : String)
  /-- A frame arrived and could not be understood. -/
  | messageDropped (connection : Nat) (channel reason : String)

/-- The events whose consumption an admission waits for. -/
def WsEvent.isAccount {dec : Quotients} : WsEvent dec → Bool
  | .userFills .. | .orderUpdates .. | .disconnected .. | .reconnected ..
  | .subscriptionQuarantined .. | .venueError .. | .messageDropped .. => true
  | .activeAssetCtx .. | .bbo .. | .trades .. | .candle | .l2Book => false

end Oppen.Feed
