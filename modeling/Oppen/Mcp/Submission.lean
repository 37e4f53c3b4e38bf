import Oppen.Ledger.Reservations
import Oppen.Mcp.Exchange

/-! # Order submission

The way of an order from a tool call to the venue. A call takes its turn on the account, looks
at the reservation of the last order, reads the account, is cleared, reserves, signs and posts.
Other gateways over the same ledger do the same, each with turns of its own, and a call can be
dropped at any point.
-/

namespace Oppen.Mcp

open Foundation Oppen.Ledger Oppen.Guardrail

/-! ## Answers of the venue -/

/-- What `track_submission` resolves a reservation with: only a structured rejection proves that
the request cannot fill. -/
def tracked {Decimal : Type} :
    Except ExchangeError (ExchangeResponse Decimal) → Option SubmissionResolution
  | .error (.exchangeRejected message) => some (.rejected message)
  | .ok ⟨.order, [.error message]⟩ => some (.rejected message)
  | _ => none

/-- What is tracked as resolved is a rejection, with the venue's message. -/
theorem tracked_rejected {Decimal : Type}
    {result : Except ExchangeError (ExchangeResponse Decimal)} {outcome : SubmissionResolution}
    (resolves : tracked result = some outcome) : ∃ message, outcome = .rejected message := by
  unfold tracked at resolves
  split at resolves
  · cases resolves
    exact ⟨_, rfl⟩
  · cases resolves
    exact ⟨_, rfl⟩
  · cases resolves

/-- An answer that resolves came from the venue. -/
theorem whole_of_tracked {Decimal : Type} {answer : HttpAnswer Decimal}
    {outcome : SubmissionResolution} (resolves : tracked answer.result = some outcome) :
    answer ≠ .lost := by
  rintro rfl
  cases resolves

/-! ## Calls -/

/-- A call of `place`, `close_position` or `operator_confirm`, by the gateway it is made to. -/
structure OrderCall where
  gateway : Nat
  account : Address

/-- How far a call is. -/
inductive OrderStage (Decimal : Type) where
  | idle
  -- `reserve_submission_account`
  | queued (call : OrderCall)
  | held (call : OrderCall)
  | looking (call : OrderCall) (receipt : SubmissionReceipt)
  | seen (call : OrderCall) (receipt : SubmissionReceipt) (oid : UInt64) (status : String)
  | reviewing (call : OrderCall)
  | permitted (call : OrderCall) (revision : Nat)
  -- `evaluation_context` and `evaluate`
  | measuring (call : OrderCall) (revision : Nat)
  | cleared (call : OrderCall) (revision : Nat) (clearance : Clearance)
  -- `submit_inline`
  | begun (call : OrderCall) (receipt : SubmissionReceipt)
  | signed (call : OrderCall) (receipt : SubmissionReceipt)
  | refused (call : OrderCall) (receipt : SubmissionReceipt) (detail : String)
  | sent (call : OrderCall) (receipt : SubmissionReceipt)
  | answered (call : OrderCall) (receipt : SubmissionReceipt) (answer : HttpAnswer Decimal)
  | closed

/-- A ledger, the gateways over it and the venue. The orders that were sent and have not arrived are
in flight: the venue may take them in any order, or lose them. -/
structure Trading (Decimal : Type) where
  store : Store
  /-- Who has the turn of a gateway on an account. -/
  turns : Nat → Address → Option Nat
  calls : Nat → OrderStage Decimal
  /-- Requests that left a gateway and did not reach the venue yet. -/
  flying : List SubmissionReceipt
  /-- Requests that reached the venue. -/
  posted : List SubmissionReceipt

namespace Trading

variable {Decimal : Type} (now : Trading Decimal)

def start (store : Store) : Trading Decimal :=
  ⟨store, fun _ _ => none, fun _ => .idle, [], []⟩

def withCall (id : Nat) (stage : OrderStage Decimal) : Trading Decimal :=
  { now with calls := Function.update now.calls id stage }

/-- A call ends, and gives up its turn. -/
def close (id : Nat) : Trading Decimal :=
  { now.withCall id .closed with
    turns := fun gateway account =>
      if now.turns gateway account = some id then none else now.turns gateway account }

end Trading

/-! ## Steps -/

/-- What happens to the orders of the gateways: the stages of their calls, what the venue does with
what was sent, and the ledger's other writers. -/
inductive TradingAct (dec : Decimals) where
  | call (id gateway : Nat) (account : Address)
  | lock (id : Nat)
  | vacant (id : Nat)
  | busy (id : Nat)
  | look (id : Nat) (receipt : SubmissionReceipt)
  | observe (id : Nat)
  | observeFails (id : Nat)
  | measure (id : Nat)
  | read (id : Nat)
  | clear (id : Nat) (clearance : Clearance)
  | begin (id : Nat) (clearance : Clearance) (receipt : SubmissionReceipt)
  | beginFails (id : Nat)
  | sign (id : Nat)
  | refuse (id : Nat)
  | dispatch (id : Nat) (receipt : SubmissionReceipt)
  | withdraw (id : Nat)
  | answer (id : Nat) (receipt : SubmissionReceipt) (answer : HttpAnswer dec.Decimal)
  | reject (id : Nat)
  | finish (id : Nat)
  | drop (id : Nat)
  | arrive (receipt : SubmissionReceipt)
  | lose (receipt : SubmissionReceipt)
  | other (request : Request dec)

/-- A call of the ledger that is none of the submission lifecycle. -/
def Elsewhere {dec : Decimals} : Call dec → Prop
  | .begin .. | .resolve .. => False
  | _ => True

section Acting

variable (lib : Libraries) (dec : Decimals) (handle : Handle)
  (registry : Option (RegistryChecks dec.Decimal))

/-- One step of one call, of the venue, or of another writer. The gateways share the ledger and the
venue, and each holds a lock of its own for an account. -/
inductive TradingStep (now : Trading dec.Decimal) : TradingAct dec → Trading dec.Decimal → Prop
  | call (id gateway : Nat) (account : Address) (idle : now.calls id = .idle) :
      TradingStep now (.call id gateway account) (now.withCall id (.queued ⟨gateway, account⟩))
  | lock (id : Nat) (call : OrderCall) (stage : now.calls id = .queued call)
      (free : now.turns call.gateway call.account = none) :
      TradingStep now (.lock id) { now.withCall id (.held call) with
        turns := fun gateway account =>
          if gateway = call.gateway ∧ account = call.account then some id
          else now.turns gateway account }
  -- `reserve_account_held`, first and after a resolution
  | vacant (id : Nat) (call : OrderCall)
      (stage : now.calls id = .held call ∨ now.calls id = .reviewing call) (revision : Nat)
      (read : accountState lib dec handle registry now.store call.account = .ok ⟨revision, none⟩) :
      TradingStep now (.vacant id) (now.withCall id (.permitted call revision))
  | busy (id : Nat) (call : OrderCall) (stage : now.calls id = .held call) (revision : Nat)
      (receipt : SubmissionReceipt)
      (read : accountState lib dec handle registry now.store call.account =
        .ok ⟨revision, some receipt⟩) :
      TradingStep now (.busy id) (now.withCall id (.looking call receipt))
  -- the venue knows an order of the account by that cloid, and names no other
  | look (id : Nat) (call : OrderCall) (receipt : SubmissionReceipt)
      (stage : now.calls id = .looking call receipt)
      (known : ∃ order ∈ now.posted, order.uses = (call.account, receipt.start.cloid))
      (named : Option Cloid) (same : ∀ cloid ∈ named, cloid = receipt.start.cloid)
      (oid : UInt64) (status : String) :
      TradingStep now (.look id receipt) (now.withCall id (.seen call receipt oid status))
  | observe (id : Nat) (call : OrderCall) (receipt : SubmissionReceipt) (oid : UInt64)
      (status : String) (stage : now.calls id = .seen call receipt oid status) (publish : Bool)
      (atMs : Nat) (store : Store)
      (resolved : resolve lib dec handle publish receipt (.observed oid status) atMs now.store =
        (.ok (), store)) :
      TradingStep now (.observe id) ({ now with store }.withCall id (.reviewing call))
  | observeFails (id : Nat) (call : OrderCall) (receipt : SubmissionReceipt) (oid : UInt64)
      (status : String) (stage : now.calls id = .seen call receipt oid status) (publish : Bool)
      (atMs : Nat) (error : SubmissionError dec.Decimal) (store : Store)
      (failed : resolve lib dec handle publish receipt (.observed oid status) atMs now.store =
        (.error error, store)) :
      TradingStep now (.observeFails id) ({ now with store }.close id)
  -- the first read of the account, and the others
  | measure (id : Nat) (call : OrderCall) (revision : Nat)
      (stage : now.calls id = .permitted call revision) :
      TradingStep now (.measure id) (now.withCall id (.measuring call revision))
  | read (id : Nat) (call : OrderCall) (revision : Nat)
      (stage : now.calls id = .measuring call revision) :
      TradingStep now (.read id) now
  | clear (id : Nat) (call : OrderCall) (revision : Nat)
      (stage : now.calls id = .measuring call revision) (clearance : Clearance) :
      TradingStep now (.clear id clearance) (now.withCall id (.cleared call revision clearance))
  | begin (id : Nat) (call : OrderCall) (revision : Nat) (clearance : Clearance)
      (stage : now.calls id = .cleared call revision clearance) (publish : Bool) (atMs : Nat)
      (receipt : SubmissionReceipt) (store : Store)
      (begun : begin lib dec handle registry publish call.account clearance revision atMs
        now.store = (.ok receipt, store)) :
      TradingStep now (.begin id clearance receipt)
        ({ now with store }.withCall id (.begun call receipt))
  | beginFails (id : Nat) (call : OrderCall) (revision : Nat) (clearance : Clearance)
      (stage : now.calls id = .cleared call revision clearance) (publish : Bool) (atMs : Nat)
      (error : SubmissionError dec.Decimal) (store : Store)
      (failed : begin lib dec handle registry publish call.account clearance revision atMs
        now.store = (.error error, store)) :
      TradingStep now (.beginFails id) ({ now with store }.close id)
  | sign (id : Nat) (call : OrderCall) (receipt : SubmissionReceipt)
      (stage : now.calls id = .begun call receipt) :
      TradingStep now (.sign id) (now.withCall id (.signed call receipt))
  -- signing fails, or the dispatch is not admitted: the request is not polled
  | refuse (id : Nat) (call : OrderCall) (receipt : SubmissionReceipt)
      (stage : now.calls id = .begun call receipt ∨ now.calls id = .signed call receipt)
      (detail : String) :
      TradingStep now (.refuse id) (now.withCall id (.refused call receipt detail))
  | dispatch (id : Nat) (call : OrderCall) (receipt : SubmissionReceipt)
      (stage : now.calls id = .signed call receipt) :
      TradingStep now (.dispatch id receipt)
        ({ now with flying := receipt :: now.flying }.withCall id (.sent call receipt))
  -- `signing_submission_error`
  | withdraw (id : Nat) (call : OrderCall) (receipt : SubmissionReceipt) (detail : String)
      (stage : now.calls id = .refused call receipt detail) (publish : Bool) (atMs : Nat) :
      TradingStep now (.withdraw id)
        ({ now with store :=
            (resolve lib dec handle publish receipt (.notSent detail) atMs now.store).2 }.close id)
  -- an HTTP answer is of a request that arrived; anything else can be lost at any time
  | answer (id : Nat) (call : OrderCall) (receipt : SubmissionReceipt)
      (stage : now.calls id = .sent call receipt) (answer : HttpAnswer dec.Decimal)
      (arrived : answer ≠ .lost → receipt ∈ now.posted) :
      TradingStep now (.answer id receipt answer)
        (now.withCall id (.answered call receipt answer))
  -- `track_submission`
  | reject (id : Nat) (call : OrderCall) (receipt : SubmissionReceipt)
      (answer : HttpAnswer dec.Decimal) (stage : now.calls id = .answered call receipt answer)
      (outcome : SubmissionResolution) (resolves : tracked answer.result = some outcome)
      (publish : Bool) (atMs : Nat) :
      TradingStep now (.reject id)
        ({ now with store :=
            (resolve lib dec handle publish receipt outcome atMs now.store).2 }.close id)
  | finish (id : Nat) (call : OrderCall) (receipt : SubmissionReceipt)
      (answer : HttpAnswer dec.Decimal) (stage : now.calls id = .answered call receipt answer)
      (unresolved : tracked answer.result = none) :
      TradingStep now (.finish id) (now.close id)
  -- an error, a cancelled call, a journal that fails, a process that dies
  | drop (id : Nat) : TradingStep now (.drop id) (now.close id)
  | arrive (receipt : SubmissionReceipt) (flying : receipt ∈ now.flying) :
      TradingStep now (.arrive receipt) { now with
        flying := now.flying.erase receipt, posted := now.posted ++ [receipt] }
  | lose (receipt : SubmissionReceipt) (flying : receipt ∈ now.flying) :
      TradingStep now (.lose receipt) { now with flying := now.flying.erase receipt }
  -- any other writer of the ledger, which redacts no intent and no row of the lifecycle
  | other (request : Request dec) (elsewhere : Elsewhere request.call) (store : Store)
      (step : SparingStep lib dec handle now.store request store) :
      TradingStep now (.other request) { now with store }

end Acting

end Oppen.Mcp
