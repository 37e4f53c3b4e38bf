import Oppen.Reconcile.Source
import Oppen.Ledger.System

/-! # Joining fills to the record

A fill is explained by the intent or the operator action that carries its client order
id, searched in the payload at any depth up to a bound.
-/

namespace Oppen.Reconcile

open Foundation Oppen.Json Oppen.Ledger

/-- `MAX_PAYLOAD_DEPTH`. -/
def maxPayloadDepth : Nat := 8

/-- The names of an object's members in sorted order. -/
def sortedKeys (fields : Fields) : List String :=
  (fieldKeys fields).dedup.insertionSort (· ≤ ·)
where
  fieldKeys : Fields → List String
    | .nil => []
    | .cons key _ rest => key :: fieldKeys rest

/-- Search a payload for a member of that name that reads: an object's own before any of its
children, the children depth-first in sorted order. -/
def findField {α : Type} (field : String) (read : Value → Option α) :
    (levels : Nat) → Value → Option α
  | 0, _ => none
  | levels + 1, .object fields =>
      ((fields.lookup field).bind read).or
        ((sortedKeys fields).findSome? fun next =>
          (fields.lookup next).bind (findField field read levels))
  | levels + 1, .array items => items.toList.findSome? (findField field read levels)
  | _ + 1, _ => none

/-- `find_cloid`. -/
def findCloid (payload : Value) : Option Cloid :=
  findField "cloid" Cloid.ofValue (maxPayloadDepth + 1) payload

section Attributing

variable (lib : Libraries) (dec : Quotients)

/-- `find_reference_px`: only a positive price counts. -/
def findReferencePx (payload : Value) : Option dec.Decimal :=
  findField "reference_px"
    (fun value => (value.asStr.bind dec.fromStrExact).filter fun px => 0 < dec.value px)
    (maxPayloadDepth + 1) payload

/-- `slip_bps`: signed, positive when it cost. -/
def slipBps (isBuy : Bool) (fillPx arrivalMid : dec.Decimal) : Option dec.Decimal := do
  let moved ← if isBuy then dec.checkedSub fillPx arrivalMid else dec.checkedSub arrivalMid fillPx
  let quotient ← dec.checkedDiv moved arrivalMid
  dec.checkedMul quotient (dec.ofInt 10000)

/-- What explains a fill. -/
inductive Attribution where
  | attributed (agentId : String) (intentSeq : Nat) (intentHash : String)
      (arrivalMid : Option dec.Decimal)
  | manual (actionSeq : Nat)
  | external

def Attribution.asStr {dec : Quotients} : Attribution dec → String
  | .attributed .. => "attributed"
  | .manual _ => "manual"
  | .external => "external"

/-- `Attribution::agent_id`. -/
def Attribution.agentId {dec : Quotients} : Attribution dec → Option String
  | .attributed agentId .. => some agentId
  | .manual _ | .external => none

/-- The intent row a client order id leads to. -/
structure IntentRef where
  seq : Nat
  hash : String
  agentId : Option String
  arrivalMid : Option dec.Decimal

/-- The rows client order ids lead to, the newest first. -/
structure Attributions where
  intents : List (Cloid × IntentRef dec)
  manual : List (Cloid × Nat)

/-- `events_of_kind`. -/
def eventsOfKind (kind : EventKind) (db : Db) : Result (List Event) :=
  (db.events.filter fun row => row.kind = kind.asStr).mapM (eventFromRow lib)

/-- `Attributions::read`. -/
def Attributions.read (db : Db) : Result (Attributions dec) := do
  let intents ← eventsOfKind lib .orderIntent db
  let actions ← eventsOfKind lib .operatorAction db
  return {
    intents := intents.reverse.filterMap fun event => do
      let payload ← event.payload
      let cloid ← findCloid payload
      return (cloid, ⟨event.seq, event.hash, event.agentId, findReferencePx dec payload⟩)
    manual := actions.reverse.filterMap fun event => do
      let payload ← event.payload
      let cloid ← findCloid payload
      return (cloid, event.seq) }

/-- `Attributions::of`: an intent wins over an operator action. -/
def Attributions.of {dec : Quotients} (attributions : Attributions dec) :
    Option Cloid → Attribution dec
  | none => .external
  | some cloid =>
      let manual := match attributions.manual.lookup cloid with
        | some actionSeq => .manual actionSeq
        | none => .external
      match attributions.intents.lookup cloid with
      | some ⟨seq, hash, some agentId, arrivalMid⟩ => .attributed agentId seq hash arrivalMid
      | _ => manual

/-! ## What is recorded -/

/-- The gap a walk recovers, and how far into venue time its outage reaches. -/
structure RecoveredWindow where
  gapId : Int
  horizonMs : Nat

/-- An optional integer of a payload. -/
def ofOptionInt (number : Option Int) : Value := (number.map Value.ofInt).getD .null

/-- The members every payload of `fill_payload` has. -/
def fillMembers {dec : Quotients} (account : Address) (fill : Fill dec)
    (attribution : Attribution dec) (recoveredFrom : Option RecoveredWindow) :
    List (String × Value) :=
  [("account", .string account.display),
    ("attribution", .string attribution.asStr),
    ("builder_fee", .ofOption (fill.builderFee.map dec.display)),
    ("cloid", .ofOption (fill.cloid.map Cloid.text)),
    ("closed_pnl", .string (dec.display fill.closedPnl)),
    ("coin", .string fill.coin),
    ("crossed", .bool fill.crossed),
    ("dir", .string fill.dir),
    ("fee", .string (dec.display fill.fee)),
    ("fee_token", .string fill.feeToken),
    ("oid", .ofInt fill.oid.toNat),
    ("px", .string (dec.display fill.px)),
    ("recovered_from_gap", ofOptionInt
      ((recoveredFrom.filter fun window => fill.time ≤ window.horizonMs).map
        RecoveredWindow.gapId)),
    ("side", .string (sideText fill.side)),
    ("start_position", .string (dec.display fill.startPosition)),
    ("sz", .string (dec.display fill.sz)),
    ("tid", .ofInt fill.tid.toNat),
    ("ts_ms", .ofInt fill.time),
    ("venue_hash", .string fill.hash)]

/-- The members that depend on what explains the fill. -/
def attributionMembers {dec : Quotients} (fill : Fill dec) :
    Attribution dec → List (String × Value)
  | .attributed agentId intentSeq intentHash arrivalMid =>
      let scored := do
        let arrivalMid ← arrivalMid
        let slip ← slipBps dec fill.side.isBuy fill.px arrivalMid
        return [("arrival_mid", Value.string (dec.display arrivalMid)),
          ("slip_bps", .string (dec.display slip))]
      [("agent_id", .string agentId), ("intent_seq", .ofInt intentSeq),
        ("intent_hash", .string intentHash)] ++ scored.getD []
  | .manual actionSeq => [("action_seq", .ofInt actionSeq)]
  | .external => []

/-- `fill_payload`. -/
def fillPayload {dec : Quotients} (account : Address) (fill : Fill dec)
    (attribution : Attribution dec) (recoveredFrom : Option RecoveredWindow) : Value :=
  (attributionMembers fill attribution).foldl (fun payload member => payload.set member.1 member.2)
    (.ofFields (fillMembers account fill attribution recoveredFrom))

/-! ## Recording a batch -/

/-- Something worth an operator's attention that is not a failure. -/
inductive Finding where
  | unattributedFill (tid oid : UInt64) (coin : String) (tsMs : Int64) (cloid : Option Cloid)
  | orderRetired (cloid : Cloid)
  | firstRunWindow (account : String) (startMs : Nat)

/-- What a batch came to. -/
structure Recovered where
  fillsSeen : Nat
  fillsRecorded : Nat
  duplicates : Nat
  attributed : Nat
  manual : Nat
  external : Nat
  findings : List Finding

/-- `Recovered::default`. -/
def Recovered.empty : Recovered := ⟨0, 0, 0, 0, 0, 0, []⟩

/-- Count a fill that was recorded. -/
def Recovered.count {dec : Quotients} (recovered : Recovered) (fill : Fill dec) (tsMs : Int64) :
    Attribution dec → Recovered
  | .attributed .. =>
      { recovered with
        attributed := recovered.attributed + 1, fillsRecorded := recovered.fillsRecorded + 1 }
  | .manual _ =>
      { recovered with
        manual := recovered.manual + 1, fillsRecorded := recovered.fillsRecorded + 1 }
  | .external =>
      { recovered with
        external := recovered.external + 1, fillsRecorded := recovered.fillsRecorded + 1
        findings := recovered.findings ++
          [.unattributedFill fill.tid fill.oid fill.coin tsMs fill.cloid] }

/-- The fill a walk offers to the ledger. -/
def recoveredFill {dec : Quotients} (account : Address) (fill : Fill dec)
    (attribution : Attribution dec) (recoveredFrom : Option RecoveredWindow) : NewFill where
  account := account.display
  tid := fill.tid
  tsMs := .ofNat fill.time
  agentId := attribution.agentId
  payload := fillPayload account fill attribution recoveredFrom

variable (VenueError : Type)

/-- The loop of `apply_fills`; `publish` says of each fill whether its head is published. -/
def recordFills (handle : Handle) (account : Address) (attributions : Attributions dec)
    (recoveredFrom : Option RecoveredWindow) :
    List (Fill dec) → (publish : Nat → Bool) → Recovered → Store →
      Except (ReconcileError VenueError) Recovered × Store
  | [], _, recovered, store => (.ok recovered, store)
  | fill :: rest, publish, recovered, store =>
      if 2 ^ 63 ≤ fill.time then (.error (.timestampOutOfRange fill.time), store)
      else
        let attribution := attributions.of fill.cloid
        match recordFill lib dec.toDecimals handle (publish 0)
            (recoveredFill account fill attribution recoveredFrom) store with
        | (.error error, store) => (.error (.ledger error), store)
        | (.ok appended, store) =>
            let recovered := match appended with
              | none => { recovered with duplicates := recovered.duplicates + 1 }
              | some _ => recovered.count fill (.ofNat fill.time) attribution
            recordFills handle account attributions recoveredFrom rest
              (fun call => publish (call + 1)) recovered store

/-- `apply_fills`. -/
def applyFills (handle : Handle) (publish : Nat → Bool) (account : Address)
    (fills : List (Fill dec)) (recoveredFrom : Option RecoveredWindow) (store : Store) :
    Except (ReconcileError VenueError) Recovered × Store :=
  let attributions := if fills.any fun fill => fill.cloid.isSome
    then Attributions.read lib dec store.db else .ok ⟨[], []⟩
  match attributions with
  | .error error => (.error (.ledger error), store)
  | .ok attributions =>
      recordFills lib dec VenueError handle account attributions recoveredFrom
        (sortFills fills) publish
        { Recovered.empty with fillsSeen := fills.length } store

end Attributing

/-! ## A batch is a run of recorded fills -/

section Runs

variable {lib : Libraries} {dec : Quotients} {handle : Handle} {account : Address}
  {recoveredFrom : Option RecoveredWindow} {VenueError : Type}

/-- The request offers one of the fills, under some attribution. -/
def Offers (account : Address) (fills : List (Fill dec)) (recoveredFrom : Option RecoveredWindow)
    (request : Request dec.toDecimals) : Prop :=
  ∃ fill ∈ fills, ∃ attribution,
    request.call = .recordFill (recoveredFill account fill attribution recoveredFrom)

/-- What is offered of some fills is offered of more. -/
theorem Offers.mono {fills wider : List (Fill dec)} {request : Request dec.toDecimals}
    (offers : Offers account fills recoveredFrom request) (within : ∀ fill ∈ fills, fill ∈ wider) :
    Offers account wider recoveredFrom request := by
  obtain ⟨fill, member, facts⟩ := offers
  exact ⟨fill, within fill member, facts⟩

/-- Recording fills is a run of the ledger whose requests offer those fills only. -/
theorem recordFills_run (attributions : Attributions dec) (fills : List (Fill dec))
    (publish : Nat → Bool) (recovered : Recovered) (store : Store) :
    ∃ requests, Run (Step lib dec.toDecimals handle) store requests
        (recordFills lib dec VenueError handle account attributions recoveredFrom fills publish
          recovered store).2 ∧
      ∀ request ∈ requests, Offers account fills recoveredFrom request := by
  induction fills generalizing publish recovered store with
  | nil =>
      rw [recordFills]
      exact ⟨[], .nil, fun _ member => absurd member List.not_mem_nil⟩
  | cons fill rest ih =>
      rw [recordFills]
      split
      · exact ⟨[], .nil, fun _ member => absurd member List.not_mem_nil⟩
      · let offered := recoveredFill account fill (attributions.of fill.cloid) recoveredFrom
        let request : Request dec.toDecimals := ⟨.recordFill offered, publish 0⟩
        have step : Step lib dec.toDecimals handle store request
            (recordFill lib dec.toDecimals handle (publish 0) offered store).2 := rfl
        have offers : Offers account (fill :: rest) recoveredFrom request :=
          ⟨fill, List.mem_cons_self, _, rfl⟩
        have single : ∀ other ∈ [request], Offers account (fill :: rest) recoveredFrom other :=
          fun other member => List.mem_singleton.mp member ▸ offers
        dsimp only
        split
        · rename_i after failed
          rw [show after = (recordFill lib dec.toDecimals handle (publish 0) offered store).2 from
            (congrArg Prod.snd failed).symm]
          exact ⟨[request], .single step, single⟩
        · rename_i after recorded
          rw [show after = (recordFill lib dec.toDecimals handle (publish 0) offered store).2 from
            (congrArg Prod.snd recorded).symm]
          obtain ⟨later, run, offered'⟩ := ih _ _ _
          refine ⟨[request] ++ later, (Run.single step).append run, fun other member => ?_⟩
          rcases List.mem_append.mp member with here | after
          · exact single other here
          · exact (offered' other after).mono fun _ => List.mem_cons_of_mem _

/-- Applying a batch is a run of recorded fills of the batch. -/
theorem applyFills_run (publish : Nat → Bool) (fills : List (Fill dec)) (store : Store) :
    ∃ requests, Run (Step lib dec.toDecimals handle) store requests
        (applyFills lib dec VenueError handle publish account fills recoveredFrom store).2 ∧
      ∀ request ∈ requests, Offers account fills recoveredFrom request := by
  unfold applyFills
  dsimp only
  split
  · exact ⟨[], .nil, fun _ member => absurd member List.not_mem_nil⟩
  · obtain ⟨requests, run, offers⟩ := recordFills_run _ _ _ _ _
    exact ⟨requests, run, fun request member =>
      (offers request member).mono fun _ => mem_sortFills.mp⟩

end Runs

end Oppen.Reconcile
