import Mathlib.Data.List.Sort
import Mathlib.Data.Prod.Lex
import Oppen.Ledger.History

/-! # Pilot accounting

What a pilot has executed and reserved, projected from its history, and the checks
an order must pass before it is admitted and again before it is signed.
-/

namespace Oppen.Ledger

open Oppen.Json Oppen.Guardrail

/-- `fill_idem_key`. -/
def fillIdemKey (account : String) (tid : UInt64) : String :=
  "fill:" ++ account ++ ":" ++ toString tid.toNat

/-- The terms an order was reserved under. -/
structure Terms (Decimal : Type) where
  sz : Decimal
  valuation : Decimal
  symbol : String
  isBuy : Bool

/-- A fill as the accounting reads it. -/
structure Fill (Decimal : Type) where
  seq : Nat
  tsMs : Nat
  tid : UInt64
  oid : UInt64
  cloid : Option Cloid
  px : Decimal
  sz : Decimal
  net : Decimal
  closedPnl : Decimal
  fee : Decimal
  symbol : String
  isBuy : Bool

/-- A submission with the quantity its fills have taken. -/
structure Allocation (Decimal : Type) where
  submission : PilotSubmission
  terms : Terms Decimal
  quantity : Decimal

/-- Whether the submission can take no fill any more. -/
def PilotSubmission.isTerminal (submission : PilotSubmission) : Bool :=
  match submission.resolution with
  | some (.notSent _) | some (.rejected _) => true
  | _ => false

/-- The venue order a submission was observed as. -/
def PilotSubmission.observedOid (submission : PilotSubmission) : Option UInt64 :=
  match submission.resolution with
  | some (.observed oid _) => some oid
  | _ => none

section Accounting

variable (lib : Libraries) (dec : Decimals)

/-! ## Reading orders and fills -/

/-- `exhausted`. -/
def exhausted (metric : PilotMetric) (observedUsd limit : dec.Decimal) :
    PilotStop dec.Decimal :=
  .exhausted metric observedUsd limit

/-- `terms`. -/
def terms (intent : Value) : Except (PilotError dec.Decimal) (Terms dec.Decimal) := do
  let kind := index intent "kind"
  refuseIf (index kind "cleared" ≠ .string "order")
    (.unavailable "pilot reservation has no order intent")
  let px ← money dec (index kind "px")
  let reference ← money dec (index kind "reference_px")
  let sz ← money dec (index kind "sz")
  refuseIf (dec.value px ≤ 0 ∨ dec.value reference ≤ 0 ∨ dec.value sz ≤ 0)
    (.unavailable "pilot order values must be positive")
  match (index kind "symbol").asStr.filter (fun symbol => symbol.isEmpty = false) with
  | none => .error (.unavailable "missing pilot symbol")
  | some symbol =>
      match (index kind "is_buy").asBool with
      | none => .error (.unavailable "missing pilot order side")
      | some isBuy => return ⟨sz, dec.max px reference, symbol, isBuy⟩

/-- `order_limit`: the notional of an order within the limit of one order. -/
def orderLimitCheck (value : Value) (data : Authorized dec.Decimal) :
    Except (PilotError dec.Decimal) dec.Decimal := do
  let terms ← terms dec value
  let amount ← checked (dec.checkedMul terms.sz terms.valuation)
  refuseIf (dec.value data.orderLimitUsd < dec.value amount)
    (exhausted dec .orderNotional amount data.orderLimitUsd).error
  return amount

/-- `permitted`: the pilot has no stop and the amount fits within its budget. -/
def permitted (state : PilotState dec.Decimal) (added : dec.Decimal)
    (data : Authorized dec.Decimal) : Except (PilotError dec.Decimal) Unit :=
  match state.halt with
  | some stop => .error stop.error
  | none => do
      let used ← checked (dec.checkedAdd state.executedUsd state.reservedUsd)
      let committed ← checked (dec.checkedAdd used added)
      refuseIf (dec.value data.executedLimitUsd < dec.value committed)
        (exhausted dec .committedNotional committed data.executedLimitUsd).error

/-- The cloid member of a fill: present, and null or a client order id. -/
def fillCloid (value : Value) : Except (PilotError dec.Decimal) (Option Cloid) :=
  match value.get "cloid" with
  | some .null => .ok none
  | some cloid =>
      match Cloid.ofValue cloid with
      | some cloid => .ok (some cloid)
      | none => .error (.unavailable (lib.errorText cloid))
  | none => .error (.unavailable "missing fill cloid field")

/-- A required `u64` member. -/
def fillNumber (value : Value) (key detail : String) : Except (PilotError dec.Decimal) Nat :=
  match (index value key).asU64 with
  | some number => .ok number
  | none => .error (.unavailable detail)

/-- `fill`. -/
def fill (event : Event) (value : Value) : Except (PilotError dec.Decimal) (Fill dec.Decimal) := do
  let tsMs ← fillNumber dec value "ts_ms" "missing fill timestamp"
  refuseIf ((tsMs : Int) ≠ event.tsMs.toInt) (.unavailable "fill timestamp mismatch")
  refuseIf (index value "fee_token" ≠ .string "USDC") (.unavailable "pilot fees require USDC")
  let px ← money dec (index value "px")
  let sz ← money dec (index value "sz")
  refuseIf (dec.value px ≤ 0 ∨ dec.value sz ≤ 0)
    (.unavailable "fill price and quantity must be positive")
  let cloid ← fillCloid lib dec value
  let closedPnl ← money dec (index value "closed_pnl")
  let fee ← money dec (index value "fee")
  let tid ← fillNumber dec value "tid" "missing fill trade id"
  let oid ← fillNumber dec value "oid" "missing fill order id"
  let net ← checked (dec.checkedSub closedPnl fee)
  match (index value "coin").asStr with
  | none => .error (.unavailable "missing fill symbol")
  | some symbol =>
      match (index value "side").asStr with
      | some "buy" =>
          return ⟨event.seq, tsMs, .ofNat tid, .ofNat oid, cloid, px, sz, net, closedPnl, fee,
            symbol, true⟩
      | some "sell" =>
          return ⟨event.seq, tsMs, .ofNat tid, .ofNat oid, cloid, px, sz, net, closedPnl, fee,
            symbol, false⟩
      | _ => .error (.unavailable "invalid fill side")

/-- `Fill::eq`, with decimals compared by value. -/
def Fill.same (first second : Fill dec.Decimal) : Bool :=
  first.seq = second.seq ∧ first.tsMs = second.tsMs ∧ first.tid = second.tid ∧
    first.oid = second.oid ∧ first.cloid = second.cloid ∧
    dec.value first.px = dec.value second.px ∧ dec.value first.sz = dec.value second.sz ∧
    dec.value first.net = dec.value second.net ∧
    dec.value first.closedPnl = dec.value second.closedPnl ∧
    dec.value first.fee = dec.value second.fee ∧ first.symbol = second.symbol ∧
    first.isBuy = second.isBuy

/-! ## The projection -/

/-- `initial`. -/
def initial (data : Authorized dec.Decimal) : PilotState dec.Decimal where
  agent := data.agent
  account := data.account
  authorizedAtMs := data.baselineAtMs
  baseline := data.baseline
  executedUsd := dec.zero
  reservedUsd := dec.zero
  netRealizedPnlUsd := dec.zero
  halt := none

/-- One submission of the history: an allocation of the pilot, or none of its business. -/
def allocate (authority : Authority dec.Decimal) (allocations : List (Allocation dec.Decimal))
    (submission : PilotSubmission) :
    Except (PilotError dec.Decimal) (List (Allocation dec.Decimal)) :=
  if submission.seq ≤ authority.seq then .ok allocations
  else if submission.account ≠ authority.data.account ∧ submission.agent ≠ authority.data.agent then
    .ok allocations
  else do
    refuseIf (submission.account ≠ authority.data.account ∨
        submission.agent ≠ authority.data.agent)
      (.unavailable "pilot submission changed account or agent")
    let terms ← terms dec submission.intent
    return allocations ++ [⟨submission, terms, dec.zero⟩]

/-- One fill of the history: a fill of the account after the baseline, kept once. -/
def collect (authority : Authority dec.Decimal) (fills : List (Fill dec.Decimal))
    (entry : Event × Option String) : Except (PilotError dec.Decimal) (List (Fill dec.Decimal)) :=
  let (event, key) := entry
  if event.seq ≤ authority.seq then .ok fills
  else
    match event.payload with
    | none => .error (.unavailable "post-baseline fill payload redacted")
    | some value =>
        match value.get "account" with
        | none => .error (.unavailable "fill account unknown")
        | some account =>
            match Address.ofValue account with
            | none => .error (.unavailable (lib.errorText account))
            | some account =>
                if account ≠ authority.data.account then .ok fills
                else do
                  let parsed ← fill lib dec event value
                  refuseIf (key ≠ some (fillIdemKey account.display parsed.tid))
                    (.unavailable "pilot fill idempotence key mismatch")
                  refuseIf (parsed.tsMs < authority.data.baselineAtMs)
                    (.unavailable "late pre-baseline account fill")
                  match fills.find? fun previous => previous.tid = parsed.tid with
                  | some previous => do
                      refuseIf (previous.same dec { parsed with seq := previous.seq } = false)
                        (.unavailable "conflicting duplicate account fill")
                      return fills
                  | none => return fills ++ [parsed]

/-- The key fills are sorted by. -/
def Fill.order {Decimal : Type} (fill : Fill Decimal) : Nat ×ₗ Nat :=
  toLex (fill.tsMs, fill.tid.toNat)

/-- `sort_by_key`, which is stable. -/
def sortFills {Decimal : Type} (fills : List (Fill Decimal)) : List (Fill Decimal) :=
  fills.insertionSort fun first second => first.order ≤ second.order

/-- Whether a fill may belong to a submission: by client order id or by venue order. -/
def links {Decimal : Type} (fill : Fill Decimal) (submission : PilotSubmission) : Bool :=
  fill.cloid = some submission.cloid || submission.observedOid = some fill.oid

/-- What the loop over the sorted fills carries. -/
structure Progress (Decimal : Type) where
  state : PilotState Decimal
  allocations : List (Allocation Decimal)
  unmatched : Bool

/-- The budgets are checked after every fill, and the first one reached is kept. -/
def breach (data : Authorized dec.Decimal) (state : PilotState dec.Decimal) :
    Option (PilotStop dec.Decimal) :=
  match state.halt with
  | some stop => some stop
  | none =>
      if dec.value data.executedLimitUsd ≤ dec.value state.executedUsd then
        some (exhausted dec .executedNotional state.executedUsd data.executedLimitUsd)
      else if dec.value state.netRealizedPnlUsd ≤ -dec.value data.realizedLossLimitUsd then
        some (exhausted dec .realizedLoss (dec.neg state.netRealizedPnlUsd)
          data.realizedLossLimitUsd)
      else none

/-- The totals after one more fill. -/
def execute (data : Authorized dec.Decimal) (state : PilotState dec.Decimal)
    (fill : Fill dec.Decimal) : Except (PilotError dec.Decimal) (PilotState dec.Decimal) := do
  let notional ← checked (dec.checkedMul fill.px fill.sz)
  let executedUsd ← checked (dec.checkedAdd state.executedUsd notional)
  let netRealizedPnlUsd ← checked (dec.checkedAdd state.netRealizedPnlUsd fill.net)
  let state := { state with executedUsd, netRealizedPnlUsd }
  return { state with halt := breach dec data state }

/-- What makes a fill contradict the reservation it links to. -/
def contradicts (fill : Fill dec.Decimal) (allocation : Allocation dec.Decimal) : Bool :=
  fill.seq ≤ allocation.submission.seq ||
    fill.cloid.any (fun cloid => cloid ≠ allocation.submission.cloid) ||
    fill.symbol ≠ allocation.terms.symbol || fill.isBuy ≠ allocation.terms.isBuy ||
    allocation.submission.isTerminal ||
    allocation.submission.observedOid.any (fun oid => oid ≠ fill.oid)

/-- One turn of the loop over the sorted fills. -/
def applyFill (data : Authorized dec.Decimal) (progress : Progress dec.Decimal)
    (fill : Fill dec.Decimal) : Except (PilotError dec.Decimal) (Progress dec.Decimal) := do
  let state ← execute dec data progress.state fill
  match progress.allocations.filter fun allocation => links fill allocation.submission with
  | [] => return { progress with state, unmatched := true }
  | [allocation] => do
      refuseIf (contradicts dec fill allocation = true)
        (.unavailable "fill contradicts its durable reservation")
      let quantity ← checked (dec.checkedAdd allocation.quantity fill.sz)
      refuseIf (dec.value allocation.terms.sz < dec.value quantity)
        (.unavailable "fills exceed reserved quantity")
      return { progress with
        state
        allocations := progress.allocations.map fun held =>
          if links fill held.submission then { held with quantity } else held }
  | _ => .error (.unavailable "ambiguous fill submission linkage")

/-- One turn of the loop over the allocations: what is still reserved. -/
def reserve (reservedUsd : dec.Decimal) (allocation : Allocation dec.Decimal) :
    Except (PilotError dec.Decimal) dec.Decimal :=
  if allocation.submission.isTerminal = true then .ok reservedUsd
  else do
    let remaining ← checked (dec.checkedSub allocation.terms.sz allocation.quantity)
    let amount ← checked (dec.checkedMul remaining allocation.terms.valuation)
    checked (dec.checkedAdd reservedUsd amount)

/-- The distinct fills of the account after the baseline, in the order they arrived. -/
def accountFills (history : History dec.Decimal) (authority : Authority dec.Decimal) :
    Except (PilotError dec.Decimal) (List (Fill dec.Decimal)) :=
  history.fills.foldlM (collect lib dec authority) []

/-- The submissions of the pilot after the baseline. -/
def allocations (history : History dec.Decimal) (authority : Authority dec.Decimal) :
    Except (PilotError dec.Decimal) (List (Allocation dec.Decimal)) :=
  history.submissions.foldlM (allocate dec authority) []

/-- `project`. -/
def project (history : History dec.Decimal) (authority : Authority dec.Decimal) :
    Except (PilotError dec.Decimal) (PilotState dec.Decimal) := do
  let allocations ← allocations dec history authority
  let fills ← accountFills lib dec history authority
  let progress ← (sortFills fills).foldlM (applyFill dec authority.data)
    ⟨{ initial dec authority.data with halt := authority.halt }, allocations, false⟩
  let reservedUsd ← progress.allocations.foldlM (reserve dec) dec.zero
  let state := { progress.state with reservedUsd }
  return if progress.unmatched = true ∧ progress.state.halt.isNone = true then
    { state with halt := some .awaitingReconciliation } else state

/-! ## Checks on an order -/

/-- `identity`. -/
def identity (authority : Authority dec.Decimal) (account : Address) (clearance : Clearance) :
    Except (PilotError dec.Decimal) Unit :=
  refuseIf (clearance.network ≠ .testnet ∨ clearance.agent ≠ authority.data.agent ∨
      account ≠ authority.data.account ∨ ∃ vault ∈ clearance.vaultAddress, vault ≠ account)
    (.unavailable "pilot network, account, or agent does not match authorization")

/-- Remove every member of that name. -/
def Fields.without (key : String) : Fields → Fields
  | .nil => .nil
  | .cons name value rest =>
      if name = key then Fields.without key rest else .cons name value (Fields.without key rest)

/-- `without_reason`. -/
def withoutReason : Value → Value
  | .object fields => .object (Fields.without "reason" fields)
  | value => value

variable (handle : Handle)

/-- `check_admission`. -/
def checkAdmission (store : Store) (account : Address) (clearance : Clearance) :
    Except (PilotError dec.Decimal) Unit := do
  let history ← history lib dec handle true store
  match history.authorities.find? fun authority =>
      authority.data.account = account ∨ authority.data.agent = clearance.agent with
  | none => return ()
  | some authority => do
      identity dec authority account clearance
      let state ← project lib dec history authority
      let amount ← orderLimitCheck dec clearance.toValue authority.data
      permitted dec state amount authority.data

end Accounting

end Oppen.Ledger
