import Oppen.Guardrail.Clearance
import Oppen.Ledger.Submission

/-! # Records of the supervised pilot

The one authorisation of a chain, the halts that end it and the states reviewed on
the way, with the JSON they are stored as.
-/

namespace Oppen.Ledger

open Oppen.Json Oppen.Guardrail

/-! ## Record layouts -/

/-- The fields of a struct that ignores unknown ones. -/
def openFields (names : List String) : Value → Option (List Value)
  | .object fields => names.mapM fields.lookup
  | .array items => if items.toList.length = names.length then some items.toList else none
  | _ => none

/-- A missing `Option` member reads as null. -/
def orNull (key : String) : Value → Value
  | .object fields => match fields.lookup key with
    | some _ => .object fields
    | none => .object (fields.insert key .null)
  | value => value

/-- The tag of an internally tagged enum. -/
def enumTag (name : String) : Value → Option String
  | .object fields => (fields.lookup name).bind Value.asStr
  | .array (.cons tag _) => tag.asStr
  | _ => none

/-- `Value::eq`: objects are compared as maps. -/
def sameValue (left right : Value) : Bool := sortedValue left = sortedValue right

def Anchor.toValue (anchor : Anchor) : Value :=
  .ofFields [("seq", .ofInt anchor.seq), ("hash", .string anchor.hash)]

def Anchor.ofValue (value : Value) : Option Anchor :=
  match openFields ["seq", "hash"] value with
  | some [seq, hash] => do some ⟨← seq.asU64, ← hash.asStr⟩
  | _ => none

/-! ## Authorisation -/

/-- The immutable terms of a pilot. -/
structure Authorized (Decimal : Type) where
  version : Nat
  network : Network
  agent : String
  account : Address
  baselineAtMs : Nat
  baseline : Anchor
  orderLimitUsd : Decimal
  executedLimitUsd : Decimal
  realizedLossLimitUsd : Decimal

/-- What the pilot has used so far. -/
structure PilotState (Decimal : Type) where
  agent : String
  account : Address
  authorizedAtMs : Nat
  baseline : Anchor
  executedUsd : Decimal
  reservedUsd : Decimal
  netRealizedPnlUsd : Decimal
  halt : Option (PilotStop Decimal)

/-- The permanent end of a pilot, tied to the fill that caused it. -/
structure Halted (Decimal : Type) where
  version : Nat
  account : Address
  authorizationSeq : Nat
  authorizationHash : String
  triggerSeq : Nat
  triggerHash : Option String
  stop : PilotStop Decimal

section Codecs

variable (dec : Decimals)

/-- A decimal as its struct fields write it. -/
def Decimals.toValue (amount : dec.Decimal) : Value := .string (dec.display amount)

def Decimals.ofValue (value : Value) : Option dec.Decimal := value.asStr.bind dec.deserialize

def PilotMetric.asStr : PilotMetric → String
  | .orderNotional => "order_notional"
  | .executedNotional => "executed_notional"
  | .committedNotional => "committed_notional"
  | .realizedLoss => "realized_loss"

def PilotMetric.ofValue (value : Value) : Option PilotMetric :=
  [.orderNotional, .executedNotional, .committedNotional, .realizedLoss].find? fun metric =>
    value.asStr = some metric.asStr

def PilotStop.toValue : PilotStop dec.Decimal → Value
  | .awaitingReconciliation => .ofFields [("reason", .string "awaiting_reconciliation")]
  | .exhausted metric observedUsd limitUsd =>
      .ofFields [("reason", .string "exhausted"), ("metric", .string metric.asStr),
        ("observed_usd", dec.toValue observedUsd), ("limit_usd", dec.toValue limitUsd)]
  | .unavailable detail =>
      .ofFields [("reason", .string "unavailable"), ("detail", .string detail)]

def PilotStop.ofValue (value : Value) : Option (PilotStop dec.Decimal) :=
  match enumTag "reason" value with
  | some "awaiting_reconciliation" => some .awaitingReconciliation
  | some "exhausted" =>
      match structFields ["reason", "metric", "observed_usd", "limit_usd"] value with
      | some [_, metric, observedUsd, limitUsd] => do
          some (.exhausted (← PilotMetric.ofValue metric) (← dec.ofValue observedUsd)
            (← dec.ofValue limitUsd))
      | _ => none
  | some "unavailable" =>
      match structFields ["reason", "detail"] value with
      | some [_, .string detail] => some (.unavailable detail)
      | _ => none
  | _ => none

def Authorized.toValue (data : Authorized dec.Decimal) : Value :=
  .ofFields [("version", .ofInt data.version), ("network", data.network.toValue),
    ("agent", .string data.agent), ("account", data.account.toValue),
    ("baseline_at_ms", .ofInt data.baselineAtMs), ("baseline", data.baseline.toValue),
    ("order_limit_usd", dec.toValue data.orderLimitUsd),
    ("executed_limit_usd", dec.toValue data.executedLimitUsd),
    ("realized_loss_limit_usd", dec.toValue data.realizedLossLimitUsd)]

def Authorized.ofValue (value : Value) : Option (Authorized dec.Decimal) :=
  match structFields ["version", "network", "agent", "account", "baseline_at_ms", "baseline",
    "order_limit_usd", "executed_limit_usd", "realized_loss_limit_usd"] value with
  | some [version, network, agent, account, baselineAtMs, baseline, orderLimitUsd,
      executedLimitUsd, realizedLossLimitUsd] => do
      some ⟨← version.asU64, ← Network.ofValue network, ← agent.asStr, ← Address.ofValue account,
        ← baselineAtMs.asU64, ← Anchor.ofValue baseline, ← dec.ofValue orderLimitUsd,
        ← dec.ofValue executedLimitUsd, ← dec.ofValue realizedLossLimitUsd⟩
  | _ => none

/-- The stop of a state: absent, or one that reads. -/
def haltOfValue : Value → Option (Option (PilotStop dec.Decimal))
  | .null => some none
  | value => (PilotStop.ofValue dec value).map some

def PilotState.toValue (state : PilotState dec.Decimal) : Value :=
  .ofFields [("agent", .string state.agent), ("account", state.account.toValue),
    ("authorized_at_ms", .ofInt state.authorizedAtMs), ("baseline", state.baseline.toValue),
    ("executed_usd", dec.toValue state.executedUsd),
    ("reserved_usd", dec.toValue state.reservedUsd),
    ("net_realized_pnl_usd", dec.toValue state.netRealizedPnlUsd),
    ("halt", optionValue (PilotStop.toValue dec) state.halt)]

def PilotState.ofValue (value : Value) : Option (PilotState dec.Decimal) :=
  match structFields ["agent", "account", "authorized_at_ms", "baseline", "executed_usd",
    "reserved_usd", "net_realized_pnl_usd", "halt"] (orNull "halt" value) with
  | some [agent, account, authorizedAtMs, baseline, executedUsd, reservedUsd, netRealizedPnlUsd,
      halt] => do
      some ⟨← agent.asStr, ← Address.ofValue account, ← authorizedAtMs.asU64,
        ← Anchor.ofValue baseline, ← dec.ofValue executedUsd, ← dec.ofValue reservedUsd,
        ← dec.ofValue netRealizedPnlUsd, ← haltOfValue dec halt⟩
  | _ => none

def Halted.toValue (halted : Halted dec.Decimal) : Value :=
  .ofFields [("version", .ofInt halted.version), ("account", halted.account.toValue),
    ("authorization_seq", .ofInt halted.authorizationSeq),
    ("authorization_hash", .string halted.authorizationHash),
    ("trigger_seq", .ofInt halted.triggerSeq), ("trigger_hash", .ofOption halted.triggerHash),
    ("stop", halted.stop.toValue dec)]

def Halted.ofValue (value : Value) : Option (Halted dec.Decimal) :=
  match structFields ["version", "account", "authorization_seq", "authorization_hash",
    "trigger_seq", "trigger_hash", "stop"] (orNull "trigger_hash" value) with
  | some [version, account, authorizationSeq, authorizationHash, triggerSeq,
      triggerHash, stop] => do
      some ⟨← version.asU64, ← Address.ofValue account, ← authorizationSeq.asU64,
        ← authorizationHash.asStr, ← triggerSeq.asU64, ← optionText triggerHash,
        ← PilotStop.ofValue dec stop⟩
  | _ => none

end Codecs

/-! ## Money -/

section Money

variable (dec : Decimals)

/-- `checked`: arithmetic that overflowed. -/
def checked {Decimal : Type} : Option Decimal → Except (PilotError Decimal) Decimal
  | some amount => .ok amount
  | none => .error (.unavailable "pilot money arithmetic overflow")

/-- `money`: an amount is a text of digits, points and signs that is an exact decimal. -/
def money (value : Value) : Except (PilotError dec.Decimal) dec.Decimal :=
  match value.asStr with
  | none => .error (.unavailable "pilot money must be a decimal string")
  | some text => do
      refuseIf (text.isEmpty = true ∨
          text.toList.all (fun char => char.isDigit || char == '.' || char == '-') = false)
        (.unavailable "malformed pilot decimal")
      match dec.fromStrExact text with
      | some amount => return amount
      | none => .error (.unavailable "malformed or over-precise pilot decimal")

end Money

end Oppen.Ledger
