import Oppen.Foundation.Fold
import Oppen.Ledger.Consent

/-! # The history of a pilot

Everything the pilot accounting reads is folded from the chain: the one
authorisation with the halt that may have ended it, the submissions and the fills.
A row that does not read or does not link is refused, and with it every check.
-/

namespace Oppen.Ledger

open Foundation Oppen.Json Oppen.Guardrail

/-- An authorisation in the chain, with the halt recorded for it. -/
structure Authority (Decimal : Type) where
  seq : Nat
  hash : String
  data : Authorized Decimal
  halt : Option (PilotStop Decimal)
  event : Event

/-- What the chain says about the pilot. A fill is kept with the key of its row
(`fill_keys`). -/
structure History (Decimal : Type) where
  authorities : List (Authority Decimal)
  submissions : List PilotSubmission
  fills : List (Event × Option String)
  adoption : Option Event

/-- The history before any pilot row. -/
def History.opening {Decimal : Type} (submissions : List PilotSubmission) : History Decimal :=
  ⟨[], submissions, [], none⟩

/-- Record a stop for the authorisation at that position. -/
def History.stop {Decimal : Type} (history : History Decimal) (seq : Nat)
    (stop : PilotStop Decimal) : History Decimal :=
  { history with
    authorities := history.authorities.map fun authority =>
      if authority.seq = seq then { authority with halt := some stop } else authority }

section Reading

variable (lib : Libraries) (dec : Decimals) (handle : Handle)

/-- The fixed budgets of a pilot, in USD. -/
def orderLimit : Int := 15

def executedLimit : Int := 150

def realizedLossLimit : Int := 5

/-- `parse_halt`. -/
def parseHalt (payload : Value) : Except (PilotError dec.Decimal) (Halted dec.Decimal) := do
  refuseIf (payload.get "trigger_hash" = none) (.unavailable "missing pilot trigger hash field")
  if index (index payload "stop") "reason" = .string "exhausted" then
    let _ ← money dec (index (index payload "stop") "observed_usd")
    let _ ← money dec (index (index payload "stop") "limit_usd")
  match Halted.ofValue dec payload with
  | none => .error (.unavailable (lib.errorText payload))
  | some halted => return halted

/-- The fill that triggered a halt: the row itself for an embedded one. -/
def haltTrigger (history : History dec.Decimal) (event : Event) (halted : Halted dec.Decimal)
    (embedded : Bool) : Except (PilotError dec.Decimal) Event :=
  if embedded then .ok event
  else
    match history.fills.find? fun fill => fill.1.seq = halted.triggerSeq with
    | some fill => .ok fill.1
    | none => .error (.unavailable "pilot halt has no earlier trigger fill")

/-- The account of the triggering fill must be the halted one. -/
def checkTriggerAccount (trigger : Event) (halted : Halted dec.Decimal) :
    Except (PilotError dec.Decimal) Unit :=
  match trigger.payload.bind fun payload => payload.get "account" with
  | some account =>
      match Address.ofValue account with
      | none => .error (.unavailable (lib.errorText account))
      | some account =>
          refuseIf (account ≠ halted.account)
            (.unavailable "pilot halt trigger account mismatch")
  | none =>
      match halted.stop with
      | .exhausted .. => .error (.unavailable "pilot threshold trigger account missing")
      | _ => .ok ()

/-- Only a budget that was reached, or a stated reason, may end a pilot. -/
def checkHaltStop (data : Authorized dec.Decimal) : PilotStop dec.Decimal →
    Except (PilotError dec.Decimal) Unit
  | .awaitingReconciliation =>
      .error (.unavailable "transient reconciliation state cannot be durably halted")
  | .exhausted metric observedUsd limitUsd =>
      match metric with
      | .executedNotional => reached data.executedLimitUsd observedUsd limitUsd
      | .realizedLoss => reached data.realizedLossLimitUsd observedUsd limitUsd
      | _ => .error (.unavailable "non-latching pilot metric")
  | .unavailable detail => refuseIf (detail.isEmpty = true) (.unavailable "empty pilot halt reason")
where
  reached (limit observedUsd limitUsd : dec.Decimal) : Except (PilotError dec.Decimal) Unit :=
    refuseIf (dec.value limitUsd ≠ dec.value limit ∨ dec.value observedUsd < dec.value limit)
      (.unavailable "invalid pilot halt threshold")

/-- `pilot_halted:{seq}`. -/
def haltKey (seq : Nat) : String := "pilot_halted:" ++ toString seq

/-- `validate_halt`: record a halt that links to its authorisation and its trigger. -/
def validateHalt (history : History dec.Decimal) (event : Event) (key : Option String)
    (halted : Halted dec.Decimal) (embedded : Bool) :
    Except (PilotError dec.Decimal) (History dec.Decimal) :=
  match history.authorities.find? fun authority => authority.seq = halted.authorizationSeq with
  | none => .error (.unavailable "pilot halt without earlier authorization")
  | some authority => do
      refuseIf (halted.version ≠ 1 ∨ halted.account ≠ authority.data.account ∨
          halted.authorizationHash ≠ authority.hash ∨ authority.halt.isSome = true ∨
          (embedded = false ∧ (event.agentId ≠ some authority.data.agent ∨
            key ≠ some (haltKey authority.seq))))
        (.unavailable "pilot halt linkage mismatch")
      let trigger ← haltTrigger dec history event halted embedded
      refuseIf ((embedded = true ∧ (halted.triggerHash ≠ none ∨ halted.triggerSeq ≠ event.seq)) ∨
          (embedded = false ∧ halted.triggerHash ≠ some trigger.hash) ∨
          trigger.seq ≤ authority.seq)
        (.unavailable "pilot halt trigger hash mismatch")
      checkTriggerAccount lib dec trigger halted
      checkHaltStop dec authority.data halted.stop
      return history.stop authority.seq halted.stop

/-- `pilot_authorized:{account}`. -/
def authorizationKey (account : Address) : String := "pilot_authorized:" ++ account.display

/-- The hash of the head an authorisation names as its baseline. -/
def baselineHash (db : Db) (baseline : Anchor) : Except (PilotError dec.Decimal) String :=
  if baseline.seq = 0 then .ok (handle.genesis lib)
  else
    match db.rowAt baseline.seq with
    | some row => .ok row.hash
    | none => .error (.ledger .sqlite)

/-- The authorisation of a row: the fixed budgets on the testnet, bound to the row before
it. -/
def readAuthority (db : Db) (history : History dec.Decimal) (row : Row) (event : Event)
    (payload : Value) : Except (PilotError dec.Decimal) (Authority dec.Decimal) := do
  let payload ← authorizationPayload lib dec handle row.rawPayload event payload
  let _ ← money dec (index payload "order_limit_usd")
  let _ ← money dec (index payload "executed_limit_usd")
  let _ ← money dec (index payload "realized_loss_limit_usd")
  match Authorized.ofValue dec payload with
  | none => .error (.unavailable (lib.errorText payload))
  | some data => do
      refuseIf (data.version ≠ 1 ∨ history.authorities.isEmpty = false ∨
          dec.value data.orderLimitUsd ≠ orderLimit ∨
          dec.value data.executedLimitUsd ≠ executedLimit ∨
          dec.value data.realizedLossLimitUsd ≠ realizedLossLimit ∨ data.network ≠ .testnet ∨
          data.network ≠ handle.network ∨ event.agentId ≠ some data.agent ∨
          agentIdFault data.agent ≠ none ∨ data.account = Address.zero ∨
          (data.baselineAtMs : Int) ≠ event.tsMs.toInt ∨ data.baseline.seq + 1 ≠ event.seq ∨
          row.idemKey ≠ some (authorizationKey data.account))
        (.unavailable "invalid, duplicate, or wrong-network pilot authorization")
      let hash ← baselineHash lib dec handle db data.baseline
      refuseIf (data.baseline.hash ≠ hash) (.unavailable "pilot baseline head mismatch")
      return ⟨event.seq, event.hash, data, none, event⟩

/-- `validate_adoption`: a legacy authorisation is adopted once, by a signed review of it. -/
def validateAdoption (raw : Option String) (event : Event) (history : History dec.Decimal)
    (key : Option String) : Except (PilotError dec.Decimal) Unit :=
  match history.authorities with
  | [] => .error (.unavailable "pilot adoption without legacy authorization")
  | authority :: _ => do
      refuseIf (isSigned authority.event = true)
        (.unavailable "signed pilot cannot be adopted again")
      let signed ← parseConsent lib dec handle raw event
      match signed.envelope.operation with
      | .pilotAuthorized _ => .error (.unavailable "pilot adoption operation mismatch")
      | .pilotAdopted authorizationSeq authorizationHash reviewedHead reviewedState =>
          refuseIf (authorizationSeq ≠ authority.seq ∨ authorizationHash ≠ authority.hash ∨
              reviewedHead.seq + 1 ≠ event.seq ∨ reviewedHead.hash ≠ event.prevHash ∨
              reviewedState.agent ≠ authority.data.agent ∨
              reviewedState.account ≠ authority.data.account ∨
              reviewedState.baseline ≠ authority.data.baseline ∨
              reviewedState.authorizedAtMs ≠ authority.data.baselineAtMs ∨
              signed.envelope.route.binding.agent ≠ authority.data.agent ∨
              signed.envelope.route.binding.container ≠ authority.data.account ∨
              key ≠ some ("pilot_adopted:" ++ toString authority.seq))
            (.unavailable "pilot adoption does not bind original authority and reviewed history")

/-- The stop a fill row carries. -/
def embeddedStop (event : Event) : Option Value :=
  event.payload.bind fun payload => payload.get "pilot_stop"

/-- Record the stop a fill row carries, if it carries one. -/
def readStop (history : History dec.Decimal) (event : Event) :
    Except (PilotError dec.Decimal) (History dec.Decimal) :=
  match embeddedStop event with
  | none => .ok history
  | some stop => do
      let halted ← parseHalt lib dec stop
      validateHalt lib dec history event none halted true

/-- One turn of the history for a fill: the stop it carries, then the fill. -/
def readFill (history : History dec.Decimal) (event : Event) (key : Option String) :
    Except (PilotError dec.Decimal) (History dec.Decimal) := do
  let history ← readStop lib dec history event
  return { history with fills := history.fills ++ [(event, key)] }

/-- One turn of the history for a row that is no fill. -/
def readLifecycle (db : Db) (history : History dec.Decimal) (row : Row) (event : Event) :
    Except (PilotError dec.Decimal) (History dec.Decimal) :=
  match event.payload with
  | none => .error (.unavailable "pilot authority or halt redacted")
  | some payload =>
      match event.kind with
      | .pilotAuthorized => do
          let authority ← readAuthority lib dec handle db history row event payload
          return { history with authorities := history.authorities ++ [authority] }
      | .pilotAdopted => do
          refuseIf (history.adoption.isSome = true) (.unavailable "duplicate pilot adoption")
          validateAdoption lib dec handle row.rawPayload event history row.idemKey
          return { history with adoption := some event }
      | .pilotHalted => do
          let halted ← parseHalt lib dec payload
          validateHalt lib dec history event row.idemKey halted false
      | _ => .error (.unavailable "unexpected pilot lifecycle kind")

/-- One turn of the history. -/
def readRow (db : Db) (history : History dec.Decimal) (row : Row) :
    Except (PilotError dec.Decimal) (History dec.Decimal) := do
  let event ← mapError .ledger (eventFromRow lib row)
  if event.kind = .fill then readFill lib dec history event row.idemKey
  else readLifecycle lib dec handle db history row event

/-- The rows of the pilot lifecycle and the fills. -/
def Row.isPilot (row : Row) : Bool :=
  row.kind = EventKind.pilotAuthorized.asStr || row.kind = EventKind.pilotAdopted.asStr ||
    row.kind = EventKind.pilotHalted.asStr || row.kind = EventKind.fill.asStr

/-- The fold of the pilot rows of a table. -/
def pilotRows (db : Db) (submissions : List PilotSubmission) :
    Except (PilotError dec.Decimal) (History dec.Decimal) :=
  (db.events.filter Row.isPilot).foldlM (readRow lib dec handle db) (.opening submissions)

/-- `history`. -/
def history (verifyAnchor : Bool) (store : Store) :
    Except (PilotError dec.Decimal) (History dec.Decimal) := do
  let submissions ← mapError (fun _ => .unavailable "submission history")
    (replayForPilot (D := dec.Decimal) lib handle verifyAnchor store)
  pilotRows lib dec handle store.db submissions

end Reading

/-! ## What one row does to the history -/

section Inversion

variable {lib : Libraries} {dec : Decimals} {handle : Handle}

/-- What one row of the pilot lifecycle can do to the history. -/
inductive PilotStep (lib : Libraries) (dec : Decimals) (handle : Handle) (db : Db)
    (history : History dec.Decimal) (row : Row) (event : Event) : History dec.Decimal → Prop
  | fill (kind : event.kind = .fill) (plain : embeddedStop event = none) :
      PilotStep lib dec handle db history row event
        { history with fills := history.fills ++ [(event, row.idemKey)] }
  | stopped (kind : event.kind = .fill) {value : Value} (carried : embeddedStop event = some value)
      {authority : Authority dec.Decimal} (named : authority ∈ history.authorities)
      (isOpen : authority.halt = none) (after : authority.seq < event.seq)
      (stop : PilotStop dec.Decimal) :
      PilotStep lib dec handle db history row event
        { history.stop authority.seq stop with fills := history.fills ++ [(event, row.idemKey)] }
  | authorized (kind : event.kind = .pilotAuthorized) {payload : Value}
      (present : event.payload = some payload) (first : history.authorities = [])
      {authority : Authority dec.Decimal}
      (read : readAuthority lib dec handle db history row event payload = .ok authority) :
      PilotStep lib dec handle db history row event
        { history with authorities := [authority] }
  | adopted (kind : event.kind = .pilotAdopted) (present : event.payload ≠ none) :
      PilotStep lib dec handle db history row event { history with adoption := some event }
  | halted (kind : event.kind = .pilotHalted) (present : event.payload ≠ none)
      {authority : Authority dec.Decimal} (named : authority ∈ history.authorities)
      (isOpen : authority.halt = none) (stop : PilotStop dec.Decimal) :
      PilotStep lib dec handle db history row event (history.stop authority.seq stop)

/-- A halt that is valid halts the one authority of the history, which was not halted before. -/
theorem validateHalt_ok {history next : History dec.Decimal} {event : Event}
    {key : Option String} {halted : Halted dec.Decimal} {embedded : Bool}
    (run : validateHalt lib dec history event key halted embedded = .ok next) :
    ∃ authority ∈ history.authorities, authority.halt = none ∧
      (embedded = true → authority.seq < event.seq) ∧
      next = history.stop authority.seq halted.stop := by
  unfold validateHalt at run
  split at run
  · cases run
  · rename_i authority found
    obtain ⟨_, linked, run⟩ := bind_eq_ok run
    obtain ⟨trigger, triggered, run⟩ := bind_eq_ok run
    obtain ⟨_, ordered, run⟩ := bind_eq_ok run
    obtain ⟨_, _, run⟩ := bind_eq_ok run
    obtain ⟨_, _, run⟩ := bind_eq_ok run
    cases run
    have links := refuseIf_ok linked
    have after := refuseIf_ok ordered
    simp only [not_or, Bool.not_eq_true, Option.isSome_eq_false_iff, Option.isNone_iff_eq_none]
      at links
    refine ⟨authority, List.mem_of_find?_eq_some found, links.2.2.2.1, ?_, rfl⟩
    rintro rfl
    simp only [haltTrigger, if_true] at triggered
    cases triggered
    simp only [not_or, not_le] at after
    exact after.2.2

/-- The terms an authorisation row states, read from the row alone. -/
def statedTerms (lib : Libraries) (dec : Decimals) (handle : Handle) (row : Row) (event : Event)
    (payload : Value) : Option (Authorized dec.Decimal) :=
  match authorizationPayload lib dec handle row.rawPayload event payload with
  | .ok payload => Authorized.ofValue dec payload
  | .error _ => none

/-- An authority that could be read is the first of its history. -/
theorem readAuthority_ok {db : Db} {history : History dec.Decimal} {row : Row} {event : Event}
    {payload : Value} {authority : Authority dec.Decimal}
    (run : readAuthority lib dec handle db history row event payload = .ok authority) :
    ∃ data, history.authorities = [] ∧ authority = ⟨event.seq, event.hash, data, none, event⟩ ∧
      statedTerms lib dec handle row event payload = some data ∧
      dec.value data.executedLimitUsd = executedLimit ∧
      dec.value data.realizedLossLimitUsd = realizedLossLimit := by
  obtain ⟨inner, payload_eq, run⟩ := bind_eq_ok run
  obtain ⟨_, _, run⟩ := bind_eq_ok run
  obtain ⟨_, _, run⟩ := bind_eq_ok run
  obtain ⟨_, _, run⟩ := bind_eq_ok run
  split at run
  · cases run
  · rename_i data read
    obtain ⟨_, checked, run⟩ := bind_eq_ok run
    obtain ⟨hash, _, run⟩ := bind_eq_ok run
    obtain ⟨_, _, run⟩ := bind_eq_ok run
    cases run
    have valid := refuseIf_ok checked
    simp only [not_or, ne_eq, not_not, Bool.not_eq_false, List.isEmpty_iff] at valid
    refine ⟨data, valid.2.1, rfl, ?_, valid.2.2.2.1, valid.2.2.2.2.1⟩
    simp only [statedTerms, payload_eq, read]

/-- What one row does to the pilot's history, stated by the kind of row. The invariants of the
history are derived from this. -/
theorem readRow_ok {db : Db} {history next : History dec.Decimal} {row : Row}
    (run : readRow lib dec handle db history row = .ok next) :
    ∃ event, eventFromRow lib row = .ok event ∧
      PilotStep lib dec handle db history row event next := by
  obtain ⟨event, read, run⟩ := bind_eq_ok run
  refine ⟨event, mapError_eq_ok read, ?_⟩
  split at run
  · rename_i kind
    obtain ⟨stopped, halt, run⟩ := bind_eq_ok run
    cases run
    unfold readStop at halt
    split at halt
    · rename_i plain
      cases halt
      exact .fill kind plain
    · rename_i value carried
      obtain ⟨halted, _, valid⟩ := bind_eq_ok halt
      obtain ⟨authority, named, isOpen, after, rfl⟩ := validateHalt_ok valid
      exact .stopped kind carried named isOpen (after rfl) halted.stop
  · unfold readLifecycle at run
    split at run
    · cases run
    · rename_i payload present
      have held : event.payload ≠ none := by rw [present]; exact nofun
      split at run
      · rename_i kind
        obtain ⟨authority, read, run⟩ := bind_eq_ok run
        cases run
        obtain ⟨_, first, _⟩ := readAuthority_ok read
        rw [first]
        exact .authorized kind present first read
      · rename_i kind
        obtain ⟨_, _, run⟩ := bind_eq_ok run
        obtain ⟨_, _, run⟩ := bind_eq_ok run
        cases run
        exact .adopted kind held
      · rename_i kind
        obtain ⟨halted, _, valid⟩ := bind_eq_ok run
        obtain ⟨authority, named, isOpen, _, rfl⟩ := validateHalt_ok valid
        exact .halted kind held named isOpen halted.stop
      · cases run

/-! ## What a history is made of -/

/-- There is at most one authorisation. -/
def History.Single (history : History dec.Decimal) : Prop := history.authorities.length ≤ 1

/-- A history begins with one authority at most. -/
theorem opening_single {Decimal : Type} {submissions : List PilotSubmission} :
    (History.opening submissions : History Decimal).authorities.length ≤ 1 :=
  Nat.zero_le 1

section Reads

variable {db : Db} {before after : History dec.Decimal} {row : Row}

/-- Every row keeps the history to one authority at most. -/
theorem History.Single.readRow (single : before.Single)
    (moved : readRow lib dec handle db before row = .ok after) : after.Single := by
  obtain ⟨event, _, step⟩ := readRow_ok moved
  cases step with
  | fill | adopted => exact single
  | stopped | halted => exact (List.length_map _).trans_le single
  | authorized => exact le_rfl

end Reads

section Folds

variable {db : Db} {submissions : List PilotSubmission} {history : History dec.Decimal}
  (run : pilotRows lib dec handle db submissions = .ok history)

include run

/-- A history that was read has one authority at most. -/
theorem pilotRows_single : history.Single :=
  foldlM_history (fun _ state => state.Single) opening_single
    (fun _ _ _ _ single moved => single.readRow moved) run

end Folds

end Inversion

end Oppen.Ledger
