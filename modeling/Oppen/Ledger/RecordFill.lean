import Oppen.Ledger.Accounting

/-! # Recording fills

A fill is appended under the key of its account and trade id. While a pilot is
active the same transaction decides whether the fill ends it: the stop is written
into the fill's own row, or into a row of its own when the fill was already there.
-/

namespace Oppen.Ledger

open Foundation Oppen.Json Oppen.Guardrail

section Recording

variable (lib : Libraries) (dec : Decimals) (handle : Handle)

/-- The row holding an idempotence key. -/
def Db.rowKeyed (db : Db) (key : String) : Option Row :=
  db.events.find? fun row => row.idemKey = some key

/-- An identity proved by the order the venue observed: the offered client order id is the
one of a submission made before the stored fill. -/
def verifiedEnrichment (history : History dec.Decimal) (authority : Authority dec.Decimal)
    (stored : Event) (new : Fill dec.Decimal) : Bool :=
  history.submissions.any fun submission =>
    submission.account = authority.data.account && submission.agent = authority.data.agent &&
      authority.seq < submission.seq && submission.seq < stored.seq &&
      submission.observedOid = some new.oid && new.cloid = some submission.cloid

/-- The offered fill links to another client order id than its venue order does. -/
def conflictingLink (history : History dec.Decimal) (authority : Authority dec.Decimal)
    (new : Except (PilotError dec.Decimal) (Fill dec.Decimal)) : Bool :=
  match new with
  | .ok fill =>
      history.submissions.any fun submission =>
        submission.account = authority.data.account && submission.observedOid = some fill.oid &&
          fill.cloid.any (fun cloid => cloid ≠ submission.cloid)
  | .error _ => false

/-- Whether the offered fill reads as the stored one. An absent client order id may not
erase a stored one, and a new one counts only when proved. -/
def sameFill (history : History dec.Decimal) (authority : Authority dec.Decimal) (stored : Event)
    (tid : UInt64) (old new : Except (PilotError dec.Decimal) (Fill dec.Decimal)) : Bool :=
  match old, new with
  | .ok old, .ok new =>
      let enriched := new.cloid.isNone ||
        (old.cloid.isNone && verifiedEnrichment dec history authority stored new)
      let new := if enriched then { new with cloid := old.cloid } else new
      old.same dec new && new.tid = tid
  | _, _ => false

/-- `duplicate_conflict`. -/
def duplicateConflict (db : Db) (history : History dec.Decimal) (authority : Authority dec.Decimal)
    (incoming : NewFill) : Except (PilotError dec.Decimal) (Option (PilotStop dec.Decimal)) :=
  let account := Address.parse incoming.account
  let payloadAccount := Address.ofValue (index incoming.payload "account")
  if account ≠ some authority.data.account ∧ payloadAccount ≠ some authority.data.account then
    .ok none
  else
    match db.rowKeyed (fillIdemKey incoming.account incoming.tid) with
    | none => .error (.unavailable "fill idempotence row missing after insertion")
    | some row => do
        let stored ← mapError .ledger (eventFromRow lib row)
        match stored.payload with
        | none => .error (.unavailable "cannot compare redacted duplicate fill")
        | some oldPayload =>
            let old := fill lib dec stored oldPayload
            let new := fill lib dec { stored with tsMs := incoming.tsMs } incoming.payload
            let identical := account = payloadAccount ∧
              conflictingLink dec history authority new = false ∧
              sameValue (index oldPayload "account") (index incoming.payload "account") = true ∧
              sameFill dec history authority stored incoming.tid old new = true
            if identical then return none
            else
              return some (.unavailable ("conflicting or malformed account fill tid " ++
                toString incoming.tid.toNat ++ ": " ++ lib.valueText incoming.payload))

/-- `has_authority`. -/
def hasAuthority (db : Db) : Bool :=
  db.events.any fun row =>
    row.kind = EventKind.pilotAuthorized.asStr || row.kind = EventKind.pilotHalted.asStr

/-- Whether a fill ends a pilot, and why. Accounting that became unavailable is a reason. -/
def latchedStop (db : Db) (history : History dec.Decimal) (authority : Authority dec.Decimal)
    (incoming : NewFill) : Except (PilotError dec.Decimal) (Option (PilotStop dec.Decimal)) :=
  let found := do
    match ← duplicateConflict lib dec db history authority incoming with
    | some stop => return some stop
    | none => return (← project lib dec history authority).halt
  match found with
  | .ok stop => .ok stop
  | .error (.unavailable detail) => .ok (some (.unavailable detail))
  | .error error => .error error

/-- The halt of an authorisation, as the row that records it. -/
def haltEvent (authority : Authority dec.Decimal) (trigger : Row) (tsMs : Int64)
    (stop : PilotStop dec.Decimal) : NewEvent where
  kind := .pilotHalted
  tsMs := tsMs
  agentId := some authority.data.agent
  payload := Halted.toValue dec {
    version := 1, account := authority.data.account, authorizationSeq := authority.seq
    authorizationHash := authority.hash, triggerSeq := trigger.seq.toNat
    triggerHash := some trigger.hash, stop }
  snapshot := none

/-- Latch one authorisation: append its halt unless it has one or nothing ends it. -/
def latchAuthority (history : History dec.Decimal) (incoming : NewFill) (tsMs : Int64)
    (trigger : Row) (latched : Db × Option Appended) (authority : Authority dec.Decimal) :
    Except (PilotError dec.Decimal) (Db × Option Appended) :=
  let (db, last) := latched
  if authority.halt.isSome = true then .ok (db, last)
  else do
    match ← latchedStop lib dec db history authority incoming with
    | none => return (db, last)
    | some .awaitingReconciliation => return (db, last)
    | some stop => do
        let (appended, db) ← mapError .ledger
          (appendKeyedInTx lib db (haltEvent dec authority trigger tsMs stop)
            (haltKey authority.seq))
        match appended with
        | none => .error (.unavailable "pilot halt key without halt record")
        | some halt => return (db, some halt)

/-- `latch_in_tx`: the row of the halt a fill in the transaction causes. A history that
does not read is left to refuse every check by itself. -/
def latchInTx (store : Store) (incoming : NewFill) (tsMs : Int64) :
    Except (PilotError dec.Decimal) (Db × Option Appended) :=
  if hasAuthority store.db = false then .ok (store.db, none)
  else
    match history lib dec handle false store with
    | .error (.unavailable _) => .ok (store.db, none)
    | .error (.ledger (.payloadNotJson _)) => .ok (store.db, none)
    | .error error => .error error
    | .ok history =>
        match store.db.rowKeyed (fillIdemKey incoming.account incoming.tid) with
        | none => .error (.ledger .sqlite)
        | some trigger => do
            refuseIf (trigger.seq < 0) (.ledger .sqlite)
            history.authorities.foldlM (latchAuthority lib dec history incoming tsMs trigger)
              (store.db, none)

/-- The stop a tentative halt row holds, as a fill row carries it: without the fill's own
hash. -/
def embeddedHalt (db : Db) (halt : Appended) : Result Value :=
  if 2 ^ 63 ≤ halt.seq then .error .seqOutOfRange
  else
    match db.rowAt halt.seq with
    | none => .error .sqlite
    | some row =>
        match row.payload with
        | .text encoded =>
            match lib.fromSlice (utf8 encoded) with
            | some embedded => .ok (embedded.set "trigger_hash" .null)
            | none => .error .json
        | _ => .error .sqlite

/-- The payload of a fill that carries a stop. -/
def stoppedPayload (payload embedded : Value) : Value :=
  let payload := if payload.isObject then payload
    else .ofFields [("pilot_invalid_payload", payload)]
  payload.set "pilot_stop" embedded

/-- The event a fill is recorded as. -/
def fillEvent (fill : NewFill) (payload : Value) : NewEvent where
  kind := .fill
  tsMs := fill.tsMs
  agentId := fill.agentId
  payload := payload
  snapshot := none

/-- The tables after a fill is recorded, with the row of the fill and the head to publish. -/
def insertFill (fill : NewFill) (store : Store) : Result (Committed (Option Appended)) := do
  let key := fillIdemKey fill.account fill.tid
  if hasAuthority store.db = false then
    let (appended, db) ← appendKeyedInTx lib store.db (fillEvent fill fill.payload) key
    return ⟨appended, db, appended⟩
  else do
    let _ ← mapError (fun _ => .pilotBudget)
      (replayForPilot (D := dec.Decimal) lib handle true store)
    let (appended, tentative) ← appendKeyedInTx lib store.db (fillEvent fill fill.payload) key
    let (latched, halt) ← mapError (fun _ => .pilotBudget)
      (latchInTx lib dec handle { store with db := tentative } fill fill.tsMs)
    match appended, halt with
    | some _, some stop => do
        let embedded ← embeddedHalt lib latched stop
        -- the tentative rows are rolled back: fill and stop are one row of the chain
        let (appended, db) ← appendKeyedInTx lib store.db
          (fillEvent fill (stoppedPayload fill.payload embedded)) key
        return ⟨appended, db, appended⟩
    | _, _ => return ⟨appended, latched, halt.or appended⟩

variable (publish : Bool)

/-- `record_fill`. -/
def recordFill (fill : NewFill) (store : Store) : Result (Option Appended) × Store :=
  transact handle publish id store (insertFill lib dec handle fill store)

end Recording

/-! ## What recording a fill commits -/

section Specification

variable {lib : Libraries} {dec : Decimals} {handle : Handle} {fill : NewFill} {store : Store}

/-- A history that was read has one authority at most. -/
theorem history_single {verifyAnchor : Bool} {history : History dec.Decimal}
    (run : Ledger.history lib dec handle verifyAnchor store = .ok history) : history.Single := by
  obtain ⟨submissions, _, run⟩ := bind_eq_ok run
  exact pilotRows_single run

/-- Latching one authorisation appends at most its halt. -/
theorem latchAuthority_ok {history : History dec.Decimal} {tsMs : Int64} {trigger : Row}
    {db latched : Db} {last halt : Option Appended} {authority : Authority dec.Decimal}
    (consistent : Consistent lib (handle.genesis lib) db)
    (run : latchAuthority lib dec history fill tsMs trigger (db, last) authority =
      .ok (latched, halt)) :
    (latched = db ∧ halt = last ∧ (authority.halt = none → ∃ stop,
      latchedStop lib dec db history authority fill = .ok stop ∧
        (stop = none ∨ stop = some .awaitingReconciliation))) ∨
    ∃ appended stop, halt = some appended ∧ authority.halt = none ∧
      Grows lib (handle.genesis lib) db (haltEvent dec authority trigger tsMs stop)
        (some (haltKey authority.seq)) appended latched ∧
      ∀ held ∈ db.events, held.idemKey ≠ some (haltKey authority.seq) := by
  unfold latchAuthority at run
  dsimp only at run
  split at run
  · rename_i halted
    cases run
    refine .inl ⟨rfl, rfl, fun none => ?_⟩
    rw [none] at halted
    cases halted
  · rename_i unhalted
    have none : authority.halt = none := by simpa using unhalted
    obtain ⟨stop, decided, run⟩ := bind_eq_ok run
    split at run
    · cases run
      exact .inl ⟨rfl, rfl, fun _ => ⟨_, decided, .inl rfl⟩⟩
    · cases run
      exact .inl ⟨rfl, rfl, fun _ => ⟨_, decided, .inr rfl⟩⟩
    · rename_i stop _
      obtain ⟨⟨appended, grown⟩, append, run⟩ := bind_eq_ok run
      rcases appendKeyedInTx_ok consistent.headed (mapError_eq_ok append) with
        ⟨row, rfl, grows, fresh⟩ | ⟨rfl, _, _⟩
      · cases run
        exact .inr ⟨row, stop, rfl, none, grows, fresh⟩
      · cases run

/-- A latch appends nothing, and then says why, or one halt. -/
theorem latchInTx_ok {tsMs : Int64} {latched : Db} {halt : Option Appended}
    (consistent : Consistent lib (handle.genesis lib) store.db)
    (run : latchInTx lib dec handle store fill tsMs = .ok (latched, halt)) :
    (latched = store.db ∧ halt = none) ∨
    ∃ appended authority trigger stop, halt = some appended ∧
      Grows lib (handle.genesis lib) store.db (haltEvent dec authority trigger tsMs stop)
        (some (haltKey authority.seq)) appended latched ∧
      ∀ held ∈ store.db.events, held.idemKey ≠ some (haltKey authority.seq) := by
  unfold latchInTx at run
  split at run
  · cases run
    exact .inl ⟨rfl, rfl⟩
  · split at run
    · cases run
      exact .inl ⟨rfl, rfl⟩
    · cases run
      exact .inl ⟨rfl, rfl⟩
    · cases run
    · rename_i history read
      split at run
      · cases run
      · rename_i trigger _
        obtain ⟨_, _, run⟩ := bind_eq_ok run
        have single := history_single read
        cases authorities : history.authorities with
        | nil =>
            rw [authorities] at run
            cases run
            exact .inl ⟨rfl, rfl⟩
        | cons authority rest =>
            obtain rfl : rest = [] := by
              have length := single
              rw [History.Single, authorities, List.length_cons] at length
              exact List.length_eq_zero_iff.mp (by omega)
            rw [authorities] at run
            obtain ⟨⟨db, last⟩, moved, final⟩ := bind_eq_ok run
            cases final
            rcases latchAuthority_ok consistent moved with
              ⟨rfl, rfl, _⟩ | ⟨appended, stop, rfl, _, grows, fresh⟩
            · exact .inl ⟨rfl, rfl⟩
            · exact .inr ⟨appended, authority, trigger, stop, rfl, grows, fresh⟩

/-- What recording a fill leaves to commit: nothing when it was there, the fill, or the halt
that a fill already there causes. -/
inductive FillOutcome (lib : Libraries) (dec : Decimals) (handle : Handle) (fill : NewFill)
    (store : Store) : Committed (Option Appended) → Prop
  | duplicate {held : Row} (member : held ∈ store.db.events)
      (keyed : held.idemKey = some (fillIdemKey fill.account fill.tid)) :
      FillOutcome lib dec handle fill store ⟨none, store.db, none⟩
  | recorded {payload : Value} {appended : Appended} {db : Db}
      (grows : Grows lib (handle.genesis lib) store.db (fillEvent fill payload)
        (some (fillIdemKey fill.account fill.tid)) appended db)
      (fresh : ∀ held ∈ store.db.events,
        held.idemKey ≠ some (fillIdemKey fill.account fill.tid))
      (carried : payload = fill.payload ∨
        ∃ embedded, payload = stoppedPayload fill.payload embedded) :
      FillOutcome lib dec handle fill store ⟨some appended, db, some appended⟩
  | latched {held : Row} {authority : Authority dec.Decimal} {trigger : Row}
      {stop : PilotStop dec.Decimal} {halt : Appended} {db : Db} (member : held ∈ store.db.events)
      (keyed : held.idemKey = some (fillIdemKey fill.account fill.tid))
      (grows : Grows lib (handle.genesis lib) store.db
        (haltEvent dec authority trigger fill.tsMs stop) (some (haltKey authority.seq)) halt db)
      (fresh : ∀ held ∈ store.db.events, held.idemKey ≠ some (haltKey authority.seq)) :
      FillOutcome lib dec handle fill store ⟨none, db, some halt⟩

/-- What an insertion of a fill that was committed says: the row was there already, or it is the
next one. -/
theorem insertFill_ok {done : Committed (Option Appended)}
    (consistent : Consistent lib (handle.genesis lib) store.db)
    (run : insertFill lib dec handle fill store = .ok done) :
    FillOutcome lib dec handle fill store done := by
  unfold insertFill at run
  dsimp only at run
  split at run
  · obtain ⟨⟨appended, db⟩, append, run⟩ := bind_eq_ok run
    cases run
    rcases appendKeyedInTx_ok consistent.headed append with
      ⟨row, rfl, grows, fresh⟩ | ⟨rfl, rfl, held, member, keyed⟩
    · exact .recorded grows fresh (.inl rfl)
    · exact .duplicate member keyed
  · obtain ⟨_, _, run⟩ := bind_eq_ok run
    obtain ⟨⟨appended, tentative⟩, append, run⟩ := bind_eq_ok run
    obtain ⟨⟨latched, halt⟩, latch, run⟩ := bind_eq_ok run
    have latch := mapError_eq_ok latch
    rcases appendKeyedInTx_ok consistent.headed append with
      ⟨row, rfl, grows, fresh⟩ | ⟨rfl, rfl, held, member, keyed⟩
    · have kept : Consistent lib (handle.genesis lib) { store with db := tentative }.db :=
        grows.consistent consistent
      rcases latchInTx_ok kept latch with
        ⟨rfl, rfl⟩ | ⟨appended, authority, trigger, stop, rfl, _, _⟩
      · cases run
        exact .recorded grows fresh (.inl rfl)
      · obtain ⟨embedded, _, run⟩ := bind_eq_ok run
        obtain ⟨⟨again, db⟩, append, run⟩ := bind_eq_ok run
        cases run
        rcases appendKeyedInTx_ok consistent.headed append with
          ⟨row, rfl, grows, fresh⟩ | ⟨_, _, held, member, keyed⟩
        · exact .recorded grows fresh (.inr ⟨embedded, rfl⟩)
        · exact absurd keyed (fresh held member)
    · rcases latchInTx_ok consistent latch with
        ⟨rfl, rfl⟩ | ⟨appended, authority, trigger, stop, rfl, grows, fresh⟩
      · cases run
        exact .duplicate member keyed
      · cases run
        exact .latched member keyed grows fresh

end Specification

end Oppen.Ledger
