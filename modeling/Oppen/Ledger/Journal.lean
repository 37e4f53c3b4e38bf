import Oppen.Ledger.Accounting

/-! # The submission journal

`begin` reserves an account for one order and `resolve` releases it on definite
evidence. Both replay the stored history inside their transaction; the revision the
caller read is compared before anything is written.
-/

namespace Oppen.Ledger

open Foundation Oppen.Json Oppen.Guardrail

/-- The checks an authenticated journal adds: the evidence of earlier submissions and the
signing route of the order. Nothing is assumed of them. -/
structure RegistryChecks (Decimal : Type) where
  verifyEvidence : Store → Except (SubmissionError Decimal) Unit
  authenticateOrder : Store → Address → Clearance → Except (PilotError Decimal) Unit

section Journal

variable (lib : Libraries) (dec : Decimals) (handle : Handle)
  (registry : Option (RegistryChecks dec.Decimal))

/-- `replay`, with the evidence checked when the journal is authenticated. -/
def journalReplay (store : Store) : Except (SubmissionError dec.Decimal) Replay := do
  let replay ← replay lib handle true store
  match registry with
  | none => return replay
  | some checks => do
      checks.verifyEvidence store
      return replay

/-- `state`. -/
def accountState (store : Store) (account : Address) :
    Except (SubmissionError dec.Decimal) SubmissionState := do
  return (← journalReplay lib dec handle registry store).accounts account

/-- `check_admission`, after the route is authenticated when the journal is. -/
def admission (store : Store) (account : Address) (clearance : Clearance) :
    Except (PilotError dec.Decimal) Unit :=
  match registry with
  | none => checkAdmission lib dec handle store account clearance
  | some checks => do
      checks.authenticateOrder store account clearance
      checkAdmission lib dec handle store account clearance

/-- The newest intent row with exactly the cleared terms, whatever reason it gives. -/
def findIntent (wanted : Value) : List Row →
    Except (SubmissionError dec.Decimal) (Option (Nat × String))
  | [] => .ok none
  | row :: rest => do
      let event ← mapError .ledger (eventFromRow lib row)
      if event.payload.any (fun payload => sameValue (withoutReason payload) wanted) then
        return some (event.seq, event.hash)
      else findIntent wanted rest

/-- The intent rows of an agent, newest first. -/
def intentRows (db : Db) (agent : String) : List Row :=
  (db.events.filter fun row =>
    row.kind = EventKind.orderIntent.asStr && row.agentId = some agent).reverse

/-- A milliseconds timestamp as the ledger stores it. -/
def timestamp (atMs : Nat) : Except (SubmissionError dec.Decimal) Int64 :=
  if 2 ^ 63 ≤ atMs then .error (.invalidRecord "timestamp out of range")
  else .ok (Int64.ofNat atMs)

/-- The row of a reservation. -/
def startedEvent (agent : String) (tsMs : Int64) (start : Started) : NewEvent where
  kind := .submissionStarted
  tsMs := tsMs
  agentId := some agent
  payload := start.toValue
  snapshot := none

/-- The row of a resolution. -/
def resolvedEvent (agent : String) (tsMs : Int64) (resolved : Resolved) : NewEvent where
  kind := .submissionResolved
  tsMs := tsMs
  agentId := some agent
  payload := resolved.toValue
  snapshot := none

/-- The route of a clearance is the identity it is submitted under. -/
def RouteMatches (account : Address) (clearance : Clearance) : Prop :=
  clearance.route.network = clearance.network ∧
    clearance.route.binding.agent = clearance.agent ∧
    clearance.route.binding.container = account ∧
    clearance.route.binding.vaultAddress = clearance.vaultAddress

instance (account : Address) (clearance : Clearance) :
    Decidable (RouteMatches account clearance) :=
  inferInstanceAs (Decidable (_ ∧ _ ∧ _ ∧ _))

/-- The reservation of a clearance that passed the checks on its identity. -/
def reserveOrder (account : Address) (clearance : Clearance) (cloid : Cloid)
    (expectedRevision atMs : Nat) (store : Store) :
    Except (SubmissionError dec.Decimal) (Committed SubmissionReceipt) := do
  let replay ← journalReplay lib dec handle registry store
  match (replay.accounts account).pending with
  | some pending => .error (.busy pending.start.cloid.text)
  | none => do
      refuseIf ((replay.accounts account).revision ≠ expectedRevision) .staleRevision
      refuseIf ((account, cloid) ∈ replay.used) .duplicateCloid
      match ← findIntent lib dec clearance.toValue (intentRows store.db clearance.agent) with
      | none => .error .missingIntent
      | some (intentSeq, intentHash) => do
          mapError .pilot (admission lib dec handle registry store account clearance)
          let start : Started := ⟨1, account, cloid, intentSeq, intentHash⟩
          let tsMs ← timestamp dec atMs
          let (appended, db) ← mapError .ledger
            (appendKeyedInTx lib store.db (startedEvent clearance.agent tsMs start)
              (startKey start))
          match appended with
          | none => .error .duplicateCloid
          | some appended =>
              return ⟨⟨handle.genesis lib, appended.seq, appended.hash, clearance.agent, start⟩,
                db, some appended⟩

/-- The transaction of `begin`. -/
def beginBody (account : Address) (clearance : Clearance) (expectedRevision atMs : Nat)
    (store : Store) : Except (SubmissionError dec.Decimal) (Committed SubmissionReceipt) := do
  refuseIf (clearance.network ≠ handle.network) .wrongNetwork
  refuseIf (¬ RouteMatches account clearance)
    (.invalidRecord "clearance route does not match submission identity")
  match clearance.kind.cloid? with
  | none => .error .missingIntent
  | some cloid => do
      refuseIf (∃ vault ∈ clearance.vaultAddress, vault ≠ account)
        (.invalidRecord "clearance vault does not match submission account")
      reserveOrder lib dec handle registry account clearance cloid expectedRevision atMs store

/-- The transaction of `resolve`. -/
def resolveBody (receipt : SubmissionReceipt) (resolution : SubmissionResolution) (atMs : Nat)
    (store : Store) : Except (SubmissionError dec.Decimal) (Committed Unit) := do
  refuseIf (receipt.chain ≠ handle.genesis lib) .wrongNetwork
  let replay ← replay lib handle true store
  refuseIf (replay.startAt receipt.seq ≠ some receipt)
    (.invalidRecord "receipt does not match durable start")
  -- an old resolution replayed must not release a newer reservation
  if receipt.seq ∈ replay.resolved then return ⟨(), store.db, none⟩
  else do
    let tsMs ← timestamp dec atMs
    let (appended, db) ← mapError .ledger
      (appendKeyedInTx lib store.db
        (resolvedEvent receipt.agent tsMs
          ⟨1, receipt.start.account, receipt.seq, receipt.hash, resolution⟩)
        (resolveKey receipt.seq))
    match appended with
    | none => .error (.invalidRecord "resolution key without resolution")
    | some appended => return ⟨(), db, some appended⟩

variable (publish : Bool)

/-- `begin`. -/
def begin (account : Address) (clearance : Clearance) (expectedRevision atMs : Nat)
    (store : Store) : Except (SubmissionError dec.Decimal) SubmissionReceipt × Store :=
  transact handle publish .ledger store
    (beginBody lib dec handle registry account clearance expectedRevision atMs store)

/-- `resolve`. -/
def resolve (receipt : SubmissionReceipt) (resolution : SubmissionResolution) (atMs : Nat)
    (store : Store) : Except (SubmissionError dec.Decimal) Unit × Store :=
  transact handle publish .ledger store
    (resolveBody lib dec handle receipt resolution atMs store)

end Journal

/-! ## What the transactions commit -/

section Specification

variable {lib : Libraries} {dec : Decimals} {handle : Handle}
  {registry : Option (RegistryChecks dec.Decimal)} {store : Store}

/-- A replay that succeeded is that of the ledger's rows. -/
theorem replayRows_of_replay {verifyAnchor : Bool} {read : Replay}
    (run : replay (D := dec.Decimal) lib handle verifyAnchor store = .ok read) :
    replayRows (D := dec.Decimal) lib handle store.db = .ok read := by
  obtain ⟨_, _, run⟩ := bind_eq_ok run
  exact run

/-- The journal's replay is that of the ledger, once the registry was read. -/
theorem replay_of_journalReplay {read : Replay}
    (run : journalReplay lib dec handle registry store = .ok read) :
    replay (D := dec.Decimal) lib handle true store = .ok read := by
  obtain ⟨replayed, found, run⟩ := bind_eq_ok run
  cases registry with
  | none =>
      cases run
      exact found
  | some checks =>
      obtain ⟨_, _, run⟩ := bind_eq_ok run
      cases run
      exact found

/-- An order that was admitted passed the journal's own checks. -/
theorem checkAdmission_of_admission {account : Address} {clearance : Clearance}
    (run : admission lib dec handle registry store account clearance = .ok ()) :
    checkAdmission lib dec handle store account clearance = .ok () := by
  cases registry with
  | none => exact run
  | some checks =>
      obtain ⟨_, _, run⟩ := bind_eq_ok run
      exact run

/-- What `begin` leaves to commit: one reservation, on an idle account, at the revision the
caller read, of an order that was admitted. -/
structure Began (lib : Libraries) (dec : Decimals) (handle : Handle) (account : Address)
    (clearance : Clearance) (expectedRevision : Nat) (store : Store)
    (done : Committed SubmissionReceipt) : Prop where
  intro ::
  network : clearance.network = handle.network
  route : RouteMatches account clearance
  vault : ∀ vault ∈ clearance.vaultAddress, vault = account
  admitted : checkAdmission lib dec handle store account clearance = .ok ()
  reserved : ∃ replay cloid intentSeq intentHash tsMs appended db,
    replayRows (D := dec.Decimal) lib handle store.db = .ok replay ∧
    clearance.kind.cloid? = some cloid ∧ (replay.accounts account).pending = none ∧
    (replay.accounts account).revision = expectedRevision ∧ (account, cloid) ∉ replay.used ∧
    findIntent lib dec clearance.toValue (intentRows store.db clearance.agent) =
      .ok (some (intentSeq, intentHash)) ∧
    Grows lib (handle.genesis lib) store.db
      (startedEvent clearance.agent tsMs ⟨1, account, cloid, intentSeq, intentHash⟩)
      (some (startKey ⟨1, account, cloid, intentSeq, intentHash⟩)) appended db ∧
    (∀ held ∈ store.db.events,
      held.idemKey ≠ some (startKey ⟨1, account, cloid, intentSeq, intentHash⟩)) ∧
    done = ⟨⟨handle.genesis lib, appended.seq, appended.hash, clearance.agent,
      ⟨1, account, cloid, intentSeq, intentHash⟩⟩, db, some appended⟩

/-- A start that was committed began as `Began` says, which every later fact about a start is read
off. -/
theorem beginBody_ok {account : Address} {clearance : Clearance} {expectedRevision atMs : Nat}
    {done : Committed SubmissionReceipt} (consistent : Consistent lib (handle.genesis lib) store.db)
    (run : beginBody lib dec handle registry account clearance expectedRevision atMs store =
      .ok done) : Began lib dec handle account clearance expectedRevision store done := by
  obtain ⟨_, network, run⟩ := bind_eq_ok run
  obtain ⟨_, route, run⟩ := bind_eq_ok run
  split at run
  · cases run
  · rename_i cloid named
    obtain ⟨_, vault, run⟩ := bind_eq_ok run
    obtain ⟨replay, replayed, run⟩ := bind_eq_ok run
    split at run
    · cases run
    · rename_i idle
      obtain ⟨_, revision, run⟩ := bind_eq_ok run
      obtain ⟨_, unused, run⟩ := bind_eq_ok run
      obtain ⟨intent, found, run⟩ := bind_eq_ok run
      split at run
      · cases run
      · rename_i intentSeq intentHash
        obtain ⟨_, admitted, run⟩ := bind_eq_ok run
        obtain ⟨tsMs, _, run⟩ := bind_eq_ok run
        obtain ⟨⟨appended, db⟩, append, run⟩ := bind_eq_ok run
        rcases appendKeyedInTx_ok consistent.headed (mapError_eq_ok append) with
          ⟨row, rfl, grows, fresh⟩ | ⟨rfl, _, _⟩
        · cases run
          refine ⟨not_not.mp (refuseIf_ok network), not_not.mp (refuseIf_ok route), ?_,
            checkAdmission_of_admission (mapError_eq_ok admitted), ?_⟩
          · intro vault' member
            by_contra other
            exact refuseIf_ok vault ⟨vault', member, other⟩
          · exact ⟨replay, cloid, intentSeq, intentHash, tsMs, row, db,
              replayRows_of_replay (replay_of_journalReplay replayed), named, idle,
              not_not.mp (refuseIf_ok revision), refuseIf_ok unused, found, grows, fresh, rfl⟩
        · cases run

/-- What `resolve` leaves to commit: nothing for a receipt already resolved, else the
resolution of a start that matches its receipt. -/
inductive Resolves (lib : Libraries) (dec : Decimals) (handle : Handle)
    (receipt : SubmissionReceipt) (resolution : SubmissionResolution) (store : Store)
    (replay : Replay) : Committed Unit → Prop
  | repeated (resolved : receipt.seq ∈ replay.resolved) :
      Resolves lib dec handle receipt resolution store replay ⟨(), store.db, none⟩
  | resolved {tsMs : Int64} {appended : Appended} {db : Db}
      (unresolved : receipt.seq ∉ replay.resolved)
      (grows : Grows lib (handle.genesis lib) store.db
        (resolvedEvent receipt.agent tsMs
          ⟨1, receipt.start.account, receipt.seq, receipt.hash, resolution⟩)
        (some (resolveKey receipt.seq)) appended db)
      (fresh : ∀ held ∈ store.db.events, held.idemKey ≠ some (resolveKey receipt.seq)) :
      Resolves lib dec handle receipt resolution store replay ⟨(), db, some appended⟩

/-- A resolution that was committed found its start, which was not resolved otherwise. Its row is
the next one, or it was there already. -/
theorem resolveBody_ok {receipt : SubmissionReceipt} {resolution : SubmissionResolution}
    {atMs : Nat} {done : Committed Unit} (consistent : Consistent lib (handle.genesis lib) store.db)
    (run : resolveBody lib dec handle receipt resolution atMs store = .ok done) :
    ∃ replay, replayRows (D := dec.Decimal) lib handle store.db = .ok replay ∧
      replay.startAt receipt.seq = some receipt ∧
      Resolves lib dec handle receipt resolution store replay done := by
  obtain ⟨_, _, run⟩ := bind_eq_ok run
  obtain ⟨replay, replayed, run⟩ := bind_eq_ok run
  obtain ⟨_, known, run⟩ := bind_eq_ok run
  refine ⟨replay, replayRows_of_replay replayed, not_not.mp (refuseIf_ok known), ?_⟩
  split at run
  · rename_i resolved
    cases run
    exact .repeated resolved
  · rename_i unresolved
    obtain ⟨tsMs, _, run⟩ := bind_eq_ok run
    obtain ⟨⟨appended, db⟩, append, run⟩ := bind_eq_ok run
    rcases appendKeyedInTx_ok consistent.headed (mapError_eq_ok append) with
      ⟨row, rfl, grows, fresh⟩ | ⟨rfl, _, _⟩
    · cases run
      exact .resolved unresolved grows fresh
    · cases run

end Specification

end Oppen.Ledger
