import Oppen.Ledger.Hash

/-! # The stored ledger

The tables of one database file as SQLite holds them, with the columns the
modelled functions read. The rows of `events` are kept in the order of their
primary key, the order every reader asks for.
-/

namespace Oppen.Ledger

open Oppen.Json

/-- A value of the payload column; `other` stands for an integer or a real. -/
inductive SqlValue where
  | null
  | text (value : String)
  | blob (bytes : List UInt8)
  | other
  deriving DecidableEq, Repr

/-- `ValueRef::as_bytes_or_null`: `none` for a value that has no bytes. -/
def SqlValue.asBytesOrNull : SqlValue → Option (Option (List UInt8))
  | .null => some none
  | .text value => some (some (utf8 value))
  | .blob bytes => some (some bytes)
  | .other => none

/-- One row of `events`. -/
structure Row where
  seq : Int
  tsMs : Int64
  kind : String
  agentId : Option String
  payload : SqlValue
  payloadHash : String
  prevHash : String
  hash : String
  redactedAt : Option Int64
  redactionReason : Option String
  snapshotId : Option String
  snapshotHash : Option String
  idemKey : Option String
  deriving DecidableEq, Repr

/-- The chained fields of a row at position `seq`. -/
def Row.hashInput (row : Row) (seq : Nat) : RowHashInput where
  prevHash := row.prevHash
  seq := seq
  kind := row.kind
  tsMs := row.tsMs
  agentId := row.agentId
  payloadHash := row.payloadHash
  snapshotId := row.snapshotId
  snapshotHash := row.snapshotHash

/-- The lengths of a row's texts and payload, and its position, are ones the program can
hold: a `usize` for a length and an `i64` for a position. -/
def Row.Storable (row : Row) : Prop :=
  row.seq < 2 ^ 63 ∧ (row.hashInput row.seq.toNat).Fits ∧
    ∀ bytes ∈ row.payload.asBytesOrNull.join, Fits bytes

/-- One row of `feed_gaps`. -/
structure GapRow where
  gapId : Int
  scope : String
  openedTsMs : Int64
  closedTsMs : Option Int64
  reconciledTsMs : Option Int64
  openSeq : Int
  closeSeq : Option Int
  note : Option String
  deriving DecidableEq, Repr

/-- The tables of one database file: the network it is bound to, the one row of
`chain_head`, and the rows of `events` and `feed_gaps`. -/
structure Db where
  network : Option String
  chainHead : Option (Int × String)
  events : List Row
  feedGaps : List GapRow
  deriving DecidableEq, Repr

/-- A table as a file can hold it. -/
structure DbFile where
  db : Db
  storable : ∀ row ∈ db.events, row.Storable

/-- The empty tables `migrate` leaves in a new file. -/
def Db.migrated : Db where
  network := none
  chainHead := none
  events := []
  feedGaps := []

/-- `head`: the last seq and its hash. -/
def head (db : Db) : Result (Nat × String) :=
  match db.chainHead with
  | none => .error .sqlite
  | some (seq, hash) => if seq < 0 then .error .seqOutOfRange else .ok (seq.toNat, hash)

/-- The row at a primary key. -/
def Db.rowAt (db : Db) (seq : Int) : Option Row :=
  db.events.find? fun row => row.seq = seq

/-- Whether inserting the row breaks the primary key or the unique index on `hash`. -/
def Db.violates (db : Db) (row : Row) : Bool :=
  db.events.any fun held => held.seq = row.seq || held.hash = row.hash

/-- Keep a row where its primary key belongs. -/
def insertRow (row : Row) : List Row → List Row
  | [] => [row]
  | held :: rest => if row.seq < held.seq then row :: held :: rest else held :: insertRow row rest

/-- The payload column read as text and parsed; a blob or a number is not text. -/
def readPayload (lib : Libraries) (seq : Nat) : SqlValue → Result (Option Value)
  | .null => .ok none
  | .text text =>
      match lib.fromSlice (utf8 text) with
      | some value => .ok (some value)
      | none => .error (.payloadNotJson seq)
  | _ => .error .sqlite

/-- `event_from_row`. -/
def eventFromRow (lib : Libraries) (row : Row) : Result Event := do
  refuseIf (row.seq < 0) .seqOutOfRange
  let payload ← readPayload lib row.seq.toNat row.payload
  let kind ← EventKind.fromStr row.kind
  return {
    seq := row.seq.toNat, tsMs := row.tsMs, kind, agentId := row.agentId, payload
    payloadHash := row.payloadHash, prevHash := row.prevHash, hash := row.hash
    redactedAt := row.redactedAt, redactionReason := row.redactionReason
    snapshotId := row.snapshotId, snapshotHash := row.snapshotHash }

/-- What a row that reads says about its event. -/
theorem eventFromRow_ok {lib : Libraries} {row : Row} {event : Event}
    (read : eventFromRow lib row = .ok event) :
    0 ≤ row.seq ∧ event.seq = row.seq.toNat ∧ event.kind.asStr = row.kind ∧
      event.agentId = row.agentId ∧ event.hash = row.hash ∧
      (event.payload = none ↔ row.payload = .null) := by
  obtain ⟨_, within, read⟩ := bind_eq_ok read
  obtain ⟨payload, parsed, read⟩ := bind_eq_ok read
  obtain ⟨kind, named, read⟩ := bind_eq_ok read
  cases read
  refine ⟨not_lt.mp (refuseIf_ok within), rfl, EventKind.asStr_of_fromStr named, rfl, rfl, ?_⟩
  unfold readPayload at parsed
  split at parsed
  · rename_i gone
    cases parsed
    exact ⟨fun _ => gone, fun _ => rfl⟩
  · rename_i text present
    rw [present]
    split at parsed
    · cases parsed
      exact ⟨nofun, nofun⟩
    · cases parsed
  · cases parsed

/-- A row past every key is kept last. -/
theorem insertRow_last {row : Row} {events : List Row}
    (past : ∀ held ∈ events, held.seq < row.seq) :
    insertRow row events = events ++ [row] := by
  induction events with
  | nil => rfl
  | cons held rest ih =>
      have before : ¬ row.seq < held.seq := by
        have := past held List.mem_cons_self
        omega
      rw [insertRow, if_neg before,
        ih fun other member => past other (List.mem_cons_of_mem _ member)]
      rfl

end Oppen.Ledger
