import Oppen.Ledger.Verify

/-! # Building and inserting a row

The next row of the chain is built from the head, then inserted with or without an
idempotence key. On a consistent table either insert adds that row at the end or
leaves the table alone, and the extended table is consistent again.
-/

namespace Oppen.Ledger

open Foundation Oppen.Json

/-! ## The writer -/

section Writer

variable (lib : Libraries)

/-- The row an event becomes at a position of the chain. -/
def chainedRow (event : NewEvent) (seq : Nat) (prevHash canonical : String)
    (idemKey : Option String) : Row :=
  let payloadHash := payloadHash lib (utf8 canonical)
  let snapshotId := event.snapshot.map SnapshotRef.id
  let snapshotHash := event.snapshot.map SnapshotRef.hash
  { seq := seq
    tsMs := event.tsMs
    kind := event.kind.asStr
    agentId := event.agentId
    payload := .text canonical
    payloadHash := payloadHash
    prevHash := prevHash
    hash := rowHash lib {
      prevHash, seq, kind := event.kind.asStr, tsMs := event.tsMs, agentId := event.agentId
      payloadHash, snapshotId, snapshotHash }
    redactedAt := none
    redactionReason := none
    snapshotId := snapshotId
    snapshotHash := snapshotHash
    idemKey := idemKey }

/-- `chain_row`: the next row of the chain, built from the head. -/
def chainRow (db : Db) (event : NewEvent) (idemKey : Option String) : Result Row := do
  let (headSeq, prevHash) ← head db
  refuseIf (2 ^ 63 ≤ headSeq + 1) .seqOutOfRange
  let canonical ← canonicalJson event.payload
  return chainedRow lib event (headSeq + 1) prevHash canonical idemKey

/-- Insert the row and move the head to it (`advance_head`). -/
def Db.push (db : Db) (row : Row) : Db :=
  { db with events := insertRow row db.events, chainHead := some (row.seq, row.hash) }

/-- `ChainedRow::appended`. -/
def Row.appended (row : Row) : Appended := ⟨row.seq.toNat, row.hash⟩

/-- `append_in_tx`: append a row without a key. -/
def appendInTx (db : Db) (event : NewEvent) : Result (Appended × Db) := do
  let row ← chainRow lib db event none
  refuseIf (db.violates row = true) .sqlite
  return (row.appended, db.push row)

/-- `append_keyed_in_tx`: append a keyed row, or nothing when the key is in the chain. -/
def appendKeyedInTx (db : Db) (event : NewEvent) (idemKey : String) :
    Result (Option Appended × Db) := do
  let row ← chainRow lib db event (some idemKey)
  if db.events.any fun held => held.idemKey = some idemKey then return (none, db)
  else
    refuseIf (db.violates row = true) .sqlite
    return (some row.appended, db.push row)

end Writer

/-! ## Consistent tables -/

/-- The chain verifies row by row, every missing payload is explained and the head is
at the last row. -/
abbrev Consistent (lib : Libraries) (genesis : String) (db : Db) : Prop :=
  Intact lib none genesis db

/-- The chain verifies row by row and the head is at the last row. -/
structure Headed (lib : Libraries) (genesis : String) (db : Db) : Prop where
  rows : SoundRows lib genesis db.events
  head : db.chainHead = some ((db.events.length : Int), tipDigest Row.hash genesis db.events)

/-- The table with one more row at the end and the head at it. -/
def Db.extend (db : Db) (row : Row) : Db :=
  { db with events := db.events ++ [row], chainHead := some (row.seq, row.hash) }

/-- The row an event becomes at the end of a table. -/
def nextRow (lib : Libraries) (genesis : String) (db : Db) (event : NewEvent)
    (canonical : String) (idemKey : Option String) : Row :=
  chainedRow lib event (db.events.length + 1) (tipDigest Row.hash genesis db.events) canonical
    idemKey

section Consistent

variable {lib : Libraries} {genesis : String} {db : Db} {event : NewEvent}

/-- The head of a consistent table is that of its last row. -/
theorem Consistent.headed (consistent : Consistent lib genesis db) : Headed lib genesis db :=
  ⟨consistent.rows, Intact.head consistent⟩

/-- The head that is read is the number of rows with the hash of the last. -/
theorem Headed.head_eq (headed : Headed lib genesis db) :
    Ledger.head db = .ok (db.events.length, tipDigest Row.hash genesis db.events) :=
  head_eq_ok_iff.mpr headed.head

/-- A table that was just created is consistent. -/
theorem Consistent.created : Consistent lib genesis
    { Db.migrated with network := some name, chainHead := some (0, genesis) } where
  rows := .nil lib genesis
  explained := by
    intro before row after split
    cases before <;> cases split
  witnessed := by rintro _ ⟨⟩
  head := rfl

/-- A chained row holds the canonical form of its payload. -/
@[simp] theorem bytes_chainedRow (seq : Nat) (prevHash canonical : String)
    (idemKey : Option String) :
    (chainedRow lib event seq prevHash canonical idemKey).bytes = some (utf8 canonical) := rfl

/-- The row an event becomes passes every check at the end of the table. -/
theorem SoundRows.nextRow (sound : SoundRows lib genesis db.events) (canonical : String)
    (idemKey : Option String) :
    SoundRows lib genesis (db.events ++ [nextRow lib genesis db event canonical idemKey]) := by
  refine soundRows_concat.mpr ⟨sound, rfl, rfl, rfl, rfl, ?_⟩
  rintro bytes ⟨⟩
  rfl

/-- A row that holds its payload needs no explanation. -/
theorem Explained.concat {rows : List Row} {row : Row} (explained : Explained lib rows)
    (present : row.bytes ≠ none) : Explained lib (rows ++ [row]) := by
  intro before held after split gone
  cases after using List.reverseRecOn with
  | nil =>
      obtain ⟨_, same⟩ := List.append_inj' split rfl
      obtain rfl := (List.cons.inj same).1
      exact absurd gone present
  | append_singleton after last =>
      rw [← List.cons_append, ← List.append_assoc] at split
      obtain ⟨earlier, _⟩ := List.append_inj' split rfl
      obtain ⟨later, found, covers⟩ := explained before held after earlier gone
      exact ⟨later, List.mem_append_left _ found, covers⟩

/-- A table that was extended by its next row is consistent. -/
theorem Consistent.extend (consistent : Consistent lib genesis db) (canonical : String)
    (idemKey : Option String) :
    Consistent lib genesis (db.extend (nextRow lib genesis db event canonical idemKey)) where
  rows := consistent.rows.nextRow canonical idemKey
  explained := consistent.explained.concat (by rw [nextRow, bytes_chainedRow]; exact nofun)
  witnessed := by rintro _ ⟨⟩
  head := by
    simp only [Db.extend, tipDigest_concat, List.length_append, List.length_singleton]
    rfl

/-- The next row is put at the end of the table. -/
theorem Headed.push_eq_extend (headed : Headed lib genesis db) (canonical : String)
    (idemKey : Option String) :
    db.push (nextRow lib genesis db event canonical idemKey) =
      db.extend (nextRow lib genesis db event canonical idemKey) := by
  have past : ∀ held ∈ db.events,
      held.seq < (nextRow lib genesis db event canonical idemKey).seq := by
    intro held member
    obtain ⟨index, found, position⟩ := headed.rows.index member
    obtain ⟨bound, _⟩ := List.getElem?_eq_some_iff.mp found
    change held.seq < ((db.events.length + 1 : Nat) : Int)
    omega
  rw [Db.push, Db.extend, insertRow_last past]

/-! ## What an append does -/

/-- The table grew by the row of an event, within the range of positions. -/
structure Grows (lib : Libraries) (genesis : String) (db : Db) (event : NewEvent)
    (idemKey : Option String) (appended : Appended) (grown : Db) : Prop where
  intro ::
  row : ∃ canonical, canonicalJson event.payload = .ok canonical ∧
    db.events.length + 1 < 2 ^ 63 ∧
    appended = (nextRow lib genesis db event canonical idemKey).appended ∧
    grown = db.extend (nextRow lib genesis db event canonical idemKey)

/-- A table that grew by an append is consistent. -/
theorem Grows.consistent {idemKey : Option String} {appended : Appended} {grown : Db}
    (grows : Grows lib genesis db event idemKey appended grown)
    (consistent : Consistent lib genesis db) : Consistent lib genesis grown := by
  obtain ⟨canonical, _, _, _, rfl⟩ := grows.row
  exact consistent.extend canonical idemKey

/-- What an append returns names the head it leaves. -/
theorem Grows.head {idemKey : Option String} {appended : Appended} {grown : Db}
    (grows : Grows lib genesis db event idemKey appended grown) :
    grown.chainHead = some ((appended.seq : Int), appended.hash) ∧
      appended.seq = db.events.length + 1 ∧ grown.events.length = db.events.length + 1 := by
  obtain ⟨canonical, _, _, rfl, rfl⟩ := grows.row
  refine ⟨rfl, rfl, ?_⟩
  rw [Db.extend, List.length_append, List.length_singleton]

/-- An append keeps the binding to a network. -/
theorem Grows.network {idemKey : Option String} {appended : Appended} {grown : Db}
    (grows : Grows lib genesis db event idemKey appended grown) : grown.network = db.network := by
  obtain ⟨canonical, _, _, _, rfl⟩ := grows.row
  rfl

/-- A row that could be built is the next one, with the canonical form of the event's payload. -/
theorem chainRow_ok (headed : Headed lib genesis db) {idemKey : Option String} {row : Row}
    (built : chainRow lib db event idemKey = .ok row) :
    ∃ canonical, canonicalJson event.payload = .ok canonical ∧
      db.events.length + 1 < 2 ^ 63 ∧ row = nextRow lib genesis db event canonical idemKey := by
  obtain ⟨⟨headSeq, prevHash⟩, found, built⟩ := bind_eq_ok built
  rw [headed.head_eq] at found
  cases found
  obtain ⟨_, within, built⟩ := bind_eq_ok built
  obtain ⟨canonical, written, built⟩ := bind_eq_ok built
  cases built
  exact ⟨canonical, written, Nat.not_le.mp (refuseIf_ok within), rfl⟩

/-- An append inside a transaction lets the table grow by the event's row and changes nothing
else. -/
theorem appendInTx_ok (headed : Headed lib genesis db) {appended : Appended} {grown : Db}
    (run : appendInTx lib db event = .ok (appended, grown)) :
    Grows lib genesis db event none appended grown := by
  obtain ⟨row, built, run⟩ := bind_eq_ok run
  obtain ⟨canonical, written, within, rfl⟩ := chainRow_ok headed built
  obtain ⟨_, _, run⟩ := bind_eq_ok run
  cases run
  exact ⟨canonical, written, within, rfl, headed.push_eq_extend canonical none⟩

/-- A keyed append adds the row when its key is new, and otherwise nothing. -/
theorem appendKeyedInTx_ok (headed : Headed lib genesis db) {idemKey : String}
    {appended : Option Appended} {grown : Db}
    (run : appendKeyedInTx lib db event idemKey = .ok (appended, grown)) :
    (∃ row, appended = some row ∧ Grows lib genesis db event (some idemKey) row grown ∧
      ∀ held ∈ db.events, held.idemKey ≠ some idemKey) ∨
    (appended = none ∧ grown = db ∧ ∃ held ∈ db.events, held.idemKey = some idemKey) := by
  obtain ⟨row, built, run⟩ := bind_eq_ok run
  obtain ⟨canonical, written, within, rfl⟩ := chainRow_ok headed built
  split at run
  · rename_i repeated
    cases run
    rw [List.any_eq_true] at repeated
    obtain ⟨held, member, same⟩ := repeated
    exact .inr ⟨rfl, rfl, held, member, of_decide_eq_true same⟩
  · rename_i fresh
    obtain ⟨_, _, run⟩ := bind_eq_ok run
    cases run
    refine .inl ⟨_, rfl, ⟨canonical, written, within, rfl,
      headed.push_eq_extend canonical (some idemKey)⟩, ?_⟩
    intro held member same
    exact fresh (List.any_eq_true.mpr ⟨held, member, decide_eq_true same⟩)

end Consistent

end Oppen.Ledger
