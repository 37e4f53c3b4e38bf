import Oppen.Ledger.Verify

/-! # Tamper evidence

Two tables the walk accepts under one genesis and one trusted anchor agree on
everything chained up to the anchor. The argument is the commitment property of
hash chains, applied to the chained part of the rows.
-/

namespace Oppen.Ledger

open Foundation Oppen.Json

/-- What the chain covers of a row: its hash preimage and the hash it stores. -/
def Row.chained (row : Row) : RowHashInput × String :=
  (row.hashInput row.seq.toNat, row.hash)

/-- The walk reports the table intact under that anchor. The table is otherwise arbitrary: whoever
can write the file may have made it. -/
def Accepted (lib : Libraries) (genesis : String) (anchor : Anchor) (db : Db) : Prop :=
  ∃ report, walk lib (some anchor) db genesis = .ok report ∧ report.isIntact = true

/-- Every absent payload is named by a later row of kind `payload_redacted` whose own
payload is present and is the one the chain commits to. -/
def NullsNamed (lib : Libraries) (db : Db) : Prop :=
  ∀ row ∈ db.events, row.payload = .null → ∃ later ∈ db.events, row.seq < later.seq ∧
    later.kind = EventKind.payloadRedacted.asStr ∧ ∃ bytes, later.bytes = some bytes ∧
      payloadHash lib bytes = later.payloadHash ∧ redactedSeq lib bytes = some row.seq.toNat

section Agreement

variable {lib : Libraries} {genesis : String} {anchor : Anchor}

/-- The chained records a row of a stored, sound table can show. -/
def chainedRecords (lib : Libraries) : Set (RowHashInput × String) :=
  {record | record.1.Fits ∧ rowHash lib record.1 = record.2}

/-- A row of a sound table is one of the records whose hash is its own. -/
theorem chained_mem {file : DbFile} (sound : SoundRows lib genesis file.db.events) {row : Row}
    (member : row ∈ file.db.events) : row.chained ∈ chainedRecords lib :=
  ⟨(file.storable row member).2.1, sound.hashed row member⟩

/-- Chained records are told apart by their hash, where the hash collides for no two inputs. -/
theorem hash_injOn_chainedRecords (collisionFree : Function.Injective lib.keccak256) :
    Set.InjOn (fun record : RowHashInput × String => record.2) (chainedRecords lib) := by
  rintro ⟨input, digest⟩ ⟨fits, recomputed⟩ ⟨input', digest'⟩ ⟨fits', recomputed'⟩ same
  obtain rfl : digest = digest' := same
  obtain rfl : input = input' :=
    rowHash_injOn collisionFree fits fits' (recomputed.trans recomputed'.symm)
  rfl

/-- The chained part of the rows up to the anchor is the same in both tables. -/
theorem chained_prefix_eq (collisionFree : Function.Injective lib.keccak256)
    {first second : DbFile} (one : Intact lib (some anchor) genesis first.db)
    (two : Intact lib (some anchor) genesis second.db) :
    (first.db.events.take anchor.seq).map Row.chained =
      (second.db.events.take anchor.seq).map Row.chained := by
  have witnessed := one.witnessed anchor rfl
  have witnessed' := two.witnessed anchor rfl
  have inside (file : DbFile) (sound : SoundRows lib genesis file.db.events) :
      ∀ record ∈ (file.db.events.take anchor.seq).map Row.chained,
        record ∈ chainedRecords lib := by
    intro record member
    obtain ⟨row, taken, rfl⟩ := List.mem_map.mp member
    exact chained_mem sound (List.mem_of_mem_take taken)
  have chained (file : DbFile) (sound : SoundRows lib genesis file.db.events) :
      Linked (fun record : RowHashInput × String => record.1.prevHash) Prod.snd genesis
        ((file.db.events.take anchor.seq).map Row.chained) :=
    (linked_map _).mpr (sound.linked.take anchor.seq)
  refine Linked.eq_of_tipDigest_eq (hash_injOn_chainedRecords collisionFree)
    (chained first one.rows) (chained second two.rows) (inside first one.rows)
    (inside second two.rows) ?_ ?_
  · have reached := witnessed.reached
    have reached' := witnessed'.reached
    simp only [List.length_map, List.length_take]
    omega
  · rw [tipDigest_map, tipDigest_map]
    exact witnessed.hash.symm.trans witnessed'.hash

/-- An intact table names every payload that is gone. -/
theorem nullsNamed_of_intact {db : Db} (intact : Intact lib (some anchor) genesis db) :
    NullsNamed lib db := by
  intro row member gone
  obtain ⟨before, after, split⟩ := List.append_of_mem member
  have absent : row.bytes = none := by rw [Row.bytes, gone]; rfl
  obtain ⟨later, found, kind, bytes, present, covered⟩ :=
    intact.explained before row after split absent
  have inTable : later ∈ db.events := by
    rw [split]
    exact List.mem_append_right _ (List.mem_cons_of_mem _ found)
  refine ⟨later, inTable, ?_, kind, bytes, present,
    (intact.rows.committed later inTable).2 bytes present, covered⟩
  obtain ⟨offset, place⟩ := List.mem_iff_getElem?.mp found
  have here := intact.rows.positions before.length row (by rw [split]; simp)
  have there := intact.rows.positions (before.length + 1 + offset) later (by
    rw [split, List.getElem?_append_right (by omega)]
    have step : before.length + 1 + offset - before.length = offset + 1 := by omega
    rw [step, List.getElem?_cons_succ, place])
  omega

/-- An intact table has at most one row its anchor has not witnessed. -/
theorem unwitnessed_le_one {db : Db} (intact : Intact lib (some anchor) genesis db) :
    (db.events.filter fun row => (anchor.seq : Int) < row.seq).length ≤ 1 := by
  have witnessed := intact.witnessed anchor rfl
  have early : ∀ row ∈ db.events.take anchor.seq, ¬ (anchor.seq : Int) < row.seq := by
    intro row member
    obtain ⟨index, found⟩ := List.mem_iff_getElem?.mp member
    obtain ⟨bound, _⟩ := List.getElem?_eq_some_iff.mp found
    rw [List.length_take] at bound
    rw [List.getElem?_take_of_lt (by omega)] at found
    have position := intact.rows.positions index row found
    omega
  have recent := witnessed.recent
  rw [← List.take_append_drop anchor.seq db.events, List.filter_append,
    List.filter_eq_nil_iff.mpr (by simpa using early), List.nil_append]
  refine (List.length_filter_le _ _).trans ?_
  rw [List.length_drop]
  have tolerance : anchorLagTolerance = 1 := rfl
  omega

/-- **Tamper evidence.** Two tables the walk accepts under one genesis and one trusted
anchor hold a row at every position up to the anchor's, agree on every chained field of
those rows and on the payloads present in both; a payload is absent only where a later
chained redaction names its row; and at most one row lies beyond the anchor. The header
encoding that carries the argument is injective. -/
theorem tables_agree_up_to_anchor (lib : Libraries)
    (collisionFree : Function.Injective lib.keccak256) (genesis : String) (anchor : Anchor)
    (first second : DbFile) (firstAccepted : Accepted lib genesis anchor first.db)
    (secondAccepted : Accepted lib genesis anchor second.db) :
    (∀ index < anchor.seq, ∃ one two, first.db.rowAt ((index : Int) + 1) = some one ∧
      second.db.rowAt ((index : Int) + 1) = some two ∧ one.chained = two.chained ∧
      ∀ bytes ∈ one.bytes, ∀ bytes' ∈ two.bytes, bytes = bytes') ∧
    (∀ file ∈ [first, second],
      (∀ row ∈ file.db.events, ∃ index : Nat, row.seq = (index : Int) + 1 ∧
        file.db.rowAt row.seq = some row) ∧
      NullsNamed lib file.db ∧
      (file.db.events.filter fun row => (anchor.seq : Int) < row.seq).length ≤ 1) ∧
    Set.InjOn rowPreimage {input | input.Fits} := by
  have one := walk_isIntact_iff.mp firstAccepted
  have two := walk_isIntact_iff.mp secondAccepted
  refine ⟨?_, ?_, rowPreimage_injOn⟩
  · intro index before
    have reached := (one.witnessed anchor rfl).reached
    have reached' := (two.witnessed anchor rfl).reached
    have bound : index < first.db.events.length := by omega
    have bound' : index < second.db.events.length := by omega
    have same : (first.db.events[index]).chained = (second.db.events[index]).chained := by
      have prefixes := congrArg (fun records => records[index]?)
        (chained_prefix_eq collisionFree one two)
      simpa [List.getElem?_take_of_lt before, bound, bound'] using prefixes
    refine ⟨first.db.events[index], second.db.events[index],
      by rw [one.rows.rowAt, List.getElem?_eq_getElem bound],
      by rw [two.rows.rowAt, List.getElem?_eq_getElem bound'], same, ?_⟩
    intro bytes present bytes' present'
    have member := List.getElem_mem bound
    have member' := List.getElem_mem bound'
    have commitments :
        (first.db.events[index]).payloadHash = (second.db.events[index]).payloadHash :=
      congrArg (fun record => record.1.payloadHash) same
    exact payloadHash_injOn collisionFree ((first.storable _ member).2.2 bytes present)
      ((second.storable _ member').2.2 bytes' present')
      (((one.rows.committed _ member).2 bytes present).trans
        (commitments.trans ((two.rows.committed _ member').2 bytes' present').symm))
  · intro file member
    have intact : Intact lib (some anchor) genesis file.db := by
      rcases List.mem_pair.mp member with rfl | rfl
      · exact one
      · exact two
    refine ⟨fun row inTable => ?_, nullsNamed_of_intact intact, unwitnessed_le_one intact⟩
    obtain ⟨index, found, position⟩ := intact.rows.index inTable
    exact ⟨index, position, by rw [position, intact.rows.rowAt, found]⟩

end Agreement

namespace Sample

/-- The reference reader with the identity in place of the digest. -/
def lib : Libraries := .reference id

def genesis : String := genesisHash lib .testnet

def redactionText : String := "\x7b\"reason\":\"typo\",\"redacted_seq\":1\x7d"

def alertInput : RowHashInput where
  prevHash := genesis
  seq := 1
  kind := "alert"
  tsMs := 5
  agentId := none
  payloadHash := payloadHash lib (utf8 "\x7b\x7d")
  snapshotId := none
  snapshotHash := none

def redactionInput : RowHashInput where
  prevHash := rowHash lib alertInput
  seq := 2
  kind := "payload_redacted"
  tsMs := 7
  agentId := none
  payloadHash := payloadHash lib (utf8 redactionText)
  snapshotId := none
  snapshotHash := none

def rowOf (input : RowHashInput) (payload : SqlValue) : Row where
  seq := input.seq
  tsMs := input.tsMs
  kind := input.kind
  agentId := input.agentId
  payload := payload
  payloadHash := input.payloadHash
  prevHash := input.prevHash
  hash := rowHash lib input
  redactedAt := none
  redactionReason := none
  snapshotId := input.snapshotId
  snapshotHash := input.snapshotHash
  idemKey := none

/-- An alert and its redaction; the alert's own payload is the argument. -/
def table (alert : SqlValue) : Db where
  network := some (networkKey .testnet)
  chainHead := some (2, rowHash lib redactionInput)
  events := [rowOf alertInput alert, rowOf redactionInput (.text redactionText)]
  feedGaps := []

/-- Short bytes fit as their hexadecimal text. -/
theorem fits_hexEncode {bytes : List UInt8} (short : bytes.length < 2 ^ 60) :
    Fits (utf8 (hexEncode bytes)) := by
  rw [Fits, length_utf8_hexEncode]
  omega

theorem alertInput_fits : alertInput.Fits := by
  have kind : Fits (utf8 "alert") := by unfold Fits; decide +kernel
  exact ⟨fits_hexEncode (by decide +kernel), by decide, kind, by rintro _ ⟨⟩,
    fits_hexEncode (by decide +kernel), by rintro _ ⟨⟩, by rintro _ ⟨⟩⟩

theorem redactionInput_fits : redactionInput.Fits := by
  have kind : Fits (utf8 "payload_redacted") := by unfold Fits; decide +kernel
  exact ⟨fits_hexEncode (by decide +kernel), by decide, kind, by rintro _ ⟨⟩,
    fits_hexEncode (by decide +kernel), by rintro _ ⟨⟩, by rintro _ ⟨⟩⟩

/-- The table of the sample can be stored, with the alert's payload or without. -/
theorem table_storable {alert : SqlValue} (small : ∀ bytes ∈ alert.asBytesOrNull.join, Fits bytes) :
    ∀ row ∈ (table alert).events, row.Storable := by
  have text : Fits (utf8 redactionText) := by unfold Fits; decide +kernel
  intro row member
  rcases List.mem_pair.mp member with rfl | rfl
  · exact ⟨(by decide : (1 : Int) < 2 ^ 63), alertInput_fits, small⟩
  · refine ⟨(by decide : (2 : Int) < 2 ^ 63), redactionInput_fits, ?_⟩
    rintro bytes ⟨⟩
    exact text

/-- The table with its alert in place, and the same table once the alert is redacted. -/
def kept : DbFile where
  db := table (.text "\x7b\x7d")
  storable := table_storable (by rintro bytes ⟨⟩; unfold Fits; decide +kernel)

def redacted : DbFile where
  db := table .null
  storable := table_storable (by rintro _ ⟨⟩)

/-- The table of the sample is sound, where what is kept of the payload is what was committed. -/
theorem kept_sound {alert : SqlValue} (readable : alert.asBytesOrNull.isSome = true)
    (committed : ∀ bytes ∈ alert.asBytesOrNull.join, bytes = utf8 "\x7b\x7d") :
    SoundRows lib genesis (table alert).events := by
  have first : SoundRows lib genesis ([] ++ [rowOf alertInput alert]) := by
    refine soundRows_concat.mpr ⟨.nil lib genesis, rfl, rfl, rfl, readable, ?_⟩
    intro bytes present
    rw [committed bytes present]
    rfl
  change SoundRows lib genesis
    ([rowOf alertInput alert] ++ [rowOf redactionInput (.text redactionText)])
  refine soundRows_concat.mpr ⟨first, rfl, rfl, rfl, rfl, ?_⟩
  rintro bytes ⟨⟩
  rfl

/-- The redaction of the sample names its alert. -/
theorem redaction_names_alert : redactedSeq lib (utf8 redactionText) = some 1 := by
  decide +kernel

/-- The table that kept its payload is accepted. -/
theorem kept_accepted : Accepted lib genesis ⟨2, rowHash lib redactionInput⟩ kept.db := by
  refine walk_isIntact_iff.mpr ⟨kept_sound rfl (by rintro bytes ⟨⟩; rfl), ?_, ?_, rfl⟩
  · refine unexplained_eq_nil_iff.mp ?_
    simp [unexplained, kept, table, nullsAfter, rowOf, Row.bytes, SqlValue.asBytesOrNull,
      alertInput, redactionInput, redaction_names_alert, EventKind.asStr]
  · rintro remembered ⟨⟩
    exact ⟨Nat.le_refl 2, Nat.le_succ 2, rfl⟩

/-- The table that lost it is accepted too, since the redaction explains it. -/
theorem redacted_accepted : Accepted lib genesis ⟨2, rowHash lib redactionInput⟩ redacted.db := by
  refine walk_isIntact_iff.mpr ⟨kept_sound rfl (by rintro _ ⟨⟩), ?_, ?_, rfl⟩
  · refine unexplained_eq_nil_iff.mp ?_
    simp [unexplained, redacted, table, nullsAfter, rowOf, Row.bytes, SqlValue.asBytesOrNull,
      alertInput, redactionInput, redaction_names_alert, EventKind.asStr]
  · rintro remembered ⟨⟩
    exact ⟨Nat.le_refl 2, Nat.le_succ 2, rfl⟩

/-- The table before and after its redaction. -/
theorem kept_and_redacted_agree :
    ∃ one two, kept.db.rowAt 1 = some one ∧ redacted.db.rowAt 1 = some two ∧
      one.chained = two.chained ∧ ∀ bytes ∈ one.bytes, ∀ bytes' ∈ two.bytes, bytes = bytes' :=
  (tables_agree_up_to_anchor lib Function.injective_id genesis ⟨2, rowHash lib redactionInput⟩
    kept redacted kept_accepted redacted_accepted).1 0 (by decide)

end Sample

end Oppen.Ledger
