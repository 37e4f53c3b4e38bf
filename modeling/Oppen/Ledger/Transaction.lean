import Oppen.Foundation.Fold
import Oppen.Ledger.Operations

/-! # What a committed transaction changes

Every operation either leaves the tables alone or adds one row to the chain, possibly
after nulling the payload that row explains. Stated once for all operations, this is
what the results about runs rest on: consistency, what publications leave in the
anchor and what earlier rows keep.
-/

namespace Oppen.Ledger

open Foundation Oppen.Json

/-- The table a row is appended to: as it was, or with the payload nulled that the row
explains. -/
inductive Prepared (db : Db) (event : NewEvent) : Db → Prop
  | plain (notRedaction : event.kind ≠ .payloadRedacted) : Prepared db event db
  | tombstone {seq : Nat} {reason : String} {tsMs : Int64} {row : Row} (within : seq < 2 ^ 63)
      (found : db.rowAt seq = some row) (present : row.payload ≠ .null)
      (redactable : row.kind ≠ EventKind.payloadRedacted.asStr)
      (explains : event = redactionEvent seq reason tsMs) :
      Prepared db event (db.tombstone seq tsMs reason)

/-- One row was added to the chain, under a key no earlier row has. -/
structure Change (lib : Libraries) (genesis : String) (db : Db) (event : NewEvent)
    (idemKey : Option String) (appended : Appended) (changed : Db) : Prop where
  intro ::
  made : ∃ base grown gaps, Prepared db event base ∧
    Grows lib genesis base event idemKey appended grown ∧
    changed = { grown with feedGaps := gaps }
  fresh : ∀ key ∈ idemKey, ∀ held ∈ db.events, held.idemKey ≠ some key

/-- What an operation does to the store: nothing, or one change whose head is published
or, when the publication fails, is not. -/
inductive Moves (lib : Libraries) (handle : Handle) (publish : Bool) {α ε : Type}
    (lift : LedgerError → ε) (allowed : NewEvent → Option String → Prop) (store : Store) :
    Except ε α → Store → Prop
  | refused (error : ε) : Moves lib handle publish lift allowed store (.error error) store
  | idle (value : α) : Moves lib handle publish lift allowed store (.ok value) store
  | published {event : NewEvent} {idemKey : Option String} {appended : Appended} {changed : Db}
      (value : α) (permitted : allowed event idemKey)
      (change : Change lib (handle.genesis lib) store.db event idemKey appended changed)
      (stored : handle.anchored = true → publish = true) :
      Moves lib handle publish lift allowed store (.ok value)
        ⟨changed, if handle.anchored then some ⟨appended.seq, appended.hash⟩ else store.anchor⟩
  | unpublished {event : NewEvent} {idemKey : Option String} {appended : Appended} {changed : Db}
      (permitted : allowed event idemKey)
      (change : Change lib (handle.genesis lib) store.db event idemKey appended changed)
      (anchored : handle.anchored = true) (failed : publish = false) :
      Moves lib handle publish lift allowed store (.error (lift .io)) ⟨changed, store.anchor⟩

/-- A file that is bound to the network of its handle stays as it is when it is bound again. -/
theorem bindNetwork_of_bound {lib : Libraries} {handle : Handle} {db : Db}
    (bound : db.network = some (networkKey handle.network)) :
    bindNetwork lib handle db = .ok db := by
  rw [bindNetwork, bound]
  exact if_neg (not_not.mpr rfl)

section Tombstones

variable {lib : Libraries} {genesis : String} {db : Db}

/-- A redaction rewrites the rows one by one, and only the one it names. -/
theorem events_tombstone (seq : Int) (tsMs : Int64) (reason : String) :
    (db.tombstone seq tsMs reason).events = db.events.map (tombstoned seq tsMs reason) := rfl

section Kept

variable (seq : Int) (tsMs : Int64) (reason : String) (row : Row)

@[simp] theorem tombstoned_seq : (tombstoned seq tsMs reason row).seq = row.seq := by
  unfold tombstoned; split <;> rfl

@[simp] theorem tombstoned_kind : (tombstoned seq tsMs reason row).kind = row.kind := by
  unfold tombstoned; split <;> rfl

@[simp] theorem tombstoned_hash : (tombstoned seq tsMs reason row).hash = row.hash := by
  unfold tombstoned; split <;> rfl

@[simp] theorem tombstoned_prevHash :
    (tombstoned seq tsMs reason row).prevHash = row.prevHash := by
  unfold tombstoned; split <;> rfl

@[simp] theorem tombstoned_idemKey : (tombstoned seq tsMs reason row).idemKey = row.idemKey := by
  unfold tombstoned; split <;> rfl

@[simp] theorem tombstoned_hashInput (position : Nat) :
    (tombstoned seq tsMs reason row).hashInput position = row.hashInput position := by
  unfold tombstoned; split <;> rfl

@[simp] theorem tombstoned_payloadHash :
    (tombstoned seq tsMs reason row).payloadHash = row.payloadHash := by
  unfold tombstoned; split <;> rfl

/-- A redaction takes the payload of the row it names and of no other. -/
theorem tombstoned_bytes :
    (tombstoned seq tsMs reason row).bytes = if row.seq = seq then none else row.bytes := by
  unfold tombstoned; split <;> rfl

/-- A redacted row is committed to its payload as before, since it keeps the hash. -/
theorem tombstoned_committed (committed : row.Committed lib) :
    (tombstoned seq tsMs reason row).Committed lib := by
  unfold tombstoned
  split
  · exact ⟨rfl, by rintro _ ⟨⟩⟩
  · exact committed

end Kept

/-- A sound table stays sound after a redaction. -/
theorem SoundRows.tombstone {rows : List Row} (sound : SoundRows lib genesis rows) (seq : Int)
    (tsMs : Int64) (reason : String) :
    SoundRows lib genesis (rows.map (tombstoned seq tsMs reason)) where
  positions index row found := by
    rw [List.getElem?_map] at found
    obtain ⟨held, here, rfl⟩ := Option.map_eq_some_iff.mp found
    rw [tombstoned_seq]
    exact sound.positions index held here
  linked := by
    refine (linked_map rows).mpr ?_
    have previous : Row.prevHash ∘ tombstoned seq tsMs reason = Row.prevHash := by
      funext row
      exact tombstoned_prevHash seq tsMs reason row
    have digest : Row.hash ∘ tombstoned seq tsMs reason = Row.hash := by
      funext row
      exact tombstoned_hash seq tsMs reason row
    rw [previous, digest]
    exact sound.linked
  hashed row member := by
    obtain ⟨held, inside, rfl⟩ := List.mem_map.mp member
    rw [tombstoned_hashInput, tombstoned_hash, tombstoned_seq]
    exact sound.hashed held inside
  committed row member := by
    obtain ⟨held, inside, rfl⟩ := List.mem_map.mp member
    exact tombstoned_committed seq tsMs reason held (sound.committed held inside)

/-- A nulled payload leaves the chain and its head as they were. -/
theorem Headed.tombstone (headed : Headed lib genesis db) (seq : Int) (tsMs : Int64)
    (reason : String) : Headed lib genesis (db.tombstone seq tsMs reason) where
  rows := headed.rows.tombstone seq tsMs reason
  head := by
    have digest : Row.hash ∘ tombstoned seq tsMs reason = Row.hash := by
      funext row
      exact tombstoned_hash seq tsMs reason row
    rw [events_tombstone, List.length_map, tipDigest_map, digest]
    exact headed.head

/-- A redaction keeps naming what it names while another row is nulled. -/
theorem Row.Covers.tombstoned {row : Row} {covered : Nat} (covers : row.Covers lib covered)
    {seq : Int} (tsMs : Int64) (reason : String) (other : row.seq ≠ seq) :
    (tombstoned seq tsMs reason row).Covers lib covered := by
  rw [Ledger.tombstoned, if_neg other]
  exact covers

/-- The explanation a redaction appends names the row it nulls. -/
theorem covers_redactionEvent {seq : Nat} (within : seq < 2 ^ 63) {reason : String} {tsMs : Int64}
    {canonical : String} (written : canonicalJson (redactionEvent seq reason tsMs).payload =
      .ok canonical) (position : Nat) (prevHash : String) (idemKey : Option String) :
    (chainedRow lib (redactionEvent seq reason tsMs) position prevHash canonical
      idemKey).Covers lib seq := by
  refine ⟨rfl, utf8 canonical, bytes_chainedRow position prevHash canonical idemKey, ?_⟩
  have sorted : sortedValue (redactionEvent seq reason tsMs).payload =
      .ofFields [("reason", .string reason), ("redacted_seq", .ofInt seq)] := rfl
  have shallow : (sortedValue (redactionEvent seq reason tsMs).payload).nesting = 1 := rfl
  have read := lib.fromSlice_canonical _ _ written (by rw [shallow]; decide)
  have named : (Value.ofFields [("reason", .string reason), ("redacted_seq", .ofInt seq)]).get
      "redacted_seq" = some (.ofInt seq) := rfl
  simp only [redactedSeq, read, sorted, Option.bind_eq_bind, Option.bind_some, named,
    Value.asU64_ofInt (by omega : seq < 2 ^ 64)]

/-- Nulling a payload and appending the row that explains it leaves no null unexplained. -/
theorem Explained.redact {rows : List Row} (sound : SoundRows lib genesis rows)
    (explained : Explained lib rows) {seq : Nat} {tsMs : Int64} {reason : String} {row last : Row}
    (found : row ∈ rows) (position : row.seq = seq)
    (redactable : row.kind ≠ EventKind.payloadRedacted.asStr) (covers : last.Covers lib seq)
    (present : last.bytes ≠ none) :
    Explained lib (rows.map (tombstoned seq tsMs reason) ++ [last]) := by
  intro before held after split gone
  cases after using List.reverseRecOn with
  | nil =>
      obtain ⟨_, same⟩ := List.append_inj' split rfl
      obtain rfl := (List.cons.inj same).1
      exact absurd gone present
  | append_singleton after final =>
      rw [← List.cons_append, ← List.append_assoc] at split
      obtain ⟨earlier, same⟩ := List.append_inj' split rfl
      obtain rfl := (List.cons.inj same).1
      obtain ⟨before', tail, rfl, rfl, rest⟩ := List.map_eq_append_iff.mp earlier
      obtain ⟨held', after', rfl, rfl, rfl⟩ := List.map_eq_cons_iff.mp rest
      rw [tombstoned_bytes] at gone
      rw [tombstoned_seq]
      by_cases here : held'.seq = seq
      · refine ⟨last, List.mem_append_right _ (List.mem_singleton_self last), ?_⟩
        rw [here]
        exact covers
      · rw [if_neg here] at gone
        obtain ⟨later, member, explains⟩ := explained before' held' after' rfl gone
        refine ⟨tombstoned seq tsMs reason later,
          List.mem_append_left _ (List.mem_map_of_mem member), ?_⟩
        refine explains.tombstoned tsMs reason fun same => redactable ?_
        -- positions are unique, so a redaction at the nulled position would be the nulled row
        have inside : later ∈ before' ++ held' :: after' :=
          List.mem_append_right _ (List.mem_cons_of_mem _ member)
        obtain ⟨index, standsAt, place⟩ := sound.index inside
        obtain ⟨index', at', place'⟩ := sound.index found
        have indices : index = index' := by omega
        rw [indices, at'] at standsAt
        rw [Option.some.inj standsAt]
        exact explains.1

end Tombstones

section Changes

variable {lib : Libraries} {genesis : String} {db : Db}

/-- The row that is found at a position is one of the table's. -/
theorem mem_of_rowAt {seq : Int} {row : Row} (found : db.rowAt seq = some row) :
    row ∈ db.events ∧ row.seq = seq :=
  ⟨List.mem_of_find?_eq_some found, by simpa using List.find?_some found⟩

/-- The rows of a changed table: the old ones, one perhaps nulled, and a new last one. -/
theorem Change.events {event : NewEvent} {idemKey : Option String} {appended : Appended}
    {changed : Db} (change : Change lib genesis db event idemKey appended changed) :
    ∃ base canonical, Prepared db event base ∧ canonicalJson event.payload = .ok canonical ∧
      changed.events = base.events ++ [nextRow lib genesis base event canonical idemKey] := by
  obtain ⟨base, grown, gaps, prepared, grows, rfl⟩ := change.made
  obtain ⟨canonical, written, _, _, rfl⟩ := grows.row
  exact ⟨base, canonical, prepared, written, rfl⟩

/-- **A change keeps the table consistent.** -/
theorem Change.consistent {event : NewEvent} {idemKey : Option String} {appended : Appended}
    {changed : Db} (change : Change lib genesis db event idemKey appended changed)
    (consistent : Consistent lib genesis db) : Consistent lib genesis changed := by
  obtain ⟨base, grown, gaps, prepared, grows, rfl⟩ := change.made
  suffices grownConsistent : Consistent lib genesis grown by
    have named := Intact.head grownConsistent
    exact ⟨grownConsistent.rows, grownConsistent.explained, grownConsistent.witnessed, named⟩
  cases prepared with
  | plain => exact grows.consistent consistent
  | @tombstone seq reason tsMs row within found present redactable explains =>
      obtain ⟨canonical, written, _, _, rfl⟩ := grows.row
      subst explains
      obtain ⟨member, position⟩ := mem_of_rowAt found
      have sound := consistent.rows.tombstone seq tsMs reason
      refine ⟨SoundRows.nextRow sound canonical idemKey, ?_, ?_, ?_⟩
      · exact consistent.explained.redact consistent.rows member position redactable
          (covers_redactionEvent within written _ _ _)
            (by rw [nextRow, bytes_chainedRow]; exact Option.some_ne_none _)
      · intro gap none
        cases none
      · simp only [Db.extend, tipDigest_concat, List.length_append, List.length_singleton]
        rfl

/-- A change adds exactly one row and leaves the head at it. -/
theorem Change.head {event : NewEvent} {idemKey : Option String} {appended : Appended}
    {changed : Db} (change : Change lib genesis db event idemKey appended changed) :
    changed.chainHead = some ((appended.seq : Int), appended.hash) ∧
      appended.seq = db.events.length + 1 ∧ changed.events.length = db.events.length + 1 := by
  obtain ⟨base, grown, gaps, prepared, grows, rfl⟩ := change.made
  obtain ⟨named, seq, length⟩ := grows.head
  have same : base.events.length = db.events.length := by
    cases prepared with
    | plain => rfl
    | tombstone => rw [events_tombstone, List.length_map]
  exact ⟨named, by omega, length.trans (by omega)⟩

/-- A row as it was, or with its payload nulled. No call of the ledger does more to a row that is
there. -/
def Kept (row held : Row) : Prop :=
  held = row ∨ ∃ tsMs reason,
    held = { row with payload := .null, redactedAt := some tsMs, redactionReason := some reason }

/-- A table whose rows were only added to, or nulled. -/
def Evolves (before after : Db) : Prop :=
  ∃ kept added, after.events = kept ++ added ∧ List.Forall₂ Kept before.events kept

theorem Kept.refl (row : Row) : Kept row row := .inl rfl

/-- What two redactions each keep of a row, they keep together. -/
theorem Kept.trans {first second third : Row} (earlier : Kept first second)
    (later : Kept second third) : Kept first third := by
  rcases earlier with rfl | ⟨tsMs, reason, rfl⟩
  · exact later
  · rcases later with rfl | ⟨tsMs', reason', rfl⟩
    · exact .inr ⟨tsMs, reason, rfl⟩
    · exact .inr ⟨tsMs', reason', rfl⟩

/-- A kept row that still has a payload is the row as it was. -/
theorem Kept.eq_of_present {row held : Row} (kept : Kept row held)
    (present : held.payload ≠ .null) :
    held = row := by
  rcases kept with rfl | ⟨_, _, rfl⟩
  · rfl
  · exact absurd rfl present

/-- A redaction keeps a row but for its payload. -/
theorem Kept.tombstoned (seq : Int) (tsMs : Int64) (reason : String) (row : Row) :
    Kept row (tombstoned seq tsMs reason row) := by
  unfold Ledger.tombstoned
  split
  · exact .inr ⟨tsMs, reason, rfl⟩
  · exact .inl rfl

section Fields

variable {row held : Row} (kept : Kept row held)

include kept

theorem Kept.seq : held.seq = row.seq := by
  rcases kept with rfl | ⟨_, _, rfl⟩ <;> rfl

theorem Kept.kind : held.kind = row.kind := by
  rcases kept with rfl | ⟨_, _, rfl⟩ <;> rfl

theorem Kept.hash : held.hash = row.hash := by
  rcases kept with rfl | ⟨_, _, rfl⟩ <;> rfl

theorem Kept.idemKey : held.idemKey = row.idemKey := by
  rcases kept with rfl | ⟨_, _, rfl⟩ <;> rfl

theorem Kept.agentId : held.agentId = row.agentId := by
  rcases kept with rfl | ⟨_, _, rfl⟩ <;> rfl

theorem Kept.tsMs : held.tsMs = row.tsMs := by
  rcases kept with rfl | ⟨_, _, rfl⟩ <;> rfl

end Fields

theorem Evolves.refl (db : Db) : Evolves db db :=
  ⟨db.events, [], (List.append_nil _).symm, List.forall₂_same.mpr fun row _ => .refl row⟩

/-- What a ledger evolves to over two runs it evolves to over both. -/
theorem Evolves.trans {first second third : Db} (earlier : Evolves first second)
    (later : Evolves second third) : Evolves first third := by
  obtain ⟨kept, added, same, keeps⟩ := earlier
  obtain ⟨kept', added', same', keeps'⟩ := later
  rw [same] at keeps'
  have older := List.forall₂_take kept.length keeps'
  rw [List.take_left] at older
  refine ⟨kept'.take kept.length, kept'.drop kept.length ++ added', ?_,
    forall₂_compose (fun _ _ _ earlier later => earlier.trans later) keeps older⟩
  rw [same', ← List.append_assoc, List.take_append_drop]

/-- A row of the earlier table is kept in the later one. -/
theorem Evolves.row {before after : Db} (evolves : Evolves before after) {row : Row}
    (member : row ∈ before.events) : ∃ held ∈ after.events, Kept row held := by
  obtain ⟨kept, added, same, keeps⟩ := evolves
  obtain ⟨held, inside, keep⟩ := forall₂_left_of_right (List.Forall₂.flip keeps) member
  exact ⟨held, same ▸ List.mem_append_left _ inside, keep⟩

/-- A change adds rows and nulls payloads, and nothing else. -/
theorem Change.evolves {event : NewEvent} {idemKey : Option String} {appended : Appended}
    {changed : Db} (change : Change lib genesis db event idemKey appended changed) :
    Evolves db changed := by
  obtain ⟨base, canonical, prepared, _, same⟩ := change.events
  refine ⟨base.events, _, same, ?_⟩
  cases prepared with
  | plain => exact List.forall₂_same.mpr fun row _ => .refl row
  | @tombstone seq reason tsMs row =>
      rw [events_tombstone, List.forall₂_map_right_iff]
      exact List.forall₂_same.mpr fun row _ => Kept.tombstoned seq tsMs reason row

/-- A change leaves the file bound to its network. -/
theorem Change.network {event : NewEvent} {idemKey : Option String} {appended : Appended}
    {changed : Db} (change : Change lib genesis db event idemKey appended changed) :
    changed.network = db.network := by
  obtain ⟨base, grown, gaps, prepared, grows, rfl⟩ := change.made
  refine grows.network.trans ?_
  cases prepared with
  | plain => rfl
  | tombstone => rfl

/-- The digest of a prefix does not depend on the payloads beside it. -/
theorem tipDigest_take_kept {rows kept added : List Row} (keeps : List.Forall₂ Kept rows kept)
    {position : Nat} (within : position ≤ rows.length) :
    tipDigest Row.hash genesis ((kept ++ added).take position) =
      tipDigest Row.hash genesis (rows.take position) := by
  have hashes : rows.map Row.hash = kept.map Row.hash := by
    rw [← List.forall₂_eq_eq_eq, List.forall₂_map_left_iff, List.forall₂_map_right_iff]
    exact keeps.imp fun _ _ kept => kept.hash.symm
  rw [List.take_append_of_le_length (keeps.length_eq ▸ within)]
  have digest (rows : List Row) :
      tipDigest Row.hash genesis rows = tipDigest id genesis (rows.map Row.hash) :=
    (tipDigest_map Row.hash id genesis rows).symm
  rw [digest, digest, List.map_take, List.map_take, hashes]

/-- What a transaction does to the tables, and what it answers. -/
theorem transact_cases {handle : Handle} {α ε : Type} (publish : Bool)
    (lift : LedgerError → ε) (store : Store)
    (body : Except ε (Committed α)) :
    (∃ error, body = .error error ∧
      transact handle publish lift store body = (.error error, store)) ∨
    ∃ done, body = .ok done ∧ (transact handle publish lift store body).2.db = done.db ∧
      ((transact handle publish lift store body).1 = .ok done.value ∨
        handle.anchored = true ∧ publish = false ∧
          (transact handle publish lift store body).1 = .error (lift .io)) := by
  cases body with
  | error error => exact .inl ⟨error, rfl, rfl⟩
  | ok done =>
      obtain ⟨value, db, noted⟩ := done
      refine .inr ⟨_, rfl, ?_⟩
      cases noted with
      | none => exact ⟨rfl, .inl rfl⟩
      | some appended =>
          cases anchored : handle.anchored <;> cases publish <;>
            simp [transact, noteHead, anchored]

/-- A transaction whose body writes nothing, or one change it notes, moves the store so. -/
theorem moves_transact {handle : Handle} {publish : Bool} {α ε : Type} (lift : LedgerError → ε)
    {allowed : NewEvent → Option String → Prop} {store : Store} {body : Except ε (Committed α)}
    (spec : ∀ done, body = .ok done → done.noted = none ∧ done.db = store.db ∨
      ∃ event idemKey appended, done.noted = some appended ∧ allowed event idemKey ∧
        Change lib (handle.genesis lib) store.db event idemKey appended done.db) :
    Moves lib handle publish lift allowed store (transact handle publish lift store body).1
      (transact handle publish lift store body).2 := by
  cases body with
  | error error => exact .refused error
  | ok done =>
      obtain ⟨value, db, noted⟩ := done
      rcases spec _ rfl with ⟨unnoted, same⟩ | ⟨event, idemKey, appended, named, permitted, change⟩
      · change noted = none at unnoted
        change db = store.db at same
        subst unnoted same
        exact .idle value
      · change noted = some appended at named
        subst named
        cases anchored : handle.anchored with
        | false =>
            have moved := @Moves.published lib handle publish α ε lift _ store
              _ _ _ _ value permitted
              change (by rw [anchored]; exact nofun)
            simpa only [transact, noteHead, anchored, Bool.false_eq_true, if_false] using moved
        | true =>
            cases publish with
            | false =>
                have moved := @Moves.unpublished lib handle false α ε lift _ store _ _ _ _ permitted
                  change anchored rfl
                simpa only [transact, noteHead, anchored, Bool.false_eq_true, if_false, if_true]
                  using moved
            | true =>
                have moved := @Moves.published lib handle true α ε lift _ store
                  _ _ _ _ value permitted
                  change fun _ => rfl
                simpa only [transact, noteHead, anchored, if_true] using moved

/-- An unkeyed append onto a prepared table is a change. -/
theorem change_of_appendInTx {event : NewEvent} {base grown : Db} {appended : Appended}
    (prepared : Prepared db event base) (headed : Headed lib genesis base)
    (run : appendInTx lib base event = .ok (appended, grown)) (gaps : List GapRow) :
    Change lib genesis db event none appended { grown with feedGaps := gaps } :=
  ⟨⟨base, grown, gaps, prepared, appendInTx_ok headed run, rfl⟩, by rintro _ ⟨⟩⟩

end Changes

/-! ## The operations -/

/-- What the operations without a journal of their own append: unkeyed rows of the generic
kinds and order intents, with the caller's timestamp. -/
structure Generic (tsMs : Int64) (event : NewEvent) (idemKey : Option String) : Prop where
  keyless : idemKey = none
  stamped : event.tsMs = tsMs
  kind : refuseOneDoorKind event.kind = .ok () ∨ event.kind = .orderIntent

/-- What a redaction appends. -/
def Explains (seq : Nat) (reason : String) (tsMs : Int64) (event : NewEvent)
    (idemKey : Option String) : Prop :=
  idemKey = none ∧ event = redactionEvent seq reason tsMs

section Specifications

variable {lib : Libraries} {handle : Handle} {publish : Bool} {store : Store}

/-- The generic door lets no redaction pass. -/
theorem notRedaction_of_door {kind : EventKind} (door : refuseOneDoorKind kind = .ok ()) :
    kind ≠ .payloadRedacted := by
  rintro rfl
  cases door

/-- An append through the generic door commits its event, or nothing. -/
theorem moves_appendCommitted (consistent : Consistent lib (handle.genesis lib) store.db)
    (event : NewEvent) (door : refuseOneDoorKind event.kind = .ok ()) :
    Moves lib handle publish id (Generic event.tsMs) store
      (appendCommitted lib handle publish event store).1
      (appendCommitted lib handle publish event store).2 := by
  refine moves_transact id fun done run => ?_
  obtain ⟨⟨appended, grown⟩, append, run⟩ := bind_eq_ok run
  cases run
  exact .inr ⟨event, none, appended, rfl, ⟨rfl, rfl, .inl door⟩,
    change_of_appendInTx (.plain (notRedaction_of_door door)) consistent.headed append
      grown.feedGaps⟩

/-- An append commits its event, or nothing. -/
theorem moves_append (consistent : Consistent lib (handle.genesis lib) store.db)
    (event : NewEvent) :
    Moves lib handle publish id (Generic event.tsMs) store (append lib handle publish event store).1
      (append lib handle publish event store).2 := by
  unfold append
  cases door : refuseOneDoorKind event.kind with
  | error error => exact .refused error
  | ok done =>
      exact moves_appendCommitted consistent event door

/-- Recording an intent commits its event, or nothing. -/
theorem moves_recordIntent (consistent : Consistent lib (handle.genesis lib) store.db)
    (intent : NewIntent) :
    Moves lib handle publish id (Generic intent.tsMs) store
      (recordIntent lib handle publish intent store).1
      (recordIntent lib handle publish intent store).2 := by
  refine moves_transact id fun done run => ?_
  obtain ⟨⟨appended, grown⟩, append, run⟩ := bind_eq_ok run
  cases run
  exact .inr ⟨intentEvent intent, none, appended, rfl, ⟨rfl, rfl, .inr rfl⟩,
    change_of_appendInTx (.plain (by rintro ⟨⟩)) consistent.headed append grown.feedGaps⟩

/-- Recording an outcome commits its event, or nothing. -/
theorem moves_recordOutcome (consistent : Consistent lib (handle.genesis lib) store.db)
    (receipt : IntentReceipt) (kind : EventKind) (tsMs : Int64) (outcome : Value) :
    Moves lib handle publish id (Generic tsMs) store
      (recordOutcome lib handle publish receipt kind tsMs outcome store).1
      (recordOutcome lib handle publish receipt kind tsMs outcome store).2 := by
  refine moves_transact id fun done run => ?_
  obtain ⟨_, door, run⟩ := bind_eq_ok run
  obtain ⟨_, _, run⟩ := bind_eq_ok run
  obtain ⟨_, _, run⟩ := bind_eq_ok run
  split at run
  · cases run
  · obtain ⟨_, _, run⟩ := bind_eq_ok run
    obtain ⟨⟨appended, grown⟩, append, run⟩ := bind_eq_ok run
    cases run
    exact .inr ⟨_, none, appended, rfl, ⟨rfl, rfl, .inl door⟩,
      change_of_appendInTx (.plain (notRedaction_of_door door)) consistent.headed append
        grown.feedGaps⟩

/-- A redaction commits the row that explains it together with what it takes away, or nothing. -/
theorem moves_redact (consistent : Consistent lib (handle.genesis lib) store.db) (seq : Nat)
    (reason : String) (tsMs : Int64) :
    Moves lib handle publish id (Explains seq reason tsMs) store
      (redact lib handle publish seq reason tsMs store).1
      (redact lib handle publish seq reason tsMs store).2 := by
  refine moves_transact id fun done run => ?_
  obtain ⟨_, within, run⟩ := bind_eq_ok run
  split at run
  · cases run
  · rename_i row found
    obtain ⟨_, present, run⟩ := bind_eq_ok run
    obtain ⟨_, redactable, run⟩ := bind_eq_ok run
    obtain ⟨⟨appended, grown⟩, append, run⟩ := bind_eq_ok run
    cases run
    have change := change_of_appendInTx
      (.tombstone (Nat.not_le.mp (refuseIf_ok within)) found (refuseIf_ok present)
        (refuseIf_ok redactable) rfl)
      (consistent.headed.tombstone seq tsMs reason) append grown.feedGaps
    exact .inr ⟨_, none, appended, rfl, ⟨rfl, rfl⟩, change⟩

/-- Opening a gap commits its event, or nothing. -/
theorem moves_openGap (consistent : Consistent lib (handle.genesis lib) store.db)
    (scope : String) (tsMs : Int64) (note : Option String) :
    Moves lib handle publish id (Generic tsMs) store
      (openGap lib handle publish scope tsMs note store).1
      (openGap lib handle publish scope tsMs note store).2 := by
  refine moves_transact id fun done run => ?_
  split at run
  · obtain ⟨_, _, run⟩ := bind_eq_ok run
    cases run
    exact .inl ⟨rfl, rfl⟩
  · obtain ⟨⟨appended, grown⟩, append, run⟩ := bind_eq_ok run
    cases run
    exact .inr ⟨_, none, appended, rfl, ⟨rfl, rfl, .inl rfl⟩,
      change_of_appendInTx (.plain (by rintro ⟨⟩)) consistent.headed append _⟩

/-- Closing a gap commits its event, or nothing. -/
theorem moves_closeGap (consistent : Consistent lib (handle.genesis lib) store.db)
    (gapId : Int) (tsMs : Int64) :
    Moves lib handle publish id (Generic tsMs) store
      (closeGap lib handle publish gapId tsMs store).1
      (closeGap lib handle publish gapId tsMs store).2 := by
  refine moves_transact id fun done run => ?_
  split at run
  · cases run
  · obtain ⟨_, _, run⟩ := bind_eq_ok run
    obtain ⟨⟨appended, grown⟩, append, run⟩ := bind_eq_ok run
    cases run
    exact .inr ⟨_, none, appended, rfl, ⟨rfl, rfl, .inl rfl⟩,
      change_of_appendInTx (.plain (by rintro ⟨⟩)) consistent.headed append _⟩

end Specifications

end Oppen.Ledger
