import Oppen.Ledger.PolicyRelease
import Oppen.Ledger.Reservations

/-! # What the policy journal writes it reads back

The writer and the replay check a version in different code. A row the writer appends is
the next one the replay accepts, and what the replay reads of a table does not change while
other rows are added and other payloads are nulled.
-/

namespace Oppen.Ledger

open Foundation Oppen.Json Oppen.Guardrail

/-! ## Signed rows -/

/-- The hexadecimal text of 32 bytes is one. -/
theorem isHex64_hexEncode {bytes : List UInt8} (width : bytes.length = 32) :
    isHex64 (hexEncode bytes) = true := by
  have digit : ∀ value < 16, (Nat.digitChar value).isDigit ||
      ('a' ≤ Nat.digitChar value && Nat.digitChar value ≤ 'f') := by decide
  rw [isHex64, Bool.and_eq_true, decide_eq_true_eq, length_utf8_hexEncode, width]
  refine ⟨rfl, List.all_eq_true.mpr fun char member => ?_⟩
  rw [hexEncode, String.toList_ofList] at member
  obtain ⟨byte, _, inside⟩ := List.mem_flatMap.mp member
  have bound := byte.toNat_lt
  rcases List.mem_cons.mp inside with rfl | inside
  · exact digit _ (by omega)
  · obtain rfl := List.mem_singleton.mp inside
    exact digit _ (by omega)

section Rows

variable {dec : PolicyDecimals} {lib : Libraries} {network : Network} {key : HmacKey}
  {signed : SignedPolicy dec.Decimal} {canonical message : String}

/-- The text of a signed version is read back as that version. -/
theorem readSigned_written (fits : (SignedPolicy.codec dec).Fits signed)
    (written : canonicalJson ((SignedPolicy.codec dec).toValue signed) = .ok canonical)
    (covered : policyMessage signed.envelope = .ok message)
    (mac : signed.mac = hexEncode (key.tag (utf8 message))) :
    readSigned (some key) canonical (sortedValue ((SignedPolicy.codec dec).toValue signed)) =
      .ok signed := by
  have again : canonicalJson (sortedValue ((SignedPolicy.codec dec).toValue signed)) =
      .ok canonical := by
    rw [canonicalJson, sortedValue_idem]
    exact written
  have same : sameValue ((SignedPolicy.codec dec).toValue signed)
      (sortedValue ((SignedPolicy.codec dec).toValue signed)) = true := by
    rw [sameValue, sortedValue_idem]
    exact decide_eq_true rfl
  have hex : isHex64 signed.mac = true := mac ▸ isHex64_hexEncode (key.length_tag _)
  have bytes : hexDecode signed.mac.toList = some (key.tag (utf8 message)) :=
    mac ▸ hexDecode_hexEncode _
  have verified : key.verify (utf8 message) (key.tag (utf8 message)) = true := decide_eq_true rfl
  unfold readSigned
  simp only [again, mapError, bind, Except.bind, refuseIf, ne_eq, not_true_eq_false, if_false,
    (SignedPolicy.codec dec).ofValue_sorted fits, same, hex, bytes, covered, verified,
    Bool.true_eq_false]
  rfl

/-- A time that fits is kept by its stamp. -/
theorem toInt_timestamp {atMs : UInt64} (within : atMs.toNat < 2 ^ 63) :
    (Int64.ofNat atMs.toNat).toInt = atMs.toNat :=
  Int64.toInt_ofNat_of_lt within

/-- A time that could be stamped is kept by the stamp. -/
theorem policyTimestamp_ok {atMs : UInt64} {tsMs : Int64} (run : policyTimestamp atMs = .ok tsMs) :
    atMs.toNat < 2 ^ 63 ∧ tsMs = Int64.ofNat atMs.toNat := by
  unfold policyTimestamp at run
  split at run
  · cases run
  · rename_i within
    cases run
    exact ⟨Nat.not_le.mp within, rfl⟩

/-- **A signed version in its row is the next one the replay accepts**, when its operation
follows the versions before it. -/
theorem replayPolicyRow_written {before : PolicyReplay dec.Decimal} {releaseIds : List String}
    {tsMs : Int64} {seq : Nat} {prevHash : String} (fits : (SignedPolicy.codec dec).Fits signed)
    (written : canonicalJson ((SignedPolicy.codec dec).toValue signed) = .ok canonical)
    (covered : policyMessage signed.envelope = .ok message)
    (mac : signed.mac = hexEncode (key.tag (utf8 message)))
    (version : signed.envelope.version = 1) (owned : signed.envelope.network = network)
    (position : signed.envelope.seq = seq) (linked : signed.envelope.prevHash = prevHash)
    (stamped : policyTimestamp signed.envelope.atMs = .ok tsMs)
    (previous : signed.envelope.previousPolicy = before.latest.map PolicyEntry.link)
    (follows : checkOperation network before signed.envelope = .ok releaseIds)
    (valid : validateState signed.envelope.state signed.envelope.atMs = .ok ()) :
    replayPolicyRow lib network (some key) before
        (chainedRow lib (policyEvent tsMs signed) seq prevHash canonical
          (some (policyKey signed.envelope.previousPolicy))) =
      .ok ⟨some (signed.envelope.entry (chainedEvent lib (policyEvent tsMs signed) seq prevHash
        canonical)), releaseIds⟩ := by
  have read := @eventFromRow_chainedRow lib (policyEvent tsMs signed) canonical written
    signed.shallow seq prevHash (some (policyKey signed.envelope.previousPolicy))
  obtain ⟨within, rfl⟩ := policyTimestamp_ok stamped
  have belongs : EnvelopeOf network signed.envelope
      (chainedEvent lib (policyEvent (Int64.ofNat signed.envelope.atMs.toNat) signed) seq prevHash
        canonical) :=
    ⟨version, owned, position, linked, (toInt_timestamp within).symm, rfl, rfl, rfl, rfl⟩
  unfold replayPolicyRow
  rw [read]
  have parsed := readSigned_written fits written covered mac
  change (readSigned (some key) canonical
    (sortedValue ((SignedPolicy.codec dec).toValue signed)) >>= _) = _
  rw [parsed]
  have keyed : ¬ (chainedRow lib (policyEvent (Int64.ofNat signed.envelope.atMs.toNat) signed) seq
      prevHash canonical (some (policyKey signed.envelope.previousPolicy))).idemKey ≠
      some (policyKey (before.latest.map PolicyEntry.link)) := by
    rw [← previous]
    exact not_not.mpr rfl
  simp only [bind, Except.bind, stamped, belongs, not_true_eq_false, refuseIf, if_false,
    not_not.mpr previous, follows, keyed, valid, pure, Except.pure]

end Rows

/-! ## The writer -/

section Writing

variable {dec : PolicyDecimals} {journal : PolicyJournal dec} {db grown : Db}
  {previous : Option PolicyLink} {operation : PolicyOperation dec.Decimal}
  {state : PersistedState dec.Decimal} {atMs : UInt64}

/-- The envelope of the row after the last one. -/
def envelopeAt (journal : PolicyJournal dec) (db : Db) (previous : Option PolicyLink)
    (operation : PolicyOperation dec.Decimal) (state : PersistedState dec.Decimal)
    (atMs : UInt64) : PolicyEnvelope dec.Decimal :=
  nextEnvelope journal db.events.length
    (tipDigest Row.hash (journal.handle.genesis journal.lib) db.events)
    previous operation state atMs

/-- The version of that envelope and its MAC. -/
def signedAt (journal : PolicyJournal dec) (envelope : PolicyEnvelope dec.Decimal)
    (message : String) : SignedPolicy dec.Decimal :=
  ⟨envelope, hexEncode (journal.key.tag (utf8 message))⟩

/-- What an append that goes through writes. -/
structure Signs (journal : PolicyJournal dec) (db : Db) (previous : Option PolicyLink)
    (operation : PolicyOperation dec.Decimal) (state : PersistedState dec.Decimal)
    (atMs : UInt64) (version : PolicyVersion dec.Decimal) (appended : Appended) (grown : Db) :
    Prop where
  intro ::
  version : version = ⟨db.events.length + 1, state⟩
  fresh : ∀ held ∈ db.events, held.idemKey ≠ some (policyKey previous)
  row : ∃ message tsMs,
    policyMessage (envelopeAt journal db previous operation state atMs) = .ok message ∧
    policyTimestamp atMs = .ok tsMs ∧
    Grows journal.lib (journal.handle.genesis journal.lib) db
      (policyEvent tsMs
        (signedAt journal (envelopeAt journal db previous operation state atMs) message))
      (some (policyKey previous)) appended grown

/-- A version that was appended is signed over its own position and the head before it. -/
theorem appendPolicy_ok
    (consistent : Consistent journal.lib (journal.handle.genesis journal.lib) db)
    {version : PolicyVersion dec.Decimal} {appended : Appended}
    (run : appendPolicy journal db previous operation state atMs = .ok (version, appended, grown)) :
    Signs journal db previous operation state atMs version appended grown := by
  obtain ⟨⟨headSeq, prevHash⟩, found, run⟩ := bind_eq_ok run
  have head := mapError_eq_ok found
  rw [consistent.headed.head_eq] at head
  cases head
  obtain ⟨_, _, run⟩ := bind_eq_ok run
  obtain ⟨message, covered, run⟩ := bind_eq_ok run
  obtain ⟨tsMs, stamped, run⟩ := bind_eq_ok run
  obtain ⟨⟨row, changed⟩, append, run⟩ := bind_eq_ok run
  rcases appendKeyedInTx_ok consistent.headed (mapError_eq_ok append) with
    ⟨row, rfl, grows, fresh⟩ | ⟨rfl, _, _⟩
  · cases run
    exact ⟨rfl, fresh, message, tsMs, mapError_eq_ok covered, stamped, grows⟩
  · cases run

/-- An operation's row is that of an initialization or a replacement. -/
theorem kind_isPolicy (operation : PolicyOperation dec.Decimal) :
    operation.kind = .policyInitialized ∨ operation.kind = .policyReplaced := by
  cases operation with
  | policyInitialized review recheckedAtMs => exact .inl rfl
  | policyReplaced => exact .inr rfl
  | killReleased request => exact .inr rfl

/-- A row of an operation's kind is one of the policy's. -/
theorem Row.isPolicy_of_kind {row : Row} (operation : PolicyOperation dec.Decimal)
    (kind : row.kind = operation.kind.asStr) : row.isPolicy = true := by
  rw [isPolicy, kind]
  rcases kind_isPolicy operation with same | same <;> rw [same] <;> rfl

/-- **The replay accepts the row of an append** whose operation follows the versions before
it. -/
theorem Signs.replays {version : PolicyVersion dec.Decimal} {appended : Appended}
    (signs : Signs journal db previous operation state atMs version appended grown)
    {before : PolicyReplay dec.Decimal} {releaseIds : List String}
    (read : policyRows journal (some journal.key) db = .ok before)
    (latest : previous = before.latest.map PolicyEntry.link)
    (bounded : ∀ entry ∈ before.latest, entry.version.revision ≤ db.events.length)
    (fits : operation.Fits)
    (follows : checkOperation journal.handle.network before
      (envelopeAt journal db previous operation state atMs) = .ok releaseIds)
    (valid : validateState state atMs = .ok ()) :
    policyRows journal (some journal.key) grown =
      .ok ⟨some ⟨version, appended.hash, previous, operation⟩, releaseIds⟩ := by
  obtain ⟨message, tsMs, covered, stamped, grows⟩ := signs.row
  obtain ⟨canonical, written, small, rfl, rfl⟩ := grows.row
  have readable : (SignedPolicy.codec dec).Fits
      (signedAt journal (envelopeAt journal db previous operation state atMs) message) := by
    refine SignedPolicy.fits _ (by decide : 1 < 2 ^ 64) ?_ ?_ fits
    · change db.events.length + 1 < 2 ^ 64
      omega
    · intro link held
      change link ∈ previous at held
      rw [latest] at held
      obtain ⟨entry, here, rfl⟩ := Option.mem_map.mp held
      have within := bounded entry here
      change entry.version.revision < 2 ^ 64
      omega
  have accepted := @replayPolicyRow_written dec journal.lib journal.handle.network journal.key
    (signedAt journal (envelopeAt journal db previous operation state atMs) message) canonical
    message before releaseIds tsMs (db.events.length + 1)
    (tipDigest Row.hash (journal.handle.genesis journal.lib) db.events) readable written covered rfl
    rfl rfl rfl rfl stamped latest follows valid
  have policy : (nextRow journal.lib (journal.handle.genesis journal.lib) db
      (policyEvent tsMs
        (signedAt journal (envelopeAt journal db previous operation state atMs) message))
      canonical (some (policyKey previous))).isPolicy = true :=
    Row.isPolicy_of_kind operation rfl
  rw [policyRows, Db.extend, List.filter_append, List.filter_cons_of_pos policy, List.filter_nil]
  refine foldlM_concat_ok_iff.mpr ⟨before, read, ?_⟩
  rw [signs.version]
  exact accepted

/-- Signing a version is one change of the ledger, under its key. -/
theorem Signs.change {version : PolicyVersion dec.Decimal} {appended : Appended}
    (signs : Signs journal db previous operation state atMs version appended grown) :
    ∃ event, event.kind = operation.kind ∧
      Change journal.lib (journal.handle.genesis journal.lib) db event (some (policyKey previous))
        appended grown := by
  obtain ⟨message, tsMs, _, _, grows⟩ := signs.row
  refine ⟨_, rfl, grows.change ?_ signs.fresh⟩
  change operation.kind ≠ .payloadRedacted
  rcases kind_isPolicy operation with same | same <;> rw [same] <;> exact nofun

end Writing

/-! ## The rest of the table -/

/-- A change that redacts no wanted row keeps them all, and adds its own if it is one. -/
theorem Change.keepsRows {lib : Libraries} {genesis : String} {db changed : Db} {event : NewEvent}
    {idemKey : Option String} {appended : Appended} {wanted : Row → Bool}
    (change : Change lib genesis db event idemKey appended changed)
    (sound : SoundRows lib genesis db.events)
    (byKind : ∀ row held : Row, held.kind = row.kind → wanted held = wanted row)
    (spared : ∀ seq reason tsMs row, event = redactionEvent seq reason tsMs →
      db.rowAt (seq : Nat) = some row → wanted row = false) :
    ∃ row : Row, row.kind = event.kind.asStr ∧
      changed.events.filter wanted = db.events.filter wanted ++ [row].filter wanted := by
  obtain ⟨base, canonical, prepared, _, same⟩ := change.events
  refine ⟨nextRow lib genesis base event canonical idemKey, rfl, ?_⟩
  rw [same, List.filter_append]
  congr 1
  cases prepared with
  | plain => rfl
  | @tombstone seq reason tsMs nulled within found present redactable explains =>
      have hidden := spared seq reason tsMs nulled explains found
      obtain ⟨inside, position⟩ := mem_of_rowAt found
      have kinds : wanted ∘ tombstoned seq tsMs reason = wanted :=
        funext fun row => byKind row _ (tombstoned_kind seq tsMs reason row)
      rw [events_tombstone, List.filter_map, kinds]
      refine (List.map_congr_left fun row member => ?_).trans (List.map_id _)
      obtain ⟨held, shown⟩ := List.mem_filter.mp member
      refine if_neg fun here => ?_
      rw [sound.eq_of_seq held inside (here.trans position.symm), hidden] at shown
      cases shown

/-- Whether a row is of the policy depends on its kind only. -/
theorem isPolicy_of_kind_eq (row held : Row) (same : held.kind = row.kind) :
    held.isPolicy = row.isPolicy := by
  rw [Row.isPolicy, same, Row.isPolicy]

/-! ## What the transactions commit -/

section Transactions

variable {dec : PolicyDecimals} {journal : PolicyJournal dec} {store : Store}
  {before : PolicyReplay dec.Decimal}

/-- A replay that succeeds is the latest of the versions that were read. -/
theorem replayPolicy_ok {latest : Option (PolicyEntry dec.Decimal)}
    (run : replayPolicy journal store = .ok latest) :
    ∃ before, policyRows journal (some journal.key) store.db = .ok before ∧
      before.latest = latest := by
  obtain ⟨_, _, run⟩ := bind_eq_ok run
  split at run
  · cases run
  · obtain ⟨_, _, run⟩ := bind_eq_ok run
    obtain ⟨_, _, run⟩ := bind_eq_ok run
    obtain ⟨before, read, run⟩ := bind_eq_ok run
    cases run
    exact ⟨before, read, rfl⟩

/-- A replay that goes through inside a transaction is the replay of the table. -/
theorem latest_of_replay (read : policyRows journal (some journal.key) store.db = .ok before)
    {latest : Option (PolicyEntry dec.Decimal)} (run : replayPolicy journal store = .ok latest) :
    before.latest = latest := by
  obtain ⟨before', read', same⟩ := replayPolicy_ok run
  rw [read] at read'
  cases read'
  exact same

/-- The head of a table, as it is published. -/
def headOf (journal : PolicyJournal dec) (db : Db) : Appended :=
  ⟨db.events.length, tipDigest Row.hash (journal.handle.genesis journal.lib) db.events⟩

variable (consistent : Consistent journal.lib (journal.handle.genesis journal.lib) store.db)
  (read : policyRows journal (some journal.key) store.db = .ok before)

include consistent

/-- A version that was published without a write leaves the tables as they were. -/
theorem publishedHead_ok {version : PolicyVersion dec.Decimal}
    {done : Committed (PolicyVersion dec.Decimal)} (run : publishedHead store version = .ok done) :
    done = ⟨version, store.db, some (headOf journal store.db)⟩ := by
  obtain ⟨⟨seq, hash⟩, found, run⟩ := bind_eq_ok run
  have head := mapError_eq_ok found
  rw [consistent.headed.head_eq] at head
  cases head
  cases run
  rfl

/-- A version that was committed was signed, and the store holds its row. -/
theorem committedPolicy_ok {previous : Option PolicyLink} {operation : PolicyOperation dec.Decimal}
    {state : PersistedState dec.Decimal} {atMs : UInt64}
    {done : Committed (PolicyVersion dec.Decimal)}
    (run : committedPolicy journal store previous operation state atMs = .ok done) :
    ∃ appended, done.noted = some appended ∧
      Signs journal store.db previous operation state atMs done.value appended done.db := by
  obtain ⟨⟨version, appended, grown⟩, append, run⟩ := bind_eq_ok run
  cases run
  exact ⟨appended, rfl, appendPolicy_ok consistent append⟩

include read

/-- What a committed initialisation did: it found its own version, or added the first. -/
theorem initializeBody_ok {review : LegacyPolicyReview} {next : PersistedState dec.Decimal}
    {atMs : UInt64} {route : Option AuthorizedRoute} {done : Committed (PolicyVersion dec.Decimal)}
    (run : initializeBody journal review next atMs route store = .ok done) :
    (∃ current, before.latest = some current ∧
      done = ⟨current.version, store.db, some (headOf journal store.db)⟩) ∨
    before.latest = none ∧ next.kill.global.isSome = true ∧ validateState next atMs = .ok () ∧
      checkOperation journal.handle.network before
        (envelopeAt journal store.db none (.policyInitialized review.evidence atMs) next atMs) =
          .ok before.releaseIds ∧
      ∃ appended, done.noted = some appended ∧
        Signs journal store.db none (.policyInitialized review.evidence atMs) next atMs done.value
          appended done.db := by
  obtain ⟨_, valid, run⟩ := bind_eq_ok run
  obtain ⟨_, paused, run⟩ := bind_eq_ok run
  obtain ⟨_, reviewed, run⟩ := bind_eq_ok run
  obtain ⟨_, _, run⟩ := bind_eq_ok run
  obtain ⟨latest, replayed, run⟩ := bind_eq_ok run
  have here := latest_of_replay read replayed
  cases latest with
  | some current =>
      refine .inl ⟨current, here, ?_⟩
      change (if current.InitializedBy review.evidence next then _ else _) = _ at run
      split at run
      · exact publishedHead_ok consistent run
      · cases run
  | none =>
      obtain ⟨fresh, rechecked, run⟩ := bind_eq_ok run
      obtain ⟨_, opened, rechecked⟩ := bind_eq_ok (mapError_eq_ok rechecked)
      obtain ⟨_, _, rechecked⟩ := bind_eq_ok rechecked
      obtain ⟨_, _, opened⟩ := bind_eq_ok opened
      cases rechecked
      cases opened
      obtain ⟨appended, noted, signs⟩ := committedPolicy_ok consistent run
      have engaged : next.kill.global.isSome = true := by
        have pause := refuseIf_ok paused
        rwa [Bool.not_eq_true, Option.isNone_eq_false_iff] at pause
      refine .inr ⟨here, engaged, valid, ?_, appended, noted, signs⟩
      rw [checkOperation]
      simp only [envelopeAt, nextEnvelope, here, reviewed, paused, bind, Except.bind, pure,
        Except.pure]

/-- What a committed replacement did: it found the state already there, or added it to the
version it named. -/
theorem replaceBody_ok {expectedRevision : Nat} {next : PersistedState dec.Decimal}
    {atMs : UInt64} {route : Option AuthorizedRoute} {done : Committed (PolicyVersion dec.Decimal)}
    (run : replaceBody journal expectedRevision next atMs route store = .ok done) :
    ∃ current, before.latest = some current ∧
      (current.version.state.Same dec next ∧
          done = ⟨current.version, store.db, some (headOf journal store.db)⟩ ∨
        current.version.revision = expectedRevision ∧ ¬ current.version.state.Same dec next ∧
          validateState next atMs = .ok () ∧
          ∃ appended, done.noted = some appended ∧
            Signs journal store.db (some current.link) .policyReplaced next atMs done.value appended
              done.db) := by
  obtain ⟨_, valid, run⟩ := bind_eq_ok run
  obtain ⟨_, _, run⟩ := bind_eq_ok run
  obtain ⟨latest, replayed, run⟩ := bind_eq_ok run
  have here := latest_of_replay read replayed
  cases latest with
  | none => cases run
  | some current =>
      refine ⟨current, here, ?_⟩
      obtain ⟨_, compared, run⟩ := bind_eq_ok run
      have upToDate := refuseIf_ok compared
      rw [not_and_not_right] at upToDate
      split at run
      · rename_i settled
        refine .inl ⟨?_, publishedHead_ok consistent run⟩
        rcases settled with retry | same
        · exact retry.2.2
        · exact same
      · rename_i moves
        rw [not_or] at moves
        obtain ⟨appended, noted, signs⟩ := committedPolicy_ok consistent run
        refine .inr ⟨?_, moves.2, valid, appended, noted, signs⟩
        by_contra other
        exact moves.1 (upToDate other)

/-- What a committed release did: it added the released state to the version and at the head
it was reviewed at. -/
theorem releaseBody_ok {request : ReleaseRequest dec.Decimal}
    {gate : Except KillReleaseError UInt64}
    {done : Committed (PolicyVersion dec.Decimal × Appended × UInt64)}
    (run : releaseBody journal request gate store = .ok done) :
    ∃ current atMs appended version, before.latest = some current ∧
      request.head = ⟨store.db.events.length,
        tipDigest Row.hash (journal.handle.genesis journal.lib) store.db.events⟩ ∧
      validateState request.released atMs = .ok () ∧
      validateTransition request current.version (envelopeAt journal store.db (some current.link)
        (.killReleased request) request.released atMs) = .ok () ∧
      done = ⟨(version, appended, atMs), done.db, some appended⟩ ∧
      Signs journal store.db (some current.link) (.killReleased request) request.released atMs
        version appended done.db := by
  obtain ⟨observed, found, run⟩ := bind_eq_ok run
  obtain ⟨_, checked, run⟩ := bind_eq_ok run
  obtain ⟨latest, replayed, run⟩ := bind_eq_ok run
  have here := latest_of_replay read (mapError_eq_ok replayed)
  have head : request.head = ⟨store.db.events.length,
      tipDigest Row.hash (journal.handle.genesis journal.lib) store.db.events⟩ := by
    have unchanged := refuseIf_ok (mapError_eq_ok checked)
    rw [not_or, not_not] at unchanged
    obtain ⟨version, _, found⟩ := bind_eq_ok (mapError_eq_ok found)
    obtain ⟨routes, _, found⟩ := bind_eq_ok found
    obtain ⟨_, _, found⟩ := bind_eq_ok found
    obtain ⟨agents, _, found⟩ := bind_eq_ok found
    obtain ⟨affected, _, found⟩ := bind_eq_ok found
    obtain ⟨⟨seq, hash⟩, tip, found⟩ := bind_eq_ok found
    have tip := mapError_eq_ok tip
    rw [consistent.headed.head_eq] at tip
    cases tip
    cases found
    exact unchanged.1.symm
  cases latest with
  | none => cases run
  | some current =>
      obtain ⟨atMs, _, run⟩ := bind_eq_ok run
      obtain ⟨_, valid, run⟩ := bind_eq_ok run
      obtain ⟨_, _, run⟩ := bind_eq_ok run
      obtain ⟨_, correlated, run⟩ := bind_eq_ok run
      obtain ⟨⟨version, appended, grown⟩, append, run⟩ := bind_eq_ok run
      cases run
      rw [head] at correlated
      exact ⟨current, atMs, appended, version, here, head, mapError_eq_ok valid,
        mapError_eq_ok correlated, rfl, appendPolicy_ok consistent (mapError_eq_ok append)⟩

end Transactions

end Oppen.Ledger
