import Oppen.Ledger.PolicyReplay
import Oppen.Ledger.Settlement

/-! # Authority rows

The registry and the pairing journal keep what an operator granted in rows of one shape: a
signed envelope that names its own place in the chain. What one writes and the other reads
is said once for both.
-/

namespace Oppen.Ledger

open Foundation Oppen.Json Oppen.Guardrail

inductive AuthorityError where
  | ledger (error : LedgerError)
  | unavailable (detail : String)
  deriving DecidableEq

structure AuthorityEnvelope (A : Type) where
  version : Nat
  network : Network
  seq : Nat
  prevHash : String
  atMs : UInt64
  authority : A

structure SignedAuthority (A : Type) where
  envelope : AuthorityEnvelope A
  mac : String

/-- What tells the rows of one journal from those of another: what they authorise, and the
texts of its errors. One that compares payloads exactly has a text for those that differ. -/
structure AuthorityFormat (A : Type) where
  domain : String
  codec : Codec A
  shallow : codec.depth ≤ 8
  kind : A → EventKind
  kinds : List EventKind
  mem_kinds : ∀ authority, kind authority ∈ kinds
  journaled : ∀ kind ∈ kinds, otherJournal kind = true
  outOfRange : String
  unanchored : String
  anchorless : String
  broken : String
  redacted : String
  malformed : String
  inexact : Option String
  badMac : String
  undecodable : String
  mismatch : String
  misplaced : String

section Authority

variable {A G : Type} (format : AuthorityFormat A)

def AuthorityEnvelope.codec : Codec (AuthorityEnvelope A) :=
  (Codec.record true (.required "version" .natural <| .required "network" Network.codec <|
    .required "seq" .natural <| .required "prev_hash" .text <| .required "at_ms" .u64 <|
    .required "authority" format.codec .nil) (by decide)).as
    (fun envelope => (envelope.version, envelope.network, envelope.seq, envelope.prevHash,
      envelope.atMs, envelope.authority, ()))
    (fun (version, network, seq, prevHash, atMs, authority, _) =>
      ⟨version, network, seq, prevHash, atMs, authority⟩)
    fun _ => rfl

def SignedAuthority.codec : Codec (SignedAuthority A) :=
  (Codec.record true (.required "envelope" (AuthorityEnvelope.codec format) <|
    .required "mac" .text .nil) signed_distinct).as
    (fun signed => (signed.envelope, signed.mac, ())) (fun (envelope, mac, _) => ⟨envelope, mac⟩)
    fun _ => rfl

/-- `timestamp`. -/
def AuthorityFormat.timestamp (atMs : UInt64) : Except AuthorityError Int64 :=
  if 2 ^ 63 ≤ atMs.toNat then .error (.unavailable format.outOfRange)
  else .ok (Int64.ofNat atMs.toNat)

/-- `message`: the text a MAC covers. -/
def AuthorityFormat.message (envelope : AuthorityEnvelope A) : Result String :=
  canonicalJson (.ofFields [("domain", .string format.domain),
    ("envelope", (AuthorityEnvelope.codec format).toValue envelope)])

/-- The rows of the journal. -/
def AuthorityFormat.isRow (row : Row) : Bool :=
  format.kinds.any fun kind => row.kind = kind.asStr

/-! ## The writer -/

/-- The envelope of the row after a head. -/
def authorityEnvelope (network : Network) (headSeq : Nat) (prevHash : String) (authority : A)
    (atMs : UInt64) : AuthorityEnvelope A :=
  ⟨1, network, headSeq + 1, prevHash, atMs, authority⟩

/-- The row event of a signed authority. -/
def authorityEvent (tsMs : Int64) (signed : SignedAuthority A) : NewEvent where
  kind := format.kind signed.envelope.authority
  tsMs := tsMs
  agentId := none
  payload := (SignedAuthority.codec format).toValue signed
  snapshot := none

/-- Sign the next authority and append its row. A key that is already there has no verified
row, which `orphan` says. -/
def appendAuthority (lib : Libraries) (handle : Handle) (key : HmacKey) (db : Db) (authority : A)
    (atMs : UInt64) (idemKey orphan : String) : Except AuthorityError (Appended × Db) := do
  let (headSeq, prevHash) ← mapError .ledger (head db)
  refuseIf (2 ^ 64 ≤ headSeq + 1) (.ledger .seqOutOfRange)
  let envelope := authorityEnvelope handle.network headSeq prevHash authority atMs
  let message ← mapError .ledger (format.message envelope)
  let tsMs ← format.timestamp atMs
  let signed : SignedAuthority A := ⟨envelope, hexEncode (key.tag (utf8 message))⟩
  let (appended, db) ← mapError .ledger
    (appendKeyedInTx lib db (authorityEvent format tsMs signed) idemKey)
  match appended with
  | none => .error (.unavailable orphan)
  | some appended => return (appended, db)

/-! ## The replay -/

/-- The chain verifies against the anchor. -/
def authorityChain (lib : Libraries) (handle : Handle) (store : Store) :
    Except AuthorityError Unit := do
  refuseIf (handle.anchored = false) (.unavailable format.unanchored)
  match store.anchor with
  | none => .error (.unavailable format.anchorless)
  | some anchor => do
      let report ← mapError .ledger (walk lib (some anchor) store.db (handle.genesis lib))
      refuseIf (report.firstBreak ≠ none) (.unavailable format.broken)

/-- The signed envelope of a row, checked against the row it is in. -/
def readEnvelope (key : HmacKey) (network : Network) (event : Event) :
    Except AuthorityError (AuthorityEnvelope A) :=
  match event.payload with
  | none => .error (.unavailable format.redacted)
  | some payload =>
      match (SignedAuthority.codec format).ofValue payload with
      | none => .error (.unavailable format.malformed)
      | some signed => do
          let envelope := signed.envelope
          refuseIf (format.inexact.isSome = true ∧
              sameValue ((SignedAuthority.codec format).toValue signed) payload = false)
            (.unavailable (format.inexact.getD ""))
          refuseIf (isHex64 signed.mac = false) (.unavailable format.badMac)
          match hexDecode signed.mac.toList with
          | none => .error (.unavailable format.undecodable)
          | some mac => do
              let message ← mapError .ledger (format.message envelope)
              refuseIf (key.verify (utf8 message) mac = false) (.unavailable format.mismatch)
              refuseIf (envelope.version ≠ 1 ∨ envelope.network ≠ network ∨
                  envelope.seq ≠ event.seq ∨ envelope.prevHash ≠ event.prevHash)
                (.unavailable format.misplaced)
              let tsMs ← format.timestamp envelope.atMs
              refuseIf (tsMs ≠ event.tsMs ∨ format.kind envelope.authority ≠ event.kind ∨
                  event.agentId ≠ none ∨ event.snapshotId ≠ none ∨ event.snapshotHash ≠ none)
                (.unavailable format.misplaced)
              return envelope

/-- One turn of a replay; `apply` is what the journal does with an envelope. -/
def replayAuthorityRow (lib : Libraries) (key : HmacKey) (network : Network)
    (apply : G → AuthorityEnvelope A → Event → Option String → Except AuthorityError G)
    (before : G) (row : Row) : Except AuthorityError G := do
  let event ← mapError .ledger (eventFromRow lib row)
  let envelope ← readEnvelope format key network event
  apply before envelope event row.idemKey

/-- The fold of the rows of the journal. -/
def authorityRows (lib : Libraries) (key : HmacKey) (network : Network)
    (apply : G → AuthorityEnvelope A → Event → Option String → Except AuthorityError G)
    (start : G) (db : Db) : Except AuthorityError G :=
  (db.events.filter format.isRow).foldlM (replayAuthorityRow format lib key network apply) start

end Authority

/-- A check that refuses nothing is passed by. -/
theorem refuse_passes {ε α : Type} {bad : Prop} [Decidable bad] {error : ε}
    {next : Unit → Except ε α} (well : ¬ bad) : (refuseIf bad error >>= next) = next () := by
  rw [refuseIf, if_neg well]
  rfl

/-! ## What is written is read back -/

section Written

variable {A G : Type} {format : AuthorityFormat A}

/-- A signed authority nests within the reader's limit. -/
theorem SignedAuthority.nesting_lt (signed : SignedAuthority A) :
    (sortedValue ((SignedAuthority.codec format).toValue signed)).nesting < recursionLimit := by
  refine ((SignedAuthority.codec format).nesting_sorted_le signed).trans_lt ?_
  have depth : (SignedAuthority.codec format).depth = max (max format.codec.depth 0 + 1) 0 + 1 := by
    simp [SignedAuthority.codec, AuthorityEnvelope.codec, Network.codec]
  have shallow := format.shallow
  have limit : 10 < recursionLimit := by decide
  omega

/-- A signed authority can be written where its numbers and the authority can. -/
theorem SignedAuthority.fits (signed : SignedAuthority A)
    (version : signed.envelope.version < 2 ^ 64)
    (seq : signed.envelope.seq < 2 ^ 64) (authority : format.codec.Fits signed.envelope.authority) :
    (SignedAuthority.codec format).Fits signed :=
  ⟨⟨version, trivial, seq, trivial, trivial, authority, trivial⟩, trivial, trivial⟩

/-- A time that could be stamped is kept by the stamp. -/
theorem AuthorityFormat.timestamp_ok {atMs : UInt64} {tsMs : Int64}
    (run : format.timestamp atMs = .ok tsMs) :
    atMs.toNat < 2 ^ 63 ∧ tsMs = Int64.ofNat atMs.toNat := by
  unfold timestamp at run
  split at run
  · cases run
  · rename_i within
    cases run
    exact ⟨Nat.not_le.mp within, rfl⟩

/-- A row of an authority's kind is one of its format's rows. -/
theorem AuthorityFormat.isRow_of_kind {row : Row} (authority : A)
    (kind : row.kind = (format.kind authority).asStr) : format.isRow row = true :=
  List.any_eq_true.mpr ⟨_, format.mem_kinds authority, decide_eq_true kind⟩

/-- Whether a row is of a format depends on its kind only. -/
theorem AuthorityFormat.isRow_of_kind_eq (row held : Row) (same : held.kind = row.kind) :
    format.isRow held = format.isRow row := by
  simp only [isRow, same]

/-- **A signed authority is read back from its row.** -/
theorem readEnvelope_written {key : HmacKey} {network : Network} {seq : Nat} {prevHash : String}
    {lib : Libraries} {signed : SignedAuthority A} {canonical message : String} {tsMs : Int64}
    (fits : (SignedAuthority.codec format).Fits signed)
    (covered : format.message signed.envelope = .ok message)
    (mac : signed.mac = hexEncode (key.tag (utf8 message)))
    (version : signed.envelope.version = 1) (owned : signed.envelope.network = network)
    (position : signed.envelope.seq = seq) (linked : signed.envelope.prevHash = prevHash)
    (stamped : format.timestamp signed.envelope.atMs = .ok tsMs) :
    readEnvelope format key network
        (chainedEvent lib (authorityEvent format tsMs signed) seq prevHash canonical) =
      .ok signed.envelope := by
  have same : sameValue ((SignedAuthority.codec format).toValue signed)
      (sortedValue ((SignedAuthority.codec format).toValue signed)) = true := by
    rw [sameValue, sortedValue_idem]
    exact decide_eq_true rfl
  have hex : isHex64 signed.mac = true := mac ▸ isHex64_hexEncode (key.length_tag _)
  have bytes : hexDecode signed.mac.toList = some (key.tag (utf8 message)) :=
    mac ▸ hexDecode_hexEncode _
  have verified : key.verify (utf8 message) (key.tag (utf8 message)) = true := decide_eq_true rfl
  unfold readEnvelope
  change (match (SignedAuthority.codec format).ofValue
      (sortedValue ((SignedAuthority.codec format).toValue signed)) with
    | none => _
    | some signed => _) = _
  rw [(SignedAuthority.codec format).ofValue_sorted fits]
  simp only [chainedEvent, authorityEvent, same, Bool.true_eq_false, and_false, refuseIf, if_false,
    hex, bytes, covered, mapError, verified, version, owned, position, linked, stamped,
      bind, Except.bind, pure,
    Except.pure, ne_eq, not_true_eq_false, or_self, Option.map_none]

end Written

/-! ## Appends -/

section Appending

variable {A G : Type} {format : AuthorityFormat A} {lib : Libraries} {handle : Handle}
  {key : HmacKey} {db grown : Db} {authority : A} {atMs : UInt64} {idemKey orphan : String}
  {appended : Appended}

/-- The envelope of the row after the last one. -/
def authorityAt (lib : Libraries) (handle : Handle) (db : Db) (authority : A) (atMs : UInt64) :
    AuthorityEnvelope A :=
  authorityEnvelope handle.network db.events.length
    (tipDigest Row.hash (handle.genesis lib) db.events) authority atMs

/-- What an append that goes through writes. -/
structure Authorises (format : AuthorityFormat A) (lib : Libraries) (handle : Handle)
    (key : HmacKey) (db : Db) (authority : A) (atMs : UInt64) (idemKey : String)
    (appended : Appended) (grown : Db) : Prop where
  intro ::
  fresh : ∀ held ∈ db.events, held.idemKey ≠ some idemKey
  row : ∃ message tsMs,
    format.message (authorityAt lib handle db authority atMs) = .ok message ∧
    format.timestamp atMs = .ok tsMs ∧
    Grows lib (handle.genesis lib) db
      (authorityEvent format tsMs
        ⟨authorityAt lib handle db authority atMs, hexEncode (key.tag (utf8 message))⟩)
      (some idemKey) appended grown

/-- An authority that was appended is signed over its own position and the head before it. -/
theorem appendAuthority_ok (consistent : Consistent lib (handle.genesis lib) db)
    (run : appendAuthority format lib handle key db authority atMs idemKey orphan =
      .ok (appended, grown)) :
    Authorises format lib handle key db authority atMs idemKey appended grown := by
  obtain ⟨⟨headSeq, prevHash⟩, found, run⟩ := bind_eq_ok run
  have head := mapError_eq_ok found
  rw [consistent.headed.head_eq] at head
  cases head
  obtain ⟨_, _, run⟩ := bind_eq_ok run
  obtain ⟨message, covered, run⟩ := bind_eq_ok run
  obtain ⟨tsMs, stamped, run⟩ := bind_eq_ok run
  obtain ⟨⟨row, changed⟩, append, run⟩ := bind_eq_ok run
  rcases appendKeyedInTx_ok consistent.headed (mapError_eq_ok append) with
    ⟨row, rfl, grows, fresh⟩ | ⟨rfl, _, _⟩
  · cases run
    exact ⟨fresh, message, tsMs, mapError_eq_ok covered, stamped, grows⟩
  · cases run

variable (authorises : Authorises format lib handle key db authority atMs idemKey appended grown)

include authorises

/-- Appending an authority is one change of the ledger, under its key. -/
theorem Authorises.change : ∃ event, event.kind = format.kind authority ∧
    Change lib (handle.genesis lib) db event (some idemKey) appended grown := by
  obtain ⟨message, tsMs, _, _, grows⟩ := authorises.row
  refine ⟨_, rfl, grows.change ?_ authorises.fresh⟩
  change format.kind authority ≠ .payloadRedacted
  intro redaction
  have journaled := format.journaled _ (format.mem_kinds authority)
  rw [redaction] at journaled
  cases journaled

/-- An authority that was appended settles what it committed. -/
theorem Authorises.settles :
    Settles lib handle db (fun _ _ => True) (some appended) grown := by
  obtain ⟨event, _, change⟩ := authorises.change
  exact .written trivial change

/-- Appending an authority adds one row, at the next position. -/
theorem Authorises.length : grown.events.length = db.events.length + 1 ∧
    appended.seq = db.events.length + 1 ∧ db.events.length + 1 < 2 ^ 63 ∧ atMs.toNat < 2 ^ 63 := by
  obtain ⟨message, tsMs, _, stamped, grows⟩ := authorises.row
  obtain ⟨canonical, _, small, _, _⟩ := grows.row
  have head := grows.head
  exact ⟨head.2.2, head.2.1, small, (format.timestamp_ok stamped).1⟩

/-- **The replay goes on to the row of an append**, with what the journal does with it. -/
theorem Authorises.replays
    {apply : G → AuthorityEnvelope A → Event → Option String → Except AuthorityError G}
    {start before after : G} (fits : format.codec.Fits authority)
    (read : authorityRows format lib key handle.network apply start db = .ok before)
    (applies : ∀ event : Event, event.seq = db.events.length + 1 → event.hash = appended.hash →
      apply before (authorityAt lib handle db authority atMs) event (some idemKey) = .ok after) :
    authorityRows format lib key handle.network apply start grown = .ok after := by
  obtain ⟨message, tsMs, covered, stamped, grows⟩ := authorises.row
  obtain ⟨canonical, written, small, rfl, rfl⟩ := grows.row
  generalize signing : (⟨authorityAt lib handle db authority atMs,
    hexEncode (key.tag (utf8 message))⟩ : SignedAuthority A) = signed at *
  have envelope : signed.envelope = authorityAt lib handle db authority atMs := by rw [← signing]
  have mac : signed.mac = hexEncode (key.tag (utf8 message)) := by rw [← signing]
  have readable : (SignedAuthority.codec format).Fits signed := by
    refine signed.fits ?_ ?_ ?_
    · rw [envelope]
      exact (by decide : 1 < 2 ^ 64)
    · rw [envelope]
      change db.events.length + 1 < 2 ^ 64
      omega
    · rw [envelope]
      exact fits
  rw [← envelope] at covered applies
  have parsed := @readEnvelope_written A format key handle.network (db.events.length + 1)
    (tipDigest Row.hash (handle.genesis lib) db.events) lib signed canonical message tsMs readable
    covered mac (by rw [envelope]; rfl) (by rw [envelope]; rfl) (by rw [envelope]; rfl)
    (by rw [envelope]; rfl) (by rw [envelope]; exact stamped)
  have event := @eventFromRow_chainedRow lib (authorityEvent format tsMs signed) canonical
    written signed.nesting_lt (db.events.length + 1)
    (tipDigest Row.hash (handle.genesis lib) db.events) (some idemKey)
  have own : format.isRow (nextRow lib (handle.genesis lib) db (authorityEvent format tsMs signed)
      canonical (some idemKey)) = true :=
    format.isRow_of_kind signed.envelope.authority rfl
  rw [authorityRows, Db.extend, List.filter_append, List.filter_cons_of_pos own, List.filter_nil]
  refine foldlM_concat_ok_iff.mpr ⟨before, read, ?_⟩
  rw [replayAuthorityRow]
  change mapError AuthorityError.ledger (eventFromRow lib (chainedRow lib _ _ _ _ _)) >>= _ = _
  rw [event]
  simp only [mapError, bind, Except.bind, parsed]
  exact applies _ rfl rfl

end Appending

/-! ## The rest of the file -/

section Others

variable {A G : Type} {format : AuthorityFormat A} {lib : Libraries} {handle : Handle}
  {key : HmacKey} {db changed : Db} {store : Store} {behind : Nat}

/-- The call writes and redacts no row of the journal. -/
def Call.sparesRows {dec : Decimals} (format : AuthorityFormat A) (db : Db) : Call dec → Bool
  | .redact seq _ _ => (db.rowAt seq).all fun row => format.isRow row = false
  | .journal event _ => event.kind ∉ format.kinds
  | _ => true

/-- Whatever else is written, the rows of the journal stay. -/
theorem Writes.sparesRows {dec : Decimals} {call : Call dec} {event : NewEvent}
    {idemKey : Option String} {appended : Appended} (writes : Writes dec call event idemKey)
    (change : Change lib (handle.genesis lib) db event idemKey appended changed)
    (sound : SoundRows lib (handle.genesis lib) db.events)
    (spares : call.sparesRows format db = true) :
    changed.events.filter format.isRow = db.events.filter format.isRow := by
  have journaled : ∀ kind ∈ format.kinds, otherJournal kind = true := format.journaled
  have plain {tsMs : Int64} (facts : Generic tsMs event idemKey) :
      otherJournal event.kind = false ∧ event.kind ≠ .payloadRedacted := by
    rcases facts.kind with door | intent
    · refine ⟨?_, notRedaction_of_door door⟩
      generalize event.kind = kind at door
      cases kind <;> first | rfl | cases door
    · rw [intent]
      exact ⟨rfl, nofun⟩
  have foreign (kind : otherJournal event.kind = false) : event.kind ∉ format.kinds := by
    intro member
    rw [journaled _ member] at kind
    cases kind
  have facts : event.kind ∉ format.kinds ∧ ∀ seq reason tsMs row,
      event = redactionEvent seq reason tsMs → db.rowAt (seq : Nat) = some row →
        format.isRow row = false := by
    cases writes with
    | append facts | recordIntent facts | recordOutcome facts | openGap facts | closeGap facts =>
        refine ⟨foreign (plain facts).1, fun seq reason tsMs row explains _ => ?_⟩
        exact absurd (by rw [explains]; rfl) (plain facts).2
    | fill | halt | started | resolved =>
        exact ⟨foreign rfl, fun _ _ _ _ explains _ => by
          cases congrArg NewEvent.kind explains⟩
    | redact =>
        refine ⟨foreign rfl, fun seq reason tsMs row explains found => ?_⟩
        rw [Call.sparesRows, redactionEvent_seq explains, found, Option.all_some,
          decide_eq_true_eq] at spares
        exact spares
    | journal other _ =>
        rw [Call.sparesRows, decide_eq_true_eq] at spares
        refine ⟨spares, fun seq reason tsMs row explains _ => ?_⟩
        rw [explains] at other
        cases other
  obtain ⟨row, kind, same⟩ := change.keepsRows sound format.isRow_of_kind_eq facts.2
  have hidden : ¬ format.isRow row = true := by
    intro shown
    obtain ⟨other, member, named⟩ := List.any_eq_true.mp shown
    rw [decide_eq_true_eq, kind] at named
    rw [EventKind.asStr_injective named] at facts
    exact facts.1 member
  rwa [List.filter_cons_of_neg hidden, List.filter_nil, List.append_nil] at same

/-- The chain of a tracked file verifies exactly when its anchor is at most one row behind. -/
theorem Tracks.authorityChain_iff (tracks : Tracks lib handle behind store)
    (format : AuthorityFormat A) (anchored : handle.anchored = true) :
    authorityChain format lib handle store = .ok () ↔ behind ≤ 1 := by
  obtain ⟨anchor, present, _⟩ := tracks.anchored anchored
  have owned : ¬ handle.anchored = false := by
    rw [anchored]
    exact Bool.true_eq_false.mp
  have unfolded : authorityChain format lib handle store =
      (mapError AuthorityError.ledger
        (walk lib (some anchor) store.db (handle.genesis lib)) >>= fun report =>
          refuseIf (report.firstBreak ≠ none) (.unavailable format.broken)) := by
    simp only [authorityChain, refuseIf, if_neg owned, present, bind, Except.bind]
  have limit : (handle.anchored = true → behind ≤ anchorLagTolerance) ↔ behind ≤ 1 :=
    ⟨fun near => near anchored, fun near _ => near⟩
  rw [unfolded, ← limit, ← tracks.verify_iff]
  simp only [verify, anchored, present, if_true]
  constructor
  · intro run
    obtain ⟨report, walked, run⟩ := bind_eq_ok run
    refine ⟨report, mapError_eq_ok walked, ?_⟩
    exact Option.isNone_iff_eq_none.mpr (not_not.mp (refuseIf_ok run))
  · rintro ⟨report, walked, intact⟩
    have unbroken : ¬ report.firstBreak ≠ none :=
      not_not.mpr (Option.isNone_iff_eq_none.mp intact)
    simp only [walked, mapError, bind, Except.bind, refuseIf, if_neg unbroken]

end Others

end Oppen.Ledger
