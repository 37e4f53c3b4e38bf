import Oppen.Ledger.Authority

/-! # The pairing journal

An operator pairs an agent and an account with the digest of a token. Issues and revocations
are signed rows; what they leave paired is read from the rows alone.
-/

namespace Oppen.Ledger

open Foundation Oppen.Json Oppen.Guardrail

/-! ## Pairings -/

/-- Thirty-two bytes. -/
structure TokenDigest where
  bytes : List UInt8
  length : bytes.length = 32
  deriving DecidableEq

structure PairingId where
  network : Network
  issuedSeq : Nat
  deriving DecidableEq

structure PairingBinding where
  agent : String
  account : Address
  deriving DecidableEq

structure PairingRecord where
  id : PairingId
  binding : PairingBinding
  digest : TokenDigest
  issuedAtMs : UInt64
  revokedAtMs : Option UInt64
  deriving DecidableEq

inductive PairingAuthority where
  | pairingIssued (id : PairingId) (binding : PairingBinding) (digest : String)
  | pairingRevoked (id : PairingId) (issuedHash : String)
  deriving DecidableEq

/-- `Authority::kind`. -/
def PairingAuthority.kind : PairingAuthority → EventKind
  | .pairingIssued .. => .pairingIssued
  | .pairingRevoked .. => .pairingRevoked

def PairingId.codec : Codec PairingId :=
  (Codec.record true (.required "network" Network.codec <|
    .required "issued_seq" .natural .nil) (by decide)).as
    (fun id => (id.network, id.issuedSeq, ())) (fun (network, issuedSeq, _) => ⟨network, issuedSeq⟩)
    fun _ => rfl

def PairingBinding.codec : Codec PairingBinding :=
  (Codec.record true (.required "agent" .text <|
    .required "account" (.via .text Address.display Address.parse) .nil) (by decide)).as
    (fun binding => (binding.agent, binding.account, ()))
    (fun (agent, account, _) => ⟨agent, account⟩) fun _ => rfl

def PairingAuthority.codec : Codec PairingAuthority :=
  ((Variants.one true "kind" "pairing_issued" (.required "id" PairingId.codec <|
      .required "binding" PairingBinding.codec <| .required "digest" .text .nil) (by decide)).or
    (.one true "kind" "pairing_revoked"
      (.required "id" PairingId.codec <| .required "issued_hash" .text .nil) (by decide))
    (by decide)).toCodec.as
    (fun
      | .pairingIssued id binding digest => .inl (id, binding, digest, ())
      | .pairingRevoked id issuedHash => .inr (id, issuedHash, ()))
    (fun
      | .inl (id, binding, digest, _) => .pairingIssued id binding digest
      | .inr (id, issuedHash, _) => .pairingRevoked id issuedHash)
    (by rintro (_ | _) <;> rfl)

/-- The rows of the pairing journal. -/
def pairingFormat : AuthorityFormat PairingAuthority where
  domain := "oppen.pairing-authority.v1"
  codec := PairingAuthority.codec
  shallow := by
    simp [PairingAuthority.codec, PairingId.codec, PairingBinding.codec, Network.codec]
  kind := PairingAuthority.kind
  kinds := [.pairingIssued, .pairingRevoked]
  mem_kinds := by
    rintro (_ | _)
    · exact List.mem_cons_self ..
    · exact List.mem_cons_of_mem _ (List.mem_cons_self ..)
  journaled := by decide
  outOfRange := "pairing timestamp out of range"
  unanchored := "pairing authority requires an anchor"
  anchorless := "pairing anchor missing"
  broken := "pairing chain broken"
  redacted := "pairing authority history redacted"
  malformed := "malformed pairing authority payload"
  inexact := none
  badMac := "pairing digest or MAC is not canonical 32-byte hex"
  undecodable := "invalid pairing digest or MAC"
  mismatch := "pairing authority MAC mismatch"
  misplaced := "pairing authority envelope does not match its chain row"

/-- `decode_hex`, of a digest. -/
def decodeDigest (text : String) : Except AuthorityError TokenDigest :=
  if isHex64 text = false then .error (.unavailable pairingFormat.badMac)
  else match hexDecode text.toList with
    | none => .error (.unavailable pairingFormat.undecodable)
    | some bytes =>
        if length : bytes.length = 32 then .ok ⟨bytes, length⟩
        else .error (.unavailable pairingFormat.undecodable)

/-- `validate_binding`. -/
def validatePairing (binding : PairingBinding) : Except AuthorityError Unit := do
  mapError (fun _ => .unavailable "invalid pairing agent identifier") (checkedAgentId binding.agent)
  refuseIf (binding.account = .zero) (.unavailable "pairing account cannot be zero")

/-- A record and the hash of its row. -/
structure Pairing where
  record : PairingRecord
  hash : String
  deriving DecidableEq

/-- The key of an issue: a digest is issued once. -/
def digestKey (digest : String) : String := "pairing_digest:" ++ digest

/-- The key of a revocation: a pairing is revoked once. -/
def revokedKey (issuedSeq : Nat) : String := "pairing_revoked:" ++ toString issuedSeq

/-- The pairing of a row. -/
def pairingAt (pairings : List Pairing) (seq : Nat) : Option Pairing :=
  pairings.find? fun pairing => pairing.record.id.issuedSeq = seq

/-- The pairing of a row revoked. -/
def revokeAt (pairings : List Pairing) (seq : Nat) (atMs : UInt64) : List Pairing :=
  pairings.map fun pairing =>
    if pairing.record.id.issuedSeq = seq then
      { pairing with record := { pairing.record with revokedAtMs := some atMs } }
    else pairing

/-- What an envelope does to the pairings before it. -/
def applyPairing (network : Network) (pairings : List Pairing)
    (envelope : AuthorityEnvelope PairingAuthority) (event : Event) (idemKey : Option String) :
    Except AuthorityError (List Pairing) :=
  match envelope.authority with
  | .pairingIssued id binding digest => do
      validatePairing binding
      let bytes ← decodeDigest digest
      refuseIf (id.network ≠ network ∨ id.issuedSeq ≠ event.seq ∨
          idemKey ≠ some (digestKey digest) ∨
          (∃ pairing ∈ pairings, pairing.record.digest = bytes) ∨
          (pairingAt pairings id.issuedSeq).isSome = true)
        (.unavailable "duplicate or invalid pairing issuance")
      return pairings ++ [⟨⟨id, binding, bytes, envelope.atMs, none⟩, event.hash⟩]
  | .pairingRevoked id issuedHash =>
      match pairingAt pairings id.issuedSeq with
      | none => .error (.unavailable "pairing revocation has no earlier issuance")
      | some pairing => do
          refuseIf (id.network ≠ network ∨ pairing.hash ≠ issuedHash ∨
              pairing.record.revokedAtMs.isSome = true ∨ envelope.atMs < pairing.record.issuedAtMs ∨
              idemKey ≠ some (revokedKey id.issuedSeq))
            (.unavailable "invalid pairing revocation linkage")
          return revokeAt pairings id.issuedSeq envelope.atMs

/-! ## The journal -/

/-- The journal of the process that holds its lease. -/
structure PairingJournal where
  lib : Libraries
  handle : Handle
  key : HmacKey

section Journal

variable (journal : PairingJournal)

/-- The pairings the rows of a table say. -/
def pairingRows (db : Db) : Except AuthorityError (List Pairing) :=
  authorityRows pairingFormat journal.lib journal.key journal.handle.network
    (applyPairing journal.handle.network) [] db

/-- `replay`. -/
def pairingReplay (store : Store) : Except AuthorityError (List Pairing) := do
  authorityChain pairingFormat journal.lib journal.handle store
  pairingRows journal store.db

/-- `PairingJournal::records`. -/
def pairingRecords (store : Store) : Except AuthorityError (List PairingRecord) :=
  (pairingReplay journal store).map fun pairings => pairings.map Pairing.record

/-- The transaction of `issue`. -/
def issueBody (binding : PairingBinding) (digest : TokenDigest) (atMs : UInt64) (store : Store) :
    Except AuthorityError (Committed PairingRecord) := do
  validatePairing binding
  let _ ← pairingFormat.timestamp atMs
  let pairings ← pairingReplay journal store
  refuseIf (∃ pairing ∈ pairings, pairing.record.digest = digest)
    (.unavailable "pairing digest has already been issued")
  let (headSeq, _) ← mapError .ledger (head store.db)
  let id : PairingId := ⟨journal.handle.network, headSeq + 1⟩
  let (appended, db) ← appendAuthority pairingFormat journal.lib journal.handle journal.key
    store.db (.pairingIssued id binding (hexEncode digest.bytes)) atMs
    (digestKey (hexEncode digest.bytes)) "pairing digest key without verified issuance"
  return ⟨⟨id, binding, digest, atMs, none⟩, db, some appended⟩

/-- The transaction of `revoke`. -/
def revokeBody (id : PairingId) (atMs : UInt64) (store : Store) :
    Except AuthorityError (Committed Bool) := do
  refuseIf (id.network ≠ journal.handle.network)
    (.unavailable "pairing ID belongs to another network")
  let _ ← pairingFormat.timestamp atMs
  let pairings ← pairingReplay journal store
  match pairingAt pairings id.issuedSeq with
  | none => return ⟨false, store.db, none⟩
  | some pairing =>
      if pairing.record.revokedAtMs.isSome = true then return ⟨false, store.db, none⟩
      else do
        refuseIf (atMs < pairing.record.issuedAtMs)
          (.unavailable "pairing revocation precedes issuance")
        let (appended, db) ← appendAuthority pairingFormat journal.lib journal.handle journal.key
          store.db (.pairingRevoked id pairing.hash) atMs (revokedKey id.issuedSeq)
          "pairing revocation key without verified revocation"
        return ⟨true, db, some appended⟩

/-- `PairingJournal::issue`. -/
def issuePairing (publish : Bool) (binding : PairingBinding) (digest : TokenDigest)
    (atMs : UInt64) (store : Store) : Except AuthorityError PairingRecord × Store :=
  transact journal.handle publish .ledger store (issueBody journal binding digest atMs store)

/-- `PairingJournal::revoke`. -/
def revokePairing (publish : Bool) (id : PairingId) (atMs : UInt64) (store : Store) :
    Except AuthorityError Bool × Store :=
  transact journal.handle publish .ledger store (revokeBody journal id atMs store)

end Journal

/-! ## Sound pairings -/

/-- A digest and a row belong to one pairing each. -/
structure SoundPairings (network : Network) (length : Nat) (pairings : List Pairing) : Prop where
  seqs : (pairings.map fun pairing => pairing.record.id.issuedSeq).Nodup
  bounded : ∀ pairing ∈ pairings, pairing.record.id.issuedSeq ≤ length
  network : ∀ pairing ∈ pairings, pairing.record.id.network = network
  digests : (pairings.map fun pairing => pairing.record.digest).Nodup

/-- The pairings of a file. -/
structure Paired (journal : PairingJournal) (store : Store) (pairings : List Pairing) : Prop where
  rows : pairingRows journal store.db = .ok pairings
  sound : SoundPairings journal.handle.network store.db.events.length pairings

section Pairings

variable {network : Network} {length seq : Nat} {pairings : List Pairing} {pairing new : Pairing}
  {atMs : UInt64}

/-- No pairings are sound. -/
theorem SoundPairings.nil : SoundPairings network length [] :=
  ⟨.nil, fun _ member => absurd member List.not_mem_nil,
    fun _ member => absurd member List.not_mem_nil, .nil⟩

/-- Every pairing is still there, and revoked if it was. -/
def PairingsKept (before after : List Pairing) : Prop :=
  ∀ pairing ∈ before, ∃ later ∈ after, later.record.id = pairing.record.id ∧
    later.record.binding = pairing.record.binding ∧
    later.record.digest = pairing.record.digest ∧
    (pairing.record.revokedAtMs.isSome = true → later.record.revokedAtMs.isSome = true)

theorem PairingsKept.refl (pairings : List Pairing) : PairingsKept pairings pairings :=
  fun pairing member => ⟨pairing, member, rfl, rfl, rfl, id⟩

/-- What two acts each keep of the pairings, they keep together. -/
theorem PairingsKept.trans {first second third : List Pairing}
    (earlier : PairingsKept first second) (later : PairingsKept second third) :
    PairingsKept first third := by
  intro pairing member
  obtain ⟨middle, inside, id, binding, digest, revoked⟩ := earlier pairing member
  obtain ⟨last, here, id', binding', digest', revoked'⟩ := later middle inside
  exact ⟨last, here, id'.trans id, binding'.trans binding, digest'.trans digest,
    revoked' ∘ revoked⟩

/-- A revocation keeps of each pairing what does not show that it is revoked. -/
theorem map_revokeAt {β : Type} (image : Pairing → β)
    (same : ∀ (pairing : Pairing) (atMs : UInt64), image { pairing with
      record := { pairing.record with revokedAtMs := some atMs } } = image pairing) :
    (revokeAt pairings seq atMs).map image = pairings.map image := by
  rw [revokeAt, List.map_map]
  refine List.map_congr_left fun pairing _ => ?_
  simp only [Function.comp_apply]
  split
  · exact same pairing atMs
  · rfl

/-- The pairings after a revocation are the others as they were, and the one that was revoked. -/
theorem mem_revokeAt : pairing ∈ revokeAt pairings seq atMs ↔
    (pairing ∈ pairings ∧ pairing.record.id.issuedSeq ≠ seq) ∨
      ∃ held ∈ pairings, held.record.id.issuedSeq = seq ∧
        pairing = { held with record := { held.record with revokedAtMs := some atMs } } := by
  constructor
  · intro member
    obtain ⟨held, inside, rfl⟩ := List.mem_map.mp member
    split
    · rename_i here
      exact .inr ⟨held, inside, here, rfl⟩
    · rename_i other
      exact .inl ⟨inside, other⟩
  · rintro (⟨inside, other⟩ | ⟨held, inside, here, rfl⟩)
    · exact List.mem_map.mpr ⟨pairing, inside, if_neg other⟩
    · exact List.mem_map.mpr ⟨held, inside, if_pos here⟩

/-- Issuing a pairing keeps the others. -/
theorem PairingsKept.issued (pairings : List Pairing) (new : Pairing) :
    PairingsKept pairings (pairings ++ [new]) :=
  fun pairing member => ⟨pairing, List.mem_append_left _ member, rfl, rfl, rfl, id⟩

/-- Revoking a pairing keeps all of them: it stays, as a revoked one. -/
theorem PairingsKept.revoked (pairings : List Pairing) (seq : Nat) (atMs : UInt64) :
    PairingsKept pairings (revokeAt pairings seq atMs) := by
  intro pairing member
  by_cases here : pairing.record.id.issuedSeq = seq
  · exact ⟨_, mem_revokeAt.mpr (.inr ⟨pairing, member, here, rfl⟩), rfl, rfl, rfl, fun _ => rfl⟩
  · exact ⟨pairing, mem_revokeAt.mpr (.inl ⟨member, here⟩), rfl, rfl, rfl, id⟩

/-- A distinct image at the end of a list of pairings. -/
theorem nodup_concat_pairing {β : Type} {image : Pairing → β}
    (distinct : (pairings.map image).Nodup)
    (fresh : ∀ pairing ∈ pairings, image pairing ≠ image new) :
    ((pairings ++ [new]).map image).Nodup := by
  rw [List.map_append]
  refine List.nodup_append.mpr ⟨distinct, List.nodup_singleton _, ?_⟩
  intro value member other last
  obtain ⟨held, inside, rfl⟩ := List.mem_map.mp member
  obtain rfl := List.mem_singleton.mp last
  exact fresh held inside

/-- Pairings stay sound when one is issued whose token is new. -/
theorem SoundPairings.issued (sound : SoundPairings network length pairings)
    (fresh : ∀ pairing ∈ pairings, pairing.record.digest ≠ new.record.digest)
    (position : new.record.id.issuedSeq = length + 1) (owned : new.record.id.network = network) :
    SoundPairings network (length + 1) (pairings ++ [new]) where
  seqs := nodup_concat_pairing sound.seqs fun pairing member same => by
    have within := sound.bounded pairing member
    omega
  bounded pairing member := by
    rcases List.mem_append.mp member with older | last
    · exact (sound.bounded pairing older).trans (Nat.le_succ _)
    · rw [List.mem_singleton.mp last]
      exact position.le
  network pairing member := by
    rcases List.mem_append.mp member with older | last
    · exact sound.network pairing older
    · rw [List.mem_singleton.mp last]
      exact owned
  digests := nodup_concat_pairing sound.digests fresh

/-- Pairings stay sound when one is revoked. -/
theorem SoundPairings.revoked (sound : SoundPairings network length pairings) (seq : Nat)
    (atMs : UInt64) : SoundPairings network (length + 1) (revokeAt pairings seq atMs) where
  seqs := by
    rw [map_revokeAt (fun pairing => pairing.record.id.issuedSeq) fun _ _ => rfl]
    exact sound.seqs
  bounded pairing member := by
    rcases mem_revokeAt.mp member with ⟨older, _⟩ | ⟨held, older, _, rfl⟩
    · exact (sound.bounded pairing older).trans (Nat.le_succ _)
    · exact (sound.bounded held older).trans (Nat.le_succ _)
  network pairing member := by
    rcases mem_revokeAt.mp member with ⟨older, _⟩ | ⟨held, older, _, rfl⟩
    · exact sound.network pairing older
    · exact sound.network held older
  digests := by
    rw [map_revokeAt (fun pairing => pairing.record.digest) fun _ _ => rfl]
    exact sound.digests

/-- The pairing that is found at a position is one of them. -/
theorem pairingAt_mem (found : pairingAt pairings seq = some pairing) :
    pairing ∈ pairings ∧ pairing.record.id.issuedSeq = seq :=
  ⟨List.mem_of_find?_eq_some found, by simpa using List.find?_some found⟩

end Pairings

/-! ## What the transactions commit -/

section Committing

variable {journal : PairingJournal} {store : Store} {pairings : List Pairing} {behind : Nat}

/-- A replay that succeeds reads the pairings of the ledger. -/
theorem Paired.of_replay (paired : Paired journal store pairings) {read : List Pairing}
    (run : pairingReplay journal store = .ok read) : read = pairings := by
  obtain ⟨_, _, run⟩ := bind_eq_ok run
  rw [paired.rows] at run
  exact (Except.ok.inj run).symm

/-- The pairings are those of any store with the same tables. -/
theorem Paired.of_tables (paired : Paired journal store pairings) {after : Store}
    (same : after.db = store.db) : Paired journal after pairings where
  rows := by
    rw [same]
    exact paired.rows
  sound := by
    rw [same]
    exact paired.sound

/-- A change that leaves the pairing rows leaves the pairings. -/
theorem Paired.other (paired : Paired journal store pairings) {after : Store}
    (same : after.db.events.filter pairingFormat.isRow =
      store.db.events.filter pairingFormat.isRow)
    (longer : store.db.events.length ≤ after.db.events.length) : Paired journal after pairings where
  rows := by
    have rows := paired.rows
    rw [pairingRows, authorityRows] at rows ⊢
    rwa [same]
  sound := { paired.sound with
    bounded := fun pairing member => (paired.sound.bounded pairing member).trans longer }

/-- **The replay accepts a paired file exactly when its anchor is recent.** -/
theorem Paired.replay_iff (paired : Paired journal store pairings)
    (tracks : Tracks journal.lib journal.handle behind store)
    (anchored : journal.handle.anchored = true) :
    pairingReplay journal store = .ok pairings ↔ behind ≤ 1 := by
  rw [← tracks.authorityChain_iff pairingFormat anchored]
  constructor
  · intro run
    obtain ⟨_, chain, _⟩ := bind_eq_ok run
    exact chain
  · intro chain
    simp only [pairingReplay, chain, bind, Except.bind]
    exact paired.rows

/-- A digest is read back from its hexadecimal text. -/
theorem decodeDigest_hexEncode (digest : TokenDigest) :
    decodeDigest (hexEncode digest.bytes) = .ok digest := by
  have shaped : ¬ isHex64 (hexEncode digest.bytes) = false := by
    rw [isHex64_hexEncode digest.length]
    exact Bool.true_eq_false.mp
  rw [decodeDigest, if_neg shaped, hexDecode_hexEncode]
  exact dif_pos digest.length

theorem PairingId.fits {id : PairingId} (small : id.issuedSeq < 2 ^ 64) : PairingId.codec.Fits id :=
  ⟨trivial, small, trivial⟩

/-- Every binding of a pairing can be written. -/
theorem PairingBinding.fits (binding : PairingBinding) : PairingBinding.codec.Fits binding :=
  ⟨trivial, ⟨trivial, Address.parse_display binding.account⟩, trivial⟩

/-- What a file of one more row holds. -/
theorem Paired.appended (paired : Paired journal store pairings) {authority : PairingAuthority}
    {atMs : UInt64} {idemKey : String} {appended : Appended} {grown : Db} {next : List Pairing}
    (authorises : Authorises pairingFormat journal.lib journal.handle journal.key store.db authority
      atMs idemKey appended grown)
    {after : Store} (tables : after.db = grown) (fits : PairingAuthority.codec.Fits authority)
    (applies : ∀ event : Event, event.seq = store.db.events.length + 1 →
      event.hash = appended.hash → applyPairing journal.handle.network pairings
        (authorityAt journal.lib journal.handle store.db authority atMs) event (some idemKey) =
          .ok next)
    (sound : SoundPairings journal.handle.network (store.db.events.length + 1) next) :
    Paired journal after next where
  rows := by
    rw [tables]
    exact authorises.replays fits paired.rows applies
  sound := by
    rw [tables, authorises.length.1]
    exact sound

/-- What a committed issue did: one more pairing, of a digest that had none. -/
theorem Paired.issueBody (paired : Paired journal store pairings)
    (tracks : Tracks journal.lib journal.handle behind store) {binding : PairingBinding}
    {digest : TokenDigest} {atMs : UInt64} {done : Committed PairingRecord}
    (run : issueBody journal binding digest atMs store = .ok done) :
    Settles journal.lib journal.handle store.db (fun _ _ => True) done.noted done.db ∧
      ∃ new : Pairing, new.record = done.value ∧ new.record.binding = binding ∧
        new.record.digest = digest ∧ new.record.revokedAtMs = none ∧
        (∀ pairing ∈ pairings, pairing.record.digest ≠ digest) ∧
        (∀ pairing ∈ pairings, pairing.record.id ≠ new.record.id) ∧
        ∀ after : Store, after.db = done.db → Paired journal after (pairings ++ [new]) := by
  obtain ⟨_, valid, run⟩ := bind_eq_ok run
  obtain ⟨_, _, run⟩ := bind_eq_ok run
  obtain ⟨read, replayed, run⟩ := bind_eq_ok run
  obtain rfl := paired.of_replay replayed
  obtain ⟨_, unissued, run⟩ := bind_eq_ok run
  have fresh : ∀ pairing ∈ read, pairing.record.digest ≠ digest :=
    fun pairing member same => refuseIf_ok unissued ⟨pairing, member, same⟩
  obtain ⟨⟨headSeq, prevHash⟩, found, run⟩ := bind_eq_ok run
  have head := mapError_eq_ok found
  rw [tracks.consistent.headed.head_eq] at head
  cases head
  obtain ⟨⟨appended, grown⟩, append, run⟩ := bind_eq_ok run
  cases run
  have authorises := appendAuthority_ok tracks.consistent append
  obtain ⟨_, _, small, _⟩ := authorises.length
  have unplaced : pairingAt read (store.db.events.length + 1) = none := by
    refine List.find?_eq_none.mpr fun pairing member here => ?_
    have within := paired.sound.bounded pairing member
    have same := of_decide_eq_true here
    omega
  refine ⟨authorises.settles, ⟨⟨⟨journal.handle.network, store.db.events.length + 1⟩, binding,
    digest, atMs, none⟩, appended.hash⟩, rfl, rfl, rfl, rfl, fresh, ?_, fun after tables => ?_⟩
  · intro pairing member same
    have within := paired.sound.bounded pairing member
    have position := congrArg PairingId.issuedSeq same
    change _ = store.db.events.length + 1 at position
    omega
  · have fits : store.db.events.length + 1 < 2 ^ 64 := by omega
    refine paired.appended authorises tables
      ⟨PairingId.fits fits, PairingBinding.fits binding, trivial, trivial⟩
      (fun event seq hash => ?_) (paired.sound.issued fresh rfl rfl)
    have well : ¬ ((⟨journal.handle.network, store.db.events.length + 1⟩ : PairingId).network ≠
          journal.handle.network ∨
        (⟨journal.handle.network, store.db.events.length + 1⟩ : PairingId).issuedSeq ≠ event.seq ∨
        some (digestKey (hexEncode digest.bytes)) ≠ some (digestKey (hexEncode digest.bytes)) ∨
        (∃ pairing ∈ read, pairing.record.digest = digest) ∨
        (pairingAt read (store.db.events.length + 1)).isSome = true) := by
      rw [unplaced, seq]
      rintro (other | other | other | ⟨pairing, member, same⟩ | present)
      · exact other rfl
      · exact other rfl
      · exact other rfl
      · exact fresh pairing member same
      · cases present
    change (validatePairing binding >>= fun _ => decodeDigest (hexEncode digest.bytes) >>=
      fun bytes => refuseIf _ _ >>= fun _ => pure _) = _
    rw [valid, decodeDigest_hexEncode]
    refine (refuse_passes well).trans ?_
    rw [← hash]
    rfl

/-- What a committed revocation did: it found nothing live, or revoked the pairing of the id. -/
theorem Paired.revokeBody (paired : Paired journal store pairings)
    (tracks : Tracks journal.lib journal.handle behind store) {id : PairingId} {atMs : UInt64}
    {done : Committed Bool} (run : revokeBody journal id atMs store = .ok done) :
    Settles journal.lib journal.handle store.db (fun _ _ => True) done.noted done.db ∧
      ((done.value = false ∧ done.db = store.db ∧
        ∀ pairing ∈ pairings, pairing.record.id = id → pairing.record.revokedAtMs.isSome = true) ∨
      ∃ pairing ∈ pairings, done.value = true ∧ pairing.record.id = id ∧
        pairing.record.revokedAtMs = none ∧
        ∀ after : Store, after.db = done.db →
          Paired journal after (revokeAt pairings id.issuedSeq atMs)) := by
  obtain ⟨_, owned, run⟩ := bind_eq_ok run
  obtain ⟨_, _, run⟩ := bind_eq_ok run
  obtain ⟨read, replayed, run⟩ := bind_eq_ok run
  obtain rfl := paired.of_replay replayed
  have network := not_not.mp (refuseIf_ok owned)
  split at run
  · rename_i missing
    cases run
    refine ⟨.idle, .inl ⟨rfl, rfl, fun pairing member same => ?_⟩⟩
    have absent := List.find?_eq_none.mp missing pairing member
    rw [same, decide_eq_true_eq] at absent
    exact absurd rfl absent
  · rename_i pairing found
    obtain ⟨member, position⟩ := pairingAt_mem found
    split at run
    · rename_i gone
      cases run
      refine ⟨.idle, .inl ⟨rfl, rfl, fun other inside same => ?_⟩⟩
      have seqs := paired.sound.seqs
      obtain rfl := List.inj_on_of_nodup_map seqs inside member
        ((congrArg PairingId.issuedSeq same).trans position.symm)
      exact gone
    · rename_i live
      obtain ⟨_, later, run⟩ := bind_eq_ok run
      obtain ⟨⟨appended, grown⟩, append, run⟩ := bind_eq_ok run
      cases run
      have authorises := appendAuthority_ok tracks.consistent append
      obtain ⟨_, _, small, _⟩ := authorises.length
      have within := paired.sound.bounded pairing member
      have same : pairing.record.id = id := by
        have owner := paired.sound.network pairing member
        obtain ⟨⟨⟨network', seq'⟩, _⟩, _⟩ := pairing
        obtain ⟨network'', seq''⟩ := id
        obtain rfl : seq' = seq'' := position
        obtain rfl : network' = network'' := owner.trans network.symm
        rfl
      refine ⟨authorises.settles, .inr ⟨pairing, member, rfl, same, ?_, fun after tables => ?_⟩⟩
      · rw [Bool.not_eq_true, Option.isSome_eq_false_iff, Option.isNone_iff_eq_none] at live
        exact live
      · have fits : id.issuedSeq < 2 ^ 64 := by omega
        refine paired.appended authorises tables ⟨PairingId.fits fits, trivial, trivial⟩
          (fun event seq hash => ?_) (paired.sound.revoked id.issuedSeq atMs)
        have linked : ¬ (id.network ≠ journal.handle.network ∨ pairing.hash ≠ pairing.hash ∨
            pairing.record.revokedAtMs.isSome = true ∨ atMs < pairing.record.issuedAtMs ∨
            some (revokedKey id.issuedSeq) ≠ some (revokedKey id.issuedSeq)) := by
          rintro (other | other | gone | early | other)
          · exact other network
          · exact other rfl
          · exact live gone
          · exact refuseIf_ok later early
          · exact other rfl
        change (match pairingAt read id.issuedSeq with | none => _ | some pairing => _) = _
        rw [found]
        exact refuse_passes linked

end Committing

end Oppen.Ledger
