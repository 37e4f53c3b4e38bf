import Oppen.Foundation.Framing
import Oppen.Ledger.Canonical

/-! # Chain hashing

Every preimage is domain-separated, tagged, length-prefixed and presence-flagged.
The digest is a parameter; the framing around it is proved to determine every
field it covers.
-/

namespace Oppen.Ledger

open Foundation Oppen.Json

/-- The UTF-8 bytes of a text. -/
def utf8 (text : String) : List UInt8 := text.toByteArray.data.toList

/-- Each text has bytes of its own. -/
theorem utf8_injective : Function.Injective utf8 := by
  intro first second same
  have bytes : first.toByteArray = second.toByteArray := by
    ext1
    exact Array.toList_inj.mp same
  exact String.toByteArray_inj.mp bytes

/-- The bytes of a text decode to it. -/
theorem fromUTF8_utf8 (text : String) : String.fromUTF8? ⟨⟨utf8 text⟩⟩ = some text := by
  change String.fromUTF8? text.toByteArray = some text
  simp only [String.fromUTF8?, String.isValidUTF8, dif_pos]
  rfl

/-- What the ledger uses of `sha3` and `serde_json`. -/
structure Libraries where
  /-- `Keccak256` of a byte string. -/
  keccak256 : List UInt8 → List UInt8
  /-- `serde_json::from_slice::<Value>`, with `none` for an error. -/
  fromSlice : List UInt8 → Option Value
  /-- The message of a `serde_json` error met while reading that value into a struct. -/
  errorText : Value → String
  /-- `Value::to_string`. -/
  valueText : Value → String
  /-- A text this crate wrote is read back within the reader's recursion limit. -/
  fromSlice_canonical : ∀ value text, canonicalJson value = .ok text →
    (sortedValue value).nesting < recursionLimit → fromSlice (utf8 text) = some (sortedValue value)

/-- The libraries with the compact reader in place of the real one. A text of one-byte
characters is told by writing it again, which evaluates faster than decoding it. -/
def Libraries.reference (keccak256 : List UInt8 → List UInt8) : Libraries where
  keccak256 := keccak256
  fromSlice bytes :=
    let chars := bytes.map fun byte => Char.ofNat byte.toNat
    if utf8 (String.ofList chars) = bytes then read chars
    else (String.fromUTF8? ⟨⟨bytes⟩⟩).bind fun text => read text.toList
  errorText _ := "data did not match the expected struct"
  valueText value := String.ofList (sortedValue value).chars
  fromSlice_canonical value text written shallow := by
    have whole := read_canonicalJson written shallow
    dsimp only
    split
    · rename_i same
      rw [← utf8_injective same, String.toList_ofList] at whole
      exact whole
    · rw [fromUTF8_utf8]
      exact whole

/-- A text is read as its characters are. -/
theorem reference_fromSlice (keccak256 : List UInt8 → List UInt8) (text : String) :
    (Libraries.reference keccak256).fromSlice (utf8 text) = read text.toList := by
  simp only [Libraries.reference]
  split
  · rename_i same
    have chars := congrArg String.toList (utf8_injective same)
    rw [String.toList_ofList] at chars
    rw [chars]
  · rw [fromUTF8_utf8]
    rfl

/-- A polynomial checksum, short enough to evaluate the definitions on concrete inputs. -/
def checksum (bytes : List UInt8) : List UInt8 :=
  bigEndian 8 (bytes.foldl (fun digest byte => digest * 257 + byte.toNat + 1) 0)

/-- `hex::encode`. -/
def hexEncode (bytes : List UInt8) : String :=
  String.ofList (bytes.flatMap fun byte =>
    [Nat.digitChar (byte.toNat / 16), Nat.digitChar (byte.toNat % 16)])

/-- Each hexadecimal digit has a character of its own. -/
theorem digitChar_injOn : ∀ first < 16, ∀ second < 16,
    Nat.digitChar first = Nat.digitChar second → first = second := by
  decide

/-- Bytes are told apart by their hexadecimal text. -/
theorem hexEncode_injective : Function.Injective hexEncode := by
  intro first second same
  have digits := congrArg String.toList same
  simp only [hexEncode, String.toList_ofList] at digits
  clear same
  induction first generalizing second with
  | nil =>
      cases second with
      | nil => rfl
      | cons byte rest => simp at digits
  | cons byte rest ih =>
      cases second with
      | nil => simp at digits
      | cons byte' rest' =>
          simp only [List.flatMap_cons, List.cons_append, List.nil_append,
            List.cons.injEq] at digits
          obtain ⟨high, low, others⟩ := digits
          have bound := byte.toNat_lt
          have bound' := byte'.toNat_lt
          have highs := digitChar_injOn _ (by omega) _ (by omega) high
          have lows := digitChar_injOn _ (by omega) _ (by omega) low
          have bytes : byte = byte' := UInt8.toNat_inj.mp (by omega)
          rw [bytes, ih others]

/-- The bytes of a text are those of its characters. -/
theorem utf8_ofList (chars : List Char) :
    utf8 (String.ofList chars) = chars.flatMap String.utf8EncodeChar := by
  rw [utf8, String.toByteArray_ofList, List.utf8Encode]
  exact List.toList_data_toByteArray

/-- The hexadecimal text takes two bytes for each. -/
theorem length_utf8_hexEncode (bytes : List UInt8) :
    (utf8 (hexEncode bytes)).length = 2 * bytes.length := by
  have single : ∀ digit < 16, (String.utf8EncodeChar (Nat.digitChar digit)).length = 1 := by
    decide
  rw [hexEncode, utf8_ofList]
  induction bytes with
  | nil => rfl
  | cons byte rest ih =>
      have bound := byte.toNat_lt
      simp only [List.flatMap_cons, List.cons_append, List.nil_append, List.length_append,
        List.length_cons, single _ (by omega : byte.toNat / 16 < 16),
        single _ (by omega : byte.toNat % 16 < 16), ih]
      omega

/-! ## Preimages -/

/-- Absorb one tagged, length-prefixed, presence-flagged field. -/
def put (tag : String) (value : Option (List UInt8)) : List UInt8 :=
  bigEndian 8 (utf8 tag).length ++ (utf8 tag ++
    match value with
    | none => [0]
    | some bytes => 1 :: (bigEndian 8 bytes.length ++ bytes))

def rowDomain : String := "oppen.ledger.row.v1"

def genesisDomain : String := "oppen.ledger.genesis.v1"

def payloadDomain : String := "oppen.ledger.payload.v1"

/-- Everything a chained row commits to. -/
structure RowHashInput where
  prevHash : String
  seq : Nat
  kind : String
  tsMs : Int64
  agentId : Option String
  payloadHash : String
  snapshotId : Option String
  snapshotHash : Option String
  deriving DecidableEq, Repr

/-- The bytes absorbed for a row. -/
def rowPreimage (input : RowHashInput) : List UInt8 :=
  utf8 rowDomain ++ (put "prev" (some (utf8 input.prevHash)) ++
    (put "seq" (some (bigEndian 8 input.seq)) ++
    (put "kind" (some (utf8 input.kind)) ++
    (put "ts_ms" (some (bigEndian 8 input.tsMs.toUInt64.toNat)) ++
    (put "agent_id" (input.agentId.map utf8) ++
    (put "payload_hash" (some (utf8 input.payloadHash)) ++
    (put "snapshot_id" (input.snapshotId.map utf8) ++
    put "snapshot_hash" (input.snapshotHash.map utf8))))))))

/-- The bytes absorbed for a payload. -/
def payloadPreimage (canonical : List UInt8) : List UInt8 :=
  utf8 payloadDomain ++ put "payload" (some canonical)

section Digests

variable (lib : Libraries)

/-- The hash the first row's `prev_hash` must equal. -/
def genesisHash (network : Network) : String :=
  hexEncode (lib.keccak256 (utf8 genesisDomain ++ put "network" (some (utf8 (networkKey network)))))

/-- Hash of a payload's bytes. -/
def payloadHash (canonical : List UInt8) : String :=
  hexEncode (lib.keccak256 (payloadPreimage canonical))

/-- A row's chain hash. -/
def rowHash (input : RowHashInput) : String :=
  hexEncode (lib.keccak256 (rowPreimage input))

end Digests

/-! ## The framing determines the fields -/

/-- Byte strings whose length a `u64` holds. -/
def Fits (bytes : List UInt8) : Prop := bytes.length < 256 ^ 8

/-- A field of the preimage is told where it ends by its length, and a missing one by its tag. -/
theorem selfDelimiting_put (tag : String) :
    SelfDelimiting {value : Option (List UInt8) | ∀ bytes ∈ value, Fits bytes} (put tag) := by
  have framed : SelfDelimiting {bytes : List UInt8 | bytes.length ∈ {size | size < 256 ^ 8}}
      (fun bytes => bigEndian 8 bytes.length ++ bytes) :=
    (selfDelimiting_bigEndian 8).lengthPrefixed
  have distinct : (0 : UInt8) ≠ 1 := by decide
  have flagged := ((framed.option distinct).const_append (utf8 tag)).const_append
    (bigEndian 8 (utf8 tag).length)
  intro first inFirst second inSecond left right same
  refine flagged inFirst inSecond ?_
  cases first <;> cases second <;> exact same

/-- Every text of the input has a length a `u64` holds, and so has the row's position. -/
def RowHashInput.Fits (input : RowHashInput) : Prop :=
  Ledger.Fits (utf8 input.prevHash) ∧ input.seq < 256 ^ 8 ∧ Ledger.Fits (utf8 input.kind) ∧
    (∀ text ∈ input.agentId, Ledger.Fits (utf8 text)) ∧ Ledger.Fits (utf8 input.payloadHash) ∧
    (∀ text ∈ input.snapshotId, Ledger.Fits (utf8 text)) ∧
    (∀ text ∈ input.snapshotHash, Ledger.Fits (utf8 text))

theorem fits_some {bytes : List UInt8} (small : Fits bytes) :
    ∀ inner ∈ some bytes, Fits inner := by
  rintro inner ⟨⟩
  exact small

/-- A text that fits does so as bytes. -/
theorem fits_map {text : Option String} (small : ∀ inner ∈ text, Fits (utf8 inner)) :
    ∀ bytes ∈ text.map utf8, Fits bytes := by
  cases text with
  | none => rintro bytes ⟨⟩
  | some inner => exact fits_some (small inner rfl)

theorem fits_bigEndian (number : Nat) : Fits (bigEndian 8 number) := by
  rw [Fits, length_bigEndian]
  decide

/-- A signed number is told apart by its bits. -/
theorem toUInt64_injective : Function.Injective Int64.toUInt64 := by
  rintro ⟨first⟩ ⟨second⟩ same
  exact congrArg Int64.ofUInt64 same

/-- **The header encoding is injective.** -/
theorem rowPreimage_injOn : Set.InjOn rowPreimage {input | input.Fits} := by
  intro first inFirst second inSecond same
  obtain ⟨prev, seq, kind, agent, payload, snapshotId, snapshotHash⟩ := inFirst
  obtain ⟨prev', seq', kind', agent', payload', snapshotId', snapshotHash'⟩ := inSecond
  have rest := List.append_cancel_left same
  obtain ⟨prevs, rest⟩ := selfDelimiting_put "prev" (fits_some prev) (fits_some prev') rest
  obtain ⟨seqs, rest⟩ := selfDelimiting_put "seq" (fits_some (fits_bigEndian _))
    (fits_some (fits_bigEndian _)) rest
  obtain ⟨kinds, rest⟩ := selfDelimiting_put "kind" (fits_some kind) (fits_some kind') rest
  obtain ⟨times, rest⟩ := selfDelimiting_put "ts_ms" (fits_some (fits_bigEndian _))
    (fits_some (fits_bigEndian _)) rest
  obtain ⟨agents, rest⟩ := selfDelimiting_put "agent_id" (fits_map agent) (fits_map agent') rest
  obtain ⟨payloads, rest⟩ := selfDelimiting_put "payload_hash" (fits_some payload)
    (fits_some payload') rest
  obtain ⟨ids, rest⟩ := selfDelimiting_put "snapshot_id" (fits_map snapshotId)
    (fits_map snapshotId') rest
  have hashes := (selfDelimiting_put "snapshot_hash").injOn (fits_map snapshotHash)
    (fits_map snapshotHash') rest
  have optional := Option.map_injective utf8_injective
  have moments : first.tsMs = second.tsMs := by
    have words := bigEndian_injOn 8 first.tsMs.toUInt64.toNat_lt second.tsMs.toUInt64.toNat_lt
      (Option.some.inj times)
    exact toUInt64_injective (UInt64.toNat_inj.mp words)
  have positions := bigEndian_injOn 8 seq seq' (Option.some.inj seqs)
  cases first
  cases second
  simp only [RowHashInput.mk.injEq]
  exact ⟨utf8_injective (Option.some.inj prevs), positions, utf8_injective (Option.some.inj kinds),
    moments, optional agents, utf8_injective (Option.some.inj payloads), optional ids,
    optional hashes⟩

/-- Payloads that fit are told apart by their preimage. -/
theorem payloadPreimage_injOn : Set.InjOn payloadPreimage {bytes | Fits bytes} := by
  intro first inFirst second inSecond same
  exact Option.some.inj ((selfDelimiting_put "payload").injOn (fits_some inFirst)
    (fits_some inSecond) (List.append_cancel_left same))

section Injective

variable {lib : Libraries} (collisionFree : Function.Injective lib.keccak256)

include collisionFree

/-- Rows that fit are told apart by their hash, since the hash collides for no two preimages. -/
theorem rowHash_injOn : Set.InjOn (rowHash lib) {input | input.Fits} := by
  intro first inFirst second inSecond same
  exact rowPreimage_injOn inFirst inSecond (collisionFree (hexEncode_injective same))

/-- Payloads that fit are told apart by their hash. -/
theorem payloadHash_injOn : Set.InjOn (payloadHash lib) {bytes | Fits bytes} := by
  intro first inFirst second inSecond same
  exact payloadPreimage_injOn inFirst inSecond (collisionFree (hexEncode_injective same))

end Injective

end Oppen.Ledger
