import Oppen.Foundation.Framing
import Oppen.Ledger.Identity

/-! # The signing preimage of an action

An action is hashed as its MessagePack bytes followed by the nonce, the vault marker
and an optional expiry. The parts after the action carry no length, so what makes the
preimage unambiguous is that each of them is read off the front in one way only.
-/

namespace Oppen.Signing

open Foundation Oppen.Ledger

/-! ## Actions -/

/-- A price or size already in wire form. -/
structure WireFloat where
  text : String
  deriving DecidableEq

inductive Tif where
  | alo
  | ioc
  | gtc
  deriving DecidableEq

inductive Tpsl where
  | tp
  | sl
  deriving DecidableEq

inductive Grouping where
  | na
  | normalTpsl
  | positionTpsl
  deriving DecidableEq

inductive OrderType where
  | limit (tif : Tif)
  | trigger (isMarket : Bool) (triggerPx : WireFloat) (tpsl : Tpsl)
  deriving DecidableEq

/-- One order as it is packed for signing. -/
structure OrderWire where
  a : UInt32
  b : Bool
  p : WireFloat
  s : WireFloat
  r : Bool
  t : OrderType
  c : Option Cloid
  deriving DecidableEq

structure BuilderInfo where
  b : Address
  f : UInt64
  deriving DecidableEq

structure CancelWire where
  a : UInt32
  o : UInt64
  deriving DecidableEq

structure CancelByCloidWire where
  asset : UInt32
  cloid : Cloid
  deriving DecidableEq

/-- The L1 actions an agent wallet signs. -/
inductive Action where
  | order (orders : List OrderWire) (grouping : Grouping) (builder : Option BuilderInfo)
  | cancel (cancels : List CancelWire)
  | cancelByCloid (cancels : List CancelByCloidWire)
  | scheduleCancel (time : Option UInt64)
  | updateLeverage (asset : UInt32) (isCross : Bool) (leverage : UInt32)
  | updateIsolatedMargin (asset : UInt32) (isBuy : Bool) (ntli : Int64)
  | createSubAccount (name : String)
  | subAccountTransfer (subAccountUser : Address) (isDeposit : Bool) (usd : UInt64)
  | claimRewards
  deriving DecidableEq

/-! ## The preimage -/

/-- The vault marker: `0x00`, or `0x01` and the address. -/
def vaultMarker : Option Address → List UInt8
  | none => [0x00]
  | some vault => 0x01 :: vault.bytes

/-- The expiry, absent or after a zero byte. -/
def expiryMarker : Option UInt64 → List UInt8
  | none => []
  | some expires => 0x00 :: bigEndian 8 expires.toNat

/-- What `action_hash` feeds to the hash function. -/
def preimage (actionMsgpack : List UInt8) (nonce : UInt64) (vaultAddress : Option Address)
    (expiresAfter : Option UInt64) : List UInt8 :=
  actionMsgpack ++ bigEndian 8 nonce.toNat ++ vaultMarker vaultAddress ++ expiryMarker expiresAfter

/-- `action_hash`. -/
def actionHash (keccak256 : List UInt8 → List UInt8) (actionMsgpack : List UInt8) (nonce : UInt64)
    (vaultAddress : Option Address) (expiresAfter : Option UInt64) : List UInt8 :=
  keccak256 (preimage actionMsgpack nonce vaultAddress expiresAfter)

/-- What the signing uses of `rmp_serde` and `sha3`. Neither is under this repository, so what the
result needs of them is asked for by name. -/
structure Codec where
  /-- `rmp_serde::to_vec_named`, with `none` for an error. -/
  toMsgpack : Action → Option (List UInt8)
  /-- `Keccak256` of a byte string. -/
  keccak256 : List UInt8 → List UInt8

/-- The hash an action is signed under, when the action serialises. -/
def Codec.connectionId (codec : Codec) (action : Action) (nonce : UInt64)
    (vaultAddress : Option Address) (expiresAfter : Option UInt64) : Option (List UInt8) :=
  (codec.toMsgpack action).map fun bytes =>
    actionHash codec.keccak256 bytes nonce vaultAddress expiresAfter

/-- Two actions with one encoding are one action. -/
def Codec.Injective (codec : Codec) : Prop :=
  ∀ first second bytes, codec.toMsgpack first = some bytes →
    codec.toMsgpack second = some bytes → first = second

/-- No encoding is a proper prefix of another. -/
def Codec.PrefixFree (codec : Codec) : Prop :=
  ∀ first second bytes bytes', codec.toMsgpack first = some bytes →
    codec.toMsgpack second = some bytes' → bytes <+: bytes' → bytes = bytes'

/-- A nonce is eight bytes wide. -/
theorem selfDelimiting_nonce :
    SelfDelimiting Set.univ (fun nonce : UInt64 => bigEndian 8 nonce.toNat) := by
  intro first _ second _ left right same
  have bound (nonce : UInt64) : nonce.toNat ∈ {number | number < 256 ^ 8} := nonce.toNat_lt
  obtain ⟨numbers, rest⟩ := selfDelimiting_bigEndian 8 (bound first) (bound second) same
  exact ⟨UInt64.toNat_inj.mp numbers, rest⟩

/-- The marker of a vault tells whether an address follows. -/
theorem selfDelimiting_vaultMarker : SelfDelimiting Set.univ vaultMarker := by
  have bytes : SelfDelimiting Set.univ Address.bytes := by
    refine .of_length 20 Address.length fun first _ second _ same => ?_
    cases first
    cases second
    cases same
    rfl
  have framed := bytes.option (show (0x00 : UInt8) ≠ 0x01 by decide)
  intro first _ second _ left right same
  refine framed (fun _ _ => trivial) (fun _ _ => trivial) (?_ : _ = _)
  cases first <;> cases second <;> exact same

/-- The expiry ends the preimage, so its presence is told by the bytes being there. -/
theorem expiryMarker_injective : Function.Injective expiryMarker := by
  intro first second same
  cases first with
  | none =>
      cases second with
      | none => rfl
      | some expires => cases same
  | some expires =>
      cases second with
      | none => cases same
      | some expires' =>
          have bytes := (List.cons.inj same).2
          have padded : bigEndian 8 expires.toNat ++ [] = bigEndian 8 expires'.toNat ++ [] := by
            rw [bytes]
          rw [(selfDelimiting_nonce trivial trivial padded).1]

/-- Two encodings that begin the same bytes are one encoding, and so is what follows. -/
theorem Codec.PrefixFree.split {codec : Codec} (prefixFree : codec.PrefixFree)
    {first second : Action} {bytes bytes' left right : List UInt8}
    (encoded : codec.toMsgpack first = some bytes) (encoded' : codec.toMsgpack second = some bytes')
    (same : bytes ++ left = bytes' ++ right) : bytes = bytes' ∧ left = right := by
  have equal : bytes = bytes' := by
    rcases List.prefix_or_prefix_of_prefix (List.prefix_append bytes left)
        (same ▸ List.prefix_append bytes' right) with shorter | longer
    · exact prefixFree first second bytes bytes' encoded encoded' shorter
    · exact (prefixFree second first bytes' bytes encoded' encoded longer).symm
  subst equal
  exact ⟨rfl, List.append_cancel_left same⟩

/-- **The signing preimage is injective.** Two requests that are signed under one hash are the same
action with the same nonce, vault and expiry. The encoder is asked to be injective and without
proper prefixes, and the hash to collide for no two inputs; the layout behind them is what is
proved. -/
theorem connectionId_injective (codec : Codec) (injective : codec.Injective)
    (prefixFree : codec.PrefixFree) (collisionFree : Function.Injective codec.keccak256)
    {first second : Action} {nonce nonce' : UInt64} {vaultAddress vaultAddress' : Option Address}
    {expiresAfter expiresAfter' : Option UInt64} {hash : List UInt8}
    (signed : codec.connectionId first nonce vaultAddress expiresAfter = some hash)
    (signed' : codec.connectionId second nonce' vaultAddress' expiresAfter' = some hash) :
    first = second ∧ nonce = nonce' ∧ vaultAddress = vaultAddress' ∧
      expiresAfter = expiresAfter' := by
  obtain ⟨bytes, encoded, hashed⟩ := Option.map_eq_some_iff.mp signed
  obtain ⟨bytes', encoded', hashed'⟩ := Option.map_eq_some_iff.mp signed'
  have same := collisionFree (hashed.trans hashed'.symm)
  simp only [preimage, List.append_assoc] at same
  obtain ⟨rfl, tail⟩ := prefixFree.split encoded encoded' same
  obtain ⟨nonces, tail⟩ := selfDelimiting_nonce trivial trivial tail
  obtain ⟨vaults, expiries⟩ := selfDelimiting_vaultMarker trivial trivial tail
  exact ⟨injective first second bytes encoded encoded', nonces, vaults,
    expiryMarker_injective expiries⟩

namespace TwoActions

/-- The MessagePack bytes of an action whose only member is its type. -/
def tagged (name : String) : List UInt8 :=
  [0x81, 0xa4] ++ utf8 "type" ++ [UInt8.ofNat (0xa0 + (utf8 name).length)] ++ utf8 name

/-- An encoder for the two actions without other members; no bytes are hashed. -/
def codec : Codec where
  toMsgpack
    | .claimRewards => some (tagged "claimRewards")
    | .scheduleCancel none => some (tagged "scheduleCancel")
    | _ => none
  keccak256 := id

/-- What could be packed is one of the two actions that have no field of their own. -/
theorem toMsgpack_some {action : Action} {bytes : List UInt8}
    (encoded : codec.toMsgpack action = some bytes) :
    action = .claimRewards ∧ bytes = tagged "claimRewards" ∨
      action = .scheduleCancel none ∧ bytes = tagged "scheduleCancel" := by
  cases action with
  | claimRewards => exact .inl ⟨rfl, (Option.some.inj encoded).symm⟩
  | scheduleCancel time =>
      cases time with
      | none => exact .inr ⟨rfl, (Option.some.inj encoded).symm⟩
      | some _ => cases encoded
  | _ => cases encoded

/-- The codec of the sample tells its actions apart. -/
theorem injective : codec.Injective := by
  intro first second bytes encoded encoded'
  have distinct : tagged "claimRewards" ≠ tagged "scheduleCancel" := by decide +kernel
  rcases toMsgpack_some encoded with ⟨rfl, rfl⟩ | ⟨rfl, rfl⟩ <;>
    rcases toMsgpack_some encoded' with ⟨rfl, same⟩ | ⟨rfl, same⟩
  · rfl
  · exact absurd same distinct
  · exact absurd same.symm distinct
  · rfl

/-- No action of the sample is packed as the beginning of another. -/
theorem prefixFree : codec.PrefixFree := by
  intro first second bytes bytes' encoded encoded' within
  rcases toMsgpack_some encoded with ⟨_, rfl⟩ | ⟨_, rfl⟩ <;>
    rcases toMsgpack_some encoded' with ⟨_, rfl⟩ | ⟨_, rfl⟩
  · rfl
  · exact absurd within (by decide +kernel)
  · exact absurd within (by decide +kernel)
  · rfl

/-- An expiry is not mistaken for part of a vault, nor a nonce for another. -/
theorem requests_differ :
    codec.connectionId .claimRewards 0 none (some 1) ≠
      codec.connectionId .claimRewards 0 (some .zero) none ∧
    codec.connectionId (.scheduleCancel none) 1 none none ≠
      codec.connectionId (.scheduleCancel none) 2 none none := by
  constructor
  · intro same
    have signed : codec.connectionId .claimRewards 0 none (some 1) =
        some (actionHash id (tagged "claimRewards") 0 none (some 1)) := rfl
    obtain ⟨_, _, vaults, _⟩ := connectionId_injective codec injective prefixFree
      Function.injective_id signed (same.symm.trans signed)
    cases vaults
  · intro same
    have signed : codec.connectionId (.scheduleCancel none) 1 none none =
        some (actionHash id (tagged "scheduleCancel") 1 none none) := rfl
    obtain ⟨_, nonces, _, _⟩ := connectionId_injective codec injective prefixFree
      Function.injective_id signed (same.symm.trans signed)
    exact absurd nonces (by decide)

end TwoActions

end Oppen.Signing
