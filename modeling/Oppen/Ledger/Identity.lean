import Oppen.Ledger.Hash

/-! # Addresses, client order ids and record layouts

The identities that appear inside stored payloads, with the text they are written
as, and the field-by-field layout of the structs kept there.
-/

namespace Oppen.Ledger

open Oppen.Json

/-! ## Addresses -/

/-- `hex::decode`. -/
def hexDecode : List Char → Option (List UInt8)
  | [] => some []
  | [_] => none
  | high :: low :: rest => do
      let high ← hexValue high
      let low ← hexValue low
      let bytes ← hexDecode rest
      some (UInt8.ofNat (high * 16 + low) :: bytes)

/-- `oppen_hl::Address`: twenty bytes. -/
structure Address where
  bytes : List UInt8
  length : bytes.length = 20
  deriving DecidableEq

/-- `Address::ZERO`. -/
def Address.zero : Address := ⟨List.replicate 20 0, rfl⟩

/-- An address of one byte throughout. -/
def Address.filled (byte : UInt8) : Address := ⟨List.replicate 20 byte, List.length_replicate⟩

/-- Always rendered as lowercase hex after `0x`. -/
def Address.display (address : Address) : String := "0x" ++ hexEncode address.bytes

/-- `Address::parse`: forty hex digits of any case, with or without `0x`. -/
def Address.parse (text : String) : Option Address :=
  let digits := match text.toList with
    | '0' :: 'x' :: rest => rest
    | chars => chars
  match hexDecode digits with
  | some bytes => if length : bytes.length = 20 then some ⟨bytes, length⟩ else none
  | none => none

def Address.toValue (address : Address) : Value := .string address.display

/-- `Address` read from JSON: a string that parses. -/
def Address.ofValue (value : Value) : Option Address := value.asStr.bind Address.parse

/-- Bytes are read back from their hexadecimal text. -/
theorem hexDecode_hexEncode (bytes : List UInt8) :
    hexDecode (hexEncode bytes).toList = some bytes := by
  rw [hexEncode, String.toList_ofList]
  induction bytes with
  | nil => rfl
  | cons byte rest ih =>
      have bound := byte.toNat_lt
      have high := hexValue_digitChar (byte.toNat / 16) (by omega)
      have low := hexValue_digitChar (byte.toNat % 16) (by omega)
      have whole : byte.toNat / 16 * 16 + byte.toNat % 16 = byte.toNat := by omega
      simp only [List.flatMap_cons, List.cons_append, List.nil_append, hexDecode, high, low, ih,
        Option.bind_eq_bind, Option.bind_some, whole, UInt8.ofNat_toNat]

/-- No address is displayed as the empty text. -/
theorem Address.display_ne_empty (address : Address) : address.display ≠ "" := by
  intro empty
  have chars := congrArg String.toList empty
  rw [display, String.toList_append] at chars
  cases chars

@[simp] theorem Address.parse_display (address : Address) :
    Address.parse address.display = some address := by
  have prefixed : address.display.toList = '0' :: 'x' :: (hexEncode address.bytes).toList := by
    rw [display, String.toList_append]
    rfl
  simp only [parse, prefixed, hexDecode_hexEncode, address.length, dif_pos]

@[simp] theorem Address.ofValue_toValue (address : Address) :
    Address.ofValue address.toValue = some address :=
  Address.parse_display address

/-- Each address has a display of its own. -/
theorem Address.display_injective : Function.Injective Address.display := by
  intro first second same
  have parsed := congrArg Address.parse same
  simpa only [parse_display, Option.some.injEq] using parsed

/-! ## Client order ids -/

/-- The canonical form of a client order id: `0x` and 32 hex digits, in lower case. -/
def normalizeCloid (text : String) : Option String :=
  match text.toList with
  | '0' :: 'x' :: digits =>
      if digits.length = 32 ∧ digits.all (fun digit => (hexValue digit).isSome) = true then
        some (String.ofList ('0' :: 'x' :: digits.map Char.toLower))
      else none
  | _ => none

/-- A hexadecimal digit stays one in lower case, and lowering it twice is lowering it once. -/
theorem toLower_hex {digit : Char} (hex : (hexValue digit).isSome = true) :
    (hexValue digit.toLower).isSome = true ∧ digit.toLower.toLower = digit.toLower := by
  have small : digit.toNat < 103 := by
    by_contra large
    have after (other : Char) (small : other.toNat < 103) : ¬ digit ≤ other := by
      intro below
      have codes : digit.toNat ≤ other.toNat := below
      omega
    have none : hexValue digit = none := by
      simp only [hexValue, after '9' (by decide), after 'f' (by decide), after 'F' (by decide),
        and_false, if_false]
    rw [none] at hex
    cases hex
  have all : ∀ code < 103, (hexValue (Char.ofNat code)).isSome = true →
      (hexValue (Char.ofNat code).toLower).isSome = true ∧
        (Char.ofNat code).toLower.toLower = (Char.ofNat code).toLower := by decide
  have here := all digit.toNat small
  rw [Char.ofNat_toNat] at here
  exact here hex

/-- A normal order id is its own normal form. -/
theorem normalizeCloid_idem {text canonical : String}
    (normal : normalizeCloid text = some canonical) :
    normalizeCloid canonical = some canonical := by
  unfold normalizeCloid at normal
  split at normal
  · rename_i digits same
    split at normal
    · rename_i wellFormed
      obtain ⟨width, hex⟩ := wellFormed
      cases normal
      rw [List.all_eq_true] at hex
      have lower : (digits.map Char.toLower).map Char.toLower = digits.map Char.toLower := by
        rw [List.map_map]
        exact List.map_congr_left fun digit member => (toLower_hex (hex digit member)).2
      have kept : (digits.map Char.toLower).all (fun digit => (hexValue digit).isSome) = true := by
        rw [List.all_eq_true]
        intro digit member
        obtain ⟨held, inside, rfl⟩ := List.mem_map.mp member
        exact (toLower_hex (hex held inside)).1
      simp only [normalizeCloid, String.toList_ofList, List.length_map, width,
        kept, lower, and_self,
        if_true]
    · cases normal
  · cases normal

/-- `wire::Cloid`: a client order id in canonical form. -/
structure Cloid where
  text : String
  canonical : normalizeCloid text = some text
  deriving DecidableEq

/-- `Cloid::parse`. -/
def Cloid.parse (text : String) : Option Cloid :=
  match normal : normalizeCloid text with
  | some canonical => some ⟨canonical, normalizeCloid_idem normal⟩
  | none => none

def Cloid.toValue (cloid : Cloid) : Value := .string cloid.text

/-- `Cloid` read from JSON: a string that parses. -/
def Cloid.ofValue (value : Value) : Option Cloid := value.asStr.bind Cloid.parse

@[simp] theorem Cloid.parse_text (cloid : Cloid) : Cloid.parse cloid.text = some cloid := by
  unfold parse
  split
  · rename_i canonical normal
    have same : cloid.text = canonical := by
      rw [cloid.canonical] at normal
      exact Option.some.inj normal
    cases cloid
    subst same
    rfl
  · rename_i absent
    rw [cloid.canonical] at absent
    cases absent

@[simp] theorem Cloid.ofValue_toValue (cloid : Cloid) :
    Cloid.ofValue cloid.toValue = some cloid :=
  Cloid.parse_text cloid

/-! ## Record layouts -/

/-- A network read from JSON. -/
def Network.ofValue (value : Value) : Option Network :=
  match value.asStr with
  | some "testnet" => some .testnet
  | some "mainnet" => some .mainnet
  | _ => none

def Network.toValue (network : Network) : Value := .string (networkKey network)

@[simp] theorem Network.ofValue_toValue (network : Network) :
    Network.ofValue network.toValue = some network := by
  cases network <;> rfl

/-- Every member of the object is one of the names (`deny_unknown_fields`). -/
def knownFields (names : List String) : Fields → Bool
  | .nil => true
  | .cons key _ rest => decide (key ∈ names) && knownFields names rest

/-- The fields of a struct that refuses unknown ones, in order: from an object with exactly
those members or from an array of that length. -/
def structFields (names : List String) : Value → Option (List Value)
  | .object fields => if knownFields names fields then names.mapM fields.lookup else none
  | .array items => if items.toList.length = names.length then some items.toList else none
  | _ => none

/-- `Option<String>` read from JSON. -/
def optionText : Value → Option (Option String)
  | .null => some none
  | .string text => some (some text)
  | _ => none

end Oppen.Ledger
