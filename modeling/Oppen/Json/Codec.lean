import Mathlib.Data.String.Basic
import Oppen.Ledger.Identity

/-! # Typed JSON

How a type is written as a value and read back from it, whatever the order its members
were stored in. A codec carries the proof that what fits is read back; codecs of structs,
enums, lists and maps are put together from the codecs of their parts.
-/

namespace Oppen.Json

open Oppen.Ledger

/-! ## Sorting keeps what a reader looks at -/

/-- A placed field nests no deeper than it and the others do. -/
theorem nesting_placeField_le (key : String) (value : Value) : ∀ fields : Fields,
    (placeField key value fields).nesting ≤ max value.nesting fields.nesting
  | .nil => le_rfl
  | .cons held inner rest => by
      have ih := nesting_placeField_le key value rest
      unfold placeField
      split
      · exact le_rfl
      · split
        · exact le_max_right _ _
        · simp only [Fields.nesting]
          omega

mutual

/-- Sorting a value does not nest it deeper. -/
theorem nesting_sortedValue_le : ∀ value : Value, (sortedValue value).nesting ≤ value.nesting
  | .null | .bool _ | .number _ | .string _ => le_rfl
  | .array items => Nat.succ_le_succ (nesting_sortedValues_le items)
  | .object fields => Nat.succ_le_succ (nesting_sortedFields_le fields)

theorem nesting_sortedValues_le : ∀ items : Values, (sortedValues items).nesting ≤ items.nesting
  | .nil => le_rfl
  | .cons head rest => max_le_max (nesting_sortedValue_le head) (nesting_sortedValues_le rest)

theorem nesting_sortedFields_le : ∀ fields : Fields,
    (sortedFields fields).nesting ≤ fields.nesting
  | .nil => le_rfl
  | .cons key value rest =>
      (nesting_placeField_le key (sortedValue value) (sortedFields rest)).trans
        (max_le_max (nesting_sortedValue_le value) (nesting_sortedFields_le rest))

end

/-- Placing a field adds its own key to those that must be known. -/
theorem knownFields_placeField (names : List String) (key : String) (value : Value) :
    ∀ fields : Fields, knownFields names (placeField key value fields) =
      (decide (key ∈ names) && knownFields names fields)
  | .nil => rfl
  | .cons held inner rest => by
      have ih := knownFields_placeField names key value rest
      unfold placeField
      split
      · rfl
      · split
        · rename_i same
          subst same
          simp only [knownFields, ← Bool.and_assoc, Bool.and_self]
        · simp only [knownFields, ih, Bool.and_left_comm]

/-- Sorting fields keeps which keys are known. -/
theorem knownFields_sortedFields (names : List String) : ∀ fields : Fields,
    knownFields names (sortedFields fields) = knownFields names fields
  | .nil => rfl
  | .cons key value rest => by
      rw [sortedFields, knownFields_placeField, knownFields_sortedFields names rest, knownFields]

/-- Sorting a list sorts each of its items. -/
theorem sortedValues_ofList (values : List Value) :
    sortedValues (.ofList values) = .ofList (values.map sortedValue) := by
  induction values with
  | nil => rfl
  | cons value rest ih =>
      rw [List.map_cons, Values.ofList, Values.ofList, sortedValues, ih]

/-- A list of values is read back from the one that was built. -/
theorem toList_ofList (values : List Value) : (Values.ofList values).toList = values := by
  induction values with
  | nil => rfl
  | cons value rest ih => rw [Values.ofList, Values.toList, ih]

/-- A list nests no deeper than its items do. -/
theorem nesting_ofList_le {depth : Nat} {values : List Value}
    (shallow : ∀ value ∈ values, value.nesting ≤ depth) :
    (Values.ofList values).nesting ≤ depth := by
  induction values with
  | nil => exact Nat.zero_le depth
  | cons value rest ih =>
      exact max_le (shallow value List.mem_cons_self)
        (ih fun other member => shallow other (List.mem_cons_of_mem _ member))

/-- An object nests one deeper than its members at most. -/
theorem nesting_ofFields_le {depth : Nat} {members : List (String × Value)}
    (shallow : ∀ member ∈ members, member.2.nesting ≤ depth) :
    (Value.ofFields members).nesting ≤ depth + 1 := by
  refine Nat.succ_le_succ ?_
  induction members with
  | nil => exact Nat.zero_le depth
  | cons member rest ih =>
      exact max_le (shallow member List.mem_cons_self)
        (ih fun other inside => shallow other (List.mem_cons_of_mem _ inside))

/-- Reading back a list that was written item by item. -/
theorem mapM_map_some {α β : Type} {write : α → β} {read : β → Option α} {items : List α}
    (same : ∀ item ∈ items, read (write item) = some item) :
    (items.map write).mapM read = some items := by
  induction items with
  | nil => rfl
  | cons item rest ih =>
      rw [List.map_cons, List.mapM_cons, same item List.mem_cons_self,
        ih fun other member => same other (List.mem_cons_of_mem _ member)]
      rfl

/-! ## Codecs -/

/-- How a type is written as a value and read back. What fits is read back from its sorted
value; no value nests deeper than `depth`, and none is null. -/
structure Codec (α : Type) where
  toValue : α → Value
  ofValue : Value → Option α
  Fits : α → Prop
  depth : Nat
  ofValue_sorted : ∀ {item}, Fits item → ofValue (sortedValue (toValue item)) = some item
  nesting_le : ∀ item, (toValue item).nesting ≤ depth
  ne_null : ∀ item, sortedValue (toValue item) ≠ .null

namespace Codec

variable {α β : Type}

/-- What a codec writes nests no deeper than the codec's own depth. -/
theorem nesting_sorted_le (codec : Codec α) (item : α) :
    (sortedValue (codec.toValue item)).nesting ≤ codec.depth :=
  (nesting_sortedValue_le _).trans (codec.nesting_le item)

def text : Codec String where
  toValue := .string
  ofValue := Value.asStr
  Fits _ := True
  depth := 0
  ofValue_sorted _ := rfl
  nesting_le _ := le_rfl
  ne_null _ := nofun

def bool : Codec Bool where
  toValue := .bool
  ofValue := Value.asBool
  Fits _ := True
  depth := 0
  ofValue_sorted _ := rfl
  nesting_le _ := le_rfl
  ne_null _ := nofun

/-- A `u64` kept as a number without a bound of its own. -/
def natural : Codec Nat where
  toValue number := .ofInt number
  ofValue := Value.asU64
  Fits number := number < 2 ^ 64
  depth := 0
  ofValue_sorted small := Value.asU64_ofInt small
  nesting_le _ := le_rfl
  ne_null _ := nofun

/-- Another type written as this one; what does not read fails. -/
def via (codec : Codec β) (write : α → β) (read : β → Option α) : Codec α where
  toValue item := codec.toValue (write item)
  ofValue value := (codec.ofValue value).bind read
  Fits item := codec.Fits (write item) ∧ read (write item) = some item
  depth := codec.depth
  ofValue_sorted fits := by rw [codec.ofValue_sorted fits.1, Option.bind_some, fits.2]
  nesting_le item := codec.nesting_le (write item)
  ne_null item := codec.ne_null (write item)

/-- Another type with the same values. -/
def as (codec : Codec β) (write : α → β) (read : β → α) (same : ∀ item, read (write item) = item) :
    Codec α where
  toValue item := codec.toValue (write item)
  ofValue value := (codec.ofValue value).map read
  Fits item := codec.Fits (write item)
  depth := codec.depth
  ofValue_sorted fits := by rw [codec.ofValue_sorted fits, Option.map_some, same]
  nesting_le item := codec.nesting_le (write item)
  ne_null item := codec.ne_null (write item)

def u64 : Codec UInt64 where
  toValue number := .ofInt number.toNat
  ofValue value := value.asU64.map UInt64.ofNat
  Fits _ := True
  depth := 0
  ofValue_sorted {number} _ := by
    rw [sortedValue_ofInt, Value.asU64_ofInt number.toNat_lt, Option.map_some, UInt64.ofNat_toNat]
  nesting_le _ := le_rfl
  ne_null _ := nofun

def u32 : Codec UInt32 where
  toValue number := .ofInt number.toNat
  ofValue value := (value.asU64.filter (· < 2 ^ 32)).map UInt32.ofNat
  Fits _ := True
  depth := 0
  ofValue_sorted {number} _ := by
    have small := number.toNat_lt
    have kept : (some number.toNat).filter (· < 2 ^ 32) = some number.toNat :=
      if_pos (decide_eq_true small)
    rw [sortedValue_ofInt, Value.asU64_ofInt (by omega), kept, Option.map_some,
      UInt32.ofNat_toNat]
  nesting_le _ := le_rfl
  ne_null _ := nofun

/-- A unit enum, by the texts of its variants. -/
def named (asStr : α → String) (ofStr : String → Option α)
    (same : ∀ item, ofStr (asStr item) = some item) : Codec α where
  toValue item := .string (asStr item)
  ofValue value := value.asStr.bind ofStr
  Fits _ := True
  depth := 0
  ofValue_sorted {item} _ := same item
  nesting_le _ := le_rfl
  ne_null _ := nofun

def list (codec : Codec α) : Codec (List α) where
  toValue items := .array (.ofList (items.map codec.toValue))
  ofValue
    | .array items => items.toList.mapM codec.ofValue
    | _ => none
  Fits items := ∀ item ∈ items, codec.Fits item
  depth := codec.depth + 1
  ofValue_sorted {items} fits := by
    rw [sortedValue, sortedValues_ofList, List.map_map]
    change (Values.ofList _).toList.mapM codec.ofValue = some items
    rw [toList_ofList]
    exact mapM_map_some fun item member => codec.ofValue_sorted (fits item member)
  nesting_le items := by
    refine Nat.succ_le_succ (nesting_ofList_le fun value member => ?_)
    obtain ⟨item, _, rfl⟩ := List.mem_map.mp member
    exact codec.nesting_le item
  ne_null _ := nofun

end Codec

/-! ## Maps -/

/-- Keep a pair where its key belongs in front of the later ones; a later pair of that key
stays. -/
def placeKey {α : Type} (key : String) (value : α) : List (String × α) → List (String × α)
  | [] => [(key, value)]
  | (name, held) :: rest =>
      if key < name then (key, value) :: (name, held) :: rest
      else if key = name then (name, held) :: rest
      else (name, held) :: placeKey key value rest

/-- The entries after a placing are the placed one and some of those before it. -/
theorem mem_placeKey {α : Type} {key : String} {value : α} {pair : String × α} :
    ∀ {entries : List (String × α)}, pair ∈ placeKey key value entries →
      pair = (key, value) ∨ pair ∈ entries
  | [], member => .inl (List.mem_singleton.mp member)
  | (name, held) :: rest, member => by
      unfold placeKey at member
      split at member
      · exact List.mem_cons.mp member
      · split at member
        · exact .inr member
        · rcases List.mem_cons.mp member with rfl | later
          · exact .inr List.mem_cons_self
          · exact (mem_placeKey later).imp_right (List.mem_cons_of_mem _)

/-- Placing an entry adds its key and no other. -/
theorem keys_placeKey {α : Type} {key name : String} {value : α} :
    ∀ {entries : List (String × α)}, name ∈ (placeKey key value entries).map Prod.fst ↔
      name = key ∨ name ∈ entries.map Prod.fst
  | [] => by rw [placeKey, List.map_singleton, List.mem_singleton, List.map_nil, or_iff_left
      List.not_mem_nil]
  | (first, held) :: rest => by
      unfold placeKey
      split
      · exact List.mem_cons
      · split
        · rename_i same
          rw [List.map_cons, List.mem_cons, ← same, or_self_left]
        · rw [List.map_cons, List.mem_cons, keys_placeKey, List.map_cons, List.mem_cons,
            or_left_comm]

/-- Placing an entry keeps the keys in ascending order. -/
theorem placeKey_sorted {α : Type} (key : String) (value : α) : ∀ entries : List (String × α),
    entries.Pairwise (fun first second => first.1 < second.1) →
      (placeKey key value entries).Pairwise fun first second => first.1 < second.1
  | [], _ => List.pairwise_singleton _ _
  | (name, held) :: rest, sorted => by
      obtain ⟨above, later⟩ := List.pairwise_cons.mp sorted
      unfold placeKey
      split
      · rename_i below
        refine List.pairwise_cons.mpr ⟨fun pair member => ?_, sorted⟩
        rcases List.mem_cons.mp member with rfl | inside
        · exact below
        · exact below.trans (above pair inside)
      · split
        · exact sorted
        · rename_i notBelow other
          refine List.pairwise_cons.mpr
            ⟨fun pair member => ?_, placeKey_sorted key value rest later⟩
          rcases mem_placeKey member with rfl | inside
          · exact lt_of_le_of_ne (not_lt.mp notBelow) (Ne.symm other)
          · exact above pair inside

/-- `BTreeMap<String, _>`: pairs in the order of their keys. -/
structure KeyMap (α : Type) where
  entries : List (String × α)
  sorted : entries.Pairwise fun first second => first.1 < second.1
  deriving DecidableEq

namespace KeyMap

variable {α β : Type}

def empty : KeyMap α := ⟨[], .nil⟩

def keys (held : KeyMap α) : List String := held.entries.map Prod.fst

def values (held : KeyMap α) : List α := held.entries.map Prod.snd

/-- `BTreeMap::get`. -/
def get (held : KeyMap α) (key : String) : Option α :=
  (held.entries.find? fun entry => entry.1 = key).map Prod.snd

/-- `BTreeMap::remove`. -/
def remove (held : KeyMap α) (key : String) : KeyMap α :=
  ⟨held.entries.filter fun entry => entry.1 ≠ key, held.sorted.filter _⟩

/-- The map with every value replaced by its image. -/
def map (write : α → β) (held : KeyMap α) : KeyMap β :=
  ⟨held.entries.map fun entry => (entry.1, write entry.2), List.pairwise_map.mpr held.sorted⟩

/-- Collected entries have ascending keys. -/
theorem collect_sorted : ∀ entries : List (String × α),
    (entries.foldr (fun entry held => placeKey entry.1 entry.2 held) []).Pairwise
      fun first second => first.1 < second.1
  | [] => .nil
  | entry :: rest => placeKey_sorted entry.1 entry.2 _ (collect_sorted rest)

/-- Pairs collected into a map; of two with one key the later counts. -/
def collect (entries : List (String × α)) : KeyMap α :=
  ⟨entries.foldr (fun entry held => placeKey entry.1 entry.2 held) [], collect_sorted entries⟩

/-- What was collected is one of the entries. -/
theorem mem_of_mem_collect {pair : String × α} : ∀ {entries : List (String × α)},
    pair ∈ (collect entries).entries → pair ∈ entries
  | _ :: _, member => (mem_placeKey member).elim (fun same => same ▸ List.mem_cons_self)
      fun later => List.mem_cons_of_mem _ (mem_of_mem_collect later)

/-- Every key is collected. -/
theorem keys_collect {name : String} : ∀ {entries : List (String × α)},
    name ∈ (collect entries).keys ↔ name ∈ entries.map Prod.fst
  | [] => Iff.rfl
  | _ :: _ => by
      rw [List.map_cons, List.mem_cons, ← keys_collect]
      exact keys_placeKey

/-- Entries in ascending order are collected as they are. -/
theorem foldr_placeKey : ∀ {entries : List (String × α)},
    entries.Pairwise (fun first second => first.1 < second.1) →
      entries.foldr (fun entry held => placeKey entry.1 entry.2 held) [] = entries
  | [], _ => rfl
  | entry :: rest, sorted => by
      obtain ⟨above, later⟩ := List.pairwise_cons.mp sorted
      rw [List.foldr_cons, foldr_placeKey later]
      cases rest with
      | nil => rfl
      | cons next rest => exact if_pos (above next List.mem_cons_self)

/-- A map is collected from its own entries. -/
theorem collect_entries (held : KeyMap α) : collect held.entries = held := by
  obtain ⟨entries, sorted⟩ := held
  exact KeyMap.mk.injEq .. ▸ foldr_placeKey sorted

end KeyMap

/-- The pairs of an object. -/
def Fields.toList : Fields → List (String × Value)
  | .nil => []
  | .cons key value rest => (key, value) :: rest.toList

/-- Members are read back from the fields that were built of them. -/
theorem Fields.toList_ofList (members : List (String × Value)) :
    (Fields.ofList members).toList = members := by
  induction members with
  | nil => rfl
  | cons member rest ih => rw [ofList, toList, ih]

/-- Members in the order of their keys stay in it. -/
theorem sortedFields_ofList : ∀ {members : List (String × Value)},
    members.Pairwise (fun first second => first.1 < second.1) →
      sortedFields (.ofList members) =
        .ofList (members.map fun member => (member.1, sortedValue member.2))
  | [], _ => rfl
  | (key, value) :: rest, sorted => by
      obtain ⟨above, later⟩ := List.pairwise_cons.mp sorted
      rw [Fields.ofList, sortedFields, sortedFields_ofList later]
      cases rest with
      | nil => rfl
      | cons next rest => exact if_pos (above next List.mem_cons_self)

/-- Fields are built back from their own members. -/
theorem Fields.ofList_toList : ∀ fields : Fields, .ofList fields.toList = fields
  | .nil => rfl
  | .cons key value rest => by rw [toList, ofList, Fields.ofList_toList rest]

/-- Placing a field is placing a key among the members. -/
theorem toList_placeField (key : String) (value : Value) : ∀ fields : Fields,
    (placeField key value fields).toList = placeKey key value fields.toList
  | .nil => rfl
  | .cons held inner rest => by
      have ih := toList_placeField key value rest
      rw [placeField, Fields.toList, placeKey]
      split
      · rfl
      · split
        · rfl
        · rw [Fields.toList, ih]

/-- Sorted fields have ascending keys. -/
theorem sortedFields_pairwise : ∀ fields : Fields,
    (sortedFields fields).toList.Pairwise fun first second => first.1 < second.1
  | .nil => .nil
  | .cons key value rest => by
      rw [sortedFields, toList_placeField]
      exact placeKey_sorted key _ _ (sortedFields_pairwise rest)

mutual

/-- A sorted value is sorted. -/
theorem sortedValue_idem : ∀ value : Value, sortedValue (sortedValue value) = sortedValue value
  | .null | .bool _ | .number _ | .string _ => rfl
  | .array items => congrArg Value.array (sortedValues_idem items)
  | .object fields => by
      have ordered := sortedFields_ofList (sortedFields_pairwise fields)
      rw [Fields.ofList_toList] at ordered
      refine congrArg Value.object (ordered.trans ?_)
      have same : (sortedFields fields).toList.map (fun member =>
          (member.1, sortedValue member.2)) = (sortedFields fields).toList.map id :=
        List.map_congr_left fun member inside =>
          Prod.ext rfl (sortedFields_idem fields member inside)
      rw [same, List.map_id, Fields.ofList_toList]

/-- Sorting sorted values changes nothing. -/
theorem sortedValues_idem : ∀ items : Values,
    sortedValues (sortedValues items) = sortedValues items
  | .nil => rfl
  | .cons head rest => by
      rw [sortedValues, sortedValues, sortedValue_idem head, sortedValues_idem rest]

/-- The values of sorted fields are sorted. -/
theorem sortedFields_idem : ∀ fields : Fields, ∀ member ∈ (sortedFields fields).toList,
    sortedValue member.2 = member.2
  | .nil, _, member => nomatch member
  | .cons key value rest, pair, member => by
      rw [sortedFields, toList_placeField] at member
      rcases mem_placeKey member with rfl | later
      · exact sortedValue_idem value
      · exact sortedFields_idem rest pair later

end

/-- One pair of a map, read. -/
def Codec.ofMember {α : Type} (codec : Codec α) (member : String × Value) : Option (String × α) :=
  (codec.ofValue member.2).map fun value => (member.1, value)

/-- A map from strings, as an object. -/
def Codec.map {α : Type} (codec : Codec α) : Codec (KeyMap α) where
  toValue held := .ofFields (held.entries.map fun entry => (entry.1, codec.toValue entry.2))
  ofValue
    | .object fields => (fields.toList.mapM codec.ofMember).map KeyMap.collect
    | _ => none
  Fits held := ∀ entry ∈ held.entries, codec.Fits entry.2
  depth := codec.depth + 1
  ofValue_sorted {held} fits := by
    rw [Value.ofFields, sortedValue, sortedFields_ofList (List.pairwise_map.mpr held.sorted),
      List.map_map]
    change Option.map KeyMap.collect ((Fields.ofList _).toList.mapM codec.ofMember) = some held
    rw [Fields.toList_ofList, mapM_map_some, Option.map_some, KeyMap.collect_entries]
    intro entry member
    rw [Function.comp_apply, ofMember, codec.ofValue_sorted (fits entry member)]
    rfl
  nesting_le held := by
    refine nesting_ofFields_le fun member inside => ?_
    obtain ⟨entry, _, rfl⟩ := List.mem_map.mp inside
    exact codec.nesting_le entry.2
  ne_null _ := nofun

/-- `BTreeSet<String>`. -/
abbrev KeySet := KeyMap Unit

/-- A set of strings, as an array in order. -/
def Codec.set : Codec KeySet :=
  Codec.text.list.as KeyMap.keys (fun keys => .collect (keys.map fun key => (key, ())))
    fun held => by
      have pairs : held.keys.map (fun key => (key, ())) = held.entries := by
        rw [KeyMap.keys, List.map_map]
        exact List.map_id _
      rw [pairs, KeyMap.collect_entries]

/-! ## Structs -/

/-- The members of a struct, named in the order of its fields. The nullable ones may be
absent. -/
structure Members (names : List String) (α : Type) where
  nullable : List String
  write : α → List Value
  read : List Value → Option α
  Fits : α → Prop
  depth : Nat
  length_write : ∀ item, (write item).length = names.length
  read_sorted : ∀ {item}, Fits item → read ((write item).map sortedValue) = some item
  nesting_le : ∀ item, ∀ value ∈ write item, value.nesting ≤ depth

namespace Members

variable {names : List String} {α β : Type}

def nil : Members [] Unit where
  nullable := []
  write _ := []
  read
    | [] => some ()
    | _ => none
  Fits _ := True
  depth := 0
  length_write _ := rfl
  read_sorted _ := rfl
  nesting_le _ := nofun

/-- A field that must be there. -/
def required (name : String) (codec : Codec α) (rest : Members names β) :
    Members (name :: names) (α × β) where
  nullable := rest.nullable
  write item := codec.toValue item.1 :: rest.write item.2
  read
    | [] => none
    | value :: values => (codec.ofValue value).bind fun first =>
        (rest.read values).map fun others => (first, others)
  Fits item := codec.Fits item.1 ∧ rest.Fits item.2
  depth := max codec.depth rest.depth
  length_write item := congrArg Nat.succ (rest.length_write item.2)
  read_sorted fits := by
    rw [List.map_cons]
    change (codec.ofValue _).bind _ = _
    rw [codec.ofValue_sorted fits.1, Option.bind_some, rest.read_sorted fits.2]
    rfl
  nesting_le item value member := by
    rcases List.mem_cons.mp member with rfl | later
    · exact le_max_of_le_left (codec.nesting_le item.1)
    · exact le_max_of_le_right (rest.nesting_le item.2 value later)

/-- `Option` as a value: null when absent. -/
def writeOption (codec : Codec α) : Option α → Value
  | none => .null
  | some item => codec.toValue item

def readOption (codec : Codec α) : Value → Option (Option α)
  | .null => some none
  | value => (codec.ofValue value).map some

/-- An optional item is read back after sorting, where its own codec reads it back. -/
theorem readOption_sorted (codec : Codec α) {item : Option α}
    (fits : ∀ held ∈ item, codec.Fits held) :
    readOption codec (sortedValue (writeOption codec item)) = some item := by
  cases item with
  | none => rfl
  | some item =>
      have read := codec.ofValue_sorted (fits item rfl)
      have present := codec.ne_null item
      change readOption codec (sortedValue (codec.toValue item)) = _
      generalize sortedValue (codec.toValue item) = value at read present
      cases value with
      | null => exact absurd rfl present
      | _ =>
          change Option.map some (codec.ofValue _) = _
          rw [read]
          rfl

/-- An `Option` field: a missing member reads as null. -/
def optional (name : String) (codec : Codec α) (rest : Members names β) :
    Members (name :: names) (Option α × β) where
  nullable := name :: rest.nullable
  write item := writeOption codec item.1 :: rest.write item.2
  read
    | [] => none
    | value :: values => (readOption codec value).bind fun first =>
        (rest.read values).map fun others => (first, others)
  Fits item := (∀ held ∈ item.1, codec.Fits held) ∧ rest.Fits item.2
  depth := max codec.depth rest.depth
  length_write item := congrArg Nat.succ (rest.length_write item.2)
  read_sorted fits := by
    rw [List.map_cons]
    change (readOption codec _).bind _ = _
    rw [readOption_sorted codec fits.1, Option.bind_some, rest.read_sorted fits.2]
    rfl
  nesting_le item value member := by
    rcases List.mem_cons.mp member with rfl | later
    · refine le_max_of_le_left ?_
      cases item.1 with
      | none => exact Nat.zero_le _
      | some held => exact codec.nesting_le held
    · exact le_max_of_le_right (rest.nesting_le item.2 value later)

/-- The tag of an internally tagged variant. -/
def tagged (name text : String) (rest : Members names β) : Members (name :: names) β where
  nullable := rest.nullable
  write item := .string text :: rest.write item
  read
    | [] => none
    | value :: values => if value = .string text then rest.read values else none
  Fits := rest.Fits
  depth := rest.depth
  length_write item := congrArg Nat.succ (rest.length_write item)
  read_sorted fits := by
    rw [List.map_cons]
    exact (if_pos rfl).trans (rest.read_sorted fits)
  nesting_le item value member := by
    rcases List.mem_cons.mp member with rfl | later
    · exact Nat.zero_le _
    · exact rest.nesting_le item value later

end Members

/-- The values of the named members: of an object, which may be held to these names, or the
items of an array. -/
def readMembers (strict : Bool) (names nullable : List String) : Value → Option (List Value)
  | .object fields =>
      if strict && !knownFields names fields then none
      else names.mapM fun name =>
        (fields.lookup name).or (if name ∈ nullable then some .null else none)
  | .array items => if items.toList.length = names.length then some items.toList else none
  | _ => none

/-- A key that is not among the members is not found. -/
theorem lookup_ofList_of_not_mem {key : String} : ∀ {members : List (String × Value)},
    key ∉ members.map Prod.fst → (Fields.ofList members).lookup key = none
  | [], _ => rfl
  | (name, value) :: rest, absent => by
      rw [List.map_cons, List.mem_cons, not_or] at absent
      rw [Fields.lookup_ofList_cons, lookup_ofList_of_not_mem absent.2, Option.none_or,
        if_neg (Ne.symm absent.1)]

/-- A member of an object with distinct names is what it was written as. -/
theorem lookup_ofList_of_mem {key : String} {value : Value} : ∀ {members : List (String × Value)},
    (members.map Prod.fst).Nodup → (key, value) ∈ members →
      (Fields.ofList members).lookup key = some value
  | (name, held) :: rest, distinct, member => by
      rw [List.map_cons, List.nodup_cons] at distinct
      rw [Fields.lookup_ofList_cons]
      rcases List.mem_cons.mp member with same | later
      · cases same
        rw [lookup_ofList_of_not_mem distinct.1, Option.none_or, if_pos rfl]
      · rw [lookup_ofList_of_mem distinct.2 later, Option.some_or]

/-- Fields whose members are all known pass the check for unknown ones. -/
theorem knownFields_ofList {names : List String} : ∀ {members : List (String × Value)},
    (∀ member ∈ members, member.1 ∈ names) → knownFields names (.ofList members) = true
  | [], _ => rfl
  | member :: rest, known => by
      rw [Fields.ofList, knownFields, decide_eq_true (known member List.mem_cons_self),
        knownFields_ofList fun other inside => known other (List.mem_cons_of_mem _ inside)]
      rfl

/-- The members of an object, each looked up under its name. -/
theorem mapM_lookup {look : String → Option Value} :
    ∀ {names : List String} {values : List Value},
      values.length = names.length →
      (∀ pair ∈ names.zip values, look pair.1 = some (sortedValue pair.2)) →
        names.mapM look = some (values.map sortedValue)
  | [], [], _, _ => rfl
  | name :: names, value :: values, same, found => by
      rw [List.mapM_cons, found (name, value) List.mem_cons_self,
        mapM_lookup (Nat.succ.inj same) fun pair member =>
          found pair (List.mem_cons_of_mem _ member)]
      rfl
  | [], _ :: _, same, _ => nomatch same
  | _ :: _, [], same, _ => nomatch same

/-- **The members of a struct are read from its sorted object as they were written.** -/
theorem readMembers_sorted (strict : Bool) {names : List String} (nullable : List String)
    (distinct : names.Nodup) {values : List Value} (width : values.length = names.length) :
    readMembers strict names nullable (sortedValue (.ofFields (names.zip values))) =
      some (values.map sortedValue) := by
  have distinct' : ((names.zip values).map Prod.fst).Nodup := by
    rw [List.map_fst_zip width.ge]
    exact distinct
  have known : knownFields names (sortedFields (.ofList (names.zip values))) = true := by
    rw [knownFields_sortedFields]
    exact knownFields_ofList fun member inside => (List.of_mem_zip inside).1
  rw [Value.ofFields, sortedValue, readMembers, known, Bool.not_true, Bool.and_false]
  refine (if_neg Bool.false_ne_true).trans (mapM_lookup width fun pair member => ?_)
  rw [lookup_sortedFields, lookup_ofList_of_mem distinct' member, Option.map_some, Option.some_or]

/-- A struct with these members; a strict one refuses unknown members. -/
def Codec.record {names : List String} {α : Type} (strict : Bool) (members : Members names α)
    (distinct : names.Nodup) : Codec α where
  toValue item := .ofFields (names.zip (members.write item))
  ofValue value := (readMembers strict names members.nullable value).bind members.read
  Fits := members.Fits
  depth := members.depth + 1
  ofValue_sorted {item} fits := by
    rw [readMembers_sorted strict _ distinct (members.length_write item), Option.bind_some,
      members.read_sorted fits]
  nesting_le item :=
    nesting_ofFields_le fun _ member => members.nesting_le item _ (List.of_mem_zip member).2
  ne_null _ := nofun

/-! ## Internally tagged enums -/

/-- Variants told apart by the text of their tag, one of these. -/
structure Variants (tag : String) (texts : List String) (α : Type) extends Codec α where
  writes : ∀ item, ∃ fields, toValue item = .object fields ∧
    ∃ text ∈ texts, fields.lookup tag = some (.string text)
  expects : ∀ fields item, ofValue (.object fields) = some item →
    ∃ text ∈ texts, fields.lookup tag = some (.string text)

namespace Variants

variable {tag : String} {texts others : List String} {α β : Type}

/-- One variant: its tag and its members. -/
def one {names : List String} (strict : Bool) (tag text : String) (members : Members names α)
    (distinct : (tag :: names).Nodup) : Variants tag [text] α where
  toCodec := .record strict (members.tagged tag text) distinct
  writes item := by
    refine ⟨_, rfl, text, List.mem_singleton_self text, ?_⟩
    have absent : tag ∉ (names.zip (members.write item)).map Prod.fst := by
      rw [List.map_fst_zip (members.length_write item).ge]
      exact (List.nodup_cons.mp distinct).1
    change (Fields.ofList ((tag, .string text) :: names.zip (members.write item))).lookup tag = _
    rw [Fields.lookup_ofList_cons, lookup_ofList_of_not_mem absent, Option.none_or, if_pos rfl]
  expects fields item read := by
    refine ⟨text, List.mem_singleton_self text, ?_⟩
    obtain ⟨values, found, read⟩ := Option.bind_eq_some_iff.mp read
    rw [readMembers] at found
    split at found
    · cases found
    · rw [List.mapM_cons] at found
      obtain ⟨value, first, found⟩ := Option.bind_eq_some_iff.mp found
      obtain ⟨others, _, same⟩ := Option.bind_eq_some_iff.mp found
      cases same
      change (if value = .string text then members.read others else none) = _ at read
      split at read
      · rename_i same
        subst same
        cases found : fields.lookup tag with
        | none =>
            rw [found, Option.none_or] at first
            split at first <;> cases first
        | some held =>
            rw [found, Option.some_or] at first
            exact first
      · cases read

/-- The first variants that read, else the second. -/
def readEither (first : Codec α) (second : Codec β) (value : Value) : Option (α ⊕ β) :=
  match first.ofValue value with
  | some item => some (.inl item)
  | none => (second.ofValue value).map .inr

/-- Two enums with different tags, side by side. -/
def or (first : Variants tag texts α) (second : Variants tag others β)
    (apart : ∀ text ∈ texts, text ∉ others) : Variants tag (texts ++ others) (α ⊕ β) where
  toValue
    | .inl item => first.toValue item
    | .inr item => second.toValue item
  ofValue := readEither first.toCodec second.toCodec
  Fits
    | .inl item => first.Fits item
    | .inr item => second.Fits item
  depth := max first.depth second.depth
  ofValue_sorted {item} fits := by
    cases item with
    | inl item =>
        change readEither _ _ (sortedValue (first.toValue item)) = _
        rw [readEither, first.ofValue_sorted fits]
    | inr item =>
        obtain ⟨fields, object, text, inside, tagged⟩ := second.writes item
        have other : first.ofValue (sortedValue (second.toValue item)) = none := by
          cases read : first.ofValue (sortedValue (second.toValue item)) with
          | none => rfl
          | some wrong =>
              rw [object] at read
              obtain ⟨text', inside', tagged'⟩ := first.expects _ _ read
              rw [lookup_sortedFields, tagged] at tagged'
              cases tagged'
              exact absurd inside (apart text inside')
        change readEither _ _ (sortedValue (second.toValue item)) = _
        rw [readEither, other, second.ofValue_sorted fits]
        rfl
  nesting_le item := by
    cases item with
    | inl item => exact le_max_of_le_left (first.nesting_le item)
    | inr item => exact le_max_of_le_right (second.nesting_le item)
  ne_null item := by
    cases item with
    | inl item => exact first.ne_null item
    | inr item => exact second.ne_null item
  writes item := by
    cases item with
    | inl item =>
        obtain ⟨fields, object, text, inside, tagged⟩ := first.writes item
        exact ⟨fields, object, text, List.mem_append_left _ inside, tagged⟩
    | inr item =>
        obtain ⟨fields, object, text, inside, tagged⟩ := second.writes item
        exact ⟨fields, object, text, List.mem_append_right _ inside, tagged⟩
  expects fields item read := by
    rw [readEither] at read
    split at read
    · rename_i found
      obtain ⟨text, inside, tagged⟩ := first.expects _ _ found
      exact ⟨text, List.mem_append_left _ inside, tagged⟩
    · obtain ⟨other, found, _⟩ := Option.map_eq_some_iff.mp read
      obtain ⟨text, inside, tagged⟩ := second.expects _ _ found
      exact ⟨text, List.mem_append_right _ inside, tagged⟩

end Variants

/-! ## How deep a codec nests -/

section Depth

variable {α β : Type} {names texts others : List String} {tag : String}

@[simp] theorem depth_text : Codec.text.depth = 0 := rfl

@[simp] theorem depth_bool : Codec.bool.depth = 0 := rfl

@[simp] theorem depth_natural : Codec.natural.depth = 0 := rfl

@[simp] theorem depth_u64 : Codec.u64.depth = 0 := rfl

@[simp] theorem depth_u32 : Codec.u32.depth = 0 := rfl

@[simp] theorem depth_set : Codec.set.depth = 1 := rfl

@[simp] theorem depth_named (asStr : α → String) (ofStr : String → Option α)
    (same : ∀ item, ofStr (asStr item) = some item) :
    (Codec.named asStr ofStr same).depth = 0 := rfl

@[simp] theorem depth_via (codec : Codec β) (write : α → β) (read : β → Option α) :
    (codec.via write read).depth = codec.depth := rfl

@[simp] theorem depth_as (codec : Codec β) (write : α → β) (read : β → α)
    (same : ∀ item, read (write item) = item) :
    (codec.as write read same).depth = codec.depth := rfl

@[simp] theorem depth_list (codec : Codec α) : codec.list.depth = codec.depth + 1 := rfl

@[simp] theorem depth_map (codec : Codec α) : codec.map.depth = codec.depth + 1 := rfl

@[simp] theorem depth_nil : Members.nil.depth = 0 := rfl

@[simp] theorem depth_required (name : String) (codec : Codec α) (rest : Members names β) :
    (Members.required name codec rest).depth = max codec.depth rest.depth := rfl

@[simp] theorem depth_optional (name : String) (codec : Codec α) (rest : Members names β) :
    (Members.optional name codec rest).depth = max codec.depth rest.depth := rfl

@[simp] theorem depth_record (strict : Bool) (members : Members names α) (distinct : names.Nodup) :
    (Codec.record strict members distinct).depth = members.depth + 1 := rfl

@[simp] theorem depth_one (strict : Bool) (text : String) (members : Members names α)
    (distinct : (tag :: names).Nodup) :
    (Variants.one strict tag text members distinct).depth = members.depth + 1 := rfl

@[simp] theorem depth_or (first : Variants tag texts α) (second : Variants tag others β)
    (apart : ∀ text ∈ texts, text ∉ others) :
    (first.or second apart).depth = max first.depth second.depth := rfl

end Depth

end Oppen.Json
