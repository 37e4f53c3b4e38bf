import Oppen.Json.Reader
import Oppen.Ledger.Event

/-! # The canonical form of a payload

The bytes that get stored, hashed and exported: object keys in sorted order, no
whitespace, integers only. A value that has a canonical form is read back from
it, up to the order of its members, when it stays within the reader's limit.
-/

namespace Oppen.Ledger

open Oppen.Json

/-- How deep a payload may nest before it is refused. -/
def maxDepth : Nat := 128

/-! ## Member order -/

/-- Put a member into a `BTreeMap` that already holds the later members. -/
def placeField (key : String) (value : Value) : Fields → Fields
  | .nil => .cons key value .nil
  | .cons name held rest =>
      if key < name then .cons key value (.cons name held rest)
      else if key = name then .cons name held rest
      else .cons name held (placeField key value rest)

mutual

/-- Every object's members collected into a `BTreeMap`. -/
def sortedValue : Value → Value
  | .array items => .array (sortedValues items)
  | .object fields => .object (sortedFields fields)
  | .null => .null
  | .bool value => .bool value
  | .number value => .number value
  | .string text => .string text

def sortedValues : Values → Values
  | .nil => .nil
  | .cons head rest => .cons (sortedValue head) (sortedValues rest)

def sortedFields : Fields → Fields
  | .nil => .nil
  | .cons key value rest => placeField key (sortedValue value) (sortedFields rest)

end

/-! ## Writer -/

/-- A JSON string literal. -/
def writeString (value : String) : String := String.ofList (quoted value)

/-- One RFC 6901 pointer token. -/
def pushPointerToken (key : String) : String :=
  String.ofList (key.toList.flatMap fun character =>
    if character = '~' then ['~', '0'] else if character = '/' then ['~', '1'] else [character])

/-- Integers only: a number that is neither an `i64` nor a `u64` is refused. -/
def writeNumber (pointer : String) : Number → Result String
  | .int value => if InRange value then .ok (toString value) else .error (.floatInPayload pointer)
  | .float _ => .error (.floatInPayload pointer)

mutual

/-- Emit one value whose members are already in order, tracking the pointer. -/
def writeValue (pointer : String) (depth : Nat) : Value → Result String
  | .null => if depth > maxDepth then .error (.payloadTooDeep pointer) else .ok "null"
  | .bool value =>
      if depth > maxDepth then .error (.payloadTooDeep pointer)
      else .ok (if value then "true" else "false")
  | .number value =>
      if depth > maxDepth then .error (.payloadTooDeep pointer) else writeNumber pointer value
  | .string text =>
      if depth > maxDepth then .error (.payloadTooDeep pointer) else .ok (writeString text)
  | .array items =>
      if depth > maxDepth then .error (.payloadTooDeep pointer)
      else do
        let body ← writeItems pointer depth 0 items
        .ok ("[" ++ body ++ "]")
  | .object fields =>
      if depth > maxDepth then .error (.payloadTooDeep pointer)
      else do
        let body ← writeFields pointer depth 0 fields
        .ok ("\x7b" ++ body ++ "\x7d")

def writeItems (pointer : String) (depth index : Nat) : Values → Result String
  | .nil => .ok ""
  | .cons item rest => do
      let head ← writeValue (pointer ++ "/" ++ toString index) (depth + 1) item
      let tail ← writeItems pointer depth (index + 1) rest
      .ok ((if index > 0 then "," else "") ++ head ++ tail)

def writeFields (pointer : String) (depth index : Nat) : Fields → Result String
  | .nil => .ok ""
  | .cons key item rest => do
      let head ← writeValue (pointer ++ "/" ++ pushPointerToken key) (depth + 1) item
      let tail ← writeFields pointer depth (index + 1) rest
      .ok ((if index > 0 then "," else "") ++ writeString key ++ ":" ++ head ++ tail)

end

/-- `canonical_json`: the canonical text of a value. -/
def canonicalJson (value : Value) : Result String :=
  writeValue "" 0 (sortedValue value)

/-! ## What the members of the sorted value are -/

/-- What is found after a placing is what was there, else the placed field. -/
theorem lookup_placeField (key name : String) (value : Value) : ∀ fields : Fields,
    (placeField key value fields).lookup name =
      (fields.lookup name).or (if key = name then some value else none)
  | .nil => by simp only [placeField, Fields.lookup]
  | .cons held inner rest => by
      have ih := lookup_placeField key name value rest
      unfold placeField
      split
      · rfl
      · split
        · rename_i same
          subst same
          by_cases here : key = name <;> simp [Fields.lookup, here]
        · rename_i different
          rw [Fields.lookup, ih, Fields.lookup]
          by_cases here : key = name
          · subst here
            have other : ¬ held = key := fun same => different same.symm
            simp only [other, if_false, Option.or_none]
          · simp only [here, if_false, Option.or_none]

/-- What is found in sorted fields is the sorted one of what was there. -/
theorem lookup_sortedFields (name : String) : ∀ fields : Fields,
    (sortedFields fields).lookup name = (fields.lookup name).map sortedValue
  | .nil => rfl
  | .cons key value rest => by
      have ih := lookup_sortedFields name rest
      rw [sortedFields, lookup_placeField, ih, Fields.lookup]
      cases rest.lookup name with
      | some held => rfl
      | none => by_cases same : key = name <;> simp [same]

/-- Sorting changes the order of the members, not what a member is. -/
theorem get_sortedValue (value : Value) (key : String) :
    (sortedValue value).get key = (value.get key).map sortedValue := by
  cases value with
  | object fields => exact lookup_sortedFields key fields
  | _ => rfl

@[simp] theorem sortedValue_string (text : String) : sortedValue (.string text) = .string text :=
  rfl

@[simp] theorem sortedValue_ofInt (number : Int) : sortedValue (.ofInt number) = .ofInt number :=
  rfl

@[simp] theorem sortedValue_ofOption (text : Option String) :
    sortedValue (.ofOption text) = .ofOption text := by
  cases text <;> rfl

@[simp] theorem asStr_sortedValue (value : Value) : (sortedValue value).asStr = value.asStr := by
  cases value <;> rfl

@[simp] theorem asU64_sortedValue (value : Value) : (sortedValue value).asU64 = value.asU64 := by
  cases value <;> rfl

@[simp] theorem isObject_sortedValue (value : Value) :
    (sortedValue value).isObject = value.isObject := by
  cases value <;> rfl

/-! ## The writer writes the compact text -/

/-- The separator the writer puts before an item that is not the first. -/
def separator (index : Nat) : List Char := if index > 0 then [','] else []

/-- Items are separated from the second one on. -/
theorem toList_separator (index : Nat) :
    (if index > 0 then "," else "" : String).toList = separator index := by
  unfold separator
  split <;> rfl

/-- Items of an array, with the separator the writer puts before them. -/
def itemsChars (index : Nat) : Values → List Char
  | .nil => []
  | .cons head rest => separator index ++ (Values.cons head rest).chars

/-- Members of an object, with the separator the writer puts before them. -/
def fieldsChars (index : Nat) : Fields → List Char
  | .nil => []
  | .cons key value rest => separator index ++ (Fields.cons key value rest).chars

/-- A list is written as its first item and then the others with their separators. -/
theorem chars_cons_items (head : Value) (tail : Values) (index : Nat) :
    (Values.cons head tail).chars = head.chars ++ itemsChars (index + 1) tail := by
  cases tail with
  | nil => exact (List.append_nil _).symm
  | cons next rest => rfl

/-- An object is written as its first field and then the others with their separators. -/
theorem chars_cons_fields (key : String) (value : Value) (tail : Fields) (index : Nat) :
    (Fields.cons key value tail).chars =
      quoted key ++ ':' :: (value.chars ++ fieldsChars (index + 1) tail) := by
  cases tail with
  | nil => rw [fieldsChars, List.append_nil]; rfl
  | cons name inner rest => rfl

mutual

/-- The text the writer produces, and what it takes for it to produce one. -/
theorem writeValue_ok (pointer : String) (depth : Nat) : ∀ (value : Value) (text : String),
    writeValue pointer depth value = .ok text →
      text.toList = value.chars ∧ value.Integral ∧ depth + value.nesting ≤ maxDepth + 1
  | .null, text, written => by
      simp only [writeValue] at written
      split at written
      · cases written
      · cases written
        exact ⟨rfl, trivial, by simp only [Value.nesting]; omega⟩
  | .bool value, text, written => by
      simp only [writeValue] at written
      split at written
      · cases written
      · cases written
        refine ⟨?_, trivial, by simp only [Value.nesting]; omega⟩
        cases value <;> rfl
  | .number (.int value), text, written => by
      simp only [writeValue, writeNumber] at written
      split at written
      · cases written
      · split at written
        · rename_i inRange
          cases written
          exact ⟨rfl, inRange, by simp only [Value.nesting]; omega⟩
        · cases written
  | .number (.float bits), text, written => by
      simp only [writeValue, writeNumber] at written
      split at written <;> cases written
  | .string value, text, written => by
      simp only [writeValue] at written
      split at written
      · cases written
      · cases written
        exact ⟨String.toList_ofList, trivial, by simp only [Value.nesting]; omega⟩
  | .array items, text, written => by
      simp only [writeValue] at written
      split at written
      · cases written
      · obtain ⟨body, bodyWritten, closed⟩ := bind_eq_ok written
        cases closed
        obtain ⟨chars, integral, shallow⟩ :=
          writeItems_ok pointer depth 0 (by omega) items body bodyWritten
        refine ⟨?_, integral, by simp only [Value.nesting]; omega⟩
        rw [String.toList_append, String.toList_append, chars, Value.chars]
        cases items <;> rfl
  | .object fields, text, written => by
      simp only [writeValue] at written
      split at written
      · cases written
      · obtain ⟨body, bodyWritten, closed⟩ := bind_eq_ok written
        cases closed
        obtain ⟨chars, integral, shallow⟩ :=
          writeFields_ok pointer depth 0 (by omega) fields body bodyWritten
        refine ⟨?_, integral, by simp only [Value.nesting]; omega⟩
        rw [String.toList_append, String.toList_append, chars, Value.chars]
        cases fields <;> rfl

/-- Items that could be written are whole numbers and texts, nested within the limit, and their text
is the canonical one. -/
theorem writeItems_ok (pointer : String) (depth index : Nat) (allowed : depth ≤ maxDepth) :
    ∀ (items : Values) (text : String), writeItems pointer depth index items = .ok text →
      text.toList = itemsChars index items ∧ items.Integral ∧ depth + items.nesting ≤ maxDepth
  | .nil, text, written => by
      cases written
      exact ⟨rfl, trivial, allowed⟩
  | .cons item rest, text, written => by
      obtain ⟨head, headWritten, written⟩ := bind_eq_ok written
      obtain ⟨tail, tailWritten, written⟩ := bind_eq_ok written
      cases written
      obtain ⟨headChars, headIntegral, headShallow⟩ :=
        writeValue_ok _ (depth + 1) item head headWritten
      obtain ⟨tailChars, tailIntegral, tailShallow⟩ :=
        writeItems_ok pointer depth (index + 1) allowed rest tail tailWritten
      refine ⟨?_, ⟨headIntegral, tailIntegral⟩, by simp only [Values.nesting]; omega⟩
      rw [String.toList_append, String.toList_append, toList_separator, headChars, tailChars,
        itemsChars, chars_cons_items item rest index, List.append_assoc]

/-- Fields that could be written are so in the same way. -/
theorem writeFields_ok (pointer : String) (depth index : Nat) (allowed : depth ≤ maxDepth) :
    ∀ (fields : Fields) (text : String), writeFields pointer depth index fields = .ok text →
      text.toList = fieldsChars index fields ∧ fields.Integral ∧
        depth + fields.nesting ≤ maxDepth
  | .nil, text, written => by
      cases written
      exact ⟨rfl, trivial, allowed⟩
  | .cons key item rest, text, written => by
      obtain ⟨head, headWritten, written⟩ := bind_eq_ok written
      obtain ⟨tail, tailWritten, written⟩ := bind_eq_ok written
      cases written
      obtain ⟨headChars, headIntegral, headShallow⟩ :=
        writeValue_ok _ (depth + 1) item head headWritten
      obtain ⟨tailChars, tailIntegral, tailShallow⟩ :=
        writeFields_ok pointer depth (index + 1) allowed rest tail tailWritten
      refine ⟨?_, ⟨headIntegral, tailIntegral⟩, by simp only [Fields.nesting]; omega⟩
      simp only [String.toList_append, toList_separator, headChars, tailChars, writeString,
        String.toList_ofList, fieldsChars, chars_cons_fields key item rest index,
        List.append_assoc]
      rfl

end

/-- The canonical text is the compact text of the sorted value. -/
theorem canonicalJson_ok {value : Value} {text : String}
    (written : canonicalJson value = .ok text) :
    text = String.ofList (sortedValue value).chars ∧ (sortedValue value).Integral ∧
      (sortedValue value).nesting ≤ maxDepth + 1 := by
  obtain ⟨chars, integral, shallow⟩ := writeValue_ok "" 0 (sortedValue value) text written
  exact ⟨by rw [← chars, String.ofList_toList], integral, by omega⟩

/-- Values with one canonical text are one value, up to the order of their members. -/
theorem canonicalJson_injective {first second : Value} {text : String}
    (written : canonicalJson first = .ok text) (written' : canonicalJson second = .ok text) :
    sortedValue first = sortedValue second := by
  obtain ⟨same, integral, shallow⟩ := canonicalJson_ok written
  obtain ⟨same', integral', shallow'⟩ := canonicalJson_ok written'
  have chars := String.ofList_injective (same.symm.trans same')
  have ends : EndsNumber [] := nofun
  -- read without the recursion limit: the writer goes one level deeper than the reader
  have parsed := readValue_chars (sortedValue first) _ (maxDepth + 2) [] integral
    (size_le_length _ integral) (by omega) ends
  have parsed' := readValue_chars (sortedValue second) _ (maxDepth + 2) [] integral'
    (size_le_length _ integral') (by omega) ends
  rw [chars, parsed'] at parsed
  exact (congrArg Prod.fst (Option.some.inj parsed)).symm

/-- A canonical text within the reader's limit is read back as the sorted value. -/
theorem read_canonicalJson {value : Value} {text : String}
    (written : canonicalJson value = .ok text)
    (shallow : (sortedValue value).nesting < recursionLimit) :
    read text.toList = some (sortedValue value) := by
  obtain ⟨same, integral, _⟩ := canonicalJson_ok written
  rw [same, String.toList_ofList]
  exact read_chars integral shallow

end Oppen.Ledger
