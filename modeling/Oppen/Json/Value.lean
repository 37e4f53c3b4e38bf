import Mathlib.Algebra.Group.Nat.Defs
import Mathlib.Algebra.Ring.Int.Defs
import Mathlib.Data.List.Basic

/-! # JSON values

The values `serde_json` builds and reads. Arrays and objects are spelled out as
lists of their own so that values have decidable equality; an object lists its
members in the order it holds them.
-/

namespace Oppen.Json

/-- A number is an integer or a float; a float is kept as its bit pattern. -/
inductive Number where
  | int (value : Int)
  | float (bits : UInt64)
  deriving DecidableEq, Repr

mutual

/-- `serde_json::Value`. -/
inductive Value where
  | null
  | bool (value : Bool)
  | number (value : Number)
  | string (text : String)
  | array (items : Values)
  | object (fields : Fields)
  deriving DecidableEq

/-- The items of an array. -/
inductive Values where
  | nil
  | cons (head : Value) (tail : Values)
  deriving DecidableEq

/-- The members of an object. -/
inductive Fields where
  | nil
  | cons (key : String) (value : Value) (tail : Fields)
  deriving DecidableEq

end

/-- An object from its members in order. -/
def Fields.ofList : List (String × Value) → Fields
  | [] => .nil
  | (key, value) :: rest => .cons key value (.ofList rest)

def Values.ofList : List Value → Values
  | [] => .nil
  | value :: rest => .cons value (.ofList rest)

def Values.toList : Values → List Value
  | .nil => []
  | .cons value rest => value :: rest.toList

/-- `serde_json::json!({ … })` with the members in the order they are written. -/
def Value.ofFields (members : List (String × Value)) : Value := .object (.ofList members)

/-- A `u64` or `i64` as a JSON number. -/
def Value.ofInt (value : Int) : Value := .number (.int value)

/-- `Option` members are `null` when absent. -/
def Value.ofOption (text : Option String) : Value := (text.map Value.string).getD .null

/-- The member of that name. A text may repeat a name; the last one counts. -/
def Fields.lookup (key : String) : Fields → Option Value
  | .nil => none
  | .cons name value rest => (rest.lookup key).or (if name = key then some value else none)

/-- `Map::insert`: a member written last, in place of any earlier one of that name. -/
def Fields.insert (key : String) (value : Value) : Fields → Fields
  | .nil => .cons key value .nil
  | .cons name held rest => .cons name held (rest.insert key value)

/-- `Value::get` by a key: only objects have members. -/
def Value.get : Value → String → Option Value
  | .object fields, key => fields.lookup key
  | _, _ => none

/-- `value[key] = inner` on an object; the callers never index anything else. -/
def Value.set : Value → String → Value → Value
  | .object fields, key, inner => .object (fields.insert key inner)
  | value, _, _ => value

def Value.isObject : Value → Bool
  | .object _ => true
  | _ => false

/-- `Value::as_str`. -/
def Value.asStr : Value → Option String
  | .string text => some text
  | _ => none

/-- `Value::as_bool`. -/
def Value.asBool : Value → Option Bool
  | .bool value => some value
  | _ => none

/-- `Value::as_i64`. -/
def Value.asI64 : Value → Option Int
  | .number (.int (.ofNat value)) => if value < 2 ^ 63 then some value else none
  | .number (.int (.negSucc value)) => if value < 2 ^ 63 then some (.negSucc value) else none
  | _ => none

/-- `Value::as_u64`. -/
def Value.asU64 : Value → Option Nat
  | .number (.int (.ofNat value)) => if value < 2 ^ 64 then some value else none
  | _ => none

@[simp] theorem Value.get_ofFields (members : List (String × Value)) (key : String) :
    (Value.ofFields members).get key = (Fields.ofList members).lookup key := rfl

@[simp] theorem Fields.lookup_ofList_nil (key : String) :
    (Fields.ofList []).lookup key = none := rfl

@[simp] theorem Fields.lookup_ofList_cons (key name : String) (value : Value)
    (rest : List (String × Value)) :
    (Fields.ofList ((name, value) :: rest)).lookup key =
      ((Fields.ofList rest).lookup key).or (if name = key then some value else none) := rfl

/-- A number of 64 bits is read back from its value. -/
theorem Value.asU64_ofInt {number : Nat} (small : number < 2 ^ 64) :
    (Value.ofInt number).asU64 = some number :=
  if_pos small

/-- What is found after an insertion is what was inserted under that key, else what was there. -/
theorem Fields.lookup_insert (key name : String) (value : Value) : ∀ fields : Fields,
    (fields.insert key value).lookup name =
      if key = name then some value else fields.lookup name
  | .nil => rfl
  | .cons held inner rest => by
      have ih := Fields.lookup_insert key name value rest
      by_cases same : key = name
      · simp only [same, if_true] at ih
        simp only [insert, lookup, same, ih, if_true, Option.some_or]
      · simp only [same, if_false] at ih
        simp only [insert, lookup, ih, same, if_false]

end Oppen.Json
