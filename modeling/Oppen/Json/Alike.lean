import Oppen.Json.Codec

/-! # Equal values

Two values are equal when they are up to the order in which objects list their members, and that is
when their sorted values are one value.
-/

namespace Oppen.Json

open Oppen.Ledger

/-- `Value::eq`: arrays item by item, objects as maps. -/
inductive Value.Alike : Value → Value → Prop
  | null : Alike .null .null
  | bool (value : Bool) : Alike (.bool value) (.bool value)
  | number (value : Number) : Alike (.number value) (.number value)
  | string (text : String) : Alike (.string text) (.string text)
  | array {items items' : Values} (length : items.toList.length = items'.toList.length)
      (alike : ∀ pair ∈ items.toList.zip items'.toList, Alike pair.1 pair.2) :
      Alike (.array items) (.array items')
  | object {fields fields' : Fields}
      (keys : ∀ key, (fields.lookup key).isSome = (fields'.lookup key).isSome)
      (alike : ∀ key value value', fields.lookup key = some value →
        fields'.lookup key = some value' → Alike value value') :
      Alike (.object fields) (.object fields')

/-! ## Sorted members -/

/-- A key that no member has is not found. -/
theorem Fields.lookup_eq_none {key : String} : ∀ {fields : Fields},
    (∀ member ∈ fields.toList, member.1 ≠ key) → fields.lookup key = none
  | .nil, _ => rfl
  | .cons name value rest, other => by
      have later : rest.lookup key = none :=
        Fields.lookup_eq_none fun member inside => other member (List.mem_cons_of_mem _ inside)
      have here : name ≠ key := other (name, value) List.mem_cons_self
      rw [lookup, later, if_neg here]
      rfl

/-- The first of sorted members is the one of its name, and no member is before it. -/
theorem Fields.lookup_first {key : String} {value : Value} {rest : Fields}
    (sorted : (Fields.cons key value rest).toList.Pairwise fun first second => first.1 < second.1) :
    (Fields.cons key value rest).lookup key = some value ∧ rest.lookup key = none ∧
      ∀ name, name < key → (Fields.cons key value rest).lookup name = none := by
  obtain ⟨after, _⟩ := List.pairwise_cons.mp sorted
  have later : rest.lookup key = none :=
    Fields.lookup_eq_none fun member inside => (after member inside).ne'
  refine ⟨?_, later, fun name before => Fields.lookup_eq_none fun member inside => ?_⟩
  · rw [lookup, later, if_pos rfl]
    rfl
  · rcases List.mem_cons.mp inside with rfl | inside
    · exact before.ne'
    · exact (before.trans (after member inside)).ne'

/-- Sorted members that are one map are one list. -/
theorem Fields.eq_of_lookup : ∀ {fields fields' : Fields},
    (fields.toList.Pairwise fun first second => first.1 < second.1) →
    (fields'.toList.Pairwise fun first second => first.1 < second.1) →
    (∀ key, fields.lookup key = fields'.lookup key) → fields = fields'
  | .nil, .nil, _, _, _ => rfl
  | .nil, .cons key value rest, _, sorted', same => by
      have found := same key
      rw [(lookup_first sorted').1] at found
      cases found
  | .cons key value rest, .nil, sorted, _, same => by
      have found := same key
      rw [(lookup_first sorted).1] at found
      cases found
  | .cons key value rest, .cons key' value' rest', sorted, sorted', same => by
      obtain ⟨here, later, before⟩ := lookup_first sorted
      obtain ⟨here', later', before'⟩ := lookup_first sorted'
      obtain rfl : key = key' := by
        rcases lt_trichotomy key key' with less | equal | more
        · have found := same key
          rw [here, before' key less] at found
          cases found
        · exact equal
        · have found := same key'
          rw [here', before key' more] at found
          cases found
      obtain rfl : value = value' := Option.some.inj (here.symm.trans ((same key).trans here'))
      have rests : ∀ name, rest.lookup name = rest'.lookup name := by
        intro name
        by_cases first : key = name
        · rw [← first, later, later']
        · have others := same name
          simpa only [lookup, first, if_false, Option.or_none] using others
      rw [Fields.eq_of_lookup (List.pairwise_cons.mp sorted).2 (List.pairwise_cons.mp sorted').2
        rests]

/-! ## Equal values are sorted alike -/

/-- Lists of one length whose items sort alike sort alike. -/
theorem sortedValues_congr : ∀ {items items' : Values},
    items.toList.length = items'.toList.length →
    (∀ pair ∈ items.toList.zip items'.toList, sortedValue pair.1 = sortedValue pair.2) →
    sortedValues items = sortedValues items'
  | .nil, .nil, _, _ => rfl
  | .cons head rest, .cons head' rest', length, same => by
      have first : sortedValue head = sortedValue head' := same (head, head') List.mem_cons_self
      have others : sortedValues rest = sortedValues rest' :=
        sortedValues_congr (Nat.succ.inj length) fun pair inside =>
          same pair (List.mem_cons_of_mem _ inside)
      rw [sortedValues, sortedValues, first, others]

/-- Values that are alike sort to the same value. -/
theorem Value.Alike.sorted {first second : Value} (alike : first.Alike second) :
    sortedValue first = sortedValue second := by
  induction alike with
  | null | bool | number | string => rfl
  | array length _ ih => rw [sortedValue, sortedValue, sortedValues_congr length ih]
  | @object fields fields' keys _ ih =>
      have maps : ∀ key, (sortedFields fields).lookup key = (sortedFields fields').lookup key := by
        intro key
        rw [lookup_sortedFields, lookup_sortedFields]
        have both := keys key
        cases found : fields.lookup key with
        | none =>
            rw [found] at both
            rw [Option.isNone_iff_eq_none.mp (Option.isSome_eq_false_iff.mp both.symm)]
        | some value =>
            rw [found] at both
            obtain ⟨value', found'⟩ := Option.isSome_iff_exists.mp both.symm
            rw [found', Option.map_some, Option.map_some, ih key value value' found found']
      rw [sortedValue, sortedValue, Fields.eq_of_lookup (sortedFields_pairwise fields)
        (sortedFields_pairwise fields') maps]

mutual

/-- Values that sort to the same value are alike. The induction is on the first value, with its
items and its fields. -/
theorem alike_of_sorted : ∀ {first second : Value}, sortedValue first = sortedValue second →
    first.Alike second
  | .null, second, same => by cases second <;> cases same; exact .null
  | .bool value, second, same => by cases second <;> cases same; exact .bool value
  | .number value, second, same => by cases second <;> cases same; exact .number value
  | .string text, second, same => by cases second <;> cases same; exact .string text
  | .array items, second, same => by
      cases second with
      | array items' =>
          obtain ⟨length, alike⟩ := alike_of_sortedValues (Value.array.inj same)
          exact .array length alike
      | _ => cases same
  | .object fields, second, same => by
      cases second with
      | object fields' =>
          have maps : ∀ key, (fields.lookup key).map sortedValue =
              (fields'.lookup key).map sortedValue := by
            intro key
            rw [← lookup_sortedFields, Value.object.inj same, lookup_sortedFields]
          refine .object (fun key => ?_) fun key value value' found found' => ?_
          · rw [← Option.isSome_map, maps key, Option.isSome_map]
          · have sorted := maps key
            rw [found, found'] at sorted
            exact alike_of_lookup found (Option.some.inj sorted)
      | _ => cases same

/-- Lists that sort to the same list have one length and items that are alike. -/
theorem alike_of_sortedValues : ∀ {items items' : Values},
    sortedValues items = sortedValues items' →
    items.toList.length = items'.toList.length ∧
      ∀ pair ∈ items.toList.zip items'.toList, pair.1.Alike pair.2
  | .nil, .nil, _ => ⟨rfl, nofun⟩
  | .cons head rest, .cons head' rest', same => by
      obtain ⟨first, others⟩ := Values.cons.inj same
      have here := alike_of_sorted first
      obtain ⟨length, alike⟩ := alike_of_sortedValues others
      refine ⟨congrArg Nat.succ length, fun pair inside => ?_⟩
      rcases List.mem_cons.mp inside with rfl | inside
      · exact here
      · exact alike pair inside

/-- A field is alike the value that sorts as it does. -/
theorem alike_of_lookup : ∀ {fields : Fields} {key : String} {value value' : Value},
    fields.lookup key = some value → sortedValue value = sortedValue value' → value.Alike value'
  | .cons name held rest, key, value, value', found, same => by
      rw [Fields.lookup] at found
      rcases Option.or_eq_some_iff.mp found with later | ⟨_, here⟩
      · exact alike_of_lookup later same
      · split at here
        · obtain rfl := Option.some.inj here
          exact alike_of_sorted same
        · cases here

end

/-- Values are equal exactly when they are one value once sorted. -/
theorem alike_iff {first second : Value} :
    first.Alike second ↔ sortedValue first = sortedValue second :=
  ⟨Value.Alike.sorted, alike_of_sorted⟩

/-- What is read back of a value is the value. -/
theorem alike_sortedValue (value : Value) : (sortedValue value).Alike value :=
  alike_iff.mpr (sortedValue_idem value)

end Oppen.Json
