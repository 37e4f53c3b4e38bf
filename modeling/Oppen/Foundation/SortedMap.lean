import Mathlib.Data.List.Basic
import Mathlib.Data.List.Nodup
import Mathlib.Data.List.Perm.Subperm
import Mathlib.Order.Basic
import Mathlib.Order.Lattice

/-! # Sorted maps

A map as the list of its entries in the strict order of their keys. What a map holds is told by its
lookups: they determine the entries, and each operation is known by what it does to them.
-/

namespace Foundation

/-- A map whose entries are kept in the order of their keys. -/
structure SortedMap (κ α : Type) [LinearOrder κ] where
  entries : List (κ × α)
  ascending : entries.Pairwise fun left right => left.1 < right.1

namespace SortedMap

variable {κ α : Type} [LinearOrder κ] (map : SortedMap κ α) {key other : κ} {value : α}

def empty : SortedMap κ α := ⟨[], .nil⟩

def get (key : κ) : Option α := (map.entries.find? fun entry => entry.1 = key).map Prod.snd

def length : ℕ := map.entries.length

/-- The entries before a key, its new entry, and the entries after it. -/
def insert (key : κ) (value : α) : SortedMap κ α where
  entries := (map.entries.filter fun entry => entry.1 < key) ++
    (key, value) :: map.entries.filter fun entry => key < entry.1
  ascending := by
    refine List.pairwise_append.mpr ⟨map.ascending.filter _, ?_, ?_⟩
    · refine List.pairwise_cons.mpr ⟨fun entry member => ?_, map.ascending.filter _⟩
      exact of_decide_eq_true (List.mem_filter.mp member).2
    · intro left member right after
      have below : left.1 < key := of_decide_eq_true (List.mem_filter.mp member).2
      rcases List.mem_cons.mp after with rfl | above
      · exact below
      · have beyond : key < right.1 := of_decide_eq_true (List.mem_filter.mp above).2
        exact below.trans beyond

/-- The entries whose keys pass a test. -/
def retain (keep : κ → Bool) : SortedMap κ α where
  entries := map.entries.filter fun entry => keep entry.1
  ascending := map.ascending.filter _

/-- The entries of another map put in place of those of this one. -/
def insertAll (upper : SortedMap κ α) : SortedMap κ α :=
  upper.entries.foldl (fun built entry => built.insert entry.1 entry.2) map

/-- The same keys with other values. -/
def mapValues {β : Type} (change : α → β) : SortedMap κ β where
  entries := map.entries.map fun entry => (entry.1, change entry.2)
  ascending := List.pairwise_map.mpr map.ascending

/-! ## Lookups -/

variable {map} {upper : SortedMap κ α}

/-- A sorted map has each key at most once. -/
theorem nodup_keys (map : SortedMap κ α) : (map.entries.map Prod.fst).Nodup :=
  List.pairwise_map.mpr (map.ascending.imp fun less => less.ne)

/-- **A lookup finds an entry exactly when the map has it.** -/
theorem get_eq_some_iff : map.get key = some value ↔ (key, value) ∈ map.entries := by
  constructor
  · intro found
    obtain ⟨entry, here, rfl⟩ := Option.map_eq_some_iff.mp found
    have same : entry.1 = key := by simpa only [decide_eq_true_eq] using List.find?_some here
    exact same ▸ List.mem_of_find?_eq_some here
  · intro member
    have some : (map.entries.find? fun entry => entry.1 = key).isSome = true :=
      List.find?_isSome.mpr ⟨(key, value), member, decide_eq_true rfl⟩
    obtain ⟨entry, here⟩ := Option.isSome_iff_exists.mp some
    have same : entry.1 = key := by simpa only [decide_eq_true_eq] using List.find?_some here
    rw [get, here, Option.map_some]
    have one := List.inj_on_of_nodup_map map.nodup_keys (List.mem_of_find?_eq_some here) member same
    rw [one]

@[simp] theorem get_empty (key : κ) : (empty : SortedMap κ α).get key = none := rfl

/-- Lookups determine a map. -/
theorem ext_get (same : ∀ key, map.get key = upper.get key) : map = upper := by
  have entries : map.entries = upper.entries := by
    refine List.Perm.eq_of_pairwise (fun left right _ _ less more => ?_) map.ascending
      upper.ascending ?_
    · exact absurd (less.trans more) (lt_irrefl _)
    · refine (List.perm_ext_iff_of_nodup ?_ ?_).mpr ?_
      · exact map.nodup_keys.of_map _
      · exact upper.nodup_keys.of_map _
      · rintro ⟨key, value⟩
        rw [← get_eq_some_iff, same, get_eq_some_iff]
  cases map
  cases upper
  cases entries
  rfl

/-- The entries after an insertion are the new one and those of the other keys. -/
theorem mem_insert {entry : κ × α} : entry ∈ (map.insert key value).entries ↔
    entry = (key, value) ∨ entry ∈ map.entries ∧ entry.1 ≠ key := by
  simp only [insert, List.mem_append, List.mem_cons, List.mem_filter, decide_eq_true_eq]
  constructor
  · rintro (⟨member, below⟩ | rfl | ⟨member, above⟩)
    · exact .inr ⟨member, below.ne⟩
    · exact .inl rfl
    · exact .inr ⟨member, above.ne'⟩
  · rintro (rfl | ⟨member, apart⟩)
    · exact .inr (.inl rfl)
    · rcases lt_or_gt_of_ne apart with below | above
      · exact .inl ⟨member, below⟩
      · exact .inr (.inr ⟨member, above⟩)

/-- What is read after an insertion is what was inserted under that key, else what was there. -/
theorem get_insert (map : SortedMap κ α) (key : κ) (value : α) (other : κ) :
    (map.insert key value).get other = if key = other then some value else map.get other := by
  refine Option.ext fun held => ?_
  rw [get_eq_some_iff, mem_insert]
  split_ifs with same
  · subst same
    rw [Option.some.injEq]
    constructor
    · rintro (equal | ⟨_, apart⟩)
      · exact (Prod.mk.inj equal).2.symm
      · exact absurd rfl apart
    · rintro rfl
      exact .inl rfl
  · rw [get_eq_some_iff]
    constructor
    · rintro (equal | ⟨member, _⟩)
      · exact absurd (Prod.mk.inj equal).1.symm same
      · exact member
    · exact fun member => .inr ⟨member, fun equal => same equal.symm⟩

/-- What is read after a filter is what was there, where the filter keeps the key. -/
theorem get_retain (map : SortedMap κ α) (keep : κ → Bool) (key : κ) :
    (map.retain keep).get key = if keep key = true then map.get key else none := by
  refine Option.ext fun held => ?_
  rw [get_eq_some_iff, retain, List.mem_filter]
  split_ifs with kept
  · rw [get_eq_some_iff]
    exact and_iff_left kept
  · exact iff_of_false (fun both => kept both.2) nofun

/-- Tests that agree on the keys of a map keep the same of it. -/
theorem retain_congr {keep keep' : κ → Bool}
    (same : ∀ {key value}, map.get key = some value → keep key = keep' key) :
    map.retain keep = map.retain keep' := by
  refine ext_get fun key => ?_
  rw [get_retain, get_retain]
  cases found : map.get key with
  | none => rw [ite_self, ite_self]
  | some value => rw [same found]

/-- Changing the values changes what is read. -/
theorem get_mapValues {β : Type} (map : SortedMap κ α) (change : α → β) (key : κ) :
    (map.mapValues change).get key = (map.get key).map change := by
  refine Option.ext fun held => ?_
  rw [get_eq_some_iff, mapValues, List.mem_map, Option.map_eq_some_iff]
  constructor
  · rintro ⟨entry, member, equal⟩
    obtain ⟨rfl, rfl⟩ := Prod.mk.inj equal
    exact ⟨entry.2, get_eq_some_iff.mpr member, rfl⟩
  · rintro ⟨value, found, rfl⟩
    exact ⟨(key, value), get_eq_some_iff.mp found, rfl⟩

/-- Inserting entries one after another shows each of them, since their keys differ, and elsewhere
what was there. -/
theorem get_foldl_insert (entries : List (κ × α)) (nodup : (entries.map Prod.fst).Nodup)
    (map : SortedMap κ α) (key : κ) :
    (entries.foldl (fun built entry => built.insert entry.1 entry.2) map).get key =
      ((entries.find? fun entry => entry.1 = key).map Prod.snd).or (map.get key) := by
  induction entries generalizing map with
  | nil => rfl
  | cons first rest ih =>
      obtain ⟨absent, nodup⟩ := List.nodup_cons.mp nodup
      rw [List.foldl_cons, ih nodup, get_insert]
      by_cases same : first.1 = key
      · have none : (rest.find? fun entry => entry.1 = key) = none := by
          refine List.find?_eq_none.mpr fun entry member equal => absent ?_
          exact List.mem_map.mpr ⟨entry, member, (of_decide_eq_true equal).trans same.symm⟩
        rw [none, if_pos same, List.find?_cons, decide_eq_true same]
        rfl
      · rw [if_neg same, List.find?_cons, decide_eq_false same]

/-- Inserting one map into another shows the inserted one first. -/
theorem get_insertAll (map upper : SortedMap κ α) (key : κ) :
    (map.insertAll upper).get key = (upper.get key).or (map.get key) :=
  get_foldl_insert upper.entries upper.nodup_keys map key

/-- A map whose keys are in a list is no longer than the list. -/
theorem length_le {keys : List κ} (inside : ∀ entry ∈ map.entries, entry.1 ∈ keys) :
    map.length ≤ keys.length := by
  rw [length, ← List.length_map Prod.fst]
  refine (List.subperm_of_subset map.nodup_keys fun key member => ?_).length_le
  obtain ⟨entry, held, rfl⟩ := List.mem_map.mp member
  exact inside entry held

end SortedMap

/-! ## Entries collected into a map

Where keys are only compared, a map is what its entries say of each key, the last one for a key. -/

section Maps

variable {Key Held : Type} [DecidableEq Key]

/-- What a map collected from the entries holds of a key: the last entry wins. -/
def collected (entries : List (Key × Held)) (key : Key) : Option Held :=
  entries.reverse.lookup key

/-- The maps collected from the entries are equal. -/
def SameMap (left right : List (Key × Held)) : Prop :=
  ∀ entry ∈ left ++ right, collected left entry.1 = collected right entry.1

instance [DecidableEq Held] (left right : List (Key × Held)) : Decidable (SameMap left right) :=
  inferInstanceAs (Decidable (∀ entry ∈ left ++ right, _))

/-- A key that occurs once is held with its entry. -/
theorem collected_of_mem {entries : List (Key × Held)} (single : (entries.map Prod.fst).Nodup)
    {entry : Key × Held} (member : entry ∈ entries) :
    collected entries entry.1 = some entry.2 := by
  have reversed : (entries.reverse.map Prod.fst).Nodup := by
    rw [List.map_reverse]
    exact List.nodup_reverse.mpr single
  have held := List.mem_reverse.mpr member
  unfold collected
  generalize entries.reverse = pairs at reversed held
  induction pairs with
  | nil => cases held
  | cons first rest ih =>
      obtain ⟨fresh, others⟩ := List.nodup_cons.mp reversed
      rcases List.mem_cons.mp held with rfl | later
      · exact List.lookup_cons_self
      · have apart : (entry.1 == first.1) = false := by
          refine beq_eq_false_iff_ne.mpr fun same => fresh ?_
          exact same ▸ List.mem_map.mpr ⟨entry, later, rfl⟩
        rw [List.lookup_cons, apart]
        exact ih others later

/-- What was collected under a key is one of the entries. -/
theorem mem_of_collected {entries : List (Key × Held)} {key : Key} {held : Held}
    (found : collected entries key = some held) : (key, held) ∈ entries := by
  unfold collected at found
  refine List.mem_reverse.mp ?_
  generalize entries.reverse = pairs at found
  induction pairs with
  | nil => cases found
  | cons first rest ih =>
      rw [List.lookup_cons] at found
      split at found
      · rename_i same
        cases found
        rw [eq_of_beq same]
        exact List.mem_cons_self
      · exact List.mem_cons_of_mem _ (ih found)

/-- Where no key occurs twice, equal maps have the same entries. -/
theorem SameMap.mem_iff {left right : List (Key × Held)} (same : SameMap left right)
    (first : (left.map Prod.fst).Nodup) (second : (right.map Prod.fst).Nodup)
    (entry : Key × Held) : entry ∈ left ↔ entry ∈ right := by
  constructor
  · intro member
    have held := collected_of_mem first member
    rw [same entry (List.mem_append_left _ member)] at held
    exact mem_of_collected held
  · intro member
    have held := collected_of_mem second member
    rw [← same entry (List.mem_append_right _ member)] at held
    exact mem_of_collected held

end Maps

end Foundation
