import Mathlib.Algebra.BigOperators.Group.List.Basic
import Mathlib.Algebra.Order.Group.Nat
import Mathlib.Data.List.Forall2
import Mathlib.Data.List.Induction
import Mathlib.Data.List.Perm.Basic
import Mathlib.Data.List.Sort
import Mathlib.Order.Basic

/-! # Samples, their ranks and their groups

A sample is a list whose order is of no account. Sorted by a key, the element of a rank has at
least that many at or below it and fewer strictly below; split by a key, its groups are the parts
that share one, and add up to it. Both depend on the sample only up to its order.
-/

namespace Foundation

/-! ## Ranks -/

section Ranks

variable {α κ : Type} [LinearOrder κ] (key : α → κ) {sample other : List α} {item : α}

/-- The sample from its smallest key to its largest. -/
def sortBy (sample : List α) : List α :=
  sample.insertionSort fun left right => key left ≤ key right

/-- Sorting keeps the sample. -/
theorem sortBy_perm (sample : List α) : (sortBy key sample).Perm sample :=
  List.perm_insertionSort _ _

/-- Sorting keeps the size of the sample. -/
theorem length_sortBy (sample : List α) : (sortBy key sample).length = sample.length :=
  (sortBy_perm key sample).length_eq

/-- A sorted sample ascends in its key. -/
theorem sortBy_sorted (sample : List α) :
    (sortBy key sample).Pairwise fun left right => key left ≤ key right := by
  have total : Std.Total fun left right : α => key left ≤ key right := ⟨fun _ _ => le_total _ _⟩
  have transitive : IsTrans α fun left right => key left ≤ key right := ⟨fun _ _ _ => le_trans⟩
  exact List.pairwise_insertionSort _ sample

/-- The keys in order do not depend on the order of the sample. -/
theorem map_sortBy (perm : (sample.map key).Perm (other.map key)) :
    (sortBy key sample).map key = (sortBy key other).map key := by
  have sorted (list : List α) : ((sortBy key list).map key).Pairwise (· ≤ ·) :=
    List.pairwise_map.mpr (sortBy_sorted key list)
  refine List.Perm.eq_of_pairwise (fun _ _ _ _ => le_antisymm) (sorted sample) (sorted other) ?_
  exact (((sortBy_perm key sample).map key).trans perm).trans ((sortBy_perm key other).map key).symm

/-- Up to an index the sorted sample is at or below what stands there. -/
theorem lt_countP_le {index : ℕ} (bound : index < (sortBy key sample).length) :
    index < sample.countP fun held => key held ≤ key (sortBy key sample)[index] := by
  rw [← (sortBy_perm key sample).countP_eq]
  have low : ((sortBy key sample).take (index + 1)).countP
      (fun held => key held ≤ key (sortBy key sample)[index]) = index + 1 := by
    rw [List.countP_eq_length.mpr, List.length_take, Nat.min_eq_left bound]
    intro held member
    obtain ⟨place, within, rfl⟩ := List.mem_take_iff_getElem.mp member
    refine decide_eq_true ?_
    rcases Nat.lt_or_ge place index with before | after
    · exact List.pairwise_iff_getElem.mp (sortBy_sorted key sample) _ _ _ bound before
    · have same : place = index := by omega
      subst same
      exact le_rfl
  calc index < index + 1 := Nat.lt_succ_self index
    _ = _ := low.symm
    _ ≤ _ := (List.take_sublist _ _).countP_le

/-- From an index on nothing of the sorted sample is strictly below what stands there. -/
theorem countP_lt_le {index : ℕ} (bound : index < (sortBy key sample).length) :
    (sample.countP fun held => key held < key (sortBy key sample)[index]) ≤ index := by
  rw [← (sortBy_perm key sample).countP_eq]
  have high : ((sortBy key sample).drop index).countP
      (fun held => key held < key (sortBy key sample)[index]) = 0 := by
    refine List.countP_eq_zero.mpr fun held member => ?_
    obtain ⟨offset, within, rfl⟩ := List.mem_iff_getElem.mp member
    rw [List.getElem_drop, decide_eq_true_eq, not_lt]
    rcases Nat.eq_zero_or_pos offset with rfl | after
    · exact le_rfl
    · exact List.pairwise_iff_getElem.mp (sortBy_sorted key sample) _ _ bound _ (by omega)
  have split (test : α → Bool) : (sortBy key sample).countP test =
      ((sortBy key sample).take index).countP test +
        ((sortBy key sample).drop index).countP test := by
    rw [← List.countP_append, List.take_append_drop]
  rw [split, high, Nat.add_zero]
  exact List.countP_le_length.trans (List.length_take_le _ _)

end Ranks

/-! ## Groups -/

section Groups

variable {α κ : Type} [LinearOrder κ]

/-- Put an item last in the group of its key. -/
def pushGroup (key : κ) (item : α) : List (κ × List α) → List (κ × List α)
  | [] => [(key, [item])]
  | (held, items) :: rest =>
      if key < held then (key, [item]) :: (held, items) :: rest
      else if key = held then (held, items ++ [item]) :: rest
      else (held, items) :: pushGroup key item rest

/-- The groups of a list, from the smallest key to the largest, each in the order of the list. -/
def groupBy (key : α → κ) (items : List α) : List (κ × List α) :=
  items.foldl (fun groups item => pushGroup (key item) item groups) []

/-- The keys are in order and no group is empty. -/
structure Grouped (groups : List (κ × List α)) : Prop where
  ascending : (groups.map Prod.fst).Pairwise (· < ·)
  filled : ∀ group ∈ groups, group.2 ≠ []

/-- The group of a key; none is an empty one. -/
def groupOf (groups : List (κ × List α)) (key : κ) : List α :=
  ((groups.find? fun group => group.1 = key).map Prod.snd).getD []

variable {key : κ} {item : α} {groups : List (κ × List α)}

/-- Pushing an item adds its key to those of the groups and no other. -/
theorem keys_pushGroup : ∀ {groups : List (κ × List α)} {other : κ},
    other ∈ (pushGroup key item groups).map Prod.fst ↔ other = key ∨ other ∈ groups.map Prod.fst
  | [], other => by simp [pushGroup]
  | (held, items) :: rest, other => by
      rw [pushGroup]
      split_ifs with before same
      · simp
      · simp [same]
      · simp only [List.map_cons, List.mem_cons, keys_pushGroup]
        exact or_left_comm

/-- Groups stay grouped when an item is pushed: no key has two groups, and none is empty. -/
theorem Grouped.push (grouped : Grouped groups) : Grouped (pushGroup key item groups) := by
  induction groups with
  | nil => exact ⟨List.pairwise_singleton _ _, by simp [pushGroup]⟩
  | cons group rest ih =>
      obtain ⟨held, items⟩ := group
      obtain ⟨above, ascending⟩ := List.pairwise_cons.mp grouped.ascending
      obtain ⟨some, filled⟩ := List.forall_mem_cons.mp grouped.filled
      have inner := ih ⟨ascending, filled⟩
      rw [pushGroup]
      split_ifs with before same
      · refine ⟨List.pairwise_cons.mpr ⟨fun other member => ?_, grouped.ascending⟩, ?_⟩
        · rcases List.mem_cons.mp member with rfl | later
          · exact before
          · exact before.trans (above other later)
        · exact List.forall_mem_cons.mpr ⟨List.cons_ne_nil _ _, grouped.filled⟩
      · refine ⟨grouped.ascending, List.forall_mem_cons.mpr ⟨?_, filled⟩⟩
        exact List.append_ne_nil_of_right_ne_nil _ (List.cons_ne_nil _ _)
      · refine ⟨List.pairwise_cons.mpr ⟨fun other member => ?_, inner.ascending⟩,
          List.forall_mem_cons.mpr ⟨some, inner.filled⟩⟩
        rcases keys_pushGroup.mp member with rfl | later
        · exact lt_of_le_of_ne (not_lt.mp before) (Ne.symm same)
        · exact above other later

/-- The group of a key is the first one if that is the key's, else it is among the rest. -/
theorem groupOf_cons (held : κ) (items : List α) (rest : List (κ × List α)) (other : κ) :
    groupOf ((held, items) :: rest) other = if held = other then items else groupOf rest other := by
  unfold groupOf
  rw [List.find?_cons]
  split_ifs with same <;> simp [same]

/-- A key without a group has no items. -/
theorem groupOf_eq_nil (absent : key ∉ groups.map Prod.fst) : groupOf groups key = [] := by
  have missing : (groups.find? fun group => group.1 = key) = none := by
    refine List.find?_eq_none.mpr fun group member same => absent ?_
    exact List.mem_map.mpr ⟨group, member, of_decide_eq_true same⟩
  rw [groupOf, missing]
  rfl

/-- A push adds to the group of its key. -/
theorem groupOf_push (grouped : Grouped groups) (other : κ) :
    groupOf (pushGroup key item groups) other =
      if other = key then groupOf groups key ++ [item] else groupOf groups other := by
  induction groups with
  | nil =>
      rw [pushGroup, groupOf_cons]
      simp only [eq_comm]
      rfl
  | cons group rest ih =>
      obtain ⟨held, items⟩ := group
      obtain ⟨above, ascending⟩ := List.pairwise_cons.mp grouped.ascending
      rw [pushGroup]
      by_cases before : key < held
      · have absent : key ∉ ((held, items) :: rest).map Prod.fst := by
          intro member
          rcases List.mem_cons.mp member with here | later
          · exact before.ne here
          · exact (before.trans (above key later)).false
        rw [if_pos before, groupOf_cons, groupOf_eq_nil absent]
        simp only [eq_comm]
        rfl
      · rw [if_neg before]
        by_cases same : key = held
        · subst same
          rw [if_pos rfl, groupOf_cons, groupOf_cons, groupOf_cons, if_pos rfl]
          by_cases here : key = other
          · rw [if_pos here, if_pos here.symm]
          · rw [if_neg here, if_neg here, if_neg (Ne.symm here)]
        · have inner := ih ⟨ascending, fun group member =>
            grouped.filled group (List.mem_cons_of_mem _ member)⟩
          rw [if_neg same, groupOf_cons, groupOf_cons, groupOf_cons, inner, if_neg (Ne.symm same)]
          by_cases here : held = other
          · rw [if_pos here, if_pos here, if_neg (by rw [← here]; exact Ne.symm same)]
          · rw [if_neg here, if_neg here]

/-- A list is split into the groups of its keys. -/
theorem groupBy_spec (key : α → κ) (items : List α) :
    Grouped (groupBy key items) ∧
      ∀ other, groupOf (groupBy key items) other = items.filter fun item => key item = other := by
  induction items using List.reverseRecOn with
  | nil => exact ⟨⟨.nil, nofun⟩, fun _ => rfl⟩
  | append_singleton items item ih =>
      obtain ⟨grouped, groups⟩ := ih
      rw [groupBy, List.foldl_append]
      refine ⟨grouped.push, fun other => ?_⟩
      rw [List.filter_append, ← groups other]
      refine (groupOf_push grouped other).trans ?_
      by_cases here : other = key item
      · rw [if_pos here, here, List.filter_cons_of_pos (by simp), List.filter_nil]
      · rw [if_neg here, List.filter_cons_of_neg (by simpa using Ne.symm here), List.filter_nil,
          List.append_nil]

/-- Each of the groups is the group of its own key, since no key has two. -/
theorem Grouped.groupOf_mem (grouped : Grouped groups) {group : κ × List α}
    (member : group ∈ groups) : groupOf groups group.1 = group.2 := by
  induction groups with
  | nil => exact absurd member List.not_mem_nil
  | cons first rest ih =>
      obtain ⟨above, ascending⟩ := List.pairwise_cons.mp grouped.ascending
      rw [groupOf_cons]
      rcases List.mem_cons.mp member with rfl | later
      · exact if_pos rfl
      · rw [if_neg (above group.1 (List.mem_map_of_mem later)).ne]
        exact ih ⟨ascending, fun group member =>
          grouped.filled group (List.mem_cons_of_mem _ member)⟩ later

variable {key : α → κ} {items others : List α}

/-- A group is the part of the list with its key. -/
theorem mem_groupBy {group : κ × List α} (member : group ∈ groupBy key items) :
    group.2 = items.filter fun item => key item = group.1 := by
  obtain ⟨grouped, groups⟩ := groupBy_spec key items
  rw [← groups, grouped.groupOf_mem member]

/-- The keys of the groups are those of the list. -/
theorem keys_groupBy {other : κ} :
    other ∈ (groupBy key items).map Prod.fst ↔ ∃ item ∈ items, key item = other := by
  obtain ⟨grouped, groups⟩ := groupBy_spec key items
  constructor
  · intro member
    obtain ⟨group, inside, rfl⟩ := List.mem_map.mp member
    obtain ⟨item, held⟩ := List.exists_mem_of_ne_nil _ (grouped.filled group inside)
    rw [mem_groupBy inside] at held
    exact ⟨item, (List.mem_filter.mp held).1, of_decide_eq_true (List.mem_filter.mp held).2⟩
  · rintro ⟨item, member, rfl⟩
    by_contra absent
    have empty := groups (key item)
    rw [groupOf_eq_nil absent] at empty
    have inside : item ∈ items.filter fun other => key other = key item :=
      List.mem_filter.mpr ⟨member, decide_eq_true rfl⟩
    rw [← empty] at inside
    exact absurd inside List.not_mem_nil

/-- Grouping is filtering by each of the keys in turn. The order of the keys is the one in which
they first occur. -/
theorem groupBy_eq_map (key : α → κ) (items : List α) :
    groupBy key items = ((groupBy key items).map Prod.fst).map fun held =>
      (held, items.filter fun item => key item = held) := by
  rw [List.map_map]
  refine (List.map_id _).symm.trans (List.map_congr_left fun group member => ?_)
  exact Prod.ext rfl (mem_groupBy member)

/-- The groups do not depend on the order of the list but in theirs. -/
theorem groupBy_perm (perm : items.Perm others) :
    List.Forall₂ (fun group group' => group.1 = group'.1 ∧ group.2.Perm group'.2)
      (groupBy key items) (groupBy key others) := by
  have keys : (groupBy key items).map Prod.fst = (groupBy key others).map Prod.fst := by
    refine List.Pairwise.eq_of_mem_iff (groupBy_spec key items).1.ascending
      (groupBy_spec key others).1.ascending fun other => ?_
    rw [keys_groupBy, keys_groupBy]
    exact exists_congr fun item => and_congr_left' perm.mem_iff
  rw [groupBy_eq_map key items, groupBy_eq_map key others, ← keys, List.forall₂_map_left_iff,
    List.forall₂_map_right_iff]
  exact List.forall₂_same.mpr fun held _ => ⟨rfl, perm.filter _⟩

/-- What is added up over the groups is added up over the list. -/
theorem sum_groupBy {M : Type} [AddCommMonoid M] (amount : α → M) (items : List α) :
    ((groupBy key items).map fun group => (group.2.map amount).sum).sum =
      (items.map amount).sum := by
  have pushed (held : κ) (item : α) (groups : List (κ × List α)) :
      ((pushGroup held item groups).map fun group => (group.2.map amount).sum).sum =
        (groups.map fun group => (group.2.map amount).sum).sum + amount item := by
    induction groups with
    | nil => simp [pushGroup]
    | cons group rest ih =>
        obtain ⟨first, items⟩ := group
        rw [pushGroup]
        split_ifs with before same
        · simp [add_comm]
        · simp [add_right_comm]
        · simp only [List.map_cons, List.sum_cons, ih, add_assoc]
  induction items using List.reverseRecOn with
  | nil => rfl
  | append_singleton items item ih =>
      rw [groupBy, List.foldl_append, List.map_append, List.sum_append, ← ih]
      exact (pushed (key item) item _).trans (by simp [groupBy])

end Groups

end Foundation
