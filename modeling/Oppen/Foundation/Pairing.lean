import Mathlib.Data.List.Forall2
import Mathlib.Data.List.Nodup
import Mathlib.Data.List.Perm.Subperm

/-! # Pairing two lists

Two lists whose entries belong together, each entry of one with an entry of the other. Where the
entries are told apart by keys, a pairing that leaves nothing out goes through both lists exactly
once.
-/

namespace Foundation

variable {Left Right Key : Type} {matched : Left → Right → Prop} {lefts : List Left}
  {rights : List Right}

/-- Entries that all have a partner, with their partners. -/
theorem exists_forall₂ (partner : ∀ left ∈ lefts, ∃ right ∈ rights, matched left right) :
    ∃ partners, List.Forall₂ matched lefts partners ∧ partners ⊆ rights := by
  induction lefts with
  | nil => exact ⟨[], .nil, List.nil_subset rights⟩
  | cons left lefts ih =>
      obtain ⟨right, member, here⟩ := partner left List.mem_cons_self
      obtain ⟨partners, paired, inside⟩ :=
        ih fun left member => partner left (List.mem_cons_of_mem _ member)
      exact ⟨right :: partners, .cons here paired, List.cons_subset.mpr ⟨member, inside⟩⟩

/-- Where paired entries have the same key, the keys of the two lists are the same list. -/
theorem map_eq_of_forall₂ {leftKey : Left → Key} {rightKey : Right → Key}
    (keys : ∀ left right, matched left right → rightKey right = leftKey left)
    (paired : List.Forall₂ matched lefts rights) : rights.map rightKey = lefts.map leftKey := by
  induction paired with
  | nil => rfl
  | cons here _ ih => rw [List.map_cons, List.map_cons, keys _ _ here, ih]

/-- What holds of one entry only is found there. -/
theorem find?_of_only {holds : Right → Bool} {right : Right} (member : right ∈ rights)
    (held : holds right = true) (only : ∀ other ∈ rights, holds other = true → other = right) :
    rights.find? holds = some right := by
  cases found : rights.find? holds with
  | none => exact absurd held (List.find?_eq_none.mp found right member)
  | some other =>
      rw [only other (List.mem_of_find?_eq_some found) (List.find?_some found)]

/-- What holds of entries of one key only is found at the entry with the key. -/
theorem find?_of_key {key : Right → Key} (nodup : (rights.map key).Nodup) {right : Right}
    (member : right ∈ rights) {holds : Right → Bool} (held : holds right = true)
    (only : ∀ other, holds other = true → key other = key right) :
    rights.find? holds = some right :=
  find?_of_only member held fun other inside holds =>
    List.inj_on_of_nodup_map nodup inside member (only other holds)

/-- A change of the entry with a key changes the list there and nowhere else. -/
theorem exists_split_of_key {key : Right → Key} (nodup : (rights.map key).Nodup) {right : Right}
    (member : right ∈ rights) {change : Right → Right}
    (others : ∀ other, key other ≠ key right → change other = other) :
    ∃ before after, rights = before ++ right :: after ∧
      rights.map change = before ++ change right :: after := by
  obtain ⟨before, after, rfl⟩ := List.append_of_mem member
  rw [List.map_append, List.map_cons] at nodup
  obtain ⟨-, tail, apart⟩ := List.nodup_append.mp nodup
  have earlier : before.map change = before := by
    refine List.map_congr_left (fun other inside => ?_) |>.trans (List.map_id _)
    exact others other (apart _ (List.mem_map_of_mem inside) _ List.mem_cons_self)
  have later : after.map change = after := by
    refine List.map_congr_left (fun other inside => ?_) |>.trans (List.map_id _)
    apply others other
    intro same
    exact (List.nodup_cons.mp tail).1 (same ▸ List.mem_map_of_mem inside)
  refine ⟨before, after, rfl, ?_⟩
  rw [List.map_append, List.map_cons, earlier, later]

/-- **A pairing of keyed lists.** When every entry on the left has a partner of its key, and every
key on the right is one of the left's, the partners are the entries on the right, in some order. -/
theorem exists_perm_of_keys {leftKey : Left → Key} {rightKey : Right → Key}
    (keys : ∀ left right, matched left right → rightKey right = leftKey left)
    (leftNodup : (lefts.map leftKey).Nodup) (rightNodup : (rights.map rightKey).Nodup)
    (partner : ∀ left ∈ lefts, ∃ right ∈ rights, matched left right)
    (covered : ∀ right ∈ rights, rightKey right ∈ lefts.map leftKey) :
    ∃ partners, partners.Perm rights ∧ List.Forall₂ matched lefts partners := by
  obtain ⟨partners, paired, inside⟩ := exists_forall₂ partner
  have same : partners.map rightKey = lefts.map leftKey := map_eq_of_forall₂ keys paired
  have nodup : partners.Nodup := List.Nodup.of_map rightKey (by rw [same]; exact leftNodup)
  refine ⟨partners, ?_, paired⟩
  apply (List.perm_ext_iff_of_nodup nodup (List.Nodup.of_map rightKey rightNodup)).mpr
  intro right
  constructor
  · intro member
    exact inside member
  · intro member
    have key : rightKey right ∈ partners.map rightKey := by
      rw [same]
      exact covered right member
    obtain ⟨other, held, named⟩ := List.mem_map.mp key
    have equal : other = right := List.inj_on_of_nodup_map rightNodup (inside held) member named
    rw [← equal]
    exact held

end Foundation
