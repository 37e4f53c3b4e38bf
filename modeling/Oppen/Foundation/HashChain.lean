import Mathlib.Data.List.Induction
import Mathlib.Data.Set.Function

/-! # Hash chains

A chain is a list of entries in which every entry names the digest of the entry
before it, the first one naming a fixed genesis value. When digesting is injective
the digest of any entry determines the whole chain up to that entry.
-/

namespace Foundation

variable {Entry Digest : Type}

/-- Every entry names its predecessor's digest, starting from `genesis`. -/
def Linked (previous : Entry → Digest) (digest : Entry → Digest) : Digest → List Entry → Prop
  | _, [] => True
  | genesis, entry :: rest => previous entry = genesis ∧ Linked previous digest (digest entry) rest

/-- The digest the next entry has to name. -/
def tipDigest (digest : Entry → Digest) (genesis : Digest) (chain : List Entry) : Digest :=
  (chain.getLast?.map digest).getD genesis

@[simp] theorem tipDigest_nil (digest : Entry → Digest) (genesis : Digest) :
    tipDigest digest genesis [] = genesis := rfl

/-- The tip of a longer chain is the digest of its last entry. -/
@[simp] theorem tipDigest_concat (digest : Entry → Digest) (genesis : Digest) (chain : List Entry)
    (entry : Entry) : tipDigest digest genesis (chain ++ [entry]) = digest entry := by
  simp only [tipDigest, List.getLast?_append, List.getLast?_singleton, Option.some_or,
    Option.map_some, Option.getD_some]

/-- The tip depends on the first entry only through that entry's digest. -/
theorem tipDigest_cons (digest : Entry → Digest) (genesis : Digest) (entry : Entry)
    (rest : List Entry) :
    tipDigest digest genesis (entry :: rest) = tipDigest digest (digest entry) rest := by
  cases rest using List.reverseRecOn with
  | nil => rfl
  | append_singleton rest last => rw [← List.cons_append, tipDigest_concat, tipDigest_concat]

variable {previous : Entry → Digest} {digest : Entry → Digest} {genesis : Digest}

/-- A chain is extended by an entry exactly when the entry names its tip. -/
theorem linked_concat (chain : List Entry) (entry : Entry) :
    Linked previous digest genesis (chain ++ [entry]) ↔
      Linked previous digest genesis chain ∧ previous entry = tipDigest digest genesis chain := by
  induction chain generalizing genesis with
  | nil => simp only [List.nil_append, Linked, and_true, tipDigest_nil, true_and]
  | cons head rest ih =>
      rw [List.cons_append]
      simp only [Linked]
      rw [ih, tipDigest_cons, and_assoc]

/-- Every beginning of a linked chain is linked. -/
theorem Linked.take {chain : List Entry} (linked : Linked previous digest genesis chain)
    (count : Nat) : Linked previous digest genesis (chain.take count) := by
  induction chain generalizing genesis count with
  | nil => rw [List.take_nil]; exact linked
  | cons head rest ih =>
      cases count with
      | zero => exact trivial
      | succ count => exact ⟨linked.1, ih linked.2 count⟩

/-- A chain of records is linked when the chain of what they show of themselves is. -/
theorem linked_map {View : Type} {view : Entry → View} {previous digest : View → Digest}
    (chain : List Entry) :
    Linked previous digest genesis (chain.map view) ↔
      Linked (previous ∘ view) (digest ∘ view) genesis chain := by
  induction chain generalizing genesis with
  | nil => exact Iff.rfl
  | cons entry rest ih => exact and_congr Iff.rfl ih

/-- The tip of a chain that is seen through a view is the tip under the digest of that view. -/
theorem tipDigest_map {View : Type} (view : Entry → View) (digest : View → Digest)
    (genesis : Digest) (chain : List Entry) :
    tipDigest digest genesis (chain.map view) = tipDigest (digest ∘ view) genesis chain := by
  rw [tipDigest, List.getLast?_map, Option.map_map]
  rfl

/-- **Commitment.** Two chains of the same length from the same genesis whose
last digests agree are equal, when digesting is injective on their entries. -/
theorem Linked.eq_of_tipDigest_eq {entries : Set Entry} (injective : Set.InjOn digest entries) :
    ∀ {first second : List Entry}, Linked previous digest genesis first →
      Linked previous digest genesis second → (∀ entry ∈ first, entry ∈ entries) →
      (∀ entry ∈ second, entry ∈ entries) → first.length = second.length →
      tipDigest digest genesis first = tipDigest digest genesis second → first = second := by
  intro first
  induction first using List.reverseRecOn with
  | nil =>
      intro second _ _ _ _ sameLength _
      exact (List.length_eq_zero_iff.mp sameLength.symm).symm
  | append_singleton initial last ih =>
      intro second linkedFirst linkedSecond inFirst inSecond sameLength sameTip
      cases second using List.reverseRecOn with
      | nil =>
          rw [List.length_append, List.length_singleton, List.length_nil] at sameLength
          exact absurd sameLength (Nat.succ_ne_zero _)
      | append_singleton initial' last' =>
          rw [tipDigest_concat, tipDigest_concat] at sameTip
          have lasts : last = last' :=
            injective (inFirst last (List.mem_append_right _ (List.mem_singleton_self _)))
              (inSecond last' (List.mem_append_right _ (List.mem_singleton_self _))) sameTip
          subst lasts
          obtain ⟨initials, names⟩ := (linked_concat initial last).mp linkedFirst
          obtain ⟨initials', names'⟩ := (linked_concat initial' last).mp linkedSecond
          have lengths : initial.length = initial'.length := by
            simpa only [List.length_append, List.length_singleton, Nat.add_right_cancel_iff]
              using sameLength
          rw [ih initials initials'
            (fun entry member => inFirst entry (List.mem_append_left _ member))
            (fun entry member => inSecond entry (List.mem_append_left _ member)) lengths
            (names.symm.trans names')]

end Foundation
