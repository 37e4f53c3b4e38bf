import Mathlib.Data.List.Pairwise
import Mathlib.Order.Basic
import Mathlib.Data.Nat.Basic
import Mathlib.Tactic.Conv

/-! # Reading a sorted list by a cursor

A list whose keys increase is cut by a cursor into the entries at or below it and those
above it. A page is the first entries above the cursor; moving the cursor to the last of
them, or past everything when the page is short, keeps exact account of what was read.
-/

namespace Foundation

variable {Entry : Type} {key : Entry → Nat} {entries : List Entry}

/-- The entries a cursor has passed. -/
def passed (key : Entry → Nat) (cursor : Nat) (entries : List Entry) : List Entry :=
  entries.filter fun entry => key entry ≤ cursor

/-- The entries a cursor has not passed. -/
def ahead (key : Entry → Nat) (cursor : Nat) (entries : List Entry) : List Entry :=
  entries.filter fun entry => cursor < key entry

/-- A cut of the list is where the cursor says. -/
theorem passed_of_cut {cursor : Nat} {first rest : List Entry}
    (below : ∀ entry ∈ first, key entry ≤ cursor) (above : ∀ entry ∈ rest, cursor < key entry) :
    passed key cursor (first ++ rest) = first := by
  have all : first.filter (fun entry => decide (key entry ≤ cursor)) = first :=
    List.filter_eq_self.mpr fun entry member => decide_eq_true (below entry member)
  have none : rest.filter (fun entry => decide (key entry ≤ cursor)) = [] := by
    refine List.filter_eq_nil_iff.mpr fun entry member passed => ?_
    exact absurd (of_decide_eq_true passed) (not_le.mpr (above entry member))
  rw [passed, List.filter_append, all, none, List.append_nil]

/-- What a cursor has passed, then what is ahead of it, is the sorted list itself. -/
theorem passed_append_ahead (sorted : entries.Pairwise fun first second => key first < key second)
    (cursor : Nat) : passed key cursor entries ++ ahead key cursor entries = entries := by
  induction entries with
  | nil => rfl
  | cons entry rest ih =>
      obtain ⟨least, sorted⟩ := List.pairwise_cons.mp sorted
      have tail := ih sorted
      by_cases below : key entry ≤ cursor
      · have here : ¬ cursor < key entry := not_lt.mpr below
        simp only [passed, ahead, List.filter_cons, decide_eq_true_eq, below, here, if_true,
          if_false, List.cons_append]
        exact congrArg (entry :: ·) tail
      · have above : cursor < key entry := not_le.mp below
        have none : passed key cursor rest = [] := by
          refine List.filter_eq_nil_iff.mpr fun later member passed => ?_
          have before := least later member
          have within := of_decide_eq_true passed
          omega
        rw [none, List.nil_append] at tail
        rw [passed, ahead, List.filter_cons_of_neg (by simpa using above),
          List.filter_cons_of_pos (by simpa using above)]
        change passed key cursor rest ++ entry :: ahead key cursor rest = entry :: rest
        rw [none, tail, List.nil_append]

/-- Moving the cursor past a page adds the page to what was passed. -/
theorem passed_page (sorted : entries.Pairwise fun first second => key first < key second)
    {cursor count next : Nat} (forward : cursor ≤ next)
    (reached : ∀ entry ∈ (ahead key cursor entries).take count, key entry ≤ next)
    (left : ∀ entry ∈ (ahead key cursor entries).drop count, next < key entry) :
    passed key next entries =
      passed key cursor entries ++ (ahead key cursor entries).take count := by
  have whole := passed_append_ahead sorted cursor
  have cut : entries = (passed key cursor entries ++ (ahead key cursor entries).take count) ++
      (ahead key cursor entries).drop count := by
    rw [List.append_assoc, List.take_append_drop, whole]
  conv_lhs => rw [cut]
  refine passed_of_cut (fun entry member => ?_) left
  rcases List.mem_append.mp member with older | newer
  · exact (of_decide_eq_true (List.mem_filter.mp older).2).trans forward
  · exact reached entry newer

/-- The last entry of a sorted page separates it from what is left. -/
theorem page_last (sorted : entries.Pairwise fun first second => key first < key second)
    {count : Nat} {last : Entry} (final : (entries.take count).getLast? = some last) :
    (∀ entry ∈ entries.take count, key entry ≤ key last) ∧
      ∀ entry ∈ entries.drop count, key last < key entry := by
  have parts := sorted
  rw [← List.take_append_drop count entries, List.pairwise_append] at parts
  obtain ⟨page, _, across⟩ := parts
  have member := List.mem_of_getLast? final
  refine ⟨fun entry inside => ?_, fun entry rest => across last member entry rest⟩
  obtain ⟨initial, shape⟩ := List.getLast?_eq_some_iff.mp final
  rw [shape] at inside page
  rcases List.mem_append.mp inside with earlier | here
  · exact ((List.pairwise_append.mp page).2.2 entry earlier last (List.mem_singleton_self last)).le
  · rw [List.mem_singleton.mp here]

end Foundation
