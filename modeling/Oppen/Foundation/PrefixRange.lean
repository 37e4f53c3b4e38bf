import Mathlib.Data.List.Lex
import Mathlib.Order.Cover

/-! # Ranges of a lexicographic index

In lexicographic order the texts that extend a stem by one letter are a half-open
range: its upper bound is the stem with that letter raised to the next one.
-/

namespace Foundation

variable {α : Type} [LinearOrder α]

/-- A text begins with a stem and a letter exactly if it lies between that stem with the letter and
the stem with the next one. No letter is between the two, which is what makes the range of texts the
prefix. -/
theorem prefix_iff_between {low high : α} (adjacent : low ⋖ high) :
    ∀ stem text : List α,
      (¬ text < stem ++ [low] ∧ text < stem ++ [high]) ↔ stem ++ [low] <+: text
  | [], [] => by simp
  | [], head :: rest => by
      simp only [List.nil_append, List.cons_lt_cons_iff, List.cons_prefix_cons, List.nil_prefix,
        and_true, List.not_lt_nil, and_false, or_false, not_lt]
      constructor
      · rintro ⟨above, below⟩
        exact above.lt_or_eq.elim (fun above => absurd below (adjacent.2 above)) id
      · rintro rfl
        exact ⟨le_rfl, adjacent.lt⟩
  | first :: stem, [] => by simp
  | first :: stem, head :: rest => by
      have ih := prefix_iff_between adjacent stem rest
      simp only [List.cons_append, List.cons_lt_cons_iff, List.cons_prefix_cons, ← ih, not_or,
        not_and, not_lt]
      constructor
      · rintro ⟨⟨above, later⟩, below | ⟨same, below⟩⟩
        · exact absurd below (not_lt.mpr above)
        · exact ⟨same.symm, later same, below⟩
      · rintro ⟨rfl, above, below⟩
        exact ⟨⟨le_rfl, fun _ => above⟩, .inr ⟨rfl, below⟩⟩

end Foundation
