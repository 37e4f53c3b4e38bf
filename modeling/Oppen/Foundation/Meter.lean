import Mathlib.Algebra.Order.Ring.Defs
import Mathlib.Tactic.Linarith
import Mathlib.Tactic.Ring

/-! # Meters

A level that fills at a constant rate up to a capacity and is drawn from in equal units.
The level at a time depends on the draws before it only, and a window of time bounds how many
of them it can hold.
-/

namespace Foundation.Meter

variable {R : Type*} [CommRing R] [LinearOrder R] {capacity rate unit level since : R}

/-- The level after it filled for a while. -/
def fill (capacity rate level elapsed : R) : R := min (level + elapsed * rate) capacity

/-- A meter never holds more than its capacity, however long it was left to fill. -/
theorem fill_le (capacity rate level elapsed : R) : fill capacity rate level elapsed ≤ capacity :=
  min_le_right ..

omit [CommRing R] in
/-- A window that closed before a draw holds no later one. -/
theorem closed_window {time opens closes : R} {times : List R}
    (sorted : (time :: times).Pairwise (· ≤ ·)) (closed : closes < time) :
    (time :: times).filter (fun time => opens ≤ time ∧ time ≤ closes) = [] := by
  refine List.filter_eq_nil_iff.mpr fun other member held => not_le.mpr closed ?_
  rw [decide_eq_true_eq] at held
  rcases List.mem_cons.mp member with rfl | further
  · exact held.2
  · exact ((List.pairwise_cons.mp sorted).1 other further).trans held.2

variable [IsStrictOrderedRing R]

/-- Filling twice fills for both times. -/
theorem fill_fill (flows : 0 ≤ rate) (first : R) {second : R} (later : 0 ≤ second) :
    fill capacity rate (fill capacity rate level first) second =
      fill capacity rate level (first + second) := by
  have gained : 0 ≤ second * rate := mul_nonneg later flows
  have full : capacity ≤ capacity + second * rate := by linarith
  rw [fill, fill, fill, min_add, min_assoc, min_eq_right full]
  congr 1
  ring

/-- Draws of one unit, each at its time, and then filling to an end. -/
def drain (capacity rate unit : R) : R → R → List R → R → R
  | level, since, [], last => fill capacity rate level (last - since)
  | level, since, time :: times, last =>
      drain capacity rate unit (fill capacity rate level (time - since) - unit) time times last

/-- Every draw finds a unit. -/
def Covered (capacity rate unit : R) : R → R → List R → Prop
  | _, _, [] => True
  | level, since, time :: times =>
      unit ≤ fill capacity rate level (time - since) ∧
        Covered capacity rate unit (fill capacity rate level (time - since) - unit) time times

/-- Whether the level is read in between makes no difference. -/
theorem drain_fill (flows : 0 ≤ rate) {now last : R} {times : List R}
    (later : ∀ time ∈ times, now ≤ time) (ends : now ≤ last) :
    drain capacity rate unit (fill capacity rate level (now - since)) now times last =
      drain capacity rate unit level since times last := by
  cases times with
  | nil =>
      rw [drain, drain, fill_fill flows _ (sub_nonneg.mpr ends)]
      congr 1
      ring
  | cons time times =>
      have ahead := sub_nonneg.mpr (later time List.mem_cons_self)
      have joined : now - since + (time - now) = time - since := by
        ring
      rw [drain, drain, fill_fill flows _ ahead, joined]

/-- Filling up to a time between covers the later takings just as well, since what is filled is what
would have flowed. -/
theorem covered_fill (flows : 0 ≤ rate) {now : R} {times : List R}
    (later : ∀ time ∈ times, now ≤ time)
    (covered : Covered capacity rate unit (fill capacity rate level (now - since)) now times) :
    Covered capacity rate unit level since times := by
  cases times with
  | nil => trivial
  | cons time times =>
      have ahead := sub_nonneg.mpr (later time List.mem_cons_self)
      have joined : now - since + (time - now) = time - since := by
        ring
      rw [Covered, fill_fill flows _ ahead, joined] at covered
      exact covered

/-- A window that is open already holds what there is and what flows in. -/
theorem draws_open (flows : 0 ≤ rate) {opens closes : R} {times : List R}
    (covered : Covered capacity rate unit level since times)
    (sorted : (since :: times).Pairwise (· ≤ ·)) (inside : opens ≤ since) (ahead : since ≤ closes)
    (stocked : 0 ≤ level) :
    ((times.filter fun time => opens ≤ time ∧ time ≤ closes).length : R) * unit ≤
      level + (closes - since) * rate := by
  induction times generalizing level since with
  | nil =>
      have gained := mul_nonneg (sub_nonneg.mpr ahead) flows
      rw [List.filter_nil, List.length_nil, Nat.cast_zero, zero_mul]
      linarith
  | cons time times ih =>
      obtain ⟨enough, rest⟩ := covered
      obtain ⟨least, sorted⟩ := List.pairwise_cons.mp sorted
      have later := least time List.mem_cons_self
      by_cases within : time ≤ closes
      · have counted := ih rest sorted (inside.trans later) within (sub_nonneg.mpr enough)
        have filled : fill capacity rate level (time - since) ≤ level + (time - since) * rate :=
          min_le_left ..
        rw [List.filter_cons_of_pos (by simp [inside.trans later, within]), List.length_cons,
          Nat.cast_succ]
        linarith
      · have gained := mul_nonneg (sub_nonneg.mpr ahead) flows
        rw [closed_window sorted (not_le.mp within), List.length_nil, Nat.cast_zero, zero_mul]
        linarith

/-- **Window.** Any window holds at most the capacity and what flows in while it is open. -/
theorem draws_window (flows : 0 ≤ rate) {opens closes : R} {times : List R}
    (covered : Covered capacity rate unit level since times)
    (sorted : (since :: times).Pairwise (· ≤ ·)) (before : since ≤ opens) (ordered : opens ≤ closes)
    (stocked : 0 ≤ capacity) :
    ((times.filter fun time => opens ≤ time ∧ time ≤ closes).length : R) * unit ≤
      capacity + (closes - opens) * rate := by
  induction times generalizing level since with
  | nil =>
      have gained := mul_nonneg (sub_nonneg.mpr ordered) flows
      rw [List.filter_nil, List.length_nil, Nat.cast_zero, zero_mul]
      linarith
  | cons time times ih =>
      obtain ⟨enough, rest⟩ := covered
      obtain ⟨least, sorted⟩ := List.pairwise_cons.mp sorted
      by_cases early : time ≤ opens
      · by_cases counts : opens ≤ time
        · -- the draw at the opening
          obtain rfl := le_antisymm early counts
          have counted := draws_open flows rest sorted le_rfl ordered (sub_nonneg.mpr enough)
          have full := fill_le capacity rate level (time - since)
          rw [List.filter_cons_of_pos (by simp [ordered]), List.length_cons, Nat.cast_succ]
          linarith
        · rw [List.filter_cons_of_neg (by simp [counts])]
          exact ih rest sorted early
      · have opened := (not_le.mp early).le
        have full := fill_le capacity rate level (time - since)
        have lasts : (time - opens) * rate ≥ 0 := mul_nonneg (sub_nonneg.mpr opened) flows
        by_cases within : time ≤ closes
        · have counted := draws_open flows rest sorted opened within (sub_nonneg.mpr enough)
          rw [List.filter_cons_of_pos (by simp [opened, within]), List.length_cons, Nat.cast_succ]
          linarith
        · have gained := mul_nonneg (sub_nonneg.mpr ordered) flows
          rw [closed_window sorted (not_le.mp within), List.length_nil, Nat.cast_zero, zero_mul]
          linarith

/-- Wherever the window lies. -/
theorem draws_within (flows : 0 ≤ rate) {opens closes : R} {times : List R}
    (covered : Covered capacity rate unit level since times)
    (sorted : (since :: times).Pairwise (· ≤ ·)) (ordered : opens ≤ closes) (stocked : 0 ≤ level)
    (within : level ≤ capacity) :
    ((times.filter fun time => opens ≤ time ∧ time ≤ closes).length : R) * unit ≤
      capacity + (closes - opens) * rate := by
  rcases le_total since opens with before | inside
  · exact draws_window flows covered sorted before ordered (stocked.trans within)
  · by_cases ahead : since ≤ closes
    · have counted := draws_open flows covered sorted inside ahead stocked
      have shorter : (closes - since) * rate ≤ (closes - opens) * rate :=
        mul_le_mul_of_nonneg_right (sub_le_sub_left inside closes) flows
      linarith
    · have gained := mul_nonneg (sub_nonneg.mpr ordered) flows
      have none : (since :: times).filter (fun time => opens ≤ time ∧ time ≤ closes) = [] :=
        closed_window sorted (not_le.mp ahead)
      rw [List.filter_cons_of_neg (by simp [ahead])] at none
      rw [none, List.length_nil, Nat.cast_zero, zero_mul]
      linarith

end Foundation.Meter
