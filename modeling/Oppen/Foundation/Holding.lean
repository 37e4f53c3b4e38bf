import Mathlib.Algebra.Order.BigOperators.Group.List
import Mathlib.Algebra.Order.Field.Basic
import Mathlib.Logic.Relation
import Mathlib.Order.Bounds.Basic
import Mathlib.Tactic.Linarith
import Mathlib.Tactic.Ring

/-! # Positions and the orders that work on them

A position, signed, with the orders that may fill. Orders fill in parts and in any order; one
that may only reduce is clipped to the position of the moment. The farthest that any sequence of
fills can reach is known beforehand: the reductions of one side first, then its openings.
-/

namespace Foundation

variable {K : Type} [Field K] [LinearOrder K]

/-- An order that works, with the size that is left of it. -/
structure Working (K : Type) [LE K] [Zero K] where
  buys : Bool
  reduces : Bool
  size : K
  positive : 0 ≤ size

namespace Working

/-- What an order counts for on a side. -/
def counted (order : Working K) (buys reduces : Bool) : K :=
  if order.buys = buys ∧ order.reduces = reduces then order.size else 0

/-- What a working order counts on one side is never negative. -/
theorem counted_nonneg (order : Working K) (buys reduces : Bool) :
    0 ≤ order.counted buys reduces := by
  unfold counted
  split
  · exact order.positive
  · exact le_rfl

/-- The sizes that work on a side. -/
def total (orders : List (Working K)) (buys reduces : Bool) : K :=
  (orders.map fun order => order.counted buys reduces).sum

variable (orders : List (Working K)) (buys reduces : Bool)

@[simp] theorem total_nil : total ([] : List (Working K)) buys reduces = 0 := rfl

/-- The total of more orders is that of the first with that of the rest. -/
@[simp] theorem total_cons (order : Working K) :
    total (order :: orders) buys reduces = order.counted buys reduces + total orders buys reduces :=
  rfl

/-- One of the orders apart. -/
theorem total_middle (done todo : List (Working K)) (order : Working K) :
    total (done ++ order :: todo) buys reduces =
      order.counted buys reduces + total (done ++ todo) buys reduces := by
  simp only [total, List.map_append, List.map_cons, List.sum_append, List.sum_cons]
  exact add_left_comm _ _ _

/-- The order on the other side. -/
def mirror (order : Working K) : Working K := { order with buys := !order.buys }

/-- Turning the sides twice is turning nothing. -/
@[simp] theorem mirror_mirror (order : Working K) : order.mirror.mirror = order := by
  cases order
  simp [mirror]

/-- The total of turned orders is the total of the orders on the other side. -/
theorem total_mirror : total (orders.map mirror) buys reduces = total orders (!buys) reduces := by
  have same (order : Working K) : order.mirror.counted buys reduces =
      order.counted (!buys) reduces := by
    unfold counted mirror
    simp only [Bool.not_eq_eq_eq_not]
  simp only [total, List.map_map, Function.comp_def, same]

variable [IsStrictOrderedRing K]

/-- The total of working orders on one side is never negative. -/
theorem total_nonneg : 0 ≤ total orders buys reduces := by
  apply List.sum_nonneg
  intro amount member
  obtain ⟨order, -, rfl⟩ := List.mem_map.mp member
  exact order.counted_nonneg buys reduces

end Working

/-- A position and the orders that work on it. -/
structure Holding (K : Type) [LE K] [Zero K] where
  position : K
  orders : List (Working K)

namespace Holding

open Working

/-- How much of an order on a side can reduce a position. -/
def room (position : K) (buys : Bool) : K := max (if buys then -position else position) 0

/-- A position after a fill. -/
def moved (position : K) (buys : Bool) (amount : K) : K :=
  if buys then position + amount else position - amount

/-- A fill: of any order, any part that works, clipped to the position for one that may only
reduce; what is left of the order may be less than what did not fill. -/
inductive Fill : Holding K → Holding K → Prop
  | fill (position : K) (done todo : List (Working K)) (order left : Working K) (amount : K)
      (side : left.buys = order.buys) (kind : left.reduces = order.reduces)
      (forward : 0 ≤ amount) (within : amount + left.size ≤ order.size)
      (clipped : order.reduces = true → amount ≤ room position order.buys) :
      Fill ⟨position, done ++ order :: todo⟩
        ⟨moved position order.buys amount, done ++ left :: todo⟩

/-- Any sequence of fills. -/
abbrev Fills : Holding K → Holding K → Prop := Relation.ReflTransGen Fill

variable (holding : Holding K)

/-- The holding with buying and selling exchanged. -/
def mirror : Holding K := ⟨-holding.position, holding.orders.map Working.mirror⟩

@[simp] theorem mirror_mirror : holding.mirror.mirror = holding := by
  cases holding
  simp [mirror, Function.comp_def]

/-- A short position has the room a long one has on the other side. -/
theorem room_neg (position : K) (buys : Bool) : room (-position) (!buys) = room position buys := by
  cases buys <;> simp [room]

omit [LinearOrder K] in
/-- A trade moves a short position as the turned trade moves the long one. -/
theorem moved_neg (position amount : K) (buys : Bool) :
    moved (-position) (!buys) amount = -moved position buys amount := by
  cases buys
  · simp only [moved, Bool.not_false, if_true, Bool.false_eq_true, if_false]
    ring
  · simp only [moved, Bool.not_true, Bool.false_eq_true, if_false, if_true]
    ring

variable {holding} {before after : Holding K}

/-- A fill of turned holdings is the turned fill. -/
theorem Fill.mirror (fill : Fill before after) : Fill before.mirror after.mirror := by
  cases fill with
  | fill position done todo order left amount side kind forward within clipped =>
      simp only [Holding.mirror, List.map_append, List.map_cons, ← moved_neg]
      refine .fill _ _ _ order.mirror left.mirror amount ?_ kind forward within ?_
      · exact congrArg (!·) side
      · intro reduces
        exact (clipped reduces).trans_eq (room_neg position order.buys).symm

/-- A run of fills of turned holdings is the turned run. -/
theorem Fills.mirror (fills : Fills before after) : Fills before.mirror after.mirror :=
  Relation.ReflTransGen.lift Holding.mirror (fun _ _ fill => Fill.mirror fill) _ _ fills

/-! ## The extremes -/

/-- The longest position: what reduces a short one first, then every opening buy. -/
def long (holding : Holding K) : K :=
  holding.position + min (total holding.orders true true) (room holding.position true) +
    total holding.orders true false

/-- The shortest position. -/
def short (holding : Holding K) : K :=
  holding.position - min (total holding.orders false true) (room holding.position false) -
    total holding.orders false false

/-- The largest absolute position. -/
def worst (holding : Holding K) : K := max |holding.long| |holding.short|

/-- The position and everything that may still open. -/
def gross (holding : Holding K) : K :=
  |holding.position| + total holding.orders true false + total holding.orders false false

/-- The long end of a turned holding is its short end, the other way around. -/
theorem long_mirror (holding : Holding K) : holding.mirror.long = -holding.short := by
  unfold long short mirror
  rw [total_mirror, total_mirror, ← Bool.not_false, room_neg]
  simp only [Bool.not_false, Bool.not_true]
  ring

/-- The room of a position to be reduced is never negative. -/
theorem room_nonneg (position : K) (buys : Bool) : 0 ≤ room position buys := le_max_right _ _

variable [IsStrictOrderedRing K]

/-- A holding's position is at most what it could grow to. -/
theorem position_le_long (holding : Holding K) : holding.position ≤ holding.long := by
  have reduced : 0 ≤ min (total holding.orders true true) (room holding.position true) :=
    le_min (total_nonneg _ _ _) (room_nonneg _ _)
  have opened := total_nonneg holding.orders true false
  unfold long
  linarith

/-- A holding's position is at least what it could fall to. -/
theorem short_le_position (holding : Holding K) : holding.short ≤ holding.position := by
  have mirrored := holding.mirror.position_le_long
  rw [long_mirror] at mirrored
  exact neg_le_neg_iff.mp mirrored

/-- **One fill.** The longest position gets no longer. -/
theorem Fill.long_le (fill : Fill before after) : after.long ≤ before.long := by
  cases fill with
  | fill position done todo order left amount side kind forward within clipped =>
      have rest := left.positive
      simp only [Holding.long, total_middle, counted, side, kind]
      generalize total (done ++ todo) true true = reductions
      generalize total (done ++ todo) true false = openings
      -- an opposite fill makes room for reductions, and for no more of them than it moved
      obtain ⟨buys, reduces, size, positive⟩ := order
      cases buys <;> cases reduces <;>
        simp only [room, moved, Bool.false_eq_true, Bool.true_eq_false, if_true, if_false, and_true,
          and_false, true_imp_iff, false_imp_iff] at clipped within ⊢ <;>
        grind

/-- The gross size gets no larger. -/
theorem Fill.gross_le (fill : Fill before after) : after.gross ≤ before.gross := by
  cases fill with
  | fill position done todo order left amount side kind forward within clipped =>
      have rest := left.positive
      simp only [Holding.gross, total_middle, counted, side, kind]
      generalize total (done ++ todo) true false = buying
      generalize total (done ++ todo) false false = selling
      obtain ⟨buys, reduces, size, positive⟩ := order
      cases buys <;> cases reduces <;>
        simp only [room, moved, Bool.false_eq_true, Bool.true_eq_false, if_true, if_false, and_true,
          and_false, true_imp_iff, false_imp_iff] at clipped within ⊢ <;>
        grind

/-- No fill lowers the short end: what fills leaves the orders with what it takes. -/
theorem Fill.short_le (fill : Fill before after) : before.short ≤ after.short := by
  have mirrored := fill.mirror.long_le
  rw [long_mirror, long_mirror] at mirrored
  exact neg_le_neg_iff.mp mirrored

/-- **Every sequence of fills** stays between the extremes. -/
theorem Fills.bounds (fills : Fills before after) :
    after.long ≤ before.long ∧ before.short ≤ after.short := by
  induction fills with
  | refl => exact ⟨le_rfl, le_rfl⟩
  | tail _ fill ih => exact ⟨fill.long_le.trans ih.1, ih.2.trans fill.short_le⟩

/-- The bound on the absolute position, from the two extremes. -/
theorem worst_le {one two : Holding K} (long : two.long ≤ one.long)
    (short : one.short ≤ two.short) :
    two.worst ≤ one.worst := by
  have upper := two.short_le_position.trans two.position_le_long
  unfold worst
  grind

/-- The position's size is at most that of the worst one. -/
theorem abs_position_le_worst (holding : Holding K) : |holding.position| ≤ holding.worst := by
  have upper := holding.position_le_long
  have lower := holding.short_le_position
  unfold worst
  grind

/-- The worst position is at most the position with all that is open. -/
theorem worst_le_gross (holding : Holding K) : holding.worst ≤ holding.gross := by
  have bought := total_nonneg holding.orders true false
  have sold := total_nonneg holding.orders false false
  have raised := total_nonneg holding.orders true true
  have lowered := total_nonneg holding.orders false true
  unfold worst gross long short
  simp only [room, if_true, Bool.false_eq_true, if_false]
  grind

/-- **One cancel** lowers what can be reached, and what may still open. -/
theorem cancel_le (position : K) (done todo : List (Working K)) (order : Working K) :
    worst ⟨position, done ++ todo⟩ ≤ worst ⟨position, done ++ order :: todo⟩ ∧
      gross ⟨position, done ++ todo⟩ ≤ gross ⟨position, done ++ order :: todo⟩ := by
  have counted := order.counted_nonneg
  refine ⟨Holding.worst_le ?_ ?_, ?_⟩
  · have kept := min_le_min_right (room position true)
      (le_add_of_nonneg_left (counted true true) (a := total (done ++ todo) true true))
    have opened := counted true false
    simp only [long, total_middle]
    linarith
  · have kept := min_le_min_right (room position false)
      (le_add_of_nonneg_left (counted false true) (a := total (done ++ todo) false true))
    have opened := counted false false
    simp only [short, total_middle]
    linarith
  · have bought := counted true false
    have sold := counted false false
    simp only [gross, total_middle]
    linarith

/-! ## The extremes are reached -/

/-- Two reductions are one of both sizes. -/
theorem reduce_both {position first second : K} (one : 0 ≤ first) (two : 0 ≤ second) :
    position + min first (room position true) +
        min second (room (position + min first (room position true)) true) =
      position + min (first + second) (room position true) := by
  simp only [room, if_true]
  grind

/-- The reductions of a short position, order by order. -/
theorem reductions_fill (done todo : List (Working K)) (position : K) :
    ∃ left, Fills ⟨position, done ++ todo⟩
        ⟨position + min (total todo true true) (room position true), done ++ left⟩ ∧
      total left true false = total todo true false := by
  induction todo generalizing done position with
  | nil =>
      refine ⟨[], ?_, rfl⟩
      rw [total_nil, min_eq_left (room_nonneg _ _), add_zero]
  | cons order todo ih =>
      by_cases reduces : order.buys = true ∧ order.reduces = true
      · obtain ⟨buys, reduces⟩ := reduces
        have positive := order.positive
        have rest := total_nonneg todo true true
        let rest' : Working K :=
          { order with
            size := order.size - min order.size (room position true)
            positive := sub_nonneg.mpr (min_le_left _ _) }
        obtain ⟨left, fills, openings⟩ := ih (done ++ [rest'])
          (position + min order.size (room position true))
        refine ⟨rest' :: left, ?_, ?_⟩
        · have first : Fill ⟨position, done ++ order :: todo⟩
              ⟨moved position order.buys (min order.size (room position true)),
                done ++ rest' :: todo⟩ := by
            refine .fill _ _ _ _ _ _ rfl rfl (le_min positive (room_nonneg _ _)) ?_ ?_
            · exact (add_sub_cancel _ _).le
            · intro _
              rw [buys]
              exact min_le_right _ _
          rw [List.append_assoc, List.append_assoc] at fills
          rw [buys] at first
          refine Relation.ReflTransGen.head first ?_
          rw [total_cons, counted, if_pos ⟨buys, reduces⟩, ← reduce_both positive rest]
          exact fills
        · rw [total_cons, total_cons, openings]
          simp only [counted, rest', reduces, Bool.true_eq_false, and_false, if_false]
      · obtain ⟨left, fills, openings⟩ := ih (done ++ [order]) position
        rw [List.append_assoc, List.append_assoc] at fills
        refine ⟨order :: left, ?_, ?_⟩
        · rw [total_cons, counted, if_neg reduces, zero_add]
          exact fills
        · rw [total_cons, total_cons, openings]

omit [IsStrictOrderedRing K] in
/-- The opening buys, order by order. -/
theorem openings_fill (done todo : List (Working K)) (position : K) :
    ∃ left, Fills ⟨position, done ++ todo⟩ ⟨position + total todo true false, done ++ left⟩ := by
  induction todo generalizing done position with
  | nil =>
      refine ⟨[], ?_⟩
      rw [total_nil, add_zero]
  | cons order todo ih =>
      by_cases opens : order.buys = true ∧ order.reduces = false
      · let rest : Working K := { order with size := 0, positive := le_rfl }
        obtain ⟨left, fills⟩ := ih (done ++ [rest]) (position + order.size)
        have first : Fill ⟨position, done ++ order :: todo⟩
            ⟨moved position order.buys order.size, done ++ rest :: todo⟩ := by
          refine .fill _ _ _ _ _ _ rfl rfl order.positive (add_zero _).le ?_
          intro reduces
          rw [opens.2] at reduces
          exact nomatch reduces
        rw [List.append_assoc, List.append_assoc] at fills
        rw [opens.1] at first
        refine ⟨rest :: left, Relation.ReflTransGen.head first ?_⟩
        rw [total_cons, counted, if_pos opens, ← add_assoc]
        exact fills
      · obtain ⟨left, fills⟩ := ih (done ++ [order]) position
        rw [List.append_assoc, List.append_assoc] at fills
        refine ⟨order :: left, ?_⟩
        rw [total_cons, counted, if_neg opens, zero_add]
        exact fills

/-- Fills reach the longest position. -/
theorem long_filled (holding : Holding K) :
    ∃ after, Fills holding after ∧ after.position = holding.long := by
  obtain ⟨position, orders⟩ := holding
  obtain ⟨left, reductions, same⟩ := reductions_fill [] orders position
  obtain ⟨last, openings⟩ := openings_fill [] left
    (position + min (total orders true true) (room position true))
  refine ⟨_, reductions.trans openings, ?_⟩
  rw [same]
  rfl

/-- The short end is reached by filling what sells, in the order of the list. -/
theorem short_filled (holding : Holding K) :
    ∃ after, Fills holding after ∧ after.position = holding.short := by
  obtain ⟨after, fills, reached⟩ := holding.mirror.long_filled
  refine ⟨after.mirror, ?_, ?_⟩
  · have mirrored := fills.mirror
    rw [mirror_mirror] at mirrored
    exact mirrored
  · rw [long_mirror] at reached
    rw [mirror, reached, neg_neg]

/-- **The worst position is the largest one that fills can reach.** -/
theorem worst_isGreatest (holding : Holding K) :
    IsGreatest {amount | ∃ after,
      Fills holding after ∧ amount = |after.position|} holding.worst := by
  constructor
  · unfold worst
    rcases max_choice |holding.long| |holding.short| with upper | lower
    · obtain ⟨after, fills, reached⟩ := holding.long_filled
      exact ⟨after, fills, by rw [upper, reached]⟩
    · obtain ⟨after, fills, reached⟩ := holding.short_filled
      exact ⟨after, fills, by rw [lower, reached]⟩
  · rintro amount ⟨after, fills, rfl⟩
    exact after.abs_position_le_worst.trans (Holding.worst_le fills.bounds.1 fills.bounds.2)

end Holding

end Foundation
