import Mathlib.Algebra.Order.BigOperators.Group.List
import Mathlib.Algebra.Order.Field.Rat
import Mathlib.Algebra.Order.Group.MinMax
import Mathlib.Tactic.FieldSimp
import Mathlib.Tactic.Linarith
import Mathlib.Tactic.Ring

/-! # Walking the order book

An order takes the resting levels of a side from the best one on. How much of a side can be taken
while the average price stays within a band of the touch is found in one pass, which takes whole
levels while they fit and solves for the part of the first one that does not.
-/

namespace Oppen.Book

/-- A resting level. -/
structure Level (Decimal : Type) where
  px : Decimal
  sz : Decimal
  deriving DecidableEq

variable {Decimal : Type} [Field Decimal] [LinearOrder Decimal]

/-- The loop of `take`. -/
def takeFrom : List (Level Decimal) → (remaining filled notional : Decimal) → Decimal × Decimal
  | [], _, filled, notional => (filled, notional)
  | level :: rest, remaining, filled, notional =>
      if remaining ≤ 0 then (filled, notional)
      else
        let taken := min level.sz remaining
        takeFrom rest (remaining - taken) (filled + taken) (notional + taken * level.px)

/-- What up to `want` takes from the levels: the size and its notional. -/
def take (levels : List (Level Decimal)) (want : Decimal) : Decimal × Decimal :=
  takeFrom levels want 0 0

/-- The worst average that a band around the touch allows. -/
def bandLimit (isBuy : Bool) (top : Decimal) (bps : ℕ) : Decimal :=
  let band := top * bps / 10000
  if isBuy then top + band else top - band

/-- An average within a band of the touch, in basis points. -/
def InBand (top : Decimal) (bps : ℕ) (avg : Decimal) : Prop := |avg - top| ≤ top * bps / 10000

instance (top : Decimal) (bps : ℕ) (avg : Decimal) : Decidable (InBand top bps avg) :=
  inferInstanceAs (Decidable (_ ≤ _))

/-- Whether an average keeps to the limit, on the side that costs. -/
def keepsTo (isBuy : Bool) (limit avg : Decimal) : Prop :=
  if isBuy then avg ≤ limit else limit ≤ avg

instance (isBuy : Bool) (limit avg : Decimal) : Decidable (keepsTo isBuy limit avg) :=
  inferInstanceAs (Decidable (if isBuy then _ else _))

/-- The loop of `max_notional_within`. -/
def notionalFrom (isBuy : Bool) (limit : Decimal) :
    List (Level Decimal) → (filled notional : Decimal) → Decimal
  | [], _, notional => notional
  | level :: rest, filled, notional =>
      let nextFilled := filled + level.sz
      let nextNotional := notional + level.sz * level.px
      if nextFilled ≤ 0 then notionalFrom isBuy limit rest filled notional
      else if keepsTo isBuy limit (nextNotional / nextFilled) then
        notionalFrom isBuy limit rest nextFilled nextNotional
      else
        let denominator := level.px - limit
        if denominator = 0 then notional
        else
          let x := (limit * filled - notional) / denominator
          if 0 < x then notional + min x level.sz * level.px else notional

/-- The largest notional whose average fill stays within the band of the touch. -/
def maxNotionalWithin (levels : List (Level Decimal)) (isBuy : Bool) (bps : ℕ) : Decimal :=
  match levels with
  | [] => 0
  | top :: _ =>
      if top.px ≤ 0 then 0 else notionalFrom isBuy (bandLimit isBuy top.px bps) levels 0 0

/-! ## Sides -/

/-- Sizes and prices are positive. -/
def Positive (levels : List (Level Decimal)) : Prop := ∀ level ∈ levels, 0 < level.sz ∧ 0 < level.px

/-- From the best price to the worst: a buy lifts asks, a sell hits bids. -/
def Sorted (isBuy : Bool) (levels : List (Level Decimal)) : Prop :=
  levels.Pairwise fun level next => if isBuy then level.px ≤ next.px else next.px ≤ level.px

instance (levels : List (Level Decimal)) : Decidable (Positive levels) :=
  inferInstanceAs (Decidable (∀ level ∈ levels, 0 < level.sz ∧ 0 < level.px))

instance (isBuy : Bool) (levels : List (Level Decimal)) : Decidable (Sorted isBuy levels) :=
  inferInstanceAs (Decidable (levels.Pairwise _))

/-- The size of a side. -/
def sizeOf (levels : List (Level Decimal)) : Decimal := (levels.map Level.sz).sum

/-- The notional of a side. -/
def depthOf (levels : List (Level Decimal)) : Decimal :=
  (levels.map fun level => level.sz * level.px).sum

variable {want : Decimal} {level : Level Decimal}
  {levels rest : List (Level Decimal)}

/-- The levels behind the best one are positive too. -/
theorem Positive.tail (positive : Positive (level :: rest)) : Positive rest :=
  fun later member => positive later (List.mem_cons_of_mem _ member)

/-- The best level has a size and a price above zero. -/
theorem Positive.head (positive : Positive (level :: rest)) : 0 < level.sz ∧ 0 < level.px :=
  positive level List.mem_cons_self

/-! ## Taking -/

/-- The loop with its accumulators adds what is taken of the remaining levels to what was taken
before. -/
theorem takeFrom_eq (levels : List (Level Decimal)) (remaining filled notional : Decimal) :
    takeFrom levels remaining filled notional =
      (filled + (take levels remaining).1, notional + (take levels remaining).2) := by
  induction levels generalizing remaining filled notional with
  | nil => simp [takeFrom, take]
  | cons level rest ih =>
      rw [take, takeFrom, takeFrom]
      dsimp only
      split
      case isTrue => simp
      case isFalse =>
        rw [ih, ih (remaining - min level.sz remaining) (0 + _) (0 + _)]
        simp only [zero_add, add_assoc]

/-- Nothing is taken for a size that is not positive. -/
theorem take_of_nonpos (levels : List (Level Decimal)) (none : want ≤ 0) :
    take levels want = (0, 0) := by
  cases levels with
  | nil => rfl
  | cons level rest => rw [take, takeFrom, if_pos none]

/-- Taking a positive size takes of the best level first, and the rest of the size from the levels
behind it. -/
theorem take_cons (some : 0 < want) :
    take (level :: rest) want =
      (min level.sz want + (take rest (want - min level.sz want)).1,
        min level.sz want * level.px + (take rest (want - min level.sz want)).2) := by
  rw [take, takeFrom, if_neg (not_le.mpr some), takeFrom_eq]
  simp only [zero_add]

/-- An order within the first level. -/
theorem take_cons_of_le (some : 0 < want) (part : want ≤ level.sz) :
    take (level :: rest) want = (want, want * level.px) := by
  rw [take_cons some, min_eq_right part, sub_self, take_of_nonpos rest le_rfl]
  simp only [add_zero]

/-- An order past the first level. -/
theorem take_cons_of_ge (positive : 0 < level.sz) (past : level.sz ≤ want) :
    take (level :: rest) want =
      (level.sz + (take rest (want - level.sz)).1,
        level.sz * level.px + (take rest (want - level.sz)).2) := by
  rw [take_cons (positive.trans_le past), min_eq_left past]

variable [IsStrictOrderedRing Decimal]

/-- The sizes of positive levels sum to no less than zero. -/
theorem sizeOf_nonneg (positive : Positive levels) : 0 ≤ sizeOf levels :=
  List.sum_nonneg fun _ member => by
    obtain ⟨level, inside, rfl⟩ := List.mem_map.mp member
    exact (positive level inside).1.le

/-- A side with a level has something to take. -/
theorem sizeOf_pos (positive : Positive (level :: rest)) : 0 < sizeOf (level :: rest) := by
  have size : sizeOf (level :: rest) = level.sz + sizeOf rest := List.sum_cons
  have here := positive.head.1
  have whole := sizeOf_nonneg positive.tail
  linarith

/-- What is taken is what is wanted, as far as the side goes. -/
theorem take_fst (positive : Positive levels) (some : 0 ≤ want) :
    (take levels want).1 = min want (sizeOf levels) := by
  induction levels generalizing want with
  | nil => exact (min_eq_right some).symm
  | cons level rest ih =>
      have whole := sizeOf_nonneg positive.tail
      have size : sizeOf (level :: rest) = level.sz + sizeOf rest := List.sum_cons
      have here := positive.head.1
      rcases some.eq_or_lt with rfl | some
      · rw [take_of_nonpos _ le_rfl, size, min_eq_left (by linarith)]
      rcases le_total want level.sz with part | past
      · rw [take_cons_of_le some part, size, min_eq_left (by linarith)]
      · rw [take_cons_of_ge here past, ih positive.tail (by linarith), size]
        dsimp only
        rw [← min_add_add_left]
        congr 1
        ring

/-- An order beyond the size of a side takes the side. -/
theorem take_min (positive : Positive levels) (some : 0 ≤ want) :
    take levels (min want (sizeOf levels)) = take levels want := by
  induction levels generalizing want with
  | nil => rfl
  | cons level rest ih =>
      have whole := sizeOf_nonneg positive.tail
      have size : sizeOf (level :: rest) = level.sz + sizeOf rest := List.sum_cons
      have here := positive.head.1
      rcases le_total want level.sz with part | past
      · rw [size, min_eq_left (by linarith)]
      · have both : min want (sizeOf (level :: rest)) - level.sz =
            min (want - level.sz) (sizeOf rest) := by
          rw [size, ← min_sub_sub_right, add_sub_cancel_left]
        rw [take_cons_of_ge here (le_min past (by linarith)), take_cons_of_ge here past, both,
          ih positive.tail (by linarith)]

/-- A larger order takes a larger notional. -/
theorem take_snd_lt (positive : Positive levels) {more : Decimal} (some : 0 ≤ want)
    (less : want < more) (within : want < sizeOf levels) :
    (take levels want).2 < (take levels more).2 := by
  induction levels generalizing want more with
  | nil => exact absurd within (not_lt.mpr some)
  | cons level rest ih =>
      have size : sizeOf (level :: rest) = level.sz + sizeOf rest := List.sum_cons
      obtain ⟨here, price⟩ := positive.head
      have grows : ∀ amount : Decimal, 0 ≤ amount → 0 ≤ (take rest amount).2 := by
        intro amount nonneg
        rcases nonneg.eq_or_lt with rfl | above
        · rw [take_of_nonpos rest le_rfl]
        · rcases (sizeOf_nonneg positive.tail).eq_or_lt with none | deep
          · rw [← take_min positive.tail nonneg, ← none, min_eq_right nonneg,
              take_of_nonpos rest le_rfl]
          · have start := ih positive.tail le_rfl above deep
            rw [take_of_nonpos rest le_rfl] at start
            exact start.le
      rcases lt_or_ge want level.sz with part | past
      · -- what is wanted ends in the first level
        have first : (take (level :: rest) want).2 = want * level.px := by
          rcases some.eq_or_lt with rfl | above
          · rw [take_of_nonpos _ le_rfl, zero_mul]
          · rw [take_cons_of_le above part.le]
        rw [first]
        rcases le_total more level.sz with part' | past'
        · rw [take_cons_of_le (some.trans_lt less) part']
          exact mul_lt_mul_of_pos_right less price
        · rw [take_cons_of_ge here past']
          have level' : want * level.px < level.sz * level.px :=
            mul_lt_mul_of_pos_right part price
          have later := grows (more - level.sz) (by linarith)
          dsimp only
          linarith
      · rw [take_cons_of_ge here past, take_cons_of_ge here (past.trans less.le)]
        have later := ih positive.tail (sub_nonneg.mpr past) (sub_lt_sub_right less level.sz)
          (by linarith)
        dsimp only
        linarith

/-- Taking more costs no less, as every level has a positive price. -/
theorem take_snd_le (positive : Positive levels) {more : Decimal} (some : 0 ≤ want)
    (less : want ≤ more) : (take levels want).2 ≤ (take levels more).2 := by
  rcases less.eq_or_lt with rfl | less
  · exact le_rfl
  rcases lt_or_ge want (sizeOf levels) with within | past
  · exact (take_snd_lt positive some less within).le
  · rw [← take_min positive some, ← take_min positive (some.trans less.le), min_eq_right past,
      min_eq_right (past.trans less.le)]

/-- A side as a whole. -/
theorem take_sizeOf (positive : Positive levels) :
    take levels (sizeOf levels) = (sizeOf levels, depthOf levels) := by
  induction levels with
  | nil => rfl
  | cons level rest ih =>
      have whole := sizeOf_nonneg positive.tail
      have size : sizeOf (level :: rest) = level.sz + sizeOf rest := List.sum_cons
      have depth : depthOf (level :: rest) = level.sz * level.px + depthOf rest := List.sum_cons
      rw [take_cons_of_ge positive.head.1 (by linarith), size, add_sub_cancel_left,
        ih positive.tail, depth]

end Oppen.Book
