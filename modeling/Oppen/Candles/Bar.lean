import Mathlib.Algebra.BigOperators.Group.List.Basic
import Mathlib.Algebra.Order.Ring.Int
import Oppen.Foundation.Blocks
import Oppen.Ledger.Event

/-! # Bars on the time axis

Intervals are fixed widths, and their buckets are aligned to the epoch. A bar is what was traded
in one bucket; bars in a row join into one, and joining is associative.
-/

namespace Oppen.Candles

open Foundation Oppen.Ledger

/-! ## Times -/

/-- An `i64`. -/
abbrev I64 := {time : ℤ // -2 ^ 63 ≤ time ∧ time < 2 ^ 63}

instance (first second : I64) : Decidable (first ≤ second) := Int.decLe first second

instance (first second : I64) : Decidable (first < second) := Int.decLt first second

/-- The saturating operations of an `i64`. -/
def I64.saturate (time : ℤ) : I64 :=
  ⟨max (-2 ^ 63) (min time (2 ^ 63 - 1)), by omega, by omega⟩

/-- Saturation changes nothing within the range of an `i64`. -/
theorem I64.saturate_of_mem {time : ℤ} (low : -2 ^ 63 ≤ time) (high : time < 2 ^ 63) :
    (saturate time : ℤ) = time := by
  change max _ (min _ _) = _
  omega

/-! ## Intervals -/

/-- `Unit`: the time unit of an interval. -/
inductive TimeUnit where
  | second
  | minute
  | hour
  | day
  | week
  | month
  deriving DecidableEq

namespace TimeUnit

/-- `Unit::millis`: a month is thirty days. -/
def millis : TimeUnit → ℕ
  | second => 1000
  | minute => 60 * 1000
  | hour => 60 * 60 * 1000
  | day => 24 * 60 * 60 * 1000
  | week => 7 * 24 * 60 * 60 * 1000
  | month => 30 * 24 * 60 * 60 * 1000

def suffix : TimeUnit → String
  | second => "s"
  | minute => "m"
  | hour => "h"
  | day => "d"
  | week => "w"
  | month => "M"

/-- Every unit is a whole number of seconds. -/
theorem thousand_dvd_millis (unit : TimeUnit) : 1000 ∣ unit.millis := by
  cases unit <;> decide

end TimeUnit

/-- `MAX_INTERVAL_MS`. -/
def maxIntervalMs : ℕ := TimeUnit.month.millis

/-- A chart interval in canonical form: the coarsest unit that divides the width. -/
structure Interval where
  count : ℕ
  unit : TimeUnit
  positive : 0 < count
  bounded : count * unit.millis ≤ maxIntervalMs
  coarsest : ∀ other : TimeUnit, other.millis ∣ count * unit.millis → other.millis ≤ unit.millis
  deriving DecidableEq

namespace Interval

variable (interval : Interval)

/-- `Interval::millis`. -/
def millis : ℤ := ↑(interval.count * interval.unit.millis)

/-- The canonical wire string. -/
def display : String := toString interval.count ++ interval.unit.suffix

theorem millis_pos : 0 < interval.millis := by
  have unit : 0 < interval.unit.millis := by cases interval.unit <;> decide
  exact Int.natCast_pos.mpr (Nat.mul_pos interval.positive unit)

/-- No interval is longer than thirty days, so its milliseconds are far from overflowing. -/
theorem millis_le : interval.millis ≤ 2592000000 :=
  Int.ofNat_le.mpr interval.bounded

theorem thousand_dvd_millis : (1000 : ℤ) ∣ interval.millis :=
  Int.natCast_dvd_natCast.mpr (interval.unit.thousand_dvd_millis.mul_left interval.count)

/-- `bucket_start_ms`: aligned to the epoch, and the floor also before it. -/
def bucketStartMs (time : I64) : I64 := .saturate (time / interval.millis * interval.millis)

/-- `bucket_close_ms`: the end of the bucket, which belongs to it. -/
def bucketCloseMs (time : I64) : I64 :=
  .saturate (interval.bucketStartMs time + (interval.millis - 1))

/-- The number of a bucket. -/
def slot (time : I64) : ℤ := time / interval.millis

/-- The slot of a time starts no later than it. -/
theorem slot_mul_le (time : I64) : interval.slot time * interval.millis ≤ time :=
  Int.ediv_mul_le _ interval.millis_pos.ne'

/-- The slot of a time ends after it. -/
theorem lt_slot_mul (time : I64) :
    (time : ℤ) < interval.slot time * interval.millis + interval.millis := by
  have below := Int.lt_ediv_add_one_mul_self (time : ℤ) interval.millis_pos
  rw [add_mul, one_mul] at below
  exact below

/-- A bucket starts where its slot does, or at the least `i64`. -/
theorem coe_bucketStartMs (time : I64) :
    (interval.bucketStartMs time : ℤ) = max (-2 ^ 63) (interval.slot time * interval.millis) := by
  have below := interval.slot_mul_le time
  have high := time.2.2
  change max _ (min (interval.slot time * interval.millis) _) = _
  omega

/-- A bucket is known by where it starts. -/
theorem bucketStartMs_inj {time other : I64} :
    interval.bucketStartMs time = interval.bucketStartMs other ↔
      interval.slot time = interval.slot other := by
  constructor
  · intro same
    have starts := congrArg Subtype.val same
    rw [coe_bucketStartMs, coe_bucketStartMs] at starts
    have positive := interval.millis_pos
    have above := interval.lt_slot_mul time
    have above' := interval.lt_slot_mul other
    have low := time.2.1
    have low' := other.2.1
    -- a bucket that starts before the first `i64` also ends after it
    rcases lt_trichotomy (interval.slot time) (interval.slot other) with less | level | more
    · have next : (interval.slot time + 1) * interval.millis ≤
          interval.slot other * interval.millis :=
        mul_le_mul_of_nonneg_right less positive.le
      rw [add_mul, one_mul] at next
      omega
    · exact level
    · have next : (interval.slot other + 1) * interval.millis ≤
          interval.slot time * interval.millis :=
        mul_le_mul_of_nonneg_right more positive.le
      rw [add_mul, one_mul] at next
      omega
  · intro same
    exact Subtype.ext (by rw [coe_bucketStartMs, coe_bucketStartMs, same])

/-- An aligned time starts a bucket exactly where its own label says so. -/
theorem eq_bucketStartMs_iff {time : I64} (aligned : (1000 : ℤ) ∣ time) :
    time = interval.bucketStartMs time ↔ interval.millis ∣ (time : ℤ) := by
  have low := time.2.1
  constructor
  · intro same
    have starts := congrArg Subtype.val same
    rw [coe_bucketStartMs] at starts
    have start : (time : ℤ) = interval.slot time * interval.millis := by
      obtain ⟨thousands, split⟩ := aligned
      omega
    exact ⟨interval.slot time, by rw [mul_comm]; exact start⟩
  · intro multiple
    apply Subtype.ext
    rw [coe_bucketStartMs, slot, Int.ediv_mul_cancel multiple]
    omega

end Interval

/-- `1m`. -/
def oneMinute : Interval := ⟨1, .minute, by decide, by decide, by rintro (_ | _) <;> decide⟩

/-! ## Bars -/

/-- `saturating_add` of a `u32`. -/
def saturatingAdd (left right : UInt32) : UInt32 :=
  .ofNat (min (left.toNat + right.toNat) (2 ^ 32 - 1))

/-- Adding counts saturates at the largest `u32`. -/
theorem toNat_saturatingAdd (left right : UInt32) :
    (saturatingAdd left right).toNat = min (left.toNat + right.toNat) (2 ^ 32 - 1) := by
  rw [saturatingAdd, UInt32.toNat_ofNat_of_lt']
  simp only [UInt32.size]
  omega

/-- Saturating additions may be regrouped, so counts do not depend on how bars were merged. -/
theorem saturatingAdd_assoc (left middle right : UInt32) :
    saturatingAdd (saturatingAdd left middle) right =
      saturatingAdd left (saturatingAdd middle right) := by
  apply UInt32.toNat.inj
  simp only [toNat_saturatingAdd]
  omega

/-- One bar on the time axis. -/
structure Bar (Decimal : Type) where
  openTimeMs : I64
  closeTimeMs : I64
  /-- `open`. -/
  openPx : Decimal
  high : Decimal
  low : Decimal
  close : Decimal
  volume : Decimal
  trades : UInt32
  deriving DecidableEq

namespace Bar

variable {Decimal : Type} [LinearOrder Decimal] [AddCommMonoid Decimal]

/-- `Bar::empty_at`. -/
def emptyAt (openTimeMs : I64) (widthMs : ℤ) (price : Decimal) : Bar Decimal where
  openTimeMs := openTimeMs
  closeTimeMs := .saturate (openTimeMs + (widthMs - 1))
  openPx := price
  high := price
  low := price
  close := price
  volume := 0
  trades := 0

/-- A bar with what the next one traded, under its own times. -/
def absorb (bar next : Bar Decimal) : Bar Decimal :=
  { bar with
    close := next.close
    high := max bar.high next.high
    low := min bar.low next.low
    volume := bar.volume + next.volume
    trades := saturatingAdd bar.trades next.trades }

@[simp] theorem openTimeMs_absorb (bar next : Bar Decimal) :
    (bar.absorb next).openTimeMs = bar.openTimeMs := rfl

/-- **Bars in a row join into one bar, however they are taken together.** -/
instance : Std.Associative (absorb : Bar Decimal → Bar Decimal → Bar Decimal) where
  assoc first second third := by
    simp only [absorb, max_assoc, min_assoc, add_assoc, saturatingAdd_assoc]

/-- A bar under the times of the bucket it lies in. -/
def relabel (target : Interval) (bar : Bar Decimal) : Bar Decimal :=
  { bar with
    openTimeMs := target.bucketStartMs bar.openTimeMs
    closeTimeMs := target.bucketCloseMs (target.bucketStartMs bar.openTimeMs) }

/-- It does not matter whether a bar is relabelled before or after it absorbs another. -/
theorem relabel_absorb (target : Interval) (bar next : Bar Decimal) :
    (bar.absorb next).relabel target = (bar.relabel target).absorb next := rfl

end Bar

variable {Decimal : Type} [LinearOrder Decimal] [AddCommMonoid Decimal]

/-! ## A bar in the place of several -/

/-- One bar in the place of its members. -/
structure Bar.Aggregates (members : List (Bar Decimal)) (bar : Bar Decimal) : Prop where
  first : members.head?.map Bar.openPx = some bar.openPx
  last : members.getLast?.map Bar.close = some bar.close
  high_mem : bar.high ∈ members.map Bar.high
  high_le : ∀ member ∈ members, member.high ≤ bar.high
  low_mem : bar.low ∈ members.map Bar.low
  low_le : ∀ member ∈ members, bar.low ≤ member.low
  volume : bar.volume = (members.map Bar.volume).sum

/-- How many trades the members have. -/
def tradeCount (members : List (Bar Decimal)) : ℕ := (members.map fun bar => bar.trades.toNat).sum

/-- A bar aggregates itself. -/
theorem Bar.aggregates_singleton (bar : Bar Decimal) : Bar.Aggregates [bar] bar where
  first := rfl
  last := rfl
  high_mem := by simp
  high_le member inside := by rw [List.mem_singleton.mp inside]
  low_mem := by simp
  low_le member inside := by rw [List.mem_singleton.mp inside]
  volume := by simp

/-- A bar that aggregates its members aggregates one more once it absorbs it. -/
theorem Bar.Aggregates.absorb {members : List (Bar Decimal)} {bar : Bar Decimal}
    (aggregates : Bar.Aggregates members bar) (next : Bar Decimal) :
    Bar.Aggregates (members ++ [next]) (bar.absorb next) where
  first := by
    cases members with
    | nil => exact absurd aggregates.first (by simp)
    | cons head rest => exact aggregates.first
  last := by
    rw [List.getLast?_concat]
    rfl
  high_mem := by
    rw [List.map_append, List.map_singleton, List.mem_append, List.mem_singleton]
    change max bar.high next.high ∈ _ ∨ max bar.high next.high = _
    rcases max_choice bar.high next.high with old | new
    · left
      rw [old]
      exact aggregates.high_mem
    · exact .inr new
  high_le member inside := by
    rcases List.mem_append.mp inside with old | new
    · exact (aggregates.high_le member old).trans (le_max_left _ _)
    · rw [List.mem_singleton.mp new]
      exact le_max_right _ _
  low_mem := by
    rw [List.map_append, List.map_singleton, List.mem_append, List.mem_singleton]
    change min bar.low next.low ∈ _ ∨ min bar.low next.low = _
    rcases min_choice bar.low next.low with old | new
    · left
      rw [old]
      exact aggregates.low_mem
    · exact .inr new
  low_le member inside := by
    rcases List.mem_append.mp inside with old | new
    · exact (min_le_left _ _).trans (aggregates.low_le member old)
    · rw [List.mem_singleton.mp new]
      exact min_le_right _ _
  volume := by
    rw [List.map_append, List.map_singleton, List.sum_append, List.sum_singleton,
      ← aggregates.volume]
    rfl

/-- The fold of a bucket is one bar in the place of its members, and its count saturates. -/
theorem aggregates_fold (bucket : Block (Bar Decimal)) :
    Bar.Aggregates bucket.toList (bucket.fold Bar.absorb) ∧
      (bucket.fold Bar.absorb).trades.toNat = min (tradeCount bucket.toList) (2 ^ 32 - 1) := by
  suffices joins : ∀ (rest members : List (Bar Decimal)) (bar : Bar Decimal),
      Bar.Aggregates members bar → bar.trades.toNat = min (tradeCount members) (2 ^ 32 - 1) →
        Bar.Aggregates (members ++ rest) (rest.foldl Bar.absorb bar) ∧
          (rest.foldl Bar.absorb bar).trades.toNat =
            min (tradeCount (members ++ rest)) (2 ^ 32 - 1) by
    refine joins bucket.rest [bucket.first] bucket.first (Bar.aggregates_singleton _) ?_
    have small := bucket.first.trades.toNat_lt
    rw [tradeCount, List.map_singleton, List.sum_singleton]
    omega
  intro rest
  induction rest with
  | nil =>
      intro members bar aggregates counted
      rw [List.append_nil]
      exact ⟨aggregates, counted⟩
  | cons next rest ih =>
      intro members bar aggregates counted
      have more := ih (members ++ [next]) (bar.absorb next) (aggregates.absorb next) ?_
      · rwa [List.append_assoc] at more
      · rw [Bar.absorb, toNat_saturatingAdd, counted, tradeCount, tradeCount, List.map_append,
          List.sum_append, List.map_singleton, List.sum_singleton]
        omega

end Oppen.Candles
