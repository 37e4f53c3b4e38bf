import Oppen.Candles.Bar

/-! # Bars from the trades feed

For an interval that the venue does not serve, bars are made of the trades as they come. A bucket
in progress is left when a trade or the clock is past it, and what it traded is emitted, as are
the quiet buckets after it; an interruption of the feed discards it.
-/

namespace Oppen.Candles

/-- `MIN_TIME_MS`. -/
def minTimeMs : I64 := ⟨0, by decide, by decide⟩

/-- `MAX_TIME_MS`. -/
def maxTimeMs : I64 := ⟨253402300799999, by decide, by decide⟩

/-- `MAX_FILL_BARS`. -/
def maxFillBars : ℤ := 10000

/-- `(MIN_TIME_MS..=MAX_TIME_MS).contains`. -/
def InRange (time : I64) : Prop := minTimeMs ≤ time ∧ time ≤ maxTimeMs

instance (time : I64) : Decidable (InRange time) := inferInstanceAs (Decidable (_ ∧ _))

/-- `clamp(MIN_TIME_MS, MAX_TIME_MS)`. -/
def clampTime (time : I64) : I64 := max minTimeMs (min time maxTimeMs)

/-- One print of the trades feed. -/
structure Trade (Decimal : Type) where
  timeMs : I64
  price : Decimal
  size : Decimal
  deriving DecidableEq

/-- The state of the aggregator, counters included. -/
structure LocalAggregator (Decimal : Type) where
  interval : Interval
  noHistoryBeforeMs : I64
  acceptsFromMs : I64
  /-- The bucket in progress. -/
  bucket : Option I64
  /-- How far the aggregator has ever been. -/
  newestBucketMs : Option I64
  forming : Option (Bar Decimal)
  lastClose : Option Decimal
  late : ℕ
  beforeHistory : ℕ
  skippedFills : ℕ
  outOfRange : ℕ
  gaps : ℕ
  deriving DecidableEq

variable {Decimal : Type}

namespace LocalAggregator

def firstWholeBucket (interval : Interval) (fromMs : I64) : I64 :=
  let start := interval.bucketStartMs (clampTime fromMs)
  if start = clampTime fromMs then start else .saturate (start + interval.millis)

def new (interval : Interval) (listeningSinceMs : I64) : LocalAggregator Decimal where
  interval := interval
  noHistoryBeforeMs := firstWholeBucket interval listeningSinceMs
  acceptsFromMs := firstWholeBucket interval listeningSinceMs
  bucket := none
  newestBucketMs := none
  forming := none
  lastClose := none
  late := 0
  beforeHistory := 0
  skippedFills := 0
  outOfRange := 0
  gaps := 0

/-- With bars already on disk. -/
def resume (interval : Interval) (listeningSinceMs noHistoryBeforeMs : I64)
    (lastClose : Option Decimal) : LocalAggregator Decimal :=
  { (new interval listeningSinceMs : LocalAggregator Decimal) with
    noHistoryBeforeMs := noHistoryBeforeMs
    lastClose := lastClose }

variable (self : LocalAggregator Decimal)

def feedInterrupted : LocalAggregator Decimal :=
  { self with
    gaps := if self.bucket.isSome ∨ self.forming.isSome then self.gaps + 1 else self.gaps
    bucket := none
    forming := none }

def enterBucket (target : I64) : LocalAggregator Decimal :=
  { self with
    bucket := some target
    newestBucketMs := some (self.newestBucketMs.elim target (max · target)) }

/-- The last close, once the bar that is forming has closed. -/
def closing : Option Decimal := (self.forming.map Bar.close).or self.lastClose

/-- How many buckets after the current one are quiet, and vouched for. -/
def gap (current target fillThrough : I64) : ℤ :=
  Int.tdiv (min (target - self.interval.millis) fillThrough - current) self.interval.millis

/-- The three checks before a print is taken: in range, in a whole bucket, not late. -/
structure Admits (aggregator : LocalAggregator Decimal) (trade : Trade Decimal) : Prop where
  inRange : InRange trade.timeMs
  whole : aggregator.acceptsFromMs ≤ trade.timeMs
  onTime : ∀ newest ∈ aggregator.newestBucketMs,
    newest ≤ aggregator.interval.bucketStartMs trade.timeMs

instance (aggregator : LocalAggregator Decimal) (trade : Trade Decimal) :
    Decidable (aggregator.Admits trade) :=
  decidable_of_iff (InRange trade.timeMs ∧ aggregator.acceptsFromMs ≤ trade.timeMs ∧
      ∀ newest ∈ aggregator.newestBucketMs,
        newest ≤ aggregator.interval.bucketStartMs trade.timeMs)
    ⟨fun admits => ⟨admits.1, admits.2.1, admits.2.2⟩,
      fun admits => ⟨admits.inRange, admits.whole, admits.onTime⟩⟩

/-- The clock readings that close buckets. -/
def Accepts (nowMs : I64) : Prop := self.acceptsFromMs ≤ nowMs ∧ nowMs ≤ maxTimeMs

instance (nowMs : I64) : Decidable (self.Accepts nowMs) := inferInstanceAs (Decidable (_ ∧ _))

variable [LinearOrder Decimal] [AddCommMonoid Decimal]

/-- The bar of the bucket that is left: what it traded, or flat where the feed was alive. -/
def leftBar (current fillThrough : I64) : Option (Bar Decimal) :=
  match self.forming with
  | some bar => some bar
  | none =>
      if current ≤ fillThrough then
        self.lastClose.map (.emptyAt current self.interval.millis ·)
      else none

/-- The flat bars after the bucket that is left. -/
def fills (current target fillThrough : I64) : List (Bar Decimal) :=
  match self.closing with
  | some close =>
      if maxFillBars < self.gap current target fillThrough then []
      else (List.range (self.gap current target fillThrough).toNat).map fun (step : ℕ) =>
        .emptyAt (.saturate (current + ((step : ℤ) + 1) * self.interval.millis))
          self.interval.millis close
  | none => []

/-- Moves the current bucket to `target`, and emits everything in between. -/
def advanceTo (target fillThrough : I64) : LocalAggregator Decimal × List (Bar Decimal) :=
  match self.bucket with
  | none => (self.enterBucket target, [])
  | some current =>
      if target ≤ current then (self, [])
      else
        ({ self.enterBucket target with
            forming := none
            lastClose := self.closing
            skippedFills :=
              if self.closing.isSome ∧ maxFillBars < self.gap current target fillThrough then
                self.skippedFills + 1
              else self.skippedFills },
          (self.leftBar current fillThrough).toList ++ self.fills current target fillThrough)

end LocalAggregator

variable [LinearOrder Decimal] [AddCommMonoid Decimal]

/-- One more trade of a bar. -/
def Bar.traded (bar : Bar Decimal) (trade : Trade Decimal) : Bar Decimal :=
  { bar with
    high := max bar.high trade.price
    low := min bar.low trade.price
    close := trade.price
    volume := bar.volume + trade.size
    trades := saturatingAdd bar.trades 1 }

namespace LocalAggregator

variable (self : LocalAggregator Decimal)

/-- The trade in the bar of its bucket, which starts as an empty one at its price. -/
def fold (trade : Trade Decimal) : LocalAggregator Decimal :=
  { self with
    forming := some ((self.forming.getD (.emptyAt (self.interval.bucketStartMs trade.timeMs)
      self.interval.millis trade.price)).traded trade) }

/-- One trade, and the bars that closed as a result. -/
def push (trade : Trade Decimal) : LocalAggregator Decimal × List (Bar Decimal) :=
  let bucket := self.interval.bucketStartMs trade.timeMs
  if ¬ InRange trade.timeMs then ({ self with outOfRange := self.outOfRange + 1 }, [])
  else if trade.timeMs < self.acceptsFromMs then
    ({ self with beforeHistory := self.beforeHistory + 1 }, [])
  else if self.newestBucketMs.any (fun newest => bucket < newest) then
    ({ self with late := self.late + 1 }, [])
  else
    let (advanced, closed) := self.advanceTo bucket bucket
    (advanced.fold trade, closed)

/-- Closes every bucket that has finished by the caller's clock. -/
def closeThrough (nowMs feedLiveThroughMs : I64) : LocalAggregator Decimal × List (Bar Decimal) :=
  if nowMs < self.acceptsFromMs ∨ maxTimeMs < nowMs then (self, [])
  else
    self.advanceTo (self.interval.bucketStartMs nowMs)
      (self.interval.bucketStartMs (clampTime feedLiveThroughMs))

end LocalAggregator

/-! ## Calls -/

/-- A call. An interruption comes with the time from which the feed is listened to again, which
the aggregator is not told. -/
inductive Call (Decimal : Type) where
  | push (trade : Trade Decimal)
  | closeThrough (nowMs feedLiveThroughMs : I64)
  | feedInterrupted (againMs : I64)
  deriving DecidableEq

/-- The call on an aggregator: what it leaves, and the bars it returns. -/
def Call.on (call : Call Decimal) (self : LocalAggregator Decimal) :
    LocalAggregator Decimal × List (Bar Decimal) :=
  match call with
  | push trade => self.push trade
  | closeThrough nowMs feedLiveThroughMs => self.closeThrough nowMs feedLiveThroughMs
  | feedInterrupted _ => (self.feedInterrupted, [])

/-! ## What a call does -/

/-- What `advance_to` does: a bucket is entered where none is in progress, or the one in progress
stays, or it is left with its bar, and flat ones up to the target. -/
inductive Advances (before : LocalAggregator Decimal) (target : I64) :
    LocalAggregator Decimal → List (Bar Decimal) → Prop
  | enters (idle : before.bucket = none) : Advances before target (before.enterBucket target) []
  | stays {current : I64} (running : before.bucket = some current) (reached : target ≤ current) :
      Advances before target before []
  | leaves {current : I64} (running : before.bucket = some current) (ahead : current < target)
      {slots : List I64} (price : Decimal) (lastClose : Option Decimal) (skippedFills : ℕ)
      (ascending : slots.Pairwise (· < ·))
      (within : ∀ slot ∈ slots, current ≤ slot ∧ slot < target ∧
        before.interval.millis ∣ (slot : ℤ) - current)
      (apart : ∀ slot ∈ slots, before.forming ≠ none → current < slot) :
      Advances before target
        { before.enterBucket target with
          forming := none
          lastClose := lastClose
          skippedFills := skippedFills }
        (before.forming.toList ++ slots.map (.emptyAt · before.interval.millis price))

/-- What a call does. -/
inductive Does (before : LocalAggregator Decimal) :
    Call Decimal → LocalAggregator Decimal → List (Bar Decimal) → Prop
  | outOfRange {trade : Trade Decimal} (outside : ¬ InRange trade.timeMs) :
      Does before (.push trade) { before with outOfRange := before.outOfRange + 1 } []
  | beforeHistory {trade : Trade Decimal} (inRange : InRange trade.timeMs)
      (early : trade.timeMs < before.acceptsFromMs) :
      Does before (.push trade) { before with beforeHistory := before.beforeHistory + 1 } []
  | late {trade : Trade Decimal} (inRange : InRange trade.timeMs) {newest : I64}
      (reached : before.newestBucketMs = some newest)
      (behind : before.interval.bucketStartMs trade.timeMs < newest) :
      Does before (.push trade) { before with late := before.late + 1 } []
  | folds {trade : Trade Decimal} (admits : before.Admits trade)
      {advanced : LocalAggregator Decimal} {emitted : List (Bar Decimal)}
      (advances : Advances before (before.interval.bucketStartMs trade.timeMs) advanced emitted) :
      Does before (.push trade) (advanced.fold trade) emitted
  | ignores {nowMs feedLiveThroughMs : I64} :
      Does before (.closeThrough nowMs feedLiveThroughMs) before []
  | closes {nowMs feedLiveThroughMs : I64} (accepts : before.Accepts nowMs)
      {advanced : LocalAggregator Decimal} {emitted : List (Bar Decimal)}
      (advances : Advances before (before.interval.bucketStartMs nowMs) advanced emitted) :
      Does before (.closeThrough nowMs feedLiveThroughMs) advanced emitted
  | interrupts {againMs : I64} :
      Does before (.feedInterrupted againMs) before.feedInterrupted []

namespace LocalAggregator

variable (self : LocalAggregator Decimal)

omit [LinearOrder Decimal] [AddCommMonoid Decimal] in
/-- The last flat bar starts before the target. -/
theorem gap_mul_le {current target fillThrough : I64} {step : ℕ}
    (within : step < (self.gap current target fillThrough).toNat) :
    ((step : ℤ) + 1) * self.interval.millis ≤ target - self.interval.millis - current := by
  have width := self.interval.millis_pos
  have positive : 0 < self.gap current target fillThrough := by omega
  have span : 0 ≤ min (target - self.interval.millis) (fillThrough : ℤ) - current := by
    by_contra below
    have opposite : 0 ≤ (-(min (target - self.interval.millis) (fillThrough : ℤ) - current)).tdiv
        self.interval.millis := Int.tdiv_nonneg (by omega) width.le
    rw [Int.neg_tdiv] at opposite
    rw [gap] at positive
    omega
  have product : self.gap current target fillThrough * self.interval.millis ≤
      min (target - self.interval.millis) (fillThrough : ℤ) - current := by
    rw [gap, Int.tdiv_eq_ediv_of_nonneg span]
    exact Int.ediv_mul_le _ width.ne'
  have fewer : ((step : ℤ) + 1) * self.interval.millis ≤
      self.gap current target fillThrough * self.interval.millis :=
    mul_le_mul_of_nonneg_right (by omega) width.le
  omega

omit [LinearOrder Decimal] in
/-- The slots of the flat bars. -/
theorem fills_eq (current target fillThrough : I64) : ∃ (slots : List I64) (price : Decimal),
    self.fills current target fillThrough =
      slots.map (.emptyAt · self.interval.millis price) ∧
    slots.Pairwise (· < ·) ∧
    (∀ price' ∈ self.closing, price = price') ∧
    ∀ slot ∈ slots, current < slot ∧ slot < target ∧
      self.interval.millis ∣ (slot : ℤ) - current := by
  have width := self.interval.millis_pos
  rw [fills]
  cases self.closing with
  | none => exact ⟨[], 0, rfl, .nil, nofun, fun _ inside => absurd inside List.not_mem_nil⟩
  | some close =>
      dsimp only
      split
      case isTrue => exact ⟨[], close, rfl, .nil, by simp,
        fun _ inside => absurd inside List.not_mem_nil⟩
      case isFalse =>
        refine ⟨(List.range (self.gap current target fillThrough).toNat).map fun (step : ℕ) =>
          .saturate (current + ((step : ℤ) + 1) * self.interval.millis), close, ?_, ?_, by simp, ?_⟩
        · rw [List.map_map]
          rfl
        all_goals
          have inRange : ∀ step < (self.gap current target fillThrough).toNat,
              (I64.saturate (current + ((step : ℤ) + 1) * self.interval.millis) : ℤ) =
                current + ((step : ℤ) + 1) * self.interval.millis := by
            intro step within
            have below := self.gap_mul_le within
            have above : 0 < ((step : ℤ) + 1) * self.interval.millis :=
              mul_pos (by omega) width
            have low := current.2.1
            have high := target.2.2
            exact I64.saturate_of_mem (by omega) (by omega)
        · rw [List.pairwise_map]
          refine List.pairwise_lt_range.imp_of_mem fun {step next} member member' less => ?_
          rw [← Subtype.coe_lt_coe, inRange step (List.mem_range.mp member),
            inRange next (List.mem_range.mp member')]
          have wider : ((step : ℤ) + 1) * self.interval.millis <
              ((next : ℤ) + 1) * self.interval.millis :=
            mul_lt_mul_of_pos_right (by omega) width
          omega
        · intro slot inside
          obtain ⟨step, member, rfl⟩ := List.mem_map.mp inside
          have below := self.gap_mul_le (List.mem_range.mp member)
          have above : 0 < ((step : ℤ) + 1) * self.interval.millis := mul_pos (by omega) width
          rw [← Subtype.coe_lt_coe, ← Subtype.coe_lt_coe, inRange step (List.mem_range.mp member)]
          refine ⟨by omega, by omega, ?_⟩
          rw [add_sub_cancel_left]
          exact dvd_mul_left _ _

omit [LinearOrder Decimal] in
/-- Advancing to a bucket does what `Advances` says, whatever the aggregator held before. -/
theorem advances (target fillThrough : I64) :
    Advances self target (self.advanceTo target fillThrough).1
      (self.advanceTo target fillThrough).2 := by
  rw [advanceTo]
  cases running : self.bucket with
  | none => exact .enters running
  | some current =>
      dsimp only
      split
      case isTrue reached => exact .stays running reached
      case isFalse ahead =>
        replace ahead := not_le.mp ahead
        obtain ⟨slots, price, shape, ascending, priced, within⟩ :=
          self.fills_eq current target fillThrough
        rw [shape]
        have after : ∀ slot ∈ slots, current ≤ slot ∧ slot < target ∧
            self.interval.millis ∣ (slot : ℤ) - current :=
          fun slot inside => ⟨(within slot inside).1.le, (within slot inside).2⟩
        have apart : ∀ slot ∈ slots, self.forming ≠ none → current < slot :=
          fun slot inside _ => (within slot inside).1
        generalize (if self.closing.isSome ∧ maxFillBars < self.gap current target fillThrough then
          self.skippedFills + 1 else self.skippedFills) = skippedFills
        have made := Advances.leaves running ahead price self.closing skippedFills ascending after
          apart
        rw [leftBar]
        cases forming : self.forming with
        | some bar => rwa [forming] at made
        | none =>
            rw [forming] at made
            dsimp only
            split
            case isFalse => exact made
            case isTrue =>
              cases quiet : self.lastClose with
              | none => exact made
              | some close =>
                  -- the bucket that is left is the first flat one
                  obtain rfl : price = close :=
                    priced close (by rw [closing, forming, quiet]; rfl)
                  have after' : ∀ slot ∈ current :: slots, current ≤ slot ∧ slot < target ∧
                      self.interval.millis ∣ (slot : ℤ) - current := by
                    intro slot inside
                    rcases List.mem_cons.mp inside with rfl | later
                    · exact ⟨le_rfl, ahead, by rw [sub_self]; exact Int.dvd_zero _⟩
                    · exact after slot later
                  have flat := Advances.leaves running ahead price self.closing skippedFills
                    (List.pairwise_cons.mpr ⟨fun slot inside => (within slot inside).1, ascending⟩)
                    after' fun _ _ busy => absurd forming busy
                  rwa [forming] at flat

end LocalAggregator

/-- The inversion of every call. -/
theorem Call.does (call : Call Decimal) (self : LocalAggregator Decimal) :
    Does self call (call.on self).1 (call.on self).2 := by
  cases call with
  | push trade =>
      rw [on, LocalAggregator.push]
      split
      case isTrue outside => exact .outOfRange outside
      case isFalse inRange =>
        replace inRange := not_not.mp inRange
        split
        case isTrue early => exact .beforeHistory inRange early
        case isFalse whole =>
          split
          case isTrue behind =>
            obtain ⟨newest, reached, less⟩ : ∃ newest, self.newestBucketMs = some newest ∧
                self.interval.bucketStartMs trade.timeMs < newest := by
              cases reached : self.newestBucketMs with
              | none =>
                  rw [reached] at behind
                  cases behind
              | some newest =>
                  rw [reached] at behind
                  exact ⟨newest, rfl, of_decide_eq_true behind⟩
            exact .late inRange reached less
          case isFalse onTime =>
            refine .folds ⟨inRange, not_lt.mp whole, fun newest reached => ?_⟩
              (self.advances _ _)
            rw [Option.mem_def.mp reached] at onTime
            exact not_lt.mp fun less => onTime (decide_eq_true less)
  | closeThrough nowMs feedLiveThroughMs =>
      rw [on, LocalAggregator.closeThrough]
      split
      case isTrue => exact .ignores
      case isFalse inside =>
        rw [not_or, not_lt, not_lt] at inside
        exact .closes inside (self.advances _ _)
  | feedInterrupted againMs => exact .interrupts

/-! ## The trades of a bar -/

/-- One trade as a bar. -/
def Trade.toBar (trade : Trade Decimal) : Bar Decimal :=
  { Bar.emptyAt trade.timeMs 1 trade.price with
    volume := trade.size
    trades := 1 }

/-- The open, high, low, close, volume and count of some trades, in their order. -/
structure Bar.FoldOf (trades : List (Trade Decimal)) (bar : Bar Decimal) : Prop where
  aggregates : Bar.Aggregates (trades.map Trade.toBar) bar
  counted : bar.trades.toNat = trades.length

/-- The bar that a first trade opens is the fold of that trade. -/
theorem Bar.foldOf_singleton (openTimeMs : I64) (widthMs : ℤ) (trade : Trade Decimal) :
    ((Bar.emptyAt openTimeMs widthMs trade.price).traded trade).FoldOf [trade] := by
  have same : (Bar.emptyAt openTimeMs widthMs trade.price).traded trade =
      { trade.toBar with
        openTimeMs := openTimeMs
        closeTimeMs := .saturate (openTimeMs + (widthMs - 1)) } := by
    simp only [traded, emptyAt, Trade.toBar, max_self, min_self, zero_add]
    rfl
  rw [same]
  have one := Bar.aggregates_singleton trade.toBar
  exact ⟨⟨one.first, one.last, one.high_mem, one.high_le, one.low_mem, one.low_le, one.volume⟩,
    rfl⟩

/-- A bar that folds some trades folds one more once it is traded, while its count still fits. -/
theorem Bar.FoldOf.traded {trades : List (Trade Decimal)} {bar : Bar Decimal}
    (fold : bar.FoldOf trades) (fits : bar.trades.toNat + 1 < 2 ^ 32) (trade : Trade Decimal) :
    (bar.traded trade).FoldOf (trades ++ [trade]) where
  aggregates := by
    rw [List.map_append]
    exact fold.aggregates.absorb trade.toBar
  counted := by
    have added : (bar.traded trade).trades = saturatingAdd bar.trades 1 := rfl
    have one : (1 : UInt32).toNat = 1 := rfl
    rw [added, toNat_saturatingAdd, one, List.length_append, List.length_singleton, ← fold.counted]
    omega

/-- The trades that the bar in progress is made of. -/
def Forming (trades : List (Trade Decimal)) : Option (Bar Decimal) → Prop
  | none => trades = []
  | some bar => bar.FoldOf trades

/-- A bar of some trades, or a flat one of none. -/
inductive Bar.MadeOf : List (Trade Decimal) → Bar Decimal → Prop
  | flat (openTimeMs : I64) (widthMs : ℤ) (price : Decimal) :
      MadeOf [] (.emptyAt openTimeMs widthMs price)
  | traded {trades : List (Trade Decimal)} {bar : Bar Decimal} (fold : bar.FoldOf trades) :
      MadeOf trades bar

end Oppen.Candles
