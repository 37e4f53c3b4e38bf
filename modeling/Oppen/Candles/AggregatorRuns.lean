import Oppen.Candles.Aggregator
import Oppen.Foundation.Fold
import Oppen.Foundation.Run

/-! # Runs of the local aggregator

Trades, clock readings and interruptions of the feed come in any order. As long as no clock that
lags opens a bucket below the newest one, the bars come out in strictly ascending order, each
bucket at most once, and every trade ends up in one place.
-/

namespace Oppen.Candles

open Foundation

variable {Decimal : Type}

/-! ## Starts -/

namespace Interval

variable (interval : Interval)

/-- Buckets from an aligned time on. -/
theorem bucketStartMs_of_le {floor time : I64} (aligned : interval.millis ∣ (floor : ℤ))
    (after : floor ≤ time) : interval.millis ∣ (interval.bucketStartMs time : ℤ) ∧
      floor ≤ interval.bucketStartMs time ∧ interval.bucketStartMs time ≤ time := by
  have width := interval.millis_pos
  have start : interval.slot floor * interval.millis = floor := Int.ediv_mul_cancel aligned
  have grows : interval.slot floor * interval.millis ≤ interval.slot time * interval.millis :=
    mul_le_mul_of_nonneg_right (Int.ediv_le_ediv width (Subtype.coe_le_coe.mpr after)) width.le
  have low := floor.2.1
  have below := interval.slot_mul_le time
  have same : (interval.bucketStartMs time : ℤ) = interval.slot time * interval.millis := by
    rw [coe_bucketStartMs]
    omega
  refine ⟨?_, ?_, ?_⟩
  · rw [same]
    exact dvd_mul_left _ _
  · rw [← Subtype.coe_le_coe, same]
    omega
  · rw [← Subtype.coe_le_coe, same]
    exact below

end Interval

namespace LocalAggregator

/-- A clamped time lies in the years a calendar can print. -/
theorem clampTime_mem (time : I64) : 0 ≤ (clampTime time : ℤ) ∧
    (clampTime time : ℤ) ≤ 253402300799999 := by
  have clamped : minTimeMs ≤ clampTime time ∧ clampTime time ≤ maxTimeMs :=
    ⟨le_max_left _ _, max_le (by decide) (min_le_right _ _)⟩
  exact clamped

/-- The first whole bucket starts at a multiple of the interval, not before the time it is asked
for. -/
theorem firstWholeBucket_spec (interval : Interval) (fromMs : I64) :
    interval.millis ∣ (firstWholeBucket interval fromMs : ℤ) ∧
      0 ≤ (firstWholeBucket interval fromMs : ℤ) ∧
      clampTime fromMs ≤ firstWholeBucket interval fromMs := by
  have width := interval.millis_pos
  have narrow := interval.millis_le
  obtain ⟨low, high⟩ := clampTime_mem fromMs
  have zero : interval.millis ∣ ((⟨0, by decide, by decide⟩ : I64) : ℤ) := Int.dvd_zero _
  have past : ⟨0, by decide, by decide⟩ ≤ clampTime fromMs := Subtype.coe_le_coe.mp low
  obtain ⟨aligned, positive, below⟩ := interval.bucketStartMs_of_le zero past
  rw [← Subtype.coe_le_coe] at positive below
  change (0 : ℤ) ≤ _ at positive
  rw [firstWholeBucket]
  split
  case isTrue same =>
    refine ⟨aligned, positive, ?_⟩
    rw [same]
  case isFalse =>
    have next : (I64.saturate (interval.bucketStartMs (clampTime fromMs) + interval.millis) : ℤ) =
        interval.bucketStartMs (clampTime fromMs) + interval.millis :=
      I64.saturate_of_mem (by omega) (by omega)
    have inside := interval.lt_slot_mul (clampTime fromMs)
    have start := interval.coe_bucketStartMs (clampTime fromMs)
    rw [← Subtype.coe_le_coe, next]
    exact ⟨Int.dvd_add aligned (dvd_refl _), by omega, by omega⟩

/-- What starts in a whole bucket starts when the feed is listened to. -/
theorem le_of_firstWholeBucket_le {interval : Interval} {fromMs time : I64}
    (whole : firstWholeBucket interval fromMs ≤ time) (inRange : time ≤ maxTimeMs) :
    fromMs ≤ time := by
  obtain ⟨aligned, positive, above⟩ := firstWholeBucket_spec interval fromMs
  rcases le_or_gt fromMs maxTimeMs with within | beyond
  · have clamped : fromMs ≤ clampTime fromMs := by
      rw [clampTime, min_eq_left within]
      exact le_max_right _ _
    exact clamped.trans (above.trans whole)
  · -- the end of the range starts no bucket
    exfalso
    have last : clampTime fromMs = maxTimeMs := by
      rw [clampTime, min_eq_right beyond.le]
      decide
    rw [last] at above
    have same : firstWholeBucket interval fromMs = maxTimeMs :=
      le_antisymm (whole.trans inRange) above
    have thousand := interval.thousand_dvd_millis.trans aligned
    rw [same] at thousand
    exact absurd thousand (by decide)

/-- A fresh aggregator, or one with bars on disk, that listens since some time. -/
inductive Started (listeningSinceMs : I64) : LocalAggregator Decimal → Prop
  | new (interval : Interval) : Started listeningSinceMs (new interval listeningSinceMs)
  | resume (interval : Interval) (noHistoryBeforeMs : I64) (lastClose : Option Decimal) :
      Started listeningSinceMs (resume interval listeningSinceMs noHistoryBeforeMs lastClose)

/-! ## Where the aggregator is -/

/-- The bucket in progress is the newest one, and the bar that is forming is its bar. -/
structure Placed (aggregator : LocalAggregator Decimal) : Prop where
  aligned : aggregator.interval.millis ∣ (aggregator.acceptsFromMs : ℤ)
  newest : ∀ newest ∈ aggregator.newestBucketMs,
    aggregator.acceptsFromMs ≤ newest ∧ newest ≤ maxTimeMs ∧
    aggregator.interval.millis ∣ (newest : ℤ)
  current : ∀ current ∈ aggregator.bucket, aggregator.newestBucketMs = some current
  forming : ∀ bar ∈ aggregator.forming, aggregator.bucket = some bar.openTimeMs

/-- An aggregator as it is started is placed. -/
theorem Started.placed {listeningSinceMs : I64} {start : LocalAggregator Decimal}
    (started : Started listeningSinceMs start) : Placed start := by
  have absent : ∀ {α : Type} (predicate : α → Prop), ∀ value ∈ (none : Option α),
      predicate value := fun _ _ missing => absurd missing (Option.not_mem_none _)
  cases started with
  | new interval =>
      exact ⟨(firstWholeBucket_spec interval listeningSinceMs).1, absent _, absent _, absent _⟩
  | resume interval noHistoryBeforeMs lastClose =>
      exact ⟨(firstWholeBucket_spec interval listeningSinceMs).1, absent _, absent _, absent _⟩

end LocalAggregator

open LocalAggregator

/-- The bucket that a call opens, where none is in progress. -/
def Call.opens (self : LocalAggregator Decimal) : Call Decimal → Option I64
  | push trade =>
      if self.bucket = none ∧ self.Admits trade then
        some (self.interval.bucketStartMs trade.timeMs)
      else none
  | closeThrough nowMs _ =>
      if self.bucket = none ∧ self.Accepts nowMs then some (self.interval.bucketStartMs nowMs)
      else none
  | feedInterrupted _ => none

/-- A call in a run: the aggregator before it, and the bars it returned. -/
structure Act (Decimal : Type) where
  before : LocalAggregator Decimal
  call : Call Decimal
  emitted : List (Bar Decimal)

/-- The bars of some calls. -/
def emittedBy (acts : List (Act Decimal)) : List (Bar Decimal) := acts.flatMap Act.emitted

/-- What a run emits is what it emitted before its last act, and then what that act emits. -/
theorem emittedBy_concat (acts : List (Act Decimal)) (act : Act Decimal) :
    emittedBy (acts ++ [act]) = emittedBy acts ++ act.emitted := by
  rw [emittedBy, List.flatMap_append, List.flatMap_singleton]
  rfl

/-- No clock that lags opens a bucket below the newest one. -/
def Act.Ahead (act : Act Decimal) : Prop :=
  ∀ bucket ∈ act.call.opens act.before, ∀ newest ∈ act.before.newestBucketMs, newest ≤ bucket

instance (act : Act Decimal) : Decidable act.Ahead :=
  inferInstanceAs (Decidable (∀ bucket ∈ _, ∀ newest ∈ _, newest ≤ bucket))

variable [LinearOrder Decimal] [AddCommMonoid Decimal] {before advanced after start last :
  LocalAggregator Decimal} {target : I64} {emitted : List (Bar Decimal)} {call : Call Decimal}
  {act : Act Decimal} {acts : List (Act Decimal)}

/-- A call on the aggregator as the one before left it. Runs of these are the runs every result
about the aggregator speaks of. -/
structure Acts (before : LocalAggregator Decimal) (act : Act Decimal)
    (after : LocalAggregator Decimal) : Prop where
  origin : act.before = before
  result : act.call.on before = (after, act.emitted)

/-- An act does what its call does, and emits what the call returns. -/
theorem Acts.does (acted : Acts before act after) : Does before act.call after act.emitted := by
  have does := act.call.does before
  rwa [acted.result] at does

/-- Calls one after the other. -/
def actsOf : LocalAggregator Decimal → List (Call Decimal) →
    List (Act Decimal) × LocalAggregator Decimal
  | state, [] => ([], state)
  | state, call :: later =>
      let (after, emitted) := call.on state
      let (acts, last) := actsOf after later
      (⟨state, call, emitted⟩ :: acts, last)

/-- Every sequence of calls is a run. -/
theorem run_actsOf (start : LocalAggregator Decimal) (calls : List (Call Decimal)) :
    Run Acts start (actsOf start calls).1 (actsOf start calls).2 := by
  induction calls generalizing start with
  | nil => exact .nil
  | cons call later ih => exact (Run.single ⟨rfl, rfl⟩).append (ih (call.on start).1)

/-! ## One step -/

/-- A step: the newest bucket does not go back, and what is emitted lies between the bucket that
was in progress and the newest one. -/
structure Moved (before : LocalAggregator Decimal) (emitted : List (Bar Decimal))
    (after : LocalAggregator Decimal) : Prop where
  interval : after.interval = before.interval
  acceptsFromMs : after.acceptsFromMs = before.acceptsFromMs
  placed : Placed after
  grows : ∀ newest ∈ before.newestBucketMs, ∃ next ∈ after.newestBucketMs, newest ≤ next
  ascending : emitted.Pairwise fun bar next => bar.openTimeMs < next.openTimeMs
  aligned : ∀ bar ∈ emitted, before.interval.millis ∣ (bar.openTimeMs : ℤ)
  above : ∀ bar ∈ emitted, ∃ current ∈ before.bucket, current ≤ bar.openTimeMs
  below : ∀ bar ∈ emitted, ∃ newest ∈ after.newestBucketMs, bar.openTimeMs < newest

omit [LinearOrder Decimal] [AddCommMonoid Decimal] in
/-- A step that emits nothing and leaves the newest bucket. -/
theorem Moved.quiet (interval : after.interval = before.interval)
    (acceptsFromMs : after.acceptsFromMs = before.acceptsFromMs) (placed : Placed after)
    (grows : ∀ newest ∈ before.newestBucketMs, ∃ next ∈ after.newestBucketMs, newest ≤ next) :
    Moved before [] after where
  interval := interval
  acceptsFromMs := acceptsFromMs
  placed := placed
  grows := grows
  ascending := .nil
  aligned _ absent := absurd absent List.not_mem_nil
  above _ absent := absurd absent List.not_mem_nil
  below _ absent := absurd absent List.not_mem_nil

omit [LinearOrder Decimal] [AddCommMonoid Decimal] in
/-- Entering a bucket that is not behind the newest one makes it the newest. -/
theorem newestBucketMs_enterBucket
    (behind : ∀ newest ∈ before.newestBucketMs, newest ≤ target) :
    (before.enterBucket target).newestBucketMs = some target := by
  cases reached : before.newestBucketMs with
  | none => rw [enterBucket, reached]; rfl
  | some newest =>
      rw [enterBucket, reached]
      exact congrArg some (max_eq_right (behind newest reached))

omit [LinearOrder Decimal] in
/-- The aggregator advances from what is in progress to the newest bucket. -/
theorem Advances.moved (advances : Advances before target advanced emitted)
    (placed : Placed before) (aligned : before.interval.millis ∣ (target : ℤ))
    (whole : before.acceptsFromMs ≤ target) (inRange : target ≤ maxTimeMs)
    (ahead : before.bucket = none → ∀ newest ∈ before.newestBucketMs, newest ≤ target) :
    Moved before emitted advanced := by
  cases advances with
  | enters idle =>
      have reached := newestBucketMs_enterBucket (ahead idle)
      refine .quiet rfl rfl ⟨placed.aligned, ?_, ?_, ?_⟩ fun newest earlier =>
        ⟨target, reached, ahead idle newest earlier⟩
      · intro newest same
        obtain rfl := Option.some.inj (reached.symm.trans same)
        exact ⟨whole, inRange, aligned⟩
      · intro current running
        obtain rfl := Option.some.inj running
        exact reached
      · intro bar forming
        have running := placed.forming bar forming
        rw [idle] at running
        cases running
  | stays running reached =>
      exact .quiet rfl rfl placed fun newest earlier => ⟨newest, earlier, le_rfl⟩
  | @leaves current running passed slots price lastClose skippedFills ascending within apart =>
      have newest := placed.current current running
      have behind : ∀ earlier ∈ before.newestBucketMs, earlier ≤ target := by
        intro earlier same
        obtain rfl := Option.some.inj (newest.symm.trans same)
        exact passed.le
      have reached := newestBucketMs_enterBucket behind
      obtain ⟨-, -, aligned'⟩ := placed.newest current newest
      have formingBar : ∀ bar ∈ before.forming.toList, bar.openTimeMs = current ∧
          before.forming ≠ none := by
        intro bar member
        have forming := Option.mem_toList.mp member
        refine ⟨Option.some.inj ((placed.forming bar forming).symm.trans running),
          fun missing => ?_⟩
        rw [missing] at forming
        cases forming
      have each : ∀ bar ∈ before.forming.toList ++
          slots.map (.emptyAt · before.interval.millis price),
          current ≤ bar.openTimeMs ∧ bar.openTimeMs < target ∧
            before.interval.millis ∣ (bar.openTimeMs : ℤ) - current := by
        intro bar member
        rcases List.mem_append.mp member with traded | flat
        · obtain ⟨same, -⟩ := formingBar bar traded
          rw [same, sub_self]
          exact ⟨le_rfl, passed, Int.dvd_zero _⟩
        · obtain ⟨slot, inside, rfl⟩ := List.mem_map.mp flat
          exact within slot inside
      constructor
      case interval => rfl
      case acceptsFromMs => rfl
      case placed =>
        refine ⟨placed.aligned, ?_, ?_, fun _ absent => absurd absent (Option.not_mem_none _)⟩
        · intro later same
          obtain rfl := Option.some.inj (reached.symm.trans same)
          exact ⟨whole, inRange, aligned⟩
        · intro later running
          obtain rfl := Option.some.inj running
          exact reached
      case grows => exact fun earlier same => ⟨target, reached, behind earlier same⟩
      case ascending =>
        rw [List.pairwise_append, List.pairwise_map]
        refine ⟨?_, ascending, ?_⟩
        · cases before.forming with
          | none => exact .nil
          | some bar => exact List.pairwise_singleton _ _
        · intro bar traded next flat
          obtain ⟨slot, inside, rfl⟩ := List.mem_map.mp flat
          obtain ⟨same, busy⟩ := formingBar bar traded
          rw [same]
          exact apart slot inside busy
      case aligned =>
        intro bar member
        have sum := Int.dvd_add (each bar member).2.2 aligned'
        rwa [sub_add_cancel] at sum
      case above => exact fun bar member => ⟨current, running, (each bar member).1⟩
      case below => exact fun bar member => ⟨target, reached, (each bar member).2.1⟩

omit [LinearOrder Decimal] in
/-- Where the aggregator is once it has advanced. -/
theorem Advances.bucket (advances : Advances before target advanced emitted)
    (placed : Placed before)
    (onTime : ∀ newest ∈ before.newestBucketMs, newest ≤ target) :
    advanced.bucket = some target := by
  cases advances with
  | enters idle => rfl
  | stays running reached =>
      rw [running, le_antisymm (onTime _ (placed.current _ running)) reached]
  | leaves running passed => rfl

/-- An act whose clock does not lag moves the aggregator forward from where it is placed. -/
theorem Acts.moved (acted : Acts before act after) (placed : Placed before) (ahead : act.Ahead) :
    Moved before act.emitted after := by
  have does := acted.does
  obtain ⟨before', call, emitted⟩ := act
  obtain rfl := acted.origin
  dsimp only at does ⊢
  have same : ∀ newest ∈ before'.newestBucketMs, ∃ next ∈ before'.newestBucketMs, newest ≤ next :=
    fun newest earlier => ⟨newest, earlier, le_rfl⟩
  have counted : ∀ beforeHistory late outOfRange, Placed
      { before' with
        beforeHistory := beforeHistory
        late := late
        outOfRange := outOfRange } :=
    fun _ _ _ => ⟨placed.aligned, placed.newest, placed.current, placed.forming⟩
  cases does with
  | outOfRange => exact .quiet rfl rfl (counted _ _ _) same
  | beforeHistory => exact .quiet rfl rfl (counted _ _ _) same
  | late => exact .quiet rfl rfl (counted _ _ _) same
  | @folds trade admits advanced _ advances =>
      obtain ⟨aligned, whole, below⟩ :=
        before'.interval.bucketStartMs_of_le placed.aligned admits.whole
      have moved := advances.moved placed aligned whole (below.trans admits.inRange.2)
        fun _ => admits.onTime
      have bucket := advances.bucket placed admits.onTime
      refine { moved with placed := ⟨moved.placed.aligned, moved.placed.newest,
        moved.placed.current, fun bar forming => ?_⟩ }
      obtain rfl := Option.some.inj forming
      change advanced.bucket = some (advanced.forming.getD _).openTimeMs
      cases earlier : advanced.forming with
      | none =>
          rw [bucket, Option.getD_none, moved.interval]
          rfl
      | some bar => exact moved.placed.forming bar earlier
  | ignores => exact .quiet rfl rfl placed same
  | closes accepts advances =>
      obtain ⟨aligned, whole, below⟩ :=
        before'.interval.bucketStartMs_of_le placed.aligned accepts.1
      exact advances.moved placed aligned whole (below.trans accepts.2) fun idle =>
        ahead _ (if_pos ⟨idle, accepts⟩)
  | interrupts =>
      exact .quiet rfl rfl ⟨placed.aligned, placed.newest,
        fun _ absent => absurd absent (Option.not_mem_none _),
        fun _ absent => absurd absent (Option.not_mem_none _)⟩ same

/-! ## Runs -/

/-- What some calls emitted, and where they left the aggregator. -/
structure Emitting (start : LocalAggregator Decimal) (acts : List (Act Decimal))
    (state : LocalAggregator Decimal) : Prop where
  interval : state.interval = start.interval
  acceptsFromMs : state.acceptsFromMs = start.acceptsFromMs
  placed : Placed state
  ascending : (emittedBy acts).Pairwise fun bar next => bar.openTimeMs < next.openTimeMs
  aligned : ∀ bar ∈ emittedBy acts, start.interval.millis ∣ (bar.openTimeMs : ℤ)
  whole : ∀ bar ∈ emittedBy acts, start.acceptsFromMs ≤ bar.openTimeMs
  below : ∀ bar ∈ emittedBy acts, ∃ newest ∈ state.newestBucketMs, bar.openTimeMs < newest

/-- One more act that does not lag keeps what is known of the bars emitted so far. -/
theorem Emitting.step (emitting : Emitting start acts before) (acted : Acts before act after)
    (ahead : act.Ahead) : Emitting start (acts ++ [act]) after := by
  have moved := acted.moved emitting.placed ahead
  -- what is emitted starts no earlier than the newest bucket so far
  have sourced : ∀ bar ∈ act.emitted, ∃ current ∈ before.newestBucketMs,
      current ≤ bar.openTimeMs := by
    intro bar member
    obtain ⟨current, running, reached⟩ := moved.above bar member
    exact ⟨current, emitting.placed.current current running, reached⟩
  constructor
  case interval => exact moved.interval.trans emitting.interval
  case acceptsFromMs => exact moved.acceptsFromMs.trans emitting.acceptsFromMs
  case placed => exact moved.placed
  case ascending =>
    rw [emittedBy_concat, List.pairwise_append]
    refine ⟨emitting.ascending, moved.ascending, fun bar earlier next later => ?_⟩
    obtain ⟨newest, reached, less⟩ := emitting.below bar earlier
    obtain ⟨current, running, above⟩ := sourced next later
    obtain rfl := Option.some.inj (reached.symm.trans running)
    exact less.trans_le above
  all_goals
    rw [emittedBy_concat]
    intro bar member
    rcases List.mem_append.mp member with earlier | later
  case aligned.inl => exact emitting.aligned bar earlier
  case aligned.inr => exact emitting.interval ▸ moved.aligned bar later
  case whole.inl => exact emitting.whole bar earlier
  case whole.inr =>
    obtain ⟨current, running, above⟩ := sourced bar later
    have floor := (emitting.placed.newest current running).1
    rw [emitting.acceptsFromMs] at floor
    exact floor.trans above
  case below.inl =>
    obtain ⟨newest, reached, less⟩ := emitting.below bar earlier
    obtain ⟨next, reached', grown⟩ := moved.grows newest reached
    exact ⟨next, reached', less.trans_le grown⟩
  case below.inr => exact moved.below bar later

/-- Without a clock that lags, bars come out in ascending order. -/
theorem emitting (placed : Placed start) (run : Run Acts start acts last)
    (ahead : ∀ act ∈ acts, act.Ahead) : Emitting start acts last := by
  revert ahead
  refine Run.history (fun seen state => (∀ act ∈ seen, act.Ahead) → Emitting start seen state)
    (fun _ => ?_) (fun seen before act after _ earlier acted ahead => ?_) run
  · exact ⟨rfl, rfl, placed, .nil, fun _ absent => absurd absent List.not_mem_nil,
      fun _ absent => absurd absent List.not_mem_nil,
      fun _ absent => absurd absent List.not_mem_nil⟩
  · exact (earlier fun act member => ahead act (List.mem_append_left _ member)).step acted
      (ahead act (List.mem_append_right _ (List.mem_singleton_self act)))

end Oppen.Candles
