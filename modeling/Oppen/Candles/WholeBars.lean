import Oppen.Candles.Tallies

/-! # Local bars are whole bars

A bucket is emitted as the fold of all trades that were pushed for it, as long as every bucket
that a call opens with none in progress is above the newest one and starts no earlier than the
feed is listened to again. The aggregator does not see to that: after an interruption it opens
whatever bucket the next trade or clock reading lies in, the interrupted one included.
-/

namespace Oppen.Candles

open Foundation LocalAggregator

variable {Decimal : Type}

/-! ## The trades of a bucket -/

/-- A trade that is in range, in a bucket. -/
def Trade.LiesIn (interval : Interval) (bucket : I64) (trade : Trade Decimal) : Prop :=
  InRange trade.timeMs ∧ interval.bucketStartMs trade.timeMs = bucket

instance (interval : Interval) (bucket : I64) (trade : Trade Decimal) :
    Decidable (trade.LiesIn interval bucket) := inferInstanceAs (Decidable (_ ∧ _))

/-- All trades in range that some calls pushed for a bucket, as they arrived. -/
def tradesOf (interval : Interval) (acts : List (Act Decimal)) (bucket : I64) :
    List (Trade Decimal) :=
  (pushedBy acts).filter fun trade => trade.LiesIn interval bucket

/-- From when the feed is listened to again after an interruption. -/
def Call.again : Call Decimal → Option I64
  | feedInterrupted againMs => some againMs
  | _ => none

/-- A bucket that is opened with none in progress is above the newest one, and starts no earlier
than the feed is listened to again. -/
def Act.OpensWhole (earlier : List (Act Decimal)) (act : Act Decimal) : Prop :=
  ∀ bucket ∈ act.call.opens act.before, (∀ newest ∈ act.before.newestBucketMs, newest < bucket) ∧
    ∀ interruption ∈ earlier, ∀ againMs ∈ interruption.call.again, againMs ≤ bucket

instance (earlier : List (Act Decimal)) (act : Act Decimal) :
    Decidable (act.OpensWhole earlier) :=
  inferInstanceAs (Decidable (∀ bucket ∈ _, (∀ newest ∈ _, newest < bucket) ∧
    ∀ interruption ∈ _, ∀ againMs ∈ _, againMs ≤ bucket))

/-- An act that opens whole buckets only does not lag. -/
theorem Act.OpensWhole.ahead {earlier : List (Act Decimal)} {act : Act Decimal}
    (opens : act.OpensWhole earlier) : act.Ahead :=
  fun bucket opened newest reached => ((opens bucket opened).1 newest reached).le

/-- The trades of a bucket after one more act are those before it and the act's own, if it lies
there. -/
theorem tradesOf_concat (interval : Interval) (acts : List (Act Decimal)) (act : Act Decimal)
    (bucket : I64) : tradesOf interval (acts ++ [act]) bucket = tradesOf interval acts bucket ++
      act.call.trade.toList.filter fun trade => trade.LiesIn interval bucket := by
  rw [tradesOf, pushedBy_concat, List.filter_append]
  rfl

/-- An act whose trade lies elsewhere adds none to a bucket. -/
theorem tradesOf_concat_of_ne {interval : Interval} {acts : List (Act Decimal)}
    {act : Act Decimal} {bucket : I64}
    (other : ∀ trade ∈ act.call.trade, ¬ trade.LiesIn interval bucket) :
    tradesOf interval (acts ++ [act]) bucket = tradesOf interval acts bucket := by
  rw [tradesOf_concat]
  cases same : act.call.trade with
  | none => exact List.append_nil _
  | some trade =>
      rw [Option.toList_some, List.filter_cons_of_neg (by simpa using other trade same),
        List.filter_nil, List.append_nil]

variable [LinearOrder Decimal] [AddCommMonoid Decimal] {before advanced after start last :
  LocalAggregator Decimal} {target : I64} {emitted : List (Bar Decimal)} {act : Act Decimal}
  {acts : List (Act Decimal)} {trades : I64 → List (Trade Decimal)}

/-- The trades of the bucket in progress are in its bar, and newer buckets have none. -/
structure Gathered (trades : I64 → List (Trade Decimal)) (aggregator : LocalAggregator Decimal) :
    Prop where
  current : ∀ bucket ∈ aggregator.bucket, Forming (trades bucket) aggregator.forming
  newer : ∀ bucket, aggregator.acceptsFromMs ≤ bucket →
    (∀ newest ∈ aggregator.newestBucketMs, newest < bucket) → trades bucket = []

/-- Advancing to a bucket from which everything is accepted keeps the trades gathered, and what it
emits is made of all trades of its bucket. -/
theorem Advances.gathered (advances : Advances before target advanced emitted)
    (placed : Placed before) (gathered : Gathered trades before)
    (whole : before.acceptsFromMs ≤ target)
    (opens : before.bucket = none → ∀ newest ∈ before.newestBucketMs, newest < target) :
    (∀ bucket ∈ advanced.bucket, Forming (trades bucket) advanced.forming) ∧
      ∀ bar ∈ emitted, bar.MadeOf (trades bar.openTimeMs) := by
  cases advances with
  | enters idle =>
      refine ⟨fun bucket running => ?_, fun _ absent => absurd absent List.not_mem_nil⟩
      obtain rfl := Option.some.inj running
      rw [gathered.newer target whole (opens idle)]
      change Forming [] before.forming
      cases forming : before.forming with
      | none => exact rfl
      | some bar =>
          have running := placed.forming bar forming
          rw [idle] at running
          cases running
  | stays running reached =>
      exact ⟨gathered.current, fun _ absent => absurd absent List.not_mem_nil⟩
  | @leaves current running passed slots price lastClose skippedFills ascending within apart =>
      have newest := placed.current current running
      have floor := (placed.newest current newest).1
      have beyond : ∀ bucket, current < bucket → trades bucket = [] := fun bucket less =>
        gathered.newer bucket (floor.trans less.le) fun earlier reached => by
          obtain rfl := Option.some.inj (newest.symm.trans reached)
          exact less
      refine ⟨fun bucket same => ?_, fun bar member => ?_⟩
      · obtain rfl := Option.some.inj same
        exact beyond target passed
      · have made := gathered.current current running
        rcases List.mem_append.mp member with traded | flat
        · have forming : before.forming = some bar := Option.mem_toList.mp traded
          obtain same := (placed.forming bar forming).symm.trans running
          rw [forming] at made
          rw [Option.some.inj same]
          exact .traded made
        · obtain ⟨slot, inside, rfl⟩ := List.mem_map.mp flat
          have none : trades slot = [] := by
            rcases (within slot inside).1.eq_or_lt with rfl | later
            · -- the bucket that is left is flat only if it has no bar
              cases quiet : before.forming with
              | none => rwa [quiet] at made
              | some bar =>
                  exact absurd (apart current inside (by rw [quiet]; nofun)) (lt_irrefl _)
            · exact beyond slot later
          change (Bar.emptyAt slot _ price).MadeOf (trades slot)
          rw [none]
          exact .flat slot _ price

/-- A bucket starts no later than the times in it. -/
theorem Interval.bucketStartMs_le (interval : Interval) (time : I64) :
    interval.bucketStartMs time ≤ time := by
  have start := interval.coe_bucketStartMs time
  have below := interval.slot_mul_le time
  have low := time.2.1
  rw [← Subtype.coe_le_coe]
  omega

/-- One call: its trade joins its bucket, and what is emitted is made of all trades so far. -/
theorem Acts.gathered (acted : Acts before act after) (placed : Placed before)
    (gathered : Gathered (tradesOf before.interval acts) before) (opens : act.OpensWhole acts)
    (fits : act.CountFits) : Gathered (tradesOf before.interval (acts ++ [act])) after ∧
      ∀ bar ∈ act.emitted,
        bar.MadeOf (tradesOf before.interval (acts ++ [act]) bar.openTimeMs) := by
  have does := acted.does
  have moved := acted.moved placed opens.ahead
  obtain ⟨before', call, emitted⟩ := act
  obtain rfl := acted.origin
  dsimp only at does moved gathered ⊢
  have silent : ∀ {next : LocalAggregator Decimal} {call : Call Decimal},
      next.bucket = before'.bucket → next.newestBucketMs = before'.newestBucketMs →
        next.forming = before'.forming → next.acceptsFromMs = before'.acceptsFromMs →
          (∀ trade ∈ call.trade, ∀ bucket, trade.LiesIn before'.interval bucket →
            before'.acceptsFromMs ≤ bucket → ∃ newest ∈ before'.newestBucketMs, bucket < newest) →
          Gathered (tradesOf before'.interval (acts ++ [⟨before', call, []⟩])) next ∧
            ∀ bar ∈ ([] : List (Bar Decimal)), bar.MadeOf
              (tradesOf before'.interval (acts ++ [⟨before', call, []⟩]) bar.openTimeMs) := by
    intro next call bucket newest forming acceptsFromMs dropped
    refine ⟨⟨fun current running => ?_, fun later floor above => ?_⟩,
      fun _ absent => absurd absent List.not_mem_nil⟩
    · rw [bucket] at running
      have reached := placed.current current running
      have floor := (placed.newest current reached).1
      rw [forming, tradesOf_concat_of_ne fun trade pushed lies => ?_]
      · exact gathered.current current running
      · obtain ⟨other, reached', less⟩ := dropped trade pushed current lies floor
        obtain rfl := Option.some.inj (reached.symm.trans reached')
        exact lt_irrefl _ less
    · rw [acceptsFromMs] at floor
      rw [newest] at above
      rw [tradesOf_concat_of_ne fun trade pushed lies => ?_]
      · exact gathered.newer later floor above
      · obtain ⟨other, reached, less⟩ := dropped trade pushed later lies floor
        exact lt_asymm less (above other reached)
  cases does with
  | @outOfRange trade outside =>
      refine silent rfl rfl rfl rfl fun pushed same bucket lies _ => ?_
      obtain rfl := Option.some.inj same
      exact absurd lies.1 outside
  | @beforeHistory trade inRange early =>
      refine silent rfl rfl rfl rfl fun pushed same bucket lies floor => ?_
      obtain rfl := Option.some.inj same
      have start := before'.interval.bucketStartMs_le trade.timeMs
      rw [lies.2] at start
      exact absurd (floor.trans start) (not_le.mpr early)
  | @late trade inRange newest reached behind =>
      refine silent rfl rfl rfl rfl fun pushed same bucket lies _ => ?_
      obtain rfl := Option.some.inj same
      exact ⟨newest, reached, lies.2 ▸ behind⟩
  | @folds trade admits advanced _ advances =>
      obtain ⟨-, whole, -⟩ :=
        before'.interval.bucketStartMs_of_le placed.aligned admits.whole
      obtain ⟨forming, made⟩ := advances.gathered placed gathered whole fun idle =>
        (opens _ (if_pos ⟨idle, admits⟩)).1
      have bucket := advances.bucket placed admits.onTime
      have reached := moved.placed.current _ bucket
      have other : ∀ later, before'.interval.bucketStartMs trade.timeMs ≠ later →
          tradesOf before'.interval (acts ++ [⟨before', .push trade, emitted⟩]) later =
            tradesOf before'.interval acts later := fun later differs =>
        tradesOf_concat_of_ne fun pushed same lies => by
          obtain rfl := Option.some.inj same
          exact differs lies.2
      refine ⟨⟨fun current running => ?_, fun later floor above => ?_⟩, fun bar member => ?_⟩
      · obtain rfl := Option.some.inj (bucket.symm.trans running)
        have joined : tradesOf before'.interval (acts ++ [⟨before', .push trade, emitted⟩])
            (before'.interval.bucketStartMs trade.timeMs) =
              tradesOf before'.interval acts (before'.interval.bucketStartMs trade.timeMs) ++
                [trade] := by
          rw [tradesOf_concat]
          congr 1
          exact List.filter_cons_of_pos (decide_eq_true ⟨admits.inRange, rfl⟩)
        rw [joined]
        exact (forming _ bucket).fold (advances.fits placed admits (fits trade rfl admits))
      · have beyond := above _ reached
        rw [other later beyond.ne]
        rw [moved.acceptsFromMs] at floor
        exact gathered.newer later floor fun newest earlier =>
          (admits.onTime newest earlier).trans_lt beyond
      · obtain ⟨newest, reached', less⟩ := moved.below bar member
        obtain rfl := Option.some.inj (reached.symm.trans reached')
        rw [other _ less.ne']
        exact made bar member
  | ignores =>
      exact silent rfl rfl rfl rfl fun _ absent => absurd absent (Option.not_mem_none _)
  | @closes nowMs feedLiveThroughMs accepts advanced _ advances =>
      obtain ⟨-, whole, -⟩ :=
        before'.interval.bucketStartMs_of_le placed.aligned accepts.1
      obtain ⟨forming, made⟩ := advances.gathered placed gathered whole fun idle =>
        (opens _ (if_pos ⟨idle, accepts⟩)).1
      have same : ∀ bucket, tradesOf before'.interval
          (acts ++ [⟨before', .closeThrough nowMs feedLiveThroughMs, emitted⟩]) bucket =
            tradesOf before'.interval acts bucket := fun _ =>
        tradesOf_concat_of_ne fun _ absent => absurd absent (Option.not_mem_none _)
      refine ⟨⟨fun current running => ?_, fun later floor above => ?_⟩, fun bar member => ?_⟩
      · rw [same]
        exact forming current running
      · rw [same]
        rw [moved.acceptsFromMs] at floor
        refine gathered.newer later floor fun newest earlier => ?_
        obtain ⟨next, reached, grown⟩ := moved.grows newest earlier
        exact grown.trans_lt (above next reached)
      · rw [same]
        exact made bar member
  | interrupts =>
      refine ⟨⟨fun _ absent => absurd absent (Option.not_mem_none _),
        fun later floor above => ?_⟩, fun _ absent => absurd absent List.not_mem_nil⟩
      rw [tradesOf_concat_of_ne fun _ absent => absurd absent (Option.not_mem_none _)]
      exact gathered.newer later floor above

/-! ## Interruptions -/

/-- The buckets in progress at an interruption are behind, and so is the time of silence. -/
structure Behind (acts : List (Act Decimal)) (aggregator : LocalAggregator Decimal) : Prop where
  again : ∀ interruption ∈ acts, ∀ againMs ∈ interruption.call.again,
    ∀ current ∈ aggregator.bucket, againMs ≤ current
  reached : ∀ interruption ∈ acts, interruption.call.again ≠ none →
    ∀ bucket ∈ interruption.before.bucket, ∃ newest ∈ aggregator.newestBucketMs, bucket ≤ newest
  left : ∀ interruption ∈ acts, interruption.call.again ≠ none →
    ∀ bucket ∈ interruption.before.bucket, ∀ current ∈ aggregator.bucket, bucket < current

omit [LinearOrder Decimal] in
/-- The bucket that is running afterwards is not before the one that ran, or is the one advanced
to. -/
theorem Advances.of_bucket (advances : Advances before target advanced emitted) {bucket : I64}
    (running : bucket ∈ advanced.bucket) :
    (∃ current ∈ before.bucket, current ≤ bucket) ∨ before.bucket = none ∧ bucket = target := by
  cases advances with
  | enters idle => exact .inr ⟨idle, (Option.some.inj running).symm⟩
  | stays => exact .inl ⟨bucket, running, le_rfl⟩
  | leaves running' passed =>
      obtain rfl := Option.some.inj running
      exact .inl ⟨_, running', passed.le⟩

/-- A bucket in progress was in progress, or was advanced to, or is opened by the call. -/
theorem Acts.of_bucket (acted : Acts before act after) {bucket : I64}
    (running : bucket ∈ after.bucket) :
    (∃ current ∈ before.bucket, current ≤ bucket) ∨ bucket ∈ act.call.opens act.before := by
  have does := acted.does
  obtain ⟨before', call, emitted⟩ := act
  obtain rfl := acted.origin
  dsimp only at does ⊢
  cases does with
  | outOfRange => exact .inl ⟨bucket, running, le_rfl⟩
  | beforeHistory => exact .inl ⟨bucket, running, le_rfl⟩
  | late => exact .inl ⟨bucket, running, le_rfl⟩
  | folds admits advances =>
      rcases advances.of_bucket running with earlier | ⟨idle, rfl⟩
      · exact .inl earlier
      · exact .inr (if_pos ⟨idle, admits⟩)
  | ignores => exact .inl ⟨bucket, running, le_rfl⟩
  | closes accepts advances =>
      rcases advances.of_bucket running with earlier | ⟨idle, rfl⟩
      · exact .inl earlier
      · exact .inr (if_pos ⟨idle, accepts⟩)
  | interrupts => exact absurd running (Option.not_mem_none _)

/-- After an interruption no bucket is in progress. -/
theorem Acts.interrupted (acted : Acts before act after) (interrupts : act.call.again ≠ none) :
    act.emitted = [] ∧ after.bucket = none ∧ after.newestBucketMs = before.newestBucketMs := by
  have does := acted.does
  obtain ⟨before', call, emitted⟩ := act
  dsimp only at does interrupts ⊢
  cases does with
  | interrupts => exact ⟨rfl, rfl, rfl⟩
  | _ => exact absurd rfl interrupts

/-- One more act that opens whole buckets only keeps the buckets behind the trades. -/
theorem Behind.step (behind : Behind acts before) (acted : Acts before act after)
    (placed : Placed before) (opens : act.OpensWhole acts) : Behind (acts ++ [act]) after := by
  have moved := acted.moved placed opens.ahead
  have origin := acted.origin
  constructor
  case again =>
    intro interruption member againMs same current running
    rcases List.mem_append.mp member with earlier | here
    · rcases acted.of_bucket running with ⟨bucket, running', grown⟩ | opened
      · exact (behind.again _ earlier _ same _ running').trans grown
      · exact (opens current opened).2 interruption earlier againMs same
    · obtain rfl := List.mem_singleton.mp here
      rw [(acted.interrupted (by rw [same]; nofun)).2.1] at running
      exact absurd running (Option.not_mem_none _)
  case reached =>
    intro interruption member interrupts bucket progress
    rcases List.mem_append.mp member with earlier | here
    · obtain ⟨newest, reached, below⟩ := behind.reached _ earlier interrupts _ progress
      obtain ⟨next, reached', grown⟩ := moved.grows newest reached
      exact ⟨next, reached', below.trans grown⟩
    · obtain rfl := List.mem_singleton.mp here
      rw [origin] at progress
      rw [(acted.interrupted interrupts).2.2]
      exact ⟨bucket, placed.current bucket progress, le_rfl⟩
  case left =>
    intro interruption member interrupts bucket progress current running
    rcases List.mem_append.mp member with earlier | here
    · rcases acted.of_bucket running with ⟨bucket', running', grown⟩ | opened
      · exact (behind.left _ earlier interrupts _ progress _ running').trans_le grown
      · obtain ⟨newest, reached, below⟩ := behind.reached _ earlier interrupts _ progress
        rw [← origin] at reached
        exact below.trans_lt ((opens current opened).1 newest reached)
    · obtain rfl := List.mem_singleton.mp here
      rw [(acted.interrupted interrupts).2.1] at running
      exact absurd running (Option.not_mem_none _)

/-! ## Runs -/

/-- Every call opens whole buckets only. -/
def OpenWhole (acts : List (Act Decimal)) : Prop :=
  ∀ earlier act later, acts = earlier ++ act :: later → act.OpensWhole earlier

instance (acts : List (Act Decimal)) : Decidable (OpenWhole acts) :=
  decidable_of_iff
    (∀ index : Fin acts.length, (acts.get index).OpensWhole (acts.take index)) <| by
    constructor
    · rintro whole earlier act later rfl
      have here := whole ⟨earlier.length, by simp⟩
      simpa using here
    · intro whole index
      refine whole _ _ (acts.drop (index + 1)) ?_
      rw [List.get_eq_getElem, List.cons_getElem_drop_succ, List.take_append_drop]

omit [LinearOrder Decimal] [AddCommMonoid Decimal] in
/-- All acts but the last open whole buckets only as well. -/
theorem OpenWhole.init (opens : OpenWhole (acts ++ [act])) : OpenWhole acts :=
  fun earlier act' later whole => opens earlier act' (later ++ [act]) (by rw [whole]; simp)

omit [LinearOrder Decimal] [AddCommMonoid Decimal] in
/-- In a run that opens whole buckets only no act lags. -/
theorem OpenWhole.ahead (opens : OpenWhole acts) : ∀ act ∈ acts, act.Ahead := by
  intro act member
  obtain ⟨earlier, later, whole⟩ := List.append_of_mem member
  exact (opens earlier act later whole).ahead

/-- What holds after some calls that opened whole buckets. -/
structure Gathering (start : LocalAggregator Decimal) (acts : List (Act Decimal))
    (state : LocalAggregator Decimal) : Prop where
  gathered : Gathered (tradesOf start.interval acts) state
  behind : Behind acts state
  absent : ∀ interruption ∈ acts, interruption.call.again ≠ none → ∀ bar ∈ emittedBy acts,
    interruption.before.bucket ≠ some bar.openTimeMs

/-- A run that opens whole buckets only has gathered the trades of every bucket it accepts. -/
theorem gathering {listeningSinceMs : I64} (started : Started listeningSinceMs start)
    (run : Run Acts start acts last) (opens : OpenWhole acts) (fits : ∀ act ∈ acts, act.CountFits) :
    Gathering start acts last := by
  revert opens fits
  refine Run.history (fun seen state => OpenWhole seen → (∀ act ∈ seen, act.CountFits) →
    Gathering start seen state) (fun _ _ => ?_)
    (fun seen before act after prior earlier acted opens fits => ?_) run
  · have idle : start.bucket = none := by cases started <;> rfl
    refine ⟨⟨fun bucket running => ?_, fun _ _ _ => rfl⟩,
      ⟨fun _ absent => absurd absent List.not_mem_nil,
        fun _ absent => absurd absent List.not_mem_nil,
        fun _ absent => absurd absent List.not_mem_nil⟩,
      fun _ absent => absurd absent List.not_mem_nil⟩
    rw [idle] at running
    exact absurd running (Option.not_mem_none _)
  · have earlierOn := earlier opens.init fun act member => fits act (List.mem_append_left _ member)
    have emitted := emitting started.placed prior opens.init.ahead
    have whole : act.OpensWhole seen := opens seen act [] rfl
    have moved := acted.moved emitted.placed whole.ahead
    obtain ⟨gathered, -⟩ := acted.gathered emitted.placed
      (emitted.interval.symm ▸ earlierOn.gathered) whole
      (fits act (List.mem_append_right _ (List.mem_singleton_self act)))
    rw [emitted.interval] at gathered
    refine ⟨gathered, earlierOn.behind.step acted emitted.placed whole,
      fun interruption member interrupts bar member' same => ?_⟩
    rw [emittedBy_concat] at member'
    rcases List.mem_append.mp member with old | here
    · rcases List.mem_append.mp member' with old' | new
      · exact earlierOn.absent interruption old interrupts bar old' same
      · obtain ⟨current, running, above⟩ := moved.above bar new
        exact not_lt.mpr above (earlierOn.behind.left _ old interrupts _ same _ running)
    · obtain rfl := List.mem_singleton.mp here
      rcases List.mem_append.mp member' with old' | new
      · obtain ⟨newest, reached, less⟩ := emitted.below bar old'
        rw [acted.origin] at same
        obtain rfl := Option.some.inj (reached.symm.trans (emitted.placed.current _ same))
        exact lt_irrefl _ less
      · rw [(acted.interrupted interrupts).1] at new
        cases new

/-- Every bar is the fold of all trades that were pushed for its bucket until then, or flat where
none was; the buckets before the aggregator listened, and those that an interruption falls into,
have no bar. -/
structure WholeBars (listeningSinceMs : I64) (start : LocalAggregator Decimal)
    (acts : List (Act Decimal)) : Prop where
  folds : ∀ earlier act later, acts = earlier ++ act :: later → ∀ bar ∈ act.emitted,
    bar.MadeOf (tradesOf start.interval (earlier ++ [act]) bar.openTimeMs)
  listened : ∀ bar ∈ emittedBy acts, listeningSinceMs ≤ bar.openTimeMs
  again : ∀ earlier interruption later, acts = earlier ++ interruption :: later →
    ∀ againMs ∈ interruption.call.again, ∀ bar ∈ emittedBy later, againMs ≤ bar.openTimeMs
  absent : ∀ interruption ∈ acts, interruption.call.again ≠ none → ∀ bar ∈ emittedBy acts,
    interruption.before.bucket ≠ some bar.openTimeMs

/-- **In a run whose calls open whole buckets only, local bars are whole bars.** Each emitted bar
folds all the trades of its bucket and no others, and a bucket that an interruption cut is not
emitted at all. A reconnect inside a bucket is what the condition leaves out. -/
theorem emits_whole_bars {listeningSinceMs : I64} (started : Started listeningSinceMs start)
    (run : Run Acts start acts last) (opens : OpenWhole acts)
    (fits : ∀ act ∈ acts, act.CountFits) : WholeBars listeningSinceMs start acts := by
  -- every call stands between a run before it and its own step
  have around : ∀ earlier act later, acts = earlier ++ act :: later → ∃ before after,
      Run Acts start earlier before ∧ Acts before act after ∧ act.OpensWhole earlier ∧
        OpenWhole earlier ∧ (∀ act' ∈ earlier ++ [act], act'.CountFits) := by
    intro earlier act later whole
    obtain ⟨before, prior, rest⟩ := Run.split (whole ▸ run)
    obtain ⟨after, acted, -⟩ := rest.head
    refine ⟨before, after, prior, acted, opens earlier act later whole, ?_, ?_⟩
    · intro earlier' act' later' split
      exact opens earlier' act' (later' ++ act :: later) (by rw [whole, split]; simp)
    · intro act' member
      refine fits act' ?_
      rw [whole]
      exact (List.Sublist.append_left (List.singleton_sublist.mpr List.mem_cons_self) _).subset
        member
  have emitted := emitting started.placed run opens.ahead
  constructor
  case folds =>
    intro earlier act later whole bar member
    obtain ⟨before, after, prior, acted, opensNow, opensBefore, fitsNow⟩ :=
      around earlier act later whole
    have emittedBefore := emitting started.placed prior opensBefore.ahead
    have state := gathering started prior opensBefore fun act' inside =>
      fitsNow act' (List.mem_append_left _ inside)
    obtain ⟨-, made⟩ := acted.gathered emittedBefore.placed
      (emittedBefore.interval.symm ▸ state.gathered) opensNow
      (fitsNow act (List.mem_append_right _ (List.mem_singleton_self act)))
    rw [emittedBefore.interval] at made
    exact made bar member
  case listened =>
    intro bar member
    obtain ⟨newest, reached, less⟩ := emitted.below bar member
    have inRange := less.le.trans (emitted.placed.newest newest reached).2.1
    have whole := emitted.whole bar member
    cases started with
    | new => exact le_of_firstWholeBucket_le whole inRange
    | resume => exact le_of_firstWholeBucket_le whole inRange
  case again =>
    intro earlier interruption later whole againMs same bar member
    obtain ⟨act, inside, among⟩ := List.mem_flatMap.mp member
    obtain ⟨between, rest, rfl⟩ := List.append_of_mem inside
    obtain ⟨before, after, prior, acted, opensNow, opensBefore, fitsNow⟩ :=
      around (earlier ++ interruption :: between) act rest (by rw [whole]; simp)
    have emittedBefore := emitting started.placed prior opensBefore.ahead
    have state := gathering started prior opensBefore fun act' inside =>
      fitsNow act' (List.mem_append_left _ inside)
    obtain ⟨current, running, above⟩ :=
      (acted.moved emittedBefore.placed opensNow.ahead).above bar among
    exact (state.behind.again interruption (by simp) againMs same current running).trans above
  case absent => exact (gathering started run opens fits).absent

/-! ## An interruption inside a bucket -/

/-- A trade, an interruption of a second, and two trades more. -/
def tradesAround (second later : ℤ) : List (Call ℤ) :=
  [.push (tradeAt 1 100), .feedInterrupted (.saturate 2000), .push (tradeAt second 90),
    .push (tradeAt later 95)]

/-- Two trades in the two minutes after the interruption make whole bars. -/
theorem emits_whole_bars_around : WholeBars (.saturate 0) (.new oneMinute (.saturate 0))
    (actsOf (.new oneMinute (.saturate 0)) (tradesAround 64 130)).1 :=
  emits_whole_bars (.new oneMinute) (run_actsOf _ _) (by decide +kernel) (by decide +kernel)

/-- **After a reconnect inside a bucket, a partial bar is emitted for it.** -/
theorem reconnect_emits_partial_bar : ∃ acts last,
    Run Acts (.new oneMinute (.saturate 0) : LocalAggregator ℤ) acts last ∧
      ¬ WholeBars (.saturate 0) (.new oneMinute (.saturate 0)) acts :=
  ⟨_, _, run_actsOf _ (tradesAround 4 60), fun whole => absurd whole.absent (by decide +kernel)⟩

end Oppen.Candles
