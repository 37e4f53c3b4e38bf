import Mathlib.Algebra.Order.Group.Multiset
import Mathlib.Tactic.Abel
import Oppen.Candles.AggregatorRuns

/-! # Where the trades end up

Every trade that is pushed is in one emitted bar, or in the bar that is forming, or in a bar that
an interruption discarded, or it is counted as dropped. Together with the order of the bars this
is what holds of a run in which no clock that lags opens a bucket below the newest one; such a
clock makes the aggregator emit a bucket twice.
-/

namespace Oppen.Candles

open Foundation LocalAggregator

variable {Decimal : Type}

/-! ## Tallies -/

def Call.trade : Call Decimal → Option (Trade Decimal)
  | push trade => some trade
  | _ => none

/-- The bar that an interruption discards. -/
def Act.discarded (act : Act Decimal) : Option (Bar Decimal) :=
  match act.call with
  | .feedInterrupted _ => act.before.forming
  | _ => none

/-- The trades of some calls. -/
def pushedBy (acts : List (Act Decimal)) : List (Trade Decimal) :=
  acts.filterMap fun act => act.call.trade

/-- The bars that some calls discarded. -/
def discardedBy (acts : List (Act Decimal)) : List (Bar Decimal) := acts.filterMap Act.discarded

/-- One more act pushes its trade last. -/
theorem pushedBy_concat (acts : List (Act Decimal)) (act : Act Decimal) :
    pushedBy (acts ++ [act]) = pushedBy acts ++ act.call.trade.toList := by
  rw [pushedBy, List.filterMap_append]
  cases same : act.call.trade <;> simp [pushedBy, same]

/-- One more act discards its trade last, if it does. -/
theorem discardedBy_concat (acts : List (Act Decimal)) (act : Act Decimal) :
    discardedBy (acts ++ [act]) = discardedBy acts ++ act.discarded.toList := by
  rw [discardedBy, List.filterMap_append]
  cases same : act.discarded <;> simp [discardedBy, same]

/-- Where trades are. -/
structure Tally (Decimal : Type) where
  /-- The trades of each emitted bar. -/
  closed : List (List (Trade Decimal))
  /-- The trades of the bar in progress. -/
  forming : List (Trade Decimal)
  /-- The trades of each bar that was discarded. -/
  discarded : List (List (Trade Decimal))
  late : List (Trade Decimal)
  beforeHistory : List (Trade Decimal)
  outOfRange : List (Trade Decimal)

/-- All of them, each as often as it is there. -/
def Tally.all (tally : Tally Decimal) : Multiset (Trade Decimal) :=
  (tally.closed.flatten : Multiset (Trade Decimal)) + tally.forming + tally.discarded.flatten +
    tally.late + tally.beforeHistory + tally.outOfRange

/-- A push does not overflow the count of the bar in progress. -/
def Act.CountFits (act : Act Decimal) : Prop :=
  ∀ trade ∈ act.call.trade, act.before.Admits trade → ∀ bar ∈ act.before.forming,
    bar.openTimeMs = act.before.interval.bucketStartMs trade.timeMs →
      bar.trades.toNat + 1 < 2 ^ 32

instance (act : Act Decimal) : Decidable act.CountFits :=
  inferInstanceAs (Decidable (∀ trade ∈ _, _ → ∀ bar ∈ _, _ → _ < _))

variable [LinearOrder Decimal] [AddCommMonoid Decimal] {before advanced after start last :
  LocalAggregator Decimal} {target : I64} {emitted : List (Bar Decimal)} {act : Act Decimal}
  {acts : List (Act Decimal)} {tally : Tally Decimal} {trades : List (Trade Decimal)}

/-- A tally of the pushed trades by the bars and by the counters. -/
structure Tally.Accounts (start : LocalAggregator Decimal) (acts : List (Act Decimal))
    (last : LocalAggregator Decimal) (tally : Tally Decimal) : Prop where
  all : tally.all = pushedBy acts
  closed : List.Forall₂ Bar.MadeOf tally.closed (emittedBy acts)
  forming : Forming tally.forming last.forming
  discarded : List.Forall₂ Bar.FoldOf tally.discarded (discardedBy acts)
  late : last.late = start.late + tally.late.length
  beforeHistory : last.beforeHistory = start.beforeHistory + tally.beforeHistory.length
  outOfRange : last.outOfRange = start.outOfRange + tally.outOfRange.length

/-! ## One step -/

/-- The trades of a forming bar are those of one bar, or none. -/
theorem Forming.toList {bar : Option (Bar Decimal)} (forming : Forming trades bar) :
    ∃ closed, List.Forall₂ Bar.FoldOf closed bar.toList ∧ closed.flatten = trades := by
  cases bar with
  | none =>
      obtain rfl : trades = [] := forming
      exact ⟨[], .nil, rfl⟩
  | some bar => exact ⟨[trades], .cons forming .nil, List.flatten_singleton⟩

/-- The trades in progress are in the bar that is left, or still in progress. -/
theorem Advances.tallied (advances : Advances before target advanced emitted)
    (forming : Forming trades before.forming) : ∃ closed rest,
      List.Forall₂ Bar.MadeOf closed emitted ∧ Forming rest advanced.forming ∧
        closed.flatten ++ rest = trades := by
  cases advances with
  | enters idle => exact ⟨[], trades, .nil, forming, rfl⟩
  | stays running reached => exact ⟨[], trades, .nil, forming, rfl⟩
  | @leaves current running passed slots price lastClose skippedFills ascending within apart =>
      obtain ⟨closed, made, whole⟩ := forming.toList
      refine ⟨closed ++ slots.map fun _ => [], [], ?_, rfl, ?_⟩
      · refine List.rel_append (made.imp fun _ _ fold => .traded fold) ?_
        rw [List.forall₂_map_left_iff, List.forall₂_map_right_iff, List.forall₂_same]
        exact fun slot _ => .flat slot _ price
      · have none : (slots.map fun _ => ([] : List (Trade Decimal))).flatten = [] :=
          List.flatten_eq_nil_iff.mpr fun _ member => by
            obtain ⟨-, -, rfl⟩ := List.mem_map.mp member
            rfl
        rw [List.flatten_append, none, List.append_nil, List.append_nil, whole]

omit [LinearOrder Decimal] in
/-- Advancing counts nothing as discarded. -/
theorem Advances.counters (advances : Advances before target advanced emitted) :
    advanced.late = before.late ∧ advanced.beforeHistory = before.beforeHistory ∧
      advanced.outOfRange = before.outOfRange := by
  cases advances <;> exact ⟨rfl, rfl, rfl⟩

omit [LinearOrder Decimal] in
/-- A bar in progress after the advance was in progress before. -/
theorem Advances.forming_subset (advances : Advances before target advanced emitted)
    {bar : Bar Decimal} (forming : bar ∈ advanced.forming) : bar ∈ before.forming := by
  cases advances with
  | enters idle => exact forming
  | stays running reached => exact forming
  | leaves running passed => exact absurd forming (Option.not_mem_none _)

/-- A trade that is folded in is one of the forming bar's trades. -/
theorem Forming.fold {trade : Trade Decimal} (forming : Forming trades advanced.forming)
    (fits : ∀ bar ∈ advanced.forming, bar.trades.toNat + 1 < 2 ^ 32) :
    Forming (trades ++ [trade]) (advanced.fold trade).forming := by
  change Bar.FoldOf _ _
  cases same : advanced.forming with
  | none =>
      rw [same] at forming
      obtain rfl : trades = [] := forming
      exact Bar.foldOf_singleton _ _ trade
  | some bar =>
      rw [same] at forming
      exact Bar.FoldOf.traded forming (fits bar same) trade

omit [LinearOrder Decimal] in
/-- The bar that a push adds to has the bucket of the trade. -/
theorem Advances.fits {trade : Trade Decimal}
    (advances : Advances before (before.interval.bucketStartMs trade.timeMs) advanced emitted)
    (placed : Placed before) (admits : before.Admits trade)
    (fits : ∀ bar ∈ before.forming, bar.openTimeMs = before.interval.bucketStartMs trade.timeMs →
      bar.trades.toNat + 1 < 2 ^ 32) :
    ∀ bar ∈ advanced.forming, bar.trades.toNat + 1 < 2 ^ 32 := by
  intro bar forming
  obtain ⟨aligned, whole, below⟩ :=
    before.interval.bucketStartMs_of_le placed.aligned admits.whole
  have moved := advances.moved placed aligned whole (below.trans admits.inRange.2)
    fun _ => admits.onTime
  have bucket := advances.bucket placed admits.onTime
  have isOpen := (moved.placed.forming bar forming).symm.trans bucket
  exact fits bar (advances.forming_subset forming) (Option.some.inj isOpen)

/-- After one more act every trade still has its place in the tally. -/
theorem Acts.accounts (acted : Acts before act after) (placed : Placed before)
    (fits : act.CountFits) (accounts : tally.Accounts start acts before) :
    ∃ tally : Tally Decimal, tally.Accounts start (acts ++ [act]) after := by
  have does := acted.does
  obtain ⟨before', call, emitted⟩ := act
  obtain rfl := acted.origin
  dsimp only at does
  have pushed : ∀ trade emitted, ((pushedBy (acts ++ [⟨before', .push trade, emitted⟩]) :
      List (Trade Decimal)) : Multiset (Trade Decimal)) =
      tally.all + ([trade] : List (Trade Decimal)) := by
    intro trade emitted
    rw [pushedBy_concat, accounts.all]
    rfl
  have quiet : ∀ {call : Call Decimal} {emitted}, call.trade = none →
      ((pushedBy (acts ++ [⟨before', call, emitted⟩]) : List (Trade Decimal)) :
        Multiset (Trade Decimal)) = tally.all := by
    intro call emitted other
    rw [pushedBy_concat, accounts.all, other, Option.toList_none, List.append_nil]
  have emittedNow : ∀ call : Call Decimal,
      List.Forall₂ Bar.MadeOf tally.closed (emittedBy (acts ++ [⟨before', call, []⟩])) := by
    intro call
    rw [emittedBy_concat, List.append_nil]
    exact accounts.closed
  have kept : ∀ trade, List.Forall₂ Bar.FoldOf tally.discarded
      (discardedBy (acts ++ [⟨before', .push trade, emitted⟩])) := by
    intro trade
    rw [discardedBy_concat]
    exact (List.append_nil _).symm ▸ accounts.discarded
  cases does with
  | @outOfRange trade outside =>
      refine ⟨{ tally with outOfRange := tally.outOfRange ++ [trade] }, ?_, emittedNow _,
        accounts.forming, kept trade, accounts.late, accounts.beforeHistory, ?_⟩
      · rw [pushed, Tally.all, Tally.all, ← Multiset.coe_add]
        abel
      · rw [List.length_append, List.length_singleton, ← add_assoc, ← accounts.outOfRange]
  | @beforeHistory trade inRange early =>
      refine ⟨{ tally with beforeHistory := tally.beforeHistory ++ [trade] }, ?_, emittedNow _,
        accounts.forming, kept trade, accounts.late, ?_, accounts.outOfRange⟩
      · rw [pushed, Tally.all, Tally.all, ← Multiset.coe_add]
        abel
      · rw [List.length_append, List.length_singleton, ← add_assoc, ← accounts.beforeHistory]
  | @late trade inRange newest reached behind =>
      refine ⟨{ tally with late := tally.late ++ [trade] }, ?_, emittedNow _,
        accounts.forming, kept trade, ?_, accounts.beforeHistory, accounts.outOfRange⟩
      · rw [pushed, Tally.all, Tally.all, ← Multiset.coe_add]
        abel
      · rw [List.length_append, List.length_singleton, ← add_assoc, ← accounts.late]
  | @folds trade admits advanced _ advances =>
      obtain ⟨closed, rest, made, forming, whole⟩ := advances.tallied accounts.forming
      obtain ⟨late, beforeHistory, outOfRange⟩ := advances.counters
      refine ⟨{ tally with
          closed := tally.closed ++ closed
          forming := rest ++ [trade] }, ?_, ?_,
        forming.fold (advances.fits placed admits (fits trade rfl admits)), kept trade,
        late.trans accounts.late, beforeHistory.trans accounts.beforeHistory,
        outOfRange.trans accounts.outOfRange⟩
      · rw [pushed, Tally.all, Tally.all, List.flatten_append, ← Multiset.coe_add,
          ← Multiset.coe_add, ← whole, ← Multiset.coe_add]
        abel
      · rw [emittedBy_concat]
        exact List.rel_append accounts.closed made
  | ignores =>
      refine ⟨tally, (quiet rfl).symm, emittedNow _, accounts.forming, ?_, accounts.late,
        accounts.beforeHistory, accounts.outOfRange⟩
      · rw [discardedBy_concat]
        exact (List.append_nil _).symm ▸ accounts.discarded
  | @closes nowMs feedLiveThroughMs accepts advanced _ advances =>
      obtain ⟨closed, rest, made, forming, whole⟩ := advances.tallied accounts.forming
      obtain ⟨late, beforeHistory, outOfRange⟩ := advances.counters
      refine ⟨{ tally with
          closed := tally.closed ++ closed
          forming := rest }, ?_, ?_, forming, ?_, late.trans accounts.late,
        beforeHistory.trans accounts.beforeHistory, outOfRange.trans accounts.outOfRange⟩
      · rw [quiet rfl, Tally.all, Tally.all, List.flatten_append, ← Multiset.coe_add, ← whole,
          ← Multiset.coe_add]
        abel
      · rw [emittedBy_concat]
        exact List.rel_append accounts.closed made
      · rw [discardedBy_concat]
        exact (List.append_nil _).symm ▸ accounts.discarded
  | @interrupts againMs =>
      obtain ⟨closed, made, whole⟩ := accounts.forming.toList
      refine ⟨{ tally with
          forming := []
          discarded := tally.discarded ++ closed }, ?_, emittedNow _, rfl, ?_, accounts.late,
        accounts.beforeHistory, accounts.outOfRange⟩
      · rw [quiet rfl, Tally.all, Tally.all, List.flatten_append, ← Multiset.coe_add, ← whole,
          Multiset.coe_nil]
        abel
      · rw [discardedBy_concat]
        exact List.rel_append accounts.discarded made

/-! ## Runs -/

/-- A run without a lagging clock and with counts that fit accounts for every trade. -/
theorem accounted (started : Placed start) (idle : start.forming = none)
    (run : Run Acts start acts last) (ahead : ∀ act ∈ acts, act.Ahead)
    (fits : ∀ act ∈ acts, act.CountFits) : ∃ tally : Tally Decimal,
      tally.Accounts start acts last := by
  revert ahead fits
  refine Run.history (fun seen state => (∀ act ∈ seen, act.Ahead) →
    (∀ act ∈ seen, act.CountFits) → ∃ tally : Tally Decimal, tally.Accounts start seen state)
    (fun _ _ => ?_) (fun seen before act after prior earlier acted ahead fits => ?_) run
  · refine ⟨⟨[], [], [], [], [], []⟩, rfl, .nil, ?_, .nil, rfl, rfl, rfl⟩
    rw [idle]
    exact rfl
  · have ahead' := fun act member => ahead act (List.mem_append_left [_] member)
    obtain ⟨tally, accounts⟩ :=
      earlier ahead' fun act member => fits act (List.mem_append_left _ member)
    exact acted.accounts (emitting started prior ahead').placed
      (fits act (List.mem_append_right _ (List.mem_singleton_self act))) accounts

/-- Each bucket is emitted at most once, in ascending order, and each trade is in one place. -/
structure EmitsOnce (start : LocalAggregator Decimal) (acts : List (Act Decimal))
    (last : LocalAggregator Decimal) : Prop where
  ascending : (emittedBy acts).Pairwise fun bar next => bar.openTimeMs < next.openTimeMs
  multiples : ∀ bar ∈ emittedBy acts, start.interval.millis ∣ (bar.openTimeMs : ℤ)
  counted : ∃ tally : Tally Decimal, tally.Accounts start acts last

omit [LinearOrder Decimal] [AddCommMonoid Decimal] in
/-- A started aggregator has no bar under way. -/
theorem LocalAggregator.Started.idle {listeningSinceMs : I64}
    (started : Started listeningSinceMs start) :
    start.forming = none := by
  cases started <;> rfl

/-- **In a run without a clock that lags, and without a bar of more trades than a count holds, each
bucket is emitted at most once, and no trade is lost or counted twice.** The first condition is on
the clocks the calls are given and the second on the trades of one bar; neither is checked by the
aggregator. -/
theorem emits_once {listeningSinceMs : I64} (started : Started listeningSinceMs start)
    (run : Run Acts start acts last) (ahead : ∀ act ∈ acts, act.Ahead)
    (fits : ∀ act ∈ acts, act.CountFits) : EmitsOnce start acts last :=
  let emitted := emitting started.placed run ahead
  ⟨emitted.ascending, emitted.aligned, accounted started.placed started.idle run ahead fits⟩

/-! ## A clock behind the newest bucket -/

/-- A trade of one unit at a second of the axis. -/
def tradeAt (second price : ℤ) : Trade ℤ := ⟨.saturate (second * 1000), price, 1⟩

/-- Two trades, an interruption, and two readings of a clock. -/
def clockReadings (second later : ℤ) : List (Call ℤ) :=
  [.push (tradeAt 0 100), .push (tradeAt 60 101), .feedInterrupted (.saturate 120000),
    .closeThrough (.saturate (second * 1000)) (.saturate (second * 1000)),
    .closeThrough (.saturate (later * 1000)) (.saturate (later * 1000))]

/-- A clock that reads two minutes and then four makes the aggregator emit each bucket once. -/
theorem emits_once_of_clock : EmitsOnce (.new oneMinute (.saturate 0))
    (actsOf (.new oneMinute (.saturate 0)) (clockReadings 120 240)).1
    (actsOf (.new oneMinute (.saturate 0)) (clockReadings 120 240)).2 :=
  emits_once (.new oneMinute) (run_actsOf _ _) (by decide +kernel) (by decide +kernel)

/-- **A clock that lags makes the aggregator emit a bucket again, as a quiet one.** -/
theorem lagging_clock_emits_twice : ∃ acts last,
    Run Acts (.new oneMinute (.saturate 0) : LocalAggregator ℤ) acts last ∧
      ¬ EmitsOnce (.new oneMinute (.saturate 0)) acts last :=
  ⟨_, _, run_actsOf _ (clockReadings 0 120), fun once =>
    absurd once.ascending (by decide +kernel)⟩

end Oppen.Candles
