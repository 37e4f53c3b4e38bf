import Oppen.Chart.Changes
import Oppen.Chart.Tape

/-! # Projections over time

The calls of a chart make changes only, so its revisions do not go back and tell what its
projections show apart. Within a projection the buckets that are over come first, and a bucket that
was shown as over stays so until the floor is above it.
-/

namespace Oppen.Chart

open Foundation Oppen.Candles Oppen.Ledger Oppen.Reconcile Relation

/-! ## Trades -/

section Rows

variable {Decimal : Type} {chart : LiveChart Decimal}

/-- A time that passes the check is the raw one. -/
theorem coe_of_checkedTimeMs {raw : ℕ} {time : I64} (checked : checkedTimeMs raw = some time) :
    (time : ℤ) = raw := by
  unfold checkedTimeMs at checked
  split_ifs at checked
  exact Option.some.inj checked ▸ rfl

/-- The bucket of a checked time starts a slot. -/
theorem slot_bucket (interval : Interval) {raw : ℕ} {time : I64}
    (checked : checkedTimeMs raw = some time) : Slot interval (interval.bucketStartMs time) := by
  have zero : interval.millis ∣ ((minTimeMs : I64) : ℤ) := dvd_zero _
  have start : minTimeMs ≤ time := by
    rw [← Subtype.coe_le_coe, coe_of_checkedTimeMs checked]
    exact Int.natCast_nonneg _
  obtain ⟨aligned, low, _⟩ := interval.bucketStartMs_of_le zero start
  exact ⟨aligned, Subtype.coe_le_coe.mpr low⟩

/-- A print does not move where its bar opens. -/
theorem TapeBar.openTimeMs_print [Max Decimal] [Min Decimal] [BEq Decimal]
    (trade : WsTrade Decimal) (volume : Decimal) (receivedAtMs : ℕ) (entry : TapeBar Decimal) :
    (entry.print trade volume receivedAtMs).bar.openTimeMs = entry.bar.openTimeMs := by
  have first : (entry.printFirst trade).bar.openTimeMs = entry.bar.openTimeMs := by
    unfold printFirst
    dsimp only
    split_ifs <;> rfl
  have last (entry : TapeBar Decimal) :
      (entry.printLast trade).bar.openTimeMs = entry.bar.openTimeMs := by
    unfold printLast
    dsimp only
    split_ifs <;> rfl
  exact (last _).trans first

/-- A chart that goes on, or one that the call leaves frozen. -/
def Row (chart : LiveChart Decimal) : Except (LiveChart Decimal) (LiveChart Decimal) → Prop
  | .ok next => Changes chart next ∧ next.frozen = false
  | .error next => Changes chart next

/-- Freezing a running chart for good is a row of the table of changes. -/
theorem row_freeze (running : chart.frozen = false) {status : TapeStatus}
    (final : status = .capacityExceeded ∨ status = .invalidObservation) (detail : String) :
    Row chart (.error (chart.freeze status detail)) :=
  (Change.freezes running (pruned_self chart) final chart.identities detail).all

end Rows

section Batches

variable {Decimal : Type} [LE Decimal] [DecidableLE Decimal] [Max Decimal] [Min Decimal]
  [BEq Decimal] [Zero Decimal] (lib : Numbers Decimal) {chart : LiveChart Decimal}
  (receivedAtMs : ℕ)

/-- What a row changes. -/
theorem row_observeTrade (running : chart.frozen = false) (trade : WsTrade Decimal) :
    Row chart (chart.observeTrade lib receivedAtMs trade) := by
  unfold LiveChart.observeTrade
  cases checked : checkedTimeMs trade.time with
  | none => exact row_freeze running (.inr rfl) _
  | some time =>
      dsimp only
      split
      case isTrue => exact row_freeze running (.inr rfl) _
      split
      case isTrue => exact ⟨(Change.notes chart.historyError _ chart.received).all, running⟩
      split
      case isTrue => exact ⟨.rfl, running⟩
      cases chart.identities.get trade.key with
      | some prior =>
          dsimp only
          split_ifs
          · exact row_freeze running (.inr rfl) _
          · exact ⟨(Change.notes chart.historyError chart.observationError _).all, running⟩
      | none =>
          obtain ⟨floor, venue, tape, identities, raised, pruned⟩ :=
            advanceFloor_pruned (chart.interval.bucketStartMs time) chart
          have slot := slot_bucket chart.interval checked
          dsimp only
          rw [raised]
          split
          case isTrue => exact (Change.freezes running pruned (.inl rfl) identities _).all
          cases lib.checkedAdd _ trade.sz with
          | none => exact (Change.freezes running pruned (.inr rfl) identities _).all
          | some volume =>
              refine ⟨(Change.trade running pruned slot (fun opens => ?_) _ _ _ _).all,
                not_frozen running (.inl rfl)⟩
              rw [TapeBar.openTimeMs_print]
              cases here : tape.get (chart.interval.bucketStartMs time) with
              | none => rfl
              | some held => exact opens held here

/-- What the rows of a batch change. -/
theorem changes_rows (rows : List (WsTrade Decimal)) (running : chart.frozen = false) :
    Row chart (rows.foldlM (LiveChart.observeTrade lib receivedAtMs) chart) := by
  induction rows generalizing chart with
  | nil => exact ⟨.rfl, running⟩
  | cons row rows ih =>
      have first := row_observeTrade lib receivedAtMs running row
      rw [List.foldlM_cons]
      cases observed : chart.observeTrade lib receivedAtMs row with
      | error frozen =>
          rw [observed] at first
          exact first
      | ok middle =>
          rw [observed] at first
          obtain ⟨changes, running⟩ := first
          have rest := ih running
          change Row chart (rows.foldlM (LiveChart.observeTrade lib receivedAtMs) middle)
          cases ended : rows.foldlM (LiveChart.observeTrade lib receivedAtMs) middle with
          | error frozen =>
              rw [ended] at rest
              exact changes.trans rest
          | ok next =>
              rw [ended] at rest
              exact ⟨changes.trans rest.1, rest.2⟩

/-- However a batch of trades is accepted, refused or frozen on, the chart moves by changes
alone. -/
theorem changes_observeTrades (trades : List (WsTrade Decimal)) :
    Changes chart (chart.observeTrades lib trades receivedAtMs) := by
  unfold LiveChart.observeTrades
  split_ifs with frozen
  · exact .rfl
  · have running : chart.frozen = false := Bool.not_eq_true _ ▸ frozen
    exact (Change.freezes running (pruned_self chart) (.inl rfl) chart.identities _).all
  · have running : chart.frozen = false := Bool.not_eq_true _ ▸ frozen
    have rows := changes_rows lib receivedAtMs (sortBy WsTrade.key trades) running
    cases ended : (sortBy WsTrade.key trades).foldlM
        (LiveChart.observeTrade lib receivedAtMs) chart with
    | error next =>
        rw [ended] at rows
        exact rows
    | ok next =>
        rw [ended] at rows
        exact rows.1

end Batches

/-! ## Candles and history -/

section Answers

variable {Decimal : Type} {chart : LiveChart Decimal} (receivedAtMs : ℕ)

/-- A candle that reads as a bar opens a slot. -/
theorem slot_barOfCandle {interval : Interval} {candle : Candle Decimal} {bar : Bar Decimal}
    (read : LiveChart.barOfCandle interval candle = .ok bar) : Slot interval bar.openTimeMs := by
  unfold LiveChart.barOfCandle at read
  split at read
  · cases read
  split at read
  · cases read
  · cases read
  · rename_i openTimeMs closeTimeMs start _
    split_ifs at read with misaligned wide
    injection read with read
    subst read
    refine ⟨Int.dvd_of_emod_eq_zero (not_not.mp misaligned), ?_⟩
    rw [coe_of_checkedTimeMs start]
    exact Int.natCast_nonneg _

theorem refilled_self (interval : Interval) (venue : SortedMap I64 (VenueBar Decimal)) :
    Refilled interval venue venue :=
  ⟨fun found => ⟨_, found, fun _ => rfl⟩, .inl⟩

/-- What is refilled in two steps is refilled in one. -/
theorem Refilled.trans {interval : Interval} {venue middle next : SortedMap I64 (VenueBar Decimal)}
    (first : Refilled interval venue middle) (second : Refilled interval middle next) :
    Refilled interval venue next where
  kept found := by
    obtain ⟨held, here, same⟩ := first.kept found
    obtain ⟨held', there, same'⟩ := second.kept here
    exact ⟨held', there, fun ws => (same' ((same ws).symm ▸ ws)).trans (same ws)⟩
  slot found := by
    rcases second.slot found with older | new
    · exact first.slot older
    · exact .inr new

/-- A bar of a history answer takes a free place, or that of an older answer. -/
theorem refilled_takeHistory {bar : Bar Decimal} (slot : Slot chart.interval bar.openTimeMs) :
    ∃ venue, chart.takeHistory receivedAtMs bar = { chart with venue } ∧
      Refilled chart.interval chart.venue venue := by
  unfold LiveChart.takeHistory
  split_ifs with kept
  · exact ⟨chart.venue, rfl, refilled_self _ _⟩
  · refine ⟨_, rfl, fun {time held} found => ?_, fun {time held} found => ?_⟩
    · rw [SortedMap.get_insert]
      split_ifs with same
      · refine ⟨_, rfl, fun ws => absurd (.inr ?_) kept⟩
        rw [same, found]
        exact ws
      · exact ⟨held, found, fun _ => rfl⟩
    · rw [SortedMap.get_insert] at found
      split_ifs at found with same
      · obtain rfl := Option.some.inj found
        exact .inr ⟨same, same ▸ slot⟩
      · exact .inl found

/-- Taking history refills the venue's bars and touches nothing else. -/
theorem refilled_foldl {bars : List (Bar Decimal)}
    (slots : ∀ bar ∈ bars, Slot chart.interval bar.openTimeMs) :
    ∃ venue, bars.foldl (LiveChart.takeHistory receivedAtMs) chart = { chart with venue } ∧
      Refilled chart.interval chart.venue venue := by
  induction bars generalizing chart with
  | nil => exact ⟨chart.venue, rfl, refilled_self _ _⟩
  | cons bar bars ih =>
      obtain ⟨middle, taken, first⟩ := refilled_takeHistory receivedAtMs
        (slots bar List.mem_cons_self)
      rw [List.foldl_cons, taken]
      obtain ⟨venue, rest, second⟩ := @ih { chart with venue := middle } fun other member =>
        slots other (List.mem_cons_of_mem _ member)
      exact ⟨venue, rest, first.trans second⟩

/-- A live candle changes the chart of its interval. -/
theorem changes_takeCandle {bar : Bar Decimal} (slot : Slot chart.interval bar.openTimeMs) :
    Changes chart (chart.takeCandle receivedAtMs bar) ∧
      (chart.takeCandle receivedAtMs bar).interval = chart.interval := by
  unfold LiveChart.takeCandle
  split
  · exact ⟨.rfl, rfl⟩
  obtain ⟨floor, venue, tape, identities, raised, pruned⟩ :=
    advanceFloor_pruned bar.openTimeMs chart
  dsimp only
  rw [raised]
  exact ⟨(Change.candle pruned slot identities receivedAtMs _).all, rfl⟩

/-- Taking live candles moves the chart by changes alone. -/
theorem changes_candles {bars : List (Bar Decimal)}
    (slots : ∀ bar ∈ bars, Slot chart.interval bar.openTimeMs) :
    Changes chart (bars.foldl (LiveChart.takeCandle receivedAtMs) chart) := by
  induction bars generalizing chart with
  | nil => exact .rfl
  | cons bar bars ih =>
      obtain ⟨first, same⟩ := changes_takeCandle receivedAtMs
        (slots bar List.mem_cons_self)
      refine first.trans (ih fun other member => ?_)
      rw [same]
      exact slots other (List.mem_cons_of_mem _ member)

variable [LE Decimal] [DecidableLE Decimal] [LT Decimal] [DecidableLT Decimal] [Zero Decimal]

/-- Every bar of a valid answer opens a slot. -/
theorem slot_validateCandles {candles : List (Candle Decimal)} {bars : List (Bar Decimal)}
    (valid : chart.validateCandles candles = .ok bars) {bar : Bar Decimal} (member : bar ∈ bars) :
    Slot chart.interval bar.openTimeMs := by
  unfold LiveChart.validateCandles at valid
  split at valid
  · cases valid
  split at valid
  · cases valid
  cases read : LiveChart.barsFromCandles chart.interval candles with
  | error error =>
      rw [read] at valid
      cases valid
  | ok found =>
      rw [read] at valid
      dsimp only at valid
      split_ifs at valid
      injection valid with valid
      subst valid
      obtain ⟨candle, _, here⟩ := forall₂_left_of_right (mapM_ok_iff.mp read) member
      exact slot_barOfCandle here

/-- Observing a candle, or refusing it, moves the chart by changes alone. -/
theorem changes_observeCandle (candle : Candle Decimal) :
    Changes chart (chart.observeCandle candle receivedAtMs) := by
  unfold LiveChart.observeCandle
  split
  · exact (Change.notes chart.historyError _ chart.received).all
  cases valid : chart.validateCandles [candle] with
  | error error => exact (Change.notes chart.historyError _ chart.received).all
  | ok bars =>
      exact changes_candles receivedAtMs fun bar member => slot_validateCandles valid member

/-- An answer raises the floor at most, and leaves the places of live candles alone. -/
theorem changes_finishHistory (ticket : HistoryTicket)
    (outcome : Except String (HistorySnapshot Decimal)) :
    let answered := (chart.finishHistory ticket outcome receivedAtMs).2
    Changes chart answered ∧ ∃ venue tape, Pruned chart answered.floor venue tape ∧
      Refilled chart.interval venue answered.venue := by
  have noted (historyError : Option String) :
      Changes chart { chart with historyError }.changed ∧ ∃ venue tape,
        Pruned chart chart.floor venue tape ∧ Refilled chart.interval venue chart.venue :=
    ⟨(Change.notes historyError chart.observationError chart.received).all, _, _,
      pruned_self chart, refilled_self _ _⟩
  unfold LiveChart.finishHistory
  split
  · exact ⟨.rfl, _, _, pruned_self chart, refilled_self _ _⟩
  cases outcome with
  | error error => exact noted _
  | ok snapshot =>
      dsimp only
      cases valid : chart.validateCandles snapshot.candles with
      | error error => exact noted _
      | ok bars =>
          dsimp only
          split
          · exact noted _
          have raise : ∃ floor venue tape identities,
              (bars.getLast?.elim chart fun last => chart.advanceFloor last.openTimeMs) =
                { chart with floor, venue, tape, identities } ∧ Pruned chart floor venue tape := by
            cases bars.getLast? with
            | none => exact ⟨_, _, _, _, rfl, pruned_self chart⟩
            | some last => exact advanceFloor_pruned last.openTimeMs chart
          obtain ⟨floor, venue, tape, identities, raised, pruned⟩ := raise
          obtain ⟨refilled, filled, refills⟩ := @refilled_foldl _
            { chart with floor, venue, tape, identities } receivedAtMs bars fun bar member =>
              slot_validateCandles valid member
          rw [raised, filled]
          by_cases empty : snapshot.candles = []
          · rw [if_pos empty]
            exact ⟨(Change.history pruned refills identities _ _ chart.received).all, _, _, pruned,
              refills⟩
          · rw [if_neg empty]
            exact ⟨(Change.history pruned refills identities _ _ _).all, _, _, pruned, refills⟩

/-- A live candle keeps its place when a history answer comes in. -/
theorem venue_finishHistory {time : I64} {held : VenueBar Decimal} (ticket : HistoryTicket)
    (outcome : Except String (HistorySnapshot Decimal)) (atMs : ℕ)
    (live : chart.venue.get time = some held) (ws : held.ws = true)
    (above : (chart.finishHistory ticket outcome atMs).2.floor ≤ time) :
    (chart.finishHistory ticket outcome atMs).2.venue.get time = some held := by
  obtain ⟨_, venue, tape, pruned, refills⟩ :=
    @changes_finishHistory _ chart atMs _ _ _ _ _ ticket outcome
  obtain ⟨held', here, same⟩ := refills.kept ((pruned.venueAbove above).trans live)
  rw [here, same ws]

/-- An answer to another chart, or to another request, changes nothing. -/
theorem finishHistory_superseded {ticket : HistoryTicket}
    (stale : ticket.owner ≠ chart.owner ∨ ticket.request ≠ chart.request)
    (outcome : Except String (HistorySnapshot Decimal)) (atMs : ℕ) :
    chart.finishHistory ticket outcome atMs = (.error .superseded, chart) :=
  if_pos stale

end Answers

/-! ## What is shown -/

section Shown

variable {Decimal : Type} {lib : Numbers Decimal} {chart next : LiveChart Decimal} {time : I64}
  {bar : ObservedBar} {ms : ℕ}

/-- A bar that is shown is the venue's where it has one, and else the tape's. -/
theorem bars_get (time : I64) : (chart.bars lib).get time =
    ((chart.venue.get time).map fun venue =>
      projectBar lib .venue false false venue.received venue.bar).or
    ((chart.tape.get time).map fun tape =>
      projectBar lib .observedTrades true (tape.firstAmbiguous || tape.lastAmbiguous) tape.received
        tape.bar) := by
  rw [LiveChart.bars, SortedMap.get_insertAll, SortedMap.get_mapValues, SortedMap.get_mapValues]

/-- A bar is shown under the start of its bucket. -/
theorem slot_bars (sound : Sound chart) (found : (chart.bars lib).get time = some bar) :
    bar.timeMs = time ∧ Slot chart.interval time := by
  rw [bars_get] at found
  cases live : chart.venue.get time with
  | some venue =>
      rw [live] at found
      obtain rfl := Option.some.inj found
      exact sound.venue live
  | none =>
      rw [live] at found
      obtain ⟨tape, observed, rfl⟩ := Option.map_eq_some_iff.mp found
      exact sound.tape observed

/-- What is shown is lost to the floor only. -/
theorem Advances.bars (advances : Advances chart next)
    (found : (chart.bars lib).get time = some bar)
    (above : next.floor ≤ time) : ∃ held, (next.bars lib).get time = some held := by
  rw [bars_get] at found
  rw [bars_get]
  cases live : chart.venue.get time with
  | some venue =>
      obtain ⟨held, here, _⟩ := advances.venue live above
      rw [here]
      exact ⟨_, rfl⟩
  | none =>
      rw [live] at found
      obtain ⟨tape, observed, _⟩ := Option.map_eq_some_iff.mp found
      have kept := advances.tape (observed ▸ rfl : (chart.tape.get time).isSome = true) above
      obtain ⟨held, here⟩ := Option.isSome_iff_exists.mp kept
      rw [here]
      cases next.venue.get time with
      | none => exact ⟨_, rfl⟩
      | some venue => exact ⟨_, rfl⟩

/-- Where a bucket stands against the clock is told by its number. -/
theorem isClosed_iff (slot : Slot chart.interval time) (ms : ℕ) :
    (chart.isClosed ms time = true ↔
      time.1.toNat / chart.interval.millis.toNat < ms / chart.interval.millis.toNat) ∧
    (chart.isForming ms time = true ↔
      time.1.toNat / chart.interval.millis.toNat = ms / chart.interval.millis.toNat) := by
  have width := chart.interval.millis_pos
  have narrow := chart.interval.millis_le
  have bound := time.2.2
  have positive : 0 < chart.interval.millis.toNat := by omega
  have divides : chart.interval.millis.toNat ∣ time.1.toNat := by
    rw [← Int.natCast_dvd_natCast, Int.toNat_of_nonneg width.le, Int.toNat_of_nonneg slot.positive]
    exact slot.aligned
  have sum : saturatingAdd64 time.1.toNat chart.interval.millis.toNat =
      time.1.toNat + chart.interval.millis.toNat := by
    rw [saturatingAdd64]
    omega
  obtain ⟨number, start⟩ := divides
  have closed : chart.isClosed ms time = true ↔ number < ms / chart.interval.millis.toNat := by
    rw [LiveChart.isClosed, decide_eq_true_iff, sum, start, ← Nat.mul_succ, Nat.mul_comm,
      ← Nat.le_div_iff_mul_le positive, Nat.succ_le_iff]
  have begun : time.1.toNat ≤ ms ↔ number ≤ ms / chart.interval.millis.toNat := by
    rw [start, Nat.mul_comm, ← Nat.le_div_iff_mul_le positive]
  rw [start, Nat.mul_div_cancel_left number positive]
  refine ⟨closed, ?_⟩
  rw [LiveChart.isForming, Bool.and_eq_true, Bool.not_eq_true', ← Bool.not_eq_true, closed,
    decide_eq_true_iff, begun]
  omega

/-- What is shown of a sound chart are the bars that are kept, each found under its own time. -/
theorem mem_retain_iff (sound : Sound chart) {keep : I64 → Bool} :
    bar ∈ (((chart.bars lib).retain keep).entries).map Prod.snd ↔
      (chart.bars lib).get bar.timeMs = some bar ∧ keep bar.timeMs = true := by
  rw [List.mem_map]
  constructor
  · rintro ⟨⟨time, held⟩, member, rfl⟩
    have found := SortedMap.get_eq_some_iff.mpr member
    rw [SortedMap.get_retain] at found
    obtain ⟨kept, found⟩ := Option.ite_none_right_eq_some.mp found
    obtain ⟨rfl, _⟩ := slot_bars sound found
    exact ⟨found, kept⟩
  · rintro ⟨found, kept⟩
    refine ⟨(bar.timeMs, bar), SortedMap.get_eq_some_iff.mp ?_, rfl⟩
    rw [SortedMap.get_retain, if_pos kept]
    exact found

/-- A projection in the order of time. -/
structure Ordered (shown : ChartProjection) : Prop where
  closed : shown.closed.Pairwise fun left right => left.timeMs < right.timeMs
  forming : ∀ forming ∈ shown.forming, ∀ bar ∈ shown.closed, bar.timeMs < forming.timeMs

/-- Slots with lower numbers start earlier. -/
theorem Slot.lt_of_div_lt {interval : Interval} {left right : I64}
    (less : left.1.toNat / interval.millis.toNat < right.1.toNat / interval.millis.toNat) :
    left < right := by
  rw [← Subtype.coe_lt_coe]
  have narrower : left.1.toNat < right.1.toNat :=
    not_le.mp fun more => absurd (Nat.div_le_div_right more) (not_le.mpr less)
  omega

/-- What a sound chart shows is in order. -/
theorem ordered_shown (sound : Sound chart) (ms : ℕ) : Ordered (chart.shown lib ms) where
  closed := by
    have ascending := ((chart.bars lib).retain (chart.isClosed ms)).ascending
    refine List.pairwise_map.mpr (ascending.imp_of_mem fun {left right} here there less => ?_)
    have time : ∀ entry ∈ ((chart.bars lib).retain (chart.isClosed ms)).entries,
        entry.2.timeMs = entry.1 := by
      intro entry member
      have found := SortedMap.get_eq_some_iff.mpr (show (entry.1, entry.2) ∈ _ from member)
      rw [SortedMap.get_retain] at found
      exact (slot_bars sound (Option.ite_none_right_eq_some.mp found).2).1
    rw [time left here, time right there]
    exact less
  forming forming last bar member := by
    obtain ⟨found, closed⟩ := (mem_retain_iff sound).mp member
    obtain ⟨there, current⟩ := (mem_retain_iff sound).mp (List.mem_of_getLast? last)
    have before := (isClosed_iff (slot_bars sound found).2 ms).1.mp closed
    rw [← (isClosed_iff (slot_bars sound there).2 ms).2.mp current] at before
    exact Slot.lt_of_div_lt before

/-- Buckets that are over stay so until the floor is above them. -/
structure Settled (shown next : ChartProjection) (floor : I64) : Prop where
  closed : ∀ bar ∈ shown.closed, floor ≤ bar.timeMs →
    ∃ held ∈ next.closed, held.timeMs = bar.timeMs
  forming : ∀ bar ∈ shown.closed, ∀ forming ∈ next.forming, forming.timeMs ≠ bar.timeMs

/-- What was shown as over stays over in every chart it advances to, above the floor. -/
theorem Advances.settled (advances : Advances chart next) (sound : Sound chart)
    (sound' : Sound next) {later : ℕ} (past : ms ≤ later) :
    Settled (chart.shown lib ms) (next.shown lib later) next.floor where
  closed bar member above := by
    obtain ⟨found, closed⟩ := (mem_retain_iff sound).mp member
    have slot := (slot_bars sound found).2
    obtain ⟨held, there⟩ := advances.bars found above
    obtain ⟨same, slot'⟩ := slot_bars sound' there
    refine ⟨held, (mem_retain_iff sound').mpr ?_, same⟩
    rw [same]
    refine ⟨there, (isClosed_iff slot' later).1.mpr ?_⟩
    rw [advances.interval]
    exact ((isClosed_iff slot ms).1.mp closed).trans_le (Nat.div_le_div_right past)
  forming bar member forming last same := by
    obtain ⟨found, closed⟩ := (mem_retain_iff sound).mp member
    obtain ⟨there, current⟩ := (mem_retain_iff sound').mp (List.mem_of_getLast? last)
    have before := (isClosed_iff (slot_bars sound found).2 ms).1.mp closed
    have now := (isClosed_iff (slot_bars sound' there).2 later).2.mp current
    rw [advances.interval, same] at now
    exact absurd (before.trans_le (Nat.div_le_div_right past)) (now ▸ lt_irrefl _)

/-- Charts that are alike show the same. -/
theorem shown_alike (sound : Sound chart) (alike : Alike chart next) {later : ℕ}
    (here : chart.classificationMs = some ms) (there : next.classificationMs = some later) :
    chart.shown lib ms = next.shown lib later := by
  obtain ⟨request, classificationMs, rfl, ticks⟩ := alike
  have there : classificationMs = some later := there
  rw [here, there] at ticks
  have number : later / chart.interval.millis.toNat = ms / chart.interval.millis.toNat :=
    Option.some.inj ticks
  have closed : (chart.bars lib).retain (chart.isClosed ms) =
      (chart.bars lib).retain (chart.isClosed later) := by
    refine SortedMap.retain_congr fun found => Bool.eq_iff_iff.mpr ?_
    have slot := (slot_bars sound found).2
    rw [(isClosed_iff slot ms).1, (isClosed_iff slot later).1, number]
  have forming : (chart.bars lib).retain (chart.isForming ms) =
      (chart.bars lib).retain (chart.isForming later) := by
    refine SortedMap.retain_congr fun found => Bool.eq_iff_iff.mpr ?_
    have slot := (slot_bars sound found).2
    rw [(isClosed_iff slot ms).2, (isClosed_iff slot later).2, number]
  change chart.shown lib ms = chart.shown lib later
  rw [LiveChart.shown, LiveChart.shown, closed, forming]

/-- A chart that is opened is sound and belongs to its owner. -/
theorem sound_new {owner : ℕ} {symbol : String} {interval : Interval} {precision : Option ℕ}
    (opened : LiveChart.new owner symbol interval precision = .ok chart) :
    Sound chart ∧ chart.owner = owner := by
  rw [LiveChart.new] at opened
  split_ifs at opened
  injection opened with opened
  subst opened
  refine ⟨⟨Nat.zero_le _, ?_, ?_, fun _ => rfl⟩, rfl⟩
  all_goals
    intro openTimeMs held found
    cases found

end Shown

/-! ## Calls -/

section Calls

variable {Decimal : Type} {chart : LiveChart Decimal}

/-- An interruption moves the chart by changes alone. -/
theorem changes_interrupt (chart : LiveChart Decimal) : Changes chart chart.interrupt := by
  unfold LiveChart.interrupt
  split_ifs with frozen
  · exact .rfl
  · exact (Change.interrupts (Bool.not_eq_true _ ▸ frozen)).all

/-- A failed observation moves the chart by changes alone. -/
theorem changes_observationFailed (detail : String) :
    Changes chart (chart.observationFailed detail) := by
  unfold LiveChart.observationFailed
  by_cases failed : chart.transportError.isSome = true
  · rw [if_pos failed]
    exact .rfl
  · rw [if_neg failed]
    exact (Change.fails (Option.not_isSome_iff_eq_none.mp failed) _).all

/-- The clock that bars are classified by does not run back. -/
theorem le_classification {heldMs nowMs : ℕ} (held : chart.classificationMs = some heldMs) :
    heldMs ≤ chart.classification nowMs := by
  rw [LiveChart.classification, held]
  exact le_max_left _ _

/-- Classifying bars by a clock moves the chart by changes alone. -/
theorem changes_classify (chart : LiveChart Decimal) (nowMs : ℕ) :
    Changes chart (chart.classify nowMs) := by
  unfold LiveChart.classify
  dsimp only
  split_ifs with moved
  · exact (Change.clock (fun _ => le_classification) _).all
  · obtain ⟨ticks, rollback⟩ := not_or.mp moved
    obtain ⟨heldMs, held, same⟩ := Option.map_eq_some_iff.mp (not_not.mp ticks)
    rw [← not_not.mp rollback]
    exact (Change.tick held (le_classification held) same).all

end Calls

/-- A call of the chart. The feed, the transport, the clock and the operator all reach the chart
through one of these. -/
inductive ChartCall (Decimal : Type) where
  | observeTrades (trades : List (WsTrade Decimal)) (receivedAtMs : ℕ)
  | observeCandle (candle : Candle Decimal) (receivedAtMs : ℕ)
  | interrupt
  | observationFailed (detail : String)
  | beginHistory
  | finishHistory (ticket : HistoryTicket) (outcome : Except String (HistorySnapshot Decimal))
      (receivedAtMs : ℕ)
  | projection (nowMs : ℕ)

section Runs

variable {Decimal : Type} [LE Decimal] [DecidableLE Decimal] [LT Decimal] [DecidableLT Decimal]
  [Max Decimal] [Min Decimal] [BEq Decimal] [Zero Decimal] (lib : Numbers Decimal)
  {chart : LiveChart Decimal}

/-- The chart after a call. -/
def LiveChart.on (lib : Numbers Decimal) (chart : LiveChart Decimal) :
    ChartCall Decimal → LiveChart Decimal
  | .observeTrades trades receivedAtMs => chart.observeTrades lib trades receivedAtMs
  | .observeCandle candle receivedAtMs => chart.observeCandle candle receivedAtMs
  | .interrupt => chart.interrupt
  | .observationFailed detail => chart.observationFailed detail
  | .beginHistory => chart.beginHistory.2
  | .finishHistory ticket outcome receivedAtMs =>
      (chart.finishHistory ticket outcome receivedAtMs).2
  | .projection nowMs => (chart.projection lib nowMs).2

/-- The chart after some calls. -/
def LiveChart.after (lib : Numbers Decimal) (chart : LiveChart Decimal)
    (calls : List (ChartCall Decimal)) : LiveChart Decimal :=
  calls.foldl (LiveChart.on lib) chart

/-- **A call changes the chart by changes alone.** -/
theorem changes_on (call : ChartCall Decimal) : Changes chart (chart.on lib call) := by
  cases call with
  | observeTrades trades receivedAtMs => exact changes_observeTrades lib receivedAtMs trades
  | observeCandle candle receivedAtMs => exact changes_observeCandle receivedAtMs candle
  | interrupt => exact changes_interrupt chart
  | observationFailed detail => exact changes_observationFailed detail
  | beginHistory => exact Change.request.all
  | finishHistory ticket outcome receivedAtMs =>
      exact (changes_finishHistory receivedAtMs ticket outcome).1
  | projection nowMs => exact changes_classify chart nowMs

/-- Any calls move the chart by changes alone. -/
theorem changes_after (calls : List (ChartCall Decimal)) :
    Changes chart (chart.after lib calls) := by
  induction calls generalizing chart with
  | nil => exact .rfl
  | cons call calls ih => exact (changes_on lib call).trans ih

/-- A request that is asked again is superseded. -/
theorem request_lt_after (sound : Sound chart) {calls : List (ChartCall Decimal)}
    (again : .beginHistory ∈ calls) : chart.request < (chart.after lib calls).request := by
  obtain ⟨early, late, rfl⟩ := List.append_of_mem again
  rw [LiveChart.after, List.foldl_append, List.foldl_cons]
  obtain ⟨sound', advances, _⟩ := (changes_after lib early).forward sound
  obtain ⟨sound'', advances', _⟩ := Change.request.all.forward sound'
  have rest := ((changes_after lib late).forward sound'').2.1.request
  exact (Nat.lt_succ_of_le advances.request).trans_le rest

/-- **Projections go forward.** Over every run of calls the revision does not go back and tells
projections that differ apart, what is over stays over, live candles are not replaced by answers,
answers that are not awaited change nothing, and a failed transport stays failed. A frozen tape
takes no trade and keeps its status and marker, and loses what falls below the floor only. -/
theorem projections_forward {owner : ℕ} {symbol : String} {interval : Interval}
    {precision : Option ℕ} {start : LiveChart Decimal}
    (opened : LiveChart.new owner symbol interval precision = .ok start)
    (calls between : List (ChartCall Decimal)) (nowMs laterMs : ℕ) :
    let chart := start.after lib calls
    let shown := (chart.projection lib nowMs).1
    let last := (chart.projection lib nowMs).2.after lib between
    let next := (last.projection lib laterMs).1
    (chart.revision ≤ last.revision ∧
      ((last.projection lib laterMs).2.revision < 2 ^ 128 - 1 → shown ≠ next →
        shown.revision ≠ next.revision)) ∧
    (Ordered shown ∧ Settled shown next last.floor) ∧
    (∀ time held, chart.venue.get time = some held → held.ws = true →
      (∀ ticket outcome atMs, (chart.finishHistory ticket outcome atMs).2.floor ≤ time →
        (chart.finishHistory ticket outcome atMs).2.venue.get time = some held) ∧
      (last.floor ≤ time → ∃ held', last.venue.get time = some held' ∧ held'.ws = true)) ∧
    (∀ ticket outcome atMs, ticket.owner ≠ owner →
      chart.finishHistory ticket outcome atMs = (.error .superseded, chart)) ∧
    (∀ rest outcome atMs, .beginHistory ∈ rest →
      (chart.beginHistory.2.after lib rest).finishHistory chart.beginHistory.1 outcome atMs =
        (.error .superseded, chart.beginHistory.2.after lib rest)) ∧
    (chart.frozen = true → Frozen chart last) ∧
    ∀ error, chart.transportError = some error → last.transportError = some error := by
  intro chart shown last next
  obtain ⟨fresh, owned⟩ := sound_new opened
  obtain ⟨sound, reached, _⟩ := (changes_after lib calls).forward fresh
  obtain ⟨classified, ticked, counted⟩ := (changes_classify chart nowMs).forward sound
  obtain ⟨sound', advances, versioned⟩ :=
    (@changes_after _ _ _ _ _ _ _ _ _ lib (chart.classify nowMs) between).forward classified
  obtain ⟨final, ticked', counted'⟩ := (changes_classify last laterMs).forward sound'
  have onward := ticked.trans advances
  have whole := advances.trans ticked'
  have owner_eq : chart.owner = owner := reached.owner.trans owned
  refine ⟨⟨counted.revision.trans versioned.revision, fun below differ same => differ ?_⟩,
    ⟨ordered_shown classified _, ?_⟩, fun time held live ws => ⟨?_, ?_⟩, ?_, ?_,
    onward.frozen, fun _ => onward.transport⟩
  · have equal := toString_nat_injective same
    exact shown_alike classified ((versioned.trans counted').alike equal below) rfl rfl
  · obtain ⟨ms, there, past⟩ := whole.clock rfl
    obtain rfl := Option.some.inj there
    have floor : (last.classify laterMs).floor = last.floor := by
      unfold LiveChart.classify
      dsimp only
      split_ifs
      · rfl
      · rfl
    exact floor ▸ whole.settled classified final past
  · exact fun ticket outcome atMs => venue_finishHistory ticket outcome atMs live ws
  · intro above
    obtain ⟨held', here, kept⟩ := onward.venue live above
    exact ⟨held', here, kept ws⟩
  · exact fun ticket outcome atMs foreign =>
      finishHistory_superseded (.inl (owner_eq ▸ foreign)) outcome atMs
  · intro rest outcome atMs again
    have asked := Change.request.all.forward sound
    exact finishHistory_superseded (.inr (request_lt_after lib asked.1 again).ne) outcome atMs

end Runs

namespace Crowded

/-- The print, and then a candle so much later that the floor passes the bucket of the print. -/
def farCandle : Candle ℕ :=
  ⟨36060000, 36119999, "BTC", "1m", 7, 7, 7, 7, 0, 0⟩

/-- The chart whose tape is frozen, what it shows, and what it shows after the candle. -/
def crowded : LiveChart ℕ := chart.after lib [.observeTrades [print, relabelled] 61000]

def shown : ChartProjection := (crowded.projection lib 61000).1

def last : LiveChart ℕ :=
  (crowded.projection lib 61000).2.after lib [.observeCandle farCandle 36060000]

def next : ChartProjection := (last.projection lib 36060000).1

/-- The candle moves the revision on and shows another projection, and what the frozen tape loses
is below the floor. -/
theorem farCandle_forward : crowded.revision ≤ last.revision ∧ shown.revision ≠ next.revision ∧
    Ordered shown ∧ Settled shown next last.floor ∧ Frozen crowded last := by
  obtain ⟨⟨forward, apart⟩, ⟨ordered, settled⟩, _, _, _, frozen, _⟩ :=
    projections_forward lib chart_opened [.observeTrades [print, relabelled] 61000]
      [.observeCandle farCandle 36060000] 61000 36060000
  have differ : shown ≠ next := fun same =>
    absurd (congrArg (fun projection => projection.forming.map ObservedBar.timeMs) same)
      (by decide +kernel)
  exact ⟨forward, apart (by decide +kernel) differ, ordered, settled, frozen (by decide +kernel)⟩

/-- The bucket of the print is lost to a frozen tape. -/
theorem frozen_tape_pruned : ¬ ∀ calls between : List (ChartCall ℕ),
    (chart.after lib calls).frozen = true →
      ((chart.after lib calls).after lib between).tape = (chart.after lib calls).tape := by
  intro same
  have frozen : (chart.after lib [.observeTrades [print, relabelled] 61000]).frozen = true := by
    decide +kernel
  have held := same [.observeTrades [print, relabelled] 61000] [.observeCandle farCandle 36060000]
    frozen
  have lost : (((chart.after lib [.observeTrades [print, relabelled] 61000]).after lib
      [.observeCandle farCandle 36060000]).tape.length) = 0 := by decide +kernel
  have kept : (chart.after lib [.observeTrades [print, relabelled] 61000]).tape.length = 1 := by
    decide +kernel
  rw [held, kept] at lost
  cases lost

end Crowded

end Oppen.Chart
