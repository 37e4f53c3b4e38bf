import Oppen.Chart.LiveChart
import Oppen.Candles.AggregatorRuns
import Oppen.Foundation.Fold
import Mathlib.Logic.Relation

/-! # The changes of a chart

Every call makes of a chart a sequence of changes of a few kinds: each that can be seen counts the
revision up, and the others are a new history request and a tick of the clock in the same bucket.
What holds of each kind of change holds of every run of calls.
-/

namespace Oppen.Chart

open Foundation Oppen.Candles Oppen.Ledger Oppen.Reconcile Relation

/-! ## Kinds of change -/

/-- The start of a bucket. -/
structure Slot (interval : Interval) (time : I64) : Prop where
  aligned : interval.millis ∣ (time : ℤ)
  positive : 0 ≤ (time : ℤ)

section Changes

variable {Decimal : Type}

/-- What is left above a floor that is raised. -/
structure Pruned (chart : LiveChart Decimal) (floor : I64)
    (venue : SortedMap I64 (VenueBar Decimal))
    (tape : SortedMap I64 (TapeBar Decimal)) : Prop where
  raised : chart.floor ≤ floor
  venueAbove : ∀ {time}, floor ≤ time → venue.get time = chart.venue.get time
  venueOf : ∀ {time held}, venue.get time = some held → chart.venue.get time = some held
  tapeAbove : ∀ {time}, floor ≤ time → tape.get time = chart.tape.get time
  tapeOf : ∀ {time held}, tape.get time = some held → chart.tape.get time = some held

/-- The bars of a history answer, put around those of the socket. -/
structure Refilled (interval : Interval)
    (venue next : SortedMap I64 (VenueBar Decimal)) : Prop where
  kept : ∀ {time held}, venue.get time = some held →
    ∃ held', next.get time = some held' ∧ (held.ws = true → held' = held)
  slot : ∀ {time held}, next.get time = some held → venue.get time = some held ∨
    held.bar.openTimeMs = time ∧ Slot interval time

/-- One change of a chart. -/
inductive Change (chart : LiveChart Decimal) : LiveChart Decimal → Prop
  | request : Change chart { chart with request := chart.request + 1 }
  | notes (historyError observationError : Option String) (received : Option ℕ) :
      Change chart { chart with historyError, observationError, received }.changed
  | trade {floor bucket : I64} {venue : SortedMap I64 (VenueBar Decimal)}
      {tape : SortedMap I64 (TapeBar Decimal)} (running : chart.frozen = false)
      (pruned : Pruned chart floor venue tape) (slot : Slot chart.interval bucket)
      {entry : TapeBar Decimal}
      (opens : (∀ held, tape.get bucket = some held → held.bar.openTimeMs = bucket) →
        entry.bar.openTimeMs = bucket)
      (identities : SortedMap (ℕ ×ₗ ℕ) (WsTrade Decimal))
      (marker : Option ((ℕ ×ₗ ℕ) × TradeMarker)) (observationError : Option String)
      (received : Option ℕ) :
      Change chart
        { chart with
          floor, venue, tape := tape.insert bucket entry, identities, marker, observationError
          received, status := .observing }.changed
  | freezes {floor : I64} {venue : SortedMap I64 (VenueBar Decimal)}
      {tape : SortedMap I64 (TapeBar Decimal)} {status : TapeStatus}
      (running : chart.frozen = false) (pruned : Pruned chart floor venue tape)
      (final : status = .capacityExceeded ∨ status = .invalidObservation)
      (identities : SortedMap (ℕ ×ₗ ℕ) (WsTrade Decimal)) (detail : String) :
      Change chart
        (LiveChart.freeze status detail { chart with floor, venue, tape, identities })
  | candle {floor : I64} {venue : SortedMap I64 (VenueBar Decimal)}
      {tape : SortedMap I64 (TapeBar Decimal)} (pruned : Pruned chart floor venue tape)
      {bar : Bar Decimal} (slot : Slot chart.interval bar.openTimeMs)
      (identities : SortedMap (ℕ ×ₗ ℕ) (WsTrade Decimal)) (atMs : ℕ) (received : Option ℕ) :
      Change chart
        { chart with
          floor, venue := venue.insert bar.openTimeMs ⟨bar, atMs, true⟩, tape, identities
          received }.changed
  | interrupts (running : chart.frozen = false) :
      Change chart { chart with status := .interrupted }.changed
  | fails (first : chart.transportError = none) (detail : String) :
      Change chart
        { chart with
          status := if chart.frozen then chart.status else .interrupted
          transportError := some detail
          marker := LiveChart.doubt chart.marker }.changed
  | history {floor : I64} {venue refilled : SortedMap I64 (VenueBar Decimal)}
      {tape : SortedMap I64 (TapeBar Decimal)} (pruned : Pruned chart floor venue tape)
      (refills : Refilled chart.interval venue refilled)
      (identities : SortedMap (ℕ ×ₗ ℕ) (WsTrade Decimal)) (precision : Option ℕ)
      (historyError : Option String) (received : Option ℕ) :
      Change chart
        { chart with
          floor, venue := refilled, tape, identities, precision, historyError, received }.changed
  | tick {heldMs atMs : ℕ} (held : chart.classificationMs = some heldMs) (later : heldMs ≤ atMs)
      (same : heldMs / chart.interval.millis.toNat = atMs / chart.interval.millis.toNat) :
      Change chart { chart with classificationMs := some atMs }
  | clock {atMs : ℕ} (later : ∀ heldMs, chart.classificationMs = some heldMs → heldMs ≤ atMs)
      (clockRollback : Bool) :
      Change chart { chart with classificationMs := some atMs, clockRollback }.changed

/-- Changes one after another. -/
def Changes : LiveChart Decimal → LiveChart Decimal → Prop := ReflTransGen Change

variable {chart next : LiveChart Decimal}

/-- One change of the chart is a chain of changes. -/
theorem Change.all (change : Change chart next) : Changes chart next := .single change

theorem Changes.rfl : Changes chart chart := .refl

/-- A chart that stays where it is loses nothing below its floor. -/
theorem pruned_self (chart : LiveChart Decimal) :
    Pruned chart chart.floor chart.venue chart.tape :=
  ⟨le_rfl, fun _ => Eq.refl _, id, fun _ => Eq.refl _, id⟩

/-- Raising the floor prunes the chart. -/
theorem advanceFloor_pruned (bucket : I64) (chart : LiveChart Decimal) :
    ∃ floor venue tape identities,
      chart.advanceFloor bucket = { chart with floor, venue, tape, identities } ∧
        Pruned chart floor venue tape := by
  unfold LiveChart.advanceFloor
  dsimp only
  split_ifs
  · exact ⟨chart.floor, chart.venue, chart.tape, chart.identities, Eq.refl _, pruned_self chart⟩
  · refine ⟨_, _, _, _, Eq.refl _, le_max_left _ _, fun above => ?_, fun found => ?_,
      fun above => ?_, fun found => ?_⟩
    · rw [SortedMap.get_retain, if_pos (decide_eq_true above)]
    · rw [SortedMap.get_retain] at found
      exact (Option.ite_none_right_eq_some.mp found).2
    · rw [SortedMap.get_retain, if_pos (decide_eq_true above)]
    · rw [SortedMap.get_retain] at found
      exact (Option.ite_none_right_eq_some.mp found).2

/-! ## What holds of every chart -/

/-- Bars are kept under the starts of their buckets, the revision is a `u128`, and a frozen tape has
no marker whose price is trusted. -/
structure Sound (chart : LiveChart Decimal) : Prop where
  bounded : chart.revision ≤ 2 ^ 128 - 1
  venue : ∀ {time held}, chart.venue.get time = some held →
    held.bar.openTimeMs = time ∧ Slot chart.interval time
  tape : ∀ {time held}, chart.tape.get time = some held →
    held.bar.openTimeMs = time ∧ Slot chart.interval time
  doubted : chart.frozen = true → LiveChart.doubt chart.marker = chart.marker

/-- A marker that is already in doubt stays as it is. -/
theorem doubt_doubt (marker : Option ((ℕ ×ₗ ℕ) × TradeMarker)) :
    LiveChart.doubt (LiveChart.doubt marker) = LiveChart.doubt marker := by
  cases marker
  · rfl
  · rfl

/-- A chart whose tape runs has no failed transport. -/
theorem transportError_of_running (running : chart.frozen = false) :
    chart.transportError = none := by
  rw [LiveChart.frozen, Bool.or_eq_false_iff, Bool.or_eq_false_iff] at running
  exact Option.isSome_eq_false_iff.mp running.1.1 |> Option.isNone_iff_eq_none.mp

/-- A tape that observes, or only waits, is frozen by nothing. -/
theorem not_frozen (running : chart.frozen = false) {status : TapeStatus}
    (isOpen : status = .observing ∨ status = .interrupted) :
    ({ chart with status } : LiveChart Decimal).frozen = false := by
  rw [LiveChart.frozen, transportError_of_running running]
  rcases isOpen with rfl | rfl
  · rfl
  · rfl

/-- The revision saturates at the largest `u128`. -/
theorem bounded_changed (chart : LiveChart Decimal) : chart.changed.revision ≤ 2 ^ 128 - 1 :=
  min_le_right _ _

/-- What is left of the venue's bars after a prune is as sound as it was. -/
theorem Pruned.soundVenue (sound : Sound chart) {floor : I64}
    {venue : SortedMap I64 (VenueBar Decimal)} {tape : SortedMap I64 (TapeBar Decimal)}
    (pruned : Pruned chart floor venue tape) {time : I64} {held : VenueBar Decimal}
    (found : venue.get time = some held) :
    held.bar.openTimeMs = time ∧ Slot chart.interval time :=
  sound.venue (pruned.venueOf found)

/-- What is left of the tape after a prune is as sound as it was. -/
theorem Pruned.soundTape (sound : Sound chart) {floor : I64}
    {venue : SortedMap I64 (VenueBar Decimal)} {tape : SortedMap I64 (TapeBar Decimal)}
    (pruned : Pruned chart floor venue tape) {time : I64} {held : TapeBar Decimal}
    (found : tape.get time = some held) :
    held.bar.openTimeMs = time ∧ Slot chart.interval time :=
  sound.tape (pruned.tapeOf found)

/-- **Each change keeps the chart sound.** -/
theorem Change.sound (change : Change chart next) (sound : Sound chart) : Sound next := by
  cases change with
  | request => exact ⟨sound.bounded, sound.venue, sound.tape, sound.doubted⟩
  | notes => exact ⟨bounded_changed _, sound.venue, sound.tape, sound.doubted⟩
  | @trade floor bucket venue tape running pruned slot entry opens =>
      refine ⟨bounded_changed _, pruned.soundVenue sound,
        fun {time held} found => ?_, fun stopped => ?_⟩
      · change (tape.insert bucket entry).get time = some held at found
        rw [SortedMap.get_insert] at found
        split_ifs at found with same
        · obtain rfl := Option.some.inj found
          exact same ▸ ⟨opens fun held here => (pruned.soundTape sound here).1, slot⟩
        · exact pruned.soundTape sound found
      · exact absurd ((not_frozen running (.inl rfl)).symm.trans stopped) Bool.false_ne_true
  | freezes running pruned =>
      exact ⟨bounded_changed _, pruned.soundVenue sound, pruned.soundTape sound,
        fun _ => doubt_doubt _⟩
  | @candle floor venue tape pruned bar slot =>
      refine ⟨bounded_changed _, fun {time held} found => ?_, pruned.soundTape sound, sound.doubted⟩
      change (venue.insert bar.openTimeMs _).get time = some held at found
      rw [SortedMap.get_insert] at found
      split_ifs at found with same
      · obtain rfl := Option.some.inj found
        exact ⟨same, same ▸ slot⟩
      · exact pruned.soundVenue sound found
  | interrupts running =>
      refine ⟨bounded_changed _, sound.venue, sound.tape, fun stopped => ?_⟩
      exact absurd ((not_frozen running (.inr rfl)).symm.trans stopped) Bool.false_ne_true
  | fails => exact ⟨bounded_changed _, sound.venue, sound.tape, fun _ => doubt_doubt _⟩
  | history pruned refills =>
      refine ⟨bounded_changed _, fun found => ?_, pruned.soundTape sound, sound.doubted⟩
      rcases refills.slot found with older | new
      · exact pruned.soundVenue sound older
      · exact new
  | tick => exact ⟨sound.bounded, sound.venue, sound.tape, sound.doubted⟩
  | clock => exact ⟨bounded_changed _, sound.venue, sound.tape, sound.doubted⟩

/-! ## Forward only -/

/-- A frozen tape stays frozen as it is, and loses no more than what falls below the floor. -/
structure Frozen (chart next : LiveChart Decimal) : Prop where
  frozen : next.frozen = true
  status : next.status = chart.status
  marker : next.marker = chart.marker
  kept : ∀ {time}, next.floor ≤ time → next.tape.get time = chart.tape.get time
  older : ∀ {time held}, next.tape.get time = some held → chart.tape.get time = some held

/-- What never goes back. -/
structure Advances (chart next : LiveChart Decimal) : Prop where
  interval : next.interval = chart.interval
  owner : next.owner = chart.owner
  request : chart.request ≤ next.request
  floor : chart.floor ≤ next.floor
  clock : ∀ {ms}, chart.classificationMs = some ms →
    ∃ later, next.classificationMs = some later ∧ ms ≤ later
  venue : ∀ {time held}, chart.venue.get time = some held → next.floor ≤ time →
    ∃ held', next.venue.get time = some held' ∧ (held.ws = true → held'.ws = true)
  tape : ∀ {time}, (chart.tape.get time).isSome = true → next.floor ≤ time →
    (next.tape.get time).isSome = true
  frozen : chart.frozen = true → Frozen chart next
  transport : ∀ {error}, chart.transportError = some error → next.transportError = some error

/-- A chart advances to itself. -/
theorem advances_self (chart : LiveChart Decimal) : Advances chart chart where
  interval := rfl
  owner := rfl
  request := le_rfl
  floor := le_rfl
  clock held := ⟨_, held, le_rfl⟩
  venue found _ := ⟨_, found, id⟩
  tape found _ := found
  frozen stopped := ⟨stopped, rfl, rfl, fun _ => rfl, id⟩
  transport := id

/-- Advances follow one another. -/
theorem Advances.trans {last : LiveChart Decimal} (first : Advances chart next)
    (second : Advances next last) : Advances chart last where
  interval := second.interval.trans first.interval
  owner := second.owner.trans first.owner
  request := first.request.trans second.request
  floor := first.floor.trans second.floor
  clock held := by
    obtain ⟨middle, here, below⟩ := first.clock held
    obtain ⟨later, there, above⟩ := second.clock here
    exact ⟨later, there, below.trans above⟩
  venue found above := by
    obtain ⟨middle, here, live⟩ := first.venue found (second.floor.trans above)
    obtain ⟨later, there, live'⟩ := second.venue here above
    exact ⟨later, there, fun ws => live' (live ws)⟩
  tape found above := second.tape (first.tape found (second.floor.trans above)) above
  frozen stopped := by
    have here := first.frozen stopped
    have there := second.frozen here.frozen
    exact ⟨there.frozen, there.status.trans here.status, there.marker.trans here.marker,
      fun above => (there.kept above).trans (here.kept (second.floor.trans above)),
      fun found => here.older (there.older found)⟩
  transport held := second.transport (first.transport held)

/-- Raising the floor of a frozen tape. -/
theorem Pruned.frozen {floor : I64} {venue : SortedMap I64 (VenueBar Decimal)}
    {tape : SortedMap I64 (TapeBar Decimal)} (pruned : Pruned chart floor venue tape)
    (frozen : next.frozen = true) (status : next.status = chart.status)
    (marker : next.marker = chart.marker) (above : next.floor = floor) (held : next.tape = tape) :
    Frozen chart next := by
  subst above
  subst held
  exact ⟨frozen, status, marker, pruned.tapeAbove, pruned.tapeOf⟩

/-- A prune keeps every bar of the tape at or above the floor. -/
theorem Pruned.tapeKept {floor : I64} {venue : SortedMap I64 (VenueBar Decimal)}
    {tape : SortedMap I64 (TapeBar Decimal)} (pruned : Pruned chart floor venue tape) {time : I64}
    (found : (chart.tape.get time).isSome = true) (above : floor ≤ time) :
    (tape.get time).isSome = true := by
  rw [pruned.tapeAbove above]
  exact found

theorem absurd_frozen {P : Prop} (running : chart.frozen = false) (stopped : chart.frozen = true) :
    P :=
  absurd (running.symm.trans stopped) Bool.false_ne_true

/-- **Each change goes forward.** -/
theorem Change.advances (change : Change chart next) (sound : Sound chart) :
    Advances chart next := by
  have self := advances_self chart
  cases change with
  | request =>
      exact
        { self with
          request := Nat.le_succ _
          frozen := fun stopped => ⟨stopped, rfl, rfl, fun _ => rfl, id⟩ }
  | notes =>
      exact { self with frozen := fun stopped => ⟨stopped, rfl, rfl, fun _ => rfl, id⟩ }
  | @trade floor bucket venue tape running pruned slot entry =>
      refine
        { self with
          floor := pruned.raised
          venue := fun found above => ⟨_, (pruned.venueAbove above).trans found, id⟩
          tape := fun {time} found above => ?_
          frozen := absurd_frozen running }
      change ((tape.insert bucket entry).get time).isSome = true
      rw [SortedMap.get_insert]
      split_ifs
      · rfl
      · exact pruned.tapeKept found above
  | freezes running pruned =>
      exact
        { self with
          floor := pruned.raised
          venue := fun found above => ⟨_, (pruned.venueAbove above).trans found, id⟩
          tape := pruned.tapeKept
          frozen := absurd_frozen running }
  | @candle floor venue tape pruned bar slot identities atMs =>
      refine
        { self with
          floor := pruned.raised
          venue := fun {time held} found above => ?_
          tape := pruned.tapeKept
          frozen := fun stopped => pruned.frozen stopped rfl rfl rfl rfl }
      change ∃ held', (venue.insert bar.openTimeMs ⟨bar, atMs, true⟩).get time = some held' ∧ _
      rw [SortedMap.get_insert]
      split_ifs
      · exact ⟨_, rfl, fun _ => rfl⟩
      · exact ⟨held, (pruned.venueAbove above).trans found, id⟩
  | interrupts running => exact { self with frozen := absurd_frozen running }
  | fails first =>
      refine
        { self with
          frozen := fun stopped => ⟨rfl, if_pos stopped, sound.doubted stopped, fun _ => rfl, id⟩
          transport := fun held => ?_ }
      rw [first] at held
      cases held
  | history pruned refills =>
      refine
        { self with
          floor := pruned.raised
          venue := fun {time held} found above => ?_
          tape := pruned.tapeKept
          frozen := fun stopped => pruned.frozen stopped rfl rfl rfl rfl }
      obtain ⟨held', here, same⟩ := refills.kept ((pruned.venueAbove above).trans found)
      exact ⟨held', here, fun ws => by rw [same ws]; exact ws⟩
  | tick held later =>
      refine
        { self with
          clock := fun {ms} before => ⟨_, rfl, ?_⟩
          frozen := fun stopped => ⟨stopped, rfl, rfl, fun _ => rfl, id⟩ }
      rw [held] at before
      exact Option.some.inj before ▸ later
  | clock later =>
      exact
        { self with
          clock := fun before => ⟨_, rfl, later _ before⟩
          frozen := fun stopped => ⟨stopped, rfl, rfl, fun _ => rfl, id⟩ }

/-! ## Revisions -/

/-- The same chart but for the history request, and for the clock within its bucket. -/
def Alike (chart next : LiveChart Decimal) : Prop :=
  ∃ request classificationMs, next = { chart with request, classificationMs } ∧
    classificationMs.map (· / chart.interval.millis.toNat) =
      chart.classificationMs.map (· / chart.interval.millis.toNat)

/-- The revision does not go back, and stands still only while nothing is seen to change. -/
structure Versioned (chart next : LiveChart Decimal) : Prop where
  revision : chart.revision ≤ next.revision
  alike : chart.revision = next.revision → next.revision < 2 ^ 128 - 1 → Alike chart next

theorem versioned_self (chart : LiveChart Decimal) : Versioned chart chart :=
  ⟨le_rfl, fun _ _ => ⟨chart.request, chart.classificationMs, rfl, rfl⟩⟩

/-- Versions follow one another: where the revision stands, nothing shown has changed on the way. -/
theorem Versioned.trans {last : LiveChart Decimal} (first : Versioned chart next)
    (second : Versioned next last) : Versioned chart last where
  revision := first.revision.trans second.revision
  alike same below := by
    have middle : chart.revision = next.revision :=
      le_antisymm first.revision (second.revision.trans same.ge)
    have rest : next.revision = last.revision := middle.symm.trans same
    obtain ⟨_, _, rfl, ticks⟩ := first.alike middle (rest ▸ below)
    obtain ⟨request, classificationMs, rfl, ticks'⟩ := second.alike rest below
    exact ⟨request, classificationMs, rfl, ticks'.trans ticks⟩

/-- A change that is counted. -/
theorem versioned_changed (bounded : chart.revision ≤ 2 ^ 128 - 1)
    (same : next.revision = chart.revision) : Versioned chart next.changed := by
  have counted : next.changed.revision = min (chart.revision + 1) (2 ^ 128 - 1) :=
    same ▸ rfl
  refine ⟨?_, fun equal below => ?_⟩
  · rw [counted]
    exact le_min (Nat.le_succ _) bounded
  · rw [counted] at equal below
    omega

/-- **Each change that can be seen is counted.** -/
theorem Change.versioned (change : Change chart next) (sound : Sound chart) :
    Versioned chart next := by
  cases change with
  | request => exact ⟨le_rfl, fun _ _ => ⟨chart.request + 1, chart.classificationMs, rfl, rfl⟩⟩
  | notes => exact versioned_changed sound.bounded rfl
  | trade => exact versioned_changed sound.bounded rfl
  | freezes => exact versioned_changed sound.bounded rfl
  | candle => exact versioned_changed sound.bounded rfl
  | interrupts => exact versioned_changed sound.bounded rfl
  | fails => exact versioned_changed sound.bounded rfl
  | history => exact versioned_changed sound.bounded rfl
  | @tick heldMs atMs held later same =>
      refine ⟨le_rfl, fun _ _ => ⟨chart.request, some atMs, rfl, ?_⟩⟩
      rw [held, Option.map_some, Option.map_some, same]
  | clock => exact versioned_changed sound.bounded rfl

/-- What changes one after another bring about. -/
theorem Changes.forward (changes : Changes chart next) (sound : Sound chart) :
    Sound next ∧ Advances chart next ∧ Versioned chart next := by
  induction changes with
  | refl => exact ⟨sound, advances_self chart, versioned_self chart⟩
  | tail _ change ih =>
      obtain ⟨kept, advances, versioned⟩ := ih
      exact ⟨change.sound kept, advances.trans (change.advances kept),
        versioned.trans (change.versioned kept)⟩

end Changes

end Oppen.Chart
