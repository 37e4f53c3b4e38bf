import Oppen.Candles.Resample

/-! # Holes in a resampled slice

A source bar that is missing between two bars of returned buckets is noticed where its bucket
has another bar. Where a whole target bucket has none, no bucket comes up short: the slice is
resampled around the hole.
-/

namespace Oppen.Candles

open Foundation

variable {Decimal : Type} [LinearOrder Decimal] [AddCommMonoid Decimal]
  {source target : Interval} {bars out : List (Bar Decimal)}

/-! ## Slots -/

omit [LinearOrder Decimal] [AddCommMonoid Decimal] in
/-- Bars in order that span no more than their number have every slot. -/
theorem InOrder.all_slots {first : Bar Decimal} {rest : List (Bar Decimal)} {start time : ℤ}
    (ordered : InOrder source (first :: rest)) (aligned : source.millis ∣ start)
    (after : start ≤ first.openTimeMs)
    (tight : ((rest.getLastD first).openTimeMs : ℤ) = start + rest.length * source.millis)
    (slot : source.millis ∣ time) (low : start ≤ time)
    (high : time ≤ (rest.getLastD first).openTimeMs) :
    ∃ bar ∈ first :: rest, (bar.openTimeMs : ℤ) = time := by
  induction rest generalizing first start with
  | nil =>
      rw [List.getLastD_nil] at tight high
      refine ⟨first, List.mem_cons_self, ?_⟩
      rw [List.length_nil, Nat.cast_zero, zero_mul] at tight
      omega
  | cons next rest ih =>
      have span := ordered.span
      have later : InOrder source (next :: rest) :=
        ⟨fun bar member => ordered.aligned bar (List.mem_cons_of_mem _ member),
          (List.isChain_cons_cons.mp ordered.ascending).2⟩
      rw [List.getLastD_cons] at tight high span
      have here : (first.openTimeMs : ℤ) = start := by omega
      have width := source.millis_pos
      rcases lt_or_ge time (start + source.millis) with inside | beyond
      · have apart : source.millis ∣ time - start := Int.dvd_sub slot aligned
        have same : time - start = 0 :=
          Int.eq_zero_of_dvd_of_nonneg_of_lt (by omega) (by omega) apart
        exact ⟨first, List.mem_cons_self, by omega⟩
      · have ahead : (first.openTimeMs : ℤ) < next.openTimeMs :=
          (List.isChain_cons_cons.mp ordered.ascending).1
        have apart : source.millis ∣ (next.openTimeMs : ℤ) - first.openTimeMs :=
          Int.dvd_sub (ordered.aligned next (by simp)) (ordered.aligned first (by simp))
        have wide := Int.le_of_dvd (by omega) apart
        rw [List.length_cons, Nat.cast_add, Nat.cast_one, add_mul, one_mul] at tight
        obtain ⟨bar, member, same⟩ := ih later (Int.dvd_add aligned (dvd_refl _)) (by omega)
          (by omega) beyond high
        exact ⟨bar, List.mem_cons_of_mem _ member, same⟩

omit [LinearOrder Decimal] [AddCommMonoid Decimal] in
/-- No bar of an ordered slice opens after its last one. -/
theorem InOrder.le_last {first : Bar Decimal} {rest : List (Bar Decimal)}
    (ordered : InOrder source (first :: rest)) {bar : Bar Decimal} (member : bar ∈ first :: rest) :
    (bar.openTimeMs : ℤ) ≤ (rest.getLastD first).openTimeMs := by
  induction rest generalizing first bar with
  | nil => rw [List.mem_singleton.mp member, List.getLastD_nil]
  | cons next rest ih =>
      have later : InOrder source (next :: rest) :=
        ⟨fun bar member => ordered.aligned bar (List.mem_cons_of_mem _ member),
          (List.isChain_cons_cons.mp ordered.ascending).2⟩
      rw [List.getLastD_cons]
      rcases List.mem_cons.mp member with rfl | after
      · exact (List.isChain_cons_cons.mp ordered.ascending).1.le.trans
          (ih later List.mem_cons_self)
      · exact ih later after

namespace OneBucket

variable {bucket : Block (Bar Decimal)} (one : OneBucket source target bucket)
include one

omit [LinearOrder Decimal] [AddCommMonoid Decimal] in
/-- A complete bucket has its first slots and ends with its last one. -/
theorem contiguous_of_full (coarser : source.Coarsens target)
    (full : (bucket.toList.length : ℤ) = target.millis / source.millis) :
    Contiguous source target bucket ∧ (bucket.last.openTimeMs : ℤ) + source.millis =
      target.slot bucket.first.openTimeMs * target.millis + target.millis := by
  have span : _ ≤ (bucket.last.openTimeMs : ℤ) := one.ordered.span
  have start := target.slot_mul_le bucket.first.openTimeMs
  have below := target.lt_slot_mul bucket.last.openTimeMs
  rw [one.last_slot] at below
  have apart : source.millis ∣ target.slot bucket.first.openTimeMs * target.millis +
      target.millis - bucket.last.openTimeMs :=
    Int.dvd_sub (Int.dvd_add (coarser.multiple.mul_left _) coarser.multiple)
      (one.ordered.aligned _ bucket.last_mem)
  have wide := Int.le_of_dvd (by omega) apart
  have whole := Int.ediv_mul_cancel coarser.multiple
  rw [← full, Block.toList, List.length_cons, Nat.cast_add, Nat.cast_one, add_mul, one_mul] at whole
  exact ⟨by rw [Contiguous]; omega, by omega⟩

omit [LinearOrder Decimal] [AddCommMonoid Decimal] in
/-- A bucket without a hole has every slot up to its last one. -/
theorem all_slots (coarser : source.Coarsens target) (contiguous : Contiguous source target bucket)
    {time : ℤ} (slot : source.millis ∣ time)
    (low : target.slot bucket.first.openTimeMs * target.millis ≤ time)
    (high : time ≤ bucket.last.openTimeMs) :
    ∃ bar ∈ bucket.toList, (bar.openTimeMs : ℤ) = time :=
  one.ordered.all_slots (coarser.multiple.mul_left _) (target.slot_mul_le _) contiguous slot low
    high

end OneBucket

/-! ## Returned buckets -/

omit [LinearOrder Decimal] [AddCommMonoid Decimal] in
/-- The buckets of a tiled slice are in slots that ascend. -/
theorem Tiled.slots {split : List (Block (Bar Decimal))} (tiled : Tiled source target split) :
    split.Pairwise fun bucket next =>
      target.slot bucket.first.openTimeMs < target.slot next.first.openTimeMs := by
  induction split with
  | nil => exact .nil
  | cons bucket later ih =>
      have rest := ih tiled.tail
      refine .cons ?_ rest
      cases later with
      | nil => exact fun other absent => absurd absent List.not_mem_nil
      | cons next later =>
          intro other member
          rcases List.mem_cons.mp member with rfl | further
          · exact tiled.slot_lt
          · exact tiled.slot_lt.trans ((List.pairwise_cons.mp rest).1 other further)

omit [LinearOrder Decimal] [AddCommMonoid Decimal] in
/-- Starting at a boundary drops buckets and reorders none. -/
theorem fromBoundary_sublist (split : List (Block (Bar Decimal))) :
    (fromBoundary target split).Sublist split := by
  cases split with
  | nil => exact .slnil
  | cons bucket later =>
      rw [fromBoundary]
      split
      · exact .refl _
      · exact List.sublist_cons_self _ _

omit [LinearOrder Decimal] [AddCommMonoid Decimal] in
/-- A tiled slice stays tiled once it starts at a boundary. -/
theorem Tiled.fromBoundary {split : List (Block (Bar Decimal))}
    (tiled : Tiled source target split) :
    Tiled source target (fromBoundary target split) := by
  cases split with
  | nil => exact tiled
  | cons bucket later =>
      rw [Candles.fromBoundary]
      split
      · exact tiled
      · exact tiled.tail

/-- The label of a returned bucket is where it starts. -/
theorem Tiled.coe_openTimeMs {split : List (Block (Bar Decimal))}
    (tiled : Tiled source target split) {bucket : Block (Bar Decimal)}
    (member : bucket ∈ Candles.fromBoundary target split) :
    ((barOf target bucket).openTimeMs : ℤ) =
      target.slot bucket.first.openTimeMs * target.millis := by
  change (target.bucketStartMs (bucket.fold Bar.absorb).openTimeMs : ℤ) = _
  rw [openTimeMs_fold, target.coe_bucketStartMs]
  refine max_eq_right ?_
  cases split with
  | nil => cases member
  | cons leading later =>
      have first : target.millis ∣ (leading.first.openTimeMs : ℤ) → -2 ^ 63 ≤
          target.slot leading.first.openTimeMs * target.millis := by
        intro boundary
        rw [Interval.slot, Int.ediv_mul_cancel boundary]
        exact leading.first.openTimeMs.2.1
      have further {other : Block (Bar Decimal)} (after : other ∈ later) : -2 ^ 63 ≤
          target.slot other.first.openTimeMs * target.millis := by
        have ahead := (List.pairwise_cons.mp tiled.slots).1 other after
        have less : (target.slot leading.first.openTimeMs + 1) * target.millis ≤
            target.slot other.first.openTimeMs * target.millis :=
          mul_le_mul_of_nonneg_right ahead target.millis_pos.le
        have above := target.lt_slot_mul leading.first.openTimeMs
        have start := leading.first.openTimeMs.2.1
        rw [add_mul, one_mul] at less
        omega
      rw [Candles.fromBoundary] at member
      split at member
      · rename_i boundary
        rcases List.mem_cons.mp member with rfl | after
        · exact first boundary
        · exact further after
      · exact further member

omit [LinearOrder Decimal] [AddCommMonoid Decimal] in
/-- A settled bucket has no hole, and it is complete unless it is the last one. -/
theorem Settled.bucket (coarser : source.Coarsens target) {split : List (Block (Bar Decimal))}
    (tiled : Tiled source target split) (settled : Settled source target split)
    {bucket : Block (Bar Decimal)} (member : bucket ∈ split) :
    Contiguous source target bucket ∧
      (bucket ∈ split.dropLast ∨ split.getLast? = some bucket) ∧
      (bucket ∈ split.dropLast →
        (bucket.toList.length : ℤ) = target.millis / source.millis) := by
  induction split with
  | nil => cases member
  | cons head later ih =>
      cases later with
      | nil =>
          obtain rfl := List.mem_singleton.mp member
          exact ⟨settled, .inr rfl, nofun⟩
      | cons next later =>
          obtain ⟨full, settled⟩ := settled
          have one := tiled.each head List.mem_cons_self
          rw [List.dropLast_cons_cons, List.getLast?_cons_cons]
          rcases List.mem_cons.mp member with rfl | after
          · exact ⟨(one.contiguous_of_full coarser full).1, .inl List.mem_cons_self, fun _ => full⟩
          · obtain ⟨contiguous, placed, complete⟩ := ih tiled.tail settled after
            refine ⟨contiguous, placed.imp_left (List.mem_cons_of_mem _), fun inside => ?_⟩
            rcases List.mem_cons.mp inside with rfl | inside
            · exact full
            · exact complete inside

/-! ## What a resampled slice has -/

/-- The buckets from the first boundary on. -/
def wholeBuckets (target : Interval) (bars : List (Bar Decimal)) : List (Block (Bar Decimal)) :=
  fromBoundary target (buckets target bars)

/-- No target bucket is without bars. -/
def Unskipped (target : Interval) (split : List (Block (Bar Decimal))) : Prop :=
  split.IsChain fun bucket next =>
    target.slot next.first.openTimeMs = target.slot bucket.first.openTimeMs + 1

/-- The trades of each bucket fit into a `u32`. -/
def CountsFit (split : List (Block (Bar Decimal))) : Prop :=
  ∀ bucket ∈ split, tradeCount bucket.toList < 2 ^ 32

/-- A source bar is in a returned bucket. -/
def Bar.LiesIn (target : Interval) (out : List (Bar Decimal)) (bar : Bar Decimal) : Prop :=
  ∃ whole ∈ out, target.bucketStartMs bar.openTimeMs = whole.openTimeMs

/-- The source bars of a returned bar. -/
def membersOf (target : Interval) (bars : List (Bar Decimal)) (whole : Bar Decimal) :
    List (Bar Decimal) :=
  bars.filter fun bar => target.bucketStartMs bar.openTimeMs = whole.openTimeMs

/-- What is returned has no hole and is what its source bars make of it. -/
structure WithoutHoles (source target : Interval) (bars out : List (Bar Decimal)) : Prop where
  slots : ∀ first ∈ bars, ∀ last ∈ bars, first.LiesIn target out → last.LiesIn target out →
    ∀ time, source.millis ∣ time → (first.openTimeMs : ℤ) ≤ time → time ≤ last.openTimeMs →
      ∃ bar ∈ bars, (bar.openTimeMs : ℤ) = time
  aligned : ∀ whole ∈ out, target.millis ∣ (whole.openTimeMs : ℤ)
  consecutive : out.IsChain fun whole next =>
    (next.openTimeMs : ℤ) = whole.openTimeMs + target.millis
  complete : ∀ whole ∈ out.dropLast, ∀ time, source.millis ∣ time →
    (whole.openTimeMs : ℤ) ≤ time → time < whole.openTimeMs + target.millis →
      ∃ bar ∈ bars, (bar.openTimeMs : ℤ) = time
  aggregates : ∀ whole ∈ out, whole.Aggregates (membersOf target bars whole)
  trades : ∀ whole ∈ out, whole.trades.toNat = tradeCount (membersOf target bars whole)

omit [LinearOrder Decimal] [AddCommMonoid Decimal] in
/-- Where no bucket is skipped, every slot between two buckets is that of a bucket. -/
theorem Unskipped.exists_slot {head : Block (Bar Decimal)} {later : List (Block (Bar Decimal))}
    (unskipped : Unskipped target (head :: later)) {slot : ℤ}
    (low : target.slot head.first.openTimeMs ≤ slot) {last : Block (Bar Decimal)}
    (member : last ∈ head :: later) (high : slot ≤ target.slot last.first.openTimeMs) :
    ∃ bucket ∈ head :: later, target.slot bucket.first.openTimeMs = slot := by
  induction later generalizing head with
  | nil =>
      obtain rfl := List.mem_singleton.mp member
      exact ⟨last, member, le_antisymm low high⟩
  | cons next later ih =>
      rcases low.eq_or_lt with here | beyond
      · exact ⟨head, List.mem_cons_self, here⟩
      · obtain ⟨adjacent, unskipped⟩ := List.isChain_cons_cons.mp unskipped
        rcases List.mem_cons.mp member with rfl | after
        · omega
        · obtain ⟨bucket, among, same⟩ := ih unskipped (by omega) after
          exact ⟨bucket, List.mem_cons_of_mem _ among, same⟩

section Returned

variable (ordered : InOrder source bars)
include ordered

omit [LinearOrder Decimal] [AddCommMonoid Decimal] in
/-- The whole buckets of an ordered slice tile it. -/
theorem tiled_wholeBuckets : Tiled source target (wholeBuckets target bars) :=
  ordered.tiled.fromBoundary

variable {bucket : Block (Bar Decimal)} (member : bucket ∈ wholeBuckets target bars)
include member

/-- The bar of a bucket opens where the slot of its first member starts. -/
theorem coe_openTimeMs_barOf : ((barOf target bucket).openTimeMs : ℤ) =
    target.slot bucket.first.openTimeMs * target.millis :=
  ordered.tiled.coe_openTimeMs member

/-- The members of the bar of a bucket are the bars of the bucket. -/
theorem membersOf_barOf : membersOf target bars (barOf target bucket) = bucket.toList := by
  have tiled : Tiled source target (buckets target bars) := ordered.tiled
  have whole : (buckets target bars).flatMap Block.toList = bars := flatMap_blocks _ bars
  have among : bucket ∈ buckets target bars := (fromBoundary_sublist _).subset member
  have same := filter_flatMap_toList (fun bar => target.slot bar.openTimeMs)
    (fun block inside => (tiled.each block inside).uniform)
    (tiled.slots.imp fun less => less.ne) among
  rw [whole] at same
  rw [← same, membersOf]
  refine List.filter_congr fun bar _ => decide_eq_decide.mpr ?_
  change _ = target.bucketStartMs (bucket.fold Bar.absorb).openTimeMs ↔ _
  rw [openTimeMs_fold, target.bucketStartMs_inj]

omit [LinearOrder Decimal] [AddCommMonoid Decimal] ordered in
/-- What is in a whole bucket is one of the bars. -/
theorem mem_bars {bar : Bar Decimal} (inside : bar ∈ bucket.toList) : bar ∈ bars := by
  have whole : (buckets target bars).flatMap Block.toList = bars := flatMap_blocks _ bars
  rw [← whole]
  exact List.mem_flatMap.mpr ⟨bucket, (fromBoundary_sublist _).subset member, inside⟩

omit [LinearOrder Decimal] [AddCommMonoid Decimal] in
/-- A slot of a returned bucket is that of a source bar, up to the last bar and, where the bucket
is not the last one, up to its end. -/
theorem slot_present (coarser : source.Coarsens target)
    (settled : Settled source target (wholeBuckets target bars)) {time : ℤ}
    (slot : source.millis ∣ time)
    (low : target.slot bucket.first.openTimeMs * target.millis ≤ time)
    (high : time ≤ bucket.last.openTimeMs ∨ bucket ∈ (wholeBuckets target bars).dropLast ∧
      time < target.slot bucket.first.openTimeMs * target.millis + target.millis) :
    ∃ bar ∈ bars, (bar.openTimeMs : ℤ) = time := by
  have tiled : Tiled source target (wholeBuckets target bars) := tiled_wholeBuckets ordered
  obtain ⟨contiguous, -, complete⟩ := settled.bucket coarser tiled member
  have one := tiled.each bucket member
  have reached : time ≤ bucket.last.openTimeMs := by
    rcases high with reached | ⟨earlier, inside⟩
    · exact reached
    · have ends := (one.contiguous_of_full coarser (complete earlier)).2
      have apart : source.millis ∣
          target.slot bucket.first.openTimeMs * target.millis + target.millis - time :=
        Int.dvd_sub (Int.dvd_add (coarser.multiple.mul_left _) coarser.multiple) slot
      have wide := Int.le_of_dvd (by omega) apart
      omega
  obtain ⟨bar, inside, same⟩ := one.all_slots coarser contiguous slot low reached
  exact ⟨bar, mem_bars member inside, same⟩

end Returned

/-- A source bar of a returned bucket has the slot of the bucket. -/
theorem Bar.LiesIn.bucket {bar : Bar Decimal}
    (lies : bar.LiesIn target ((wholeBuckets target bars).map (barOf target))) :
    ∃ bucket ∈ wholeBuckets target bars,
      target.slot bar.openTimeMs = target.slot bucket.first.openTimeMs := by
  obtain ⟨whole, among, same⟩ := lies
  obtain ⟨bucket, member, rfl⟩ := List.mem_map.mp among
  change _ = target.bucketStartMs (bucket.fold Bar.absorb).openTimeMs at same
  rw [openTimeMs_fold, target.bucketStartMs_inj] at same
  exact ⟨bucket, member, same⟩

/-- Between two source bars of returned buckets no slot is missing. -/
theorem slots_present (coarser : source.Coarsens target) (ordered : InOrder source bars)
    (settled : Settled source target (wholeBuckets target bars))
    (unskipped : Unskipped target (wholeBuckets target bars)) {first last : Bar Decimal}
    (present : last ∈ bars)
    (firstLies : first.LiesIn target ((wholeBuckets target bars).map (barOf target)))
    (lastLies : last.LiesIn target ((wholeBuckets target bars).map (barOf target))) {time : ℤ}
    (slot : source.millis ∣ time) (low : (first.openTimeMs : ℤ) ≤ time)
    (high : time ≤ last.openTimeMs) : ∃ bar ∈ bars, (bar.openTimeMs : ℤ) = time := by
  have tiled : Tiled source target (wholeBuckets target bars) := tiled_wholeBuckets ordered
  obtain ⟨opening, among, firstSlot⟩ := firstLies.bucket
  obtain ⟨closing, among', lastSlot⟩ := lastLies.bucket
  have width := target.millis_pos
  have above : target.slot opening.first.openTimeMs ≤ time / target.millis :=
    firstSlot ▸ Int.ediv_le_ediv width low
  have below : time / target.millis ≤ target.slot closing.first.openTimeMs :=
    lastSlot ▸ Int.ediv_le_ediv width high
  obtain ⟨bucket, member, same⟩ : ∃ bucket ∈ wholeBuckets target bars,
      target.slot bucket.first.openTimeMs = time / target.millis := by
    cases split : wholeBuckets target bars with
    | nil =>
        rw [split] at among
        cases among
    | cons head later =>
        rw [split] at unskipped among among' tiled
        refine unskipped.exists_slot ?_ among' below
        rcases List.mem_cons.mp among with rfl | after
        · exact above
        · exact ((List.pairwise_cons.mp tiled.slots).1 opening after).le.trans above
  have start : target.slot bucket.first.openTimeMs * target.millis ≤ time := by
    rw [same]
    exact Int.ediv_mul_le _ width.ne'
  have inside : time < target.slot bucket.first.openTimeMs * target.millis + target.millis := by
    have ending := Int.lt_ediv_add_one_mul_self time width
    rw [add_mul, one_mul, ← same] at ending
    exact ending
  refine slot_present ordered member coarser settled slot start ?_
  rcases (settled.bucket coarser tiled member).2.1 with earlier | final
  · exact .inr ⟨earlier, inside⟩
  · -- in the last bucket the slot is at or before the source bar that ends the range
    left
    have level : target.slot closing.first.openTimeMs ≤ target.slot bucket.first.openTimeMs := by
      obtain ⟨before, whole⟩ := List.getLast?_eq_some_iff.mp final
      rw [whole] at among' tiled
      rcases List.mem_append.mp among' with old | new
      · exact ((List.pairwise_append.mp tiled.slots).2.2 closing old bucket (by simp)).le
      · rw [List.mem_singleton.mp new]
    have within : last ∈ bucket.toList := by
      rw [← membersOf_barOf ordered member, membersOf, List.mem_filter]
      refine ⟨present, decide_eq_true ?_⟩
      change _ = target.bucketStartMs (bucket.fold Bar.absorb).openTimeMs
      rw [openTimeMs_fold, target.bucketStartMs_inj]
      omega
    exact high.trans ((tiled.each bucket member).ordered.le_last within)

/-- A slice without a skipped bucket is resampled without holes. -/
theorem withoutHoles (coarser : source.Coarsens target) (ordered : InOrder source bars)
    (settled : Settled source target (wholeBuckets target bars))
    (unskipped : Unskipped target (wholeBuckets target bars))
    (fit : CountsFit (wholeBuckets target bars)) :
    WithoutHoles source target bars ((wholeBuckets target bars).map (barOf target)) where
  slots first _ last present firstLies lastLies time slot low high :=
    slots_present coarser ordered settled unskipped present firstLies lastLies slot low high
  aligned whole among := by
    obtain ⟨bucket, member, rfl⟩ := List.mem_map.mp among
    rw [coe_openTimeMs_barOf ordered member]
    exact dvd_mul_left _ _
  consecutive := by
    rw [List.isChain_map]
    refine unskipped.imp_of_mem_imp fun bucket next member member' adjacent => ?_
    rw [coe_openTimeMs_barOf ordered member, coe_openTimeMs_barOf ordered member', adjacent,
      add_mul, one_mul]
  complete whole among time slot low high := by
    rw [← List.map_dropLast] at among
    obtain ⟨bucket, earlier, rfl⟩ := List.mem_map.mp among
    have member := List.dropLast_subset _ earlier
    rw [coe_openTimeMs_barOf ordered member] at low high
    exact slot_present ordered member coarser settled slot low (.inr ⟨earlier, high⟩)
  aggregates whole among := by
    obtain ⟨bucket, member, rfl⟩ := List.mem_map.mp among
    rw [membersOf_barOf ordered member]
    obtain ⟨joined, -⟩ := aggregates_fold bucket
    exact ⟨joined.first, joined.last, joined.high_mem, joined.high_le, joined.low_mem,
      joined.low_le, joined.volume⟩
  trades whole among := by
    obtain ⟨bucket, member, rfl⟩ := List.mem_map.mp among
    rw [membersOf_barOf ordered member]
    have counted : (barOf target bucket).trades.toNat = _ := (aggregates_fold bucket).2
    have small := fit bucket member
    omega

/-- **Where a slice is resampled, it is without holes exactly when no target bucket was skipped and
the counts fit.** Without the two conditions the call still returns, and nothing in its answer shows
the missing bucket or the count that saturated. -/
theorem resample_without_holes_iff (source target : Interval) (bars : List (Bar Decimal)) :
    (∀ out, resample bars source target = .ok out → WithoutHoles source target bars out) ↔
      (source.Coarsens target → InOrder source bars →
        Settled source target (wholeBuckets target bars) →
          Unskipped target (wholeBuckets target bars) ∧ CountsFit (wholeBuckets target bars)) := by
  constructor
  · intro whole coarser ordered settled
    have returned := whole _ ((resample_ok_iff coarser).mpr ⟨ordered, settled, rfl⟩)
    constructor
    · have adjacent := returned.consecutive
      rw [List.isChain_map] at adjacent
      refine adjacent.imp_of_mem_imp fun bucket next member member' adjacent => ?_
      rw [coe_openTimeMs_barOf ordered member, coe_openTimeMs_barOf ordered member',
        ← add_one_mul] at adjacent
      exact Int.eq_of_mul_eq_mul_right target.millis_pos.ne' adjacent
    · intro bucket member
      have precise := returned.trades _ (List.mem_map_of_mem member)
      rw [membersOf_barOf ordered member] at precise
      rw [← precise]
      exact UInt32.toNat_lt _
  · intro sound out run
    have coarser := coarsens_of_ok run
    obtain ⟨ordered, settled, rfl⟩ := (resample_ok_iff coarser).mp run
    obtain ⟨unskipped, fit⟩ := sound coarser ordered settled
    exact withoutHoles coarser ordered settled unskipped fit

/-! ## A bucket without bars -/

def fiveMinutes : Interval := ⟨5, .minute, by decide, by decide, by rintro (_ | _) <;> decide⟩

/-- A bar of one minute, in which nothing was traded. -/
def quietMinute (minute : ℤ) : Bar ℤ := .emptyAt (.saturate (minute * 60000)) 60000 100

/-- The first and the third five minutes of the axis. -/
def skipping : List (Bar ℤ) := [0, 1, 2, 3, 4, 10, 11, 12, 13, 14].map quietMinute

/-- **A whole target bucket may be missing.** -/
theorem skipped_bucket_resampled : ∃ out, resample skipping oneMinute fiveMinutes = .ok out ∧
    ¬ WithoutHoles oneMinute fiveMinutes skipping out := by
  refine ⟨[0, 10].map fun minute => (quietMinute minute).relabel fiveMinutes,
    by decide +kernel, fun whole => ?_⟩
  have adjacent := (List.isChain_cons_cons.mp whole.consecutive).1
  exact absurd adjacent (by decide +kernel)

end Oppen.Candles
