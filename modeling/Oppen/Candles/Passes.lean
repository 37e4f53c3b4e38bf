import Oppen.Candles.Holes

/-! # Resampling in two passes

Bars without a hole are resampled from any offset: the bucket they begin inside is dropped, and
the one they end in may be short. What a second pass makes of that is what one pass makes of the
bars, wherever they begin and end.
-/

namespace Oppen.Candles

open Foundation

variable {Decimal : Type} {source target fine middle coarse : Interval}
  {bars : List (Bar Decimal)}

/-! ## Bars without a hole -/

/-- Aligned to the interval, each bar one width after the one before it. -/
structure HoleFree (source : Interval) (bars : List (Bar Decimal)) : Prop where
  aligned : ∀ bar ∈ bars, source.millis ∣ (bar.openTimeMs : ℤ)
  adjacent : bars.IsChain fun bar next =>
    (next.openTimeMs : ℤ) = bar.openTimeMs + source.millis

/-- A slice without holes is in order. -/
theorem HoleFree.inOrder (free : HoleFree source bars) : InOrder source bars where
  aligned := free.aligned
  ascending := by
    have width := source.millis_pos
    exact free.adjacent.imp fun bar next adjacent => by omega

/-- The last bar of a slice without holes opens as many intervals later as there are bars
between. -/
theorem HoleFree.span {first : Bar Decimal} {rest : List (Bar Decimal)}
    (free : HoleFree source (first :: rest)) :
    ((rest.getLastD first).openTimeMs : ℤ) = first.openTimeMs + rest.length * source.millis := by
  induction rest generalizing first with
  | nil => simp
  | cons next rest ih =>
      obtain ⟨adjacent, later⟩ := List.isChain_cons_cons.mp free.adjacent
      have span := ih ⟨fun bar member => free.aligned bar (List.mem_cons_of_mem _ member), later⟩
      rw [List.getLastD_cons, List.length_cons, Nat.cast_add, Nat.cast_one, add_mul, one_mul]
      omega

/-- The buckets of bars without a hole. -/
structure Seamless (source target : Interval) (split : List (Block (Bar Decimal))) : Prop where
  tiled : Tiled source target split
  free : ∀ bucket ∈ split, HoleFree source bucket.toList
  adjacent : split.IsChain fun bucket next =>
    (next.first.openTimeMs : ℤ) = bucket.last.openTimeMs + source.millis

/-- The buckets of a slice without holes follow one another without a seam. -/
theorem HoleFree.seamless (free : HoleFree source bars) :
    Seamless source target (buckets target bars) := by
  have whole : (buckets target bars).flatMap Block.toList = bars := flatMap_blocks _ bars
  have adjacent := free.adjacent
  rw [← whole, isChain_flatMap_toList] at adjacent
  refine ⟨free.inOrder.tiled, fun bucket member => ⟨fun bar inside => free.aligned bar ?_,
    adjacent.1 bucket member⟩, adjacent.2⟩
  exact mem_of_mem_blocks _ member inside

namespace Seamless

variable {bucket next : Block (Bar Decimal)} {later : List (Block (Bar Decimal))}

/-- The buckets behind the first are as seamless. -/
theorem tail (seamless : Seamless source target (bucket :: later)) :
    Seamless source target later :=
  ⟨seamless.tiled.tail, fun other member => seamless.free other (List.mem_cons_of_mem _ member),
    seamless.adjacent.tail⟩

/-- A bucket ends with its last slot where another one follows, and that one starts with its
first slot. -/
theorem next_first (coarser : source.Coarsens target)
    (seamless : Seamless source target (bucket :: next :: later)) :
    (next.first.openTimeMs : ℤ) = (target.slot bucket.first.openTimeMs + 1) * target.millis := by
  have one := seamless.tiled.each bucket List.mem_cons_self
  have adjacent := (List.isChain_cons_cons.mp seamless.adjacent).1
  have below := target.lt_slot_mul bucket.last.openTimeMs
  rw [one.last_slot] at below
  have apart : source.millis ∣ target.slot bucket.first.openTimeMs * target.millis +
      target.millis - bucket.last.openTimeMs :=
    Int.dvd_sub (Int.dvd_add (coarser.multiple.mul_left _) coarser.multiple)
      (one.ordered.aligned _ bucket.last_mem)
  have wide := Int.le_of_dvd (by omega) apart
  have ahead : (target.slot bucket.first.openTimeMs + 1) * target.millis ≤
      target.slot next.first.openTimeMs * target.millis :=
    mul_le_mul_of_nonneg_right seamless.tiled.slot_lt target.millis_pos.le
  have start := target.slot_mul_le next.first.openTimeMs
  rw [add_mul, one_mul] at ahead ⊢
  omega

/-- In seamless buckets the next bucket is in the next slot. -/
theorem next_slot (coarser : source.Coarsens target)
    (seamless : Seamless source target (bucket :: next :: later)) :
    target.slot next.first.openTimeMs = target.slot bucket.first.openTimeMs + 1 := by
  rw [Interval.slot, seamless.next_first coarser, Int.mul_ediv_cancel _ target.millis_pos.ne']

/-- In seamless buckets every bucket but the first starts at a boundary. -/
theorem next_boundary (coarser : source.Coarsens target)
    (seamless : Seamless source target (bucket :: next :: later)) :
    target.millis ∣ (next.first.openTimeMs : ℤ) := by
  rw [seamless.next_first coarser]
  exact dvd_mul_left _ _

/-- From a boundary on, buckets of bars without a hole are settled, and none is skipped. -/
theorem settled (coarser : source.Coarsens target)
    (seamless : Seamless source target (bucket :: later))
    (boundary : target.millis ∣ (bucket.first.openTimeMs : ℤ)) :
    Settled source target (bucket :: later) ∧ Unskipped target (bucket :: later) := by
  have start : target.slot bucket.first.openTimeMs * target.millis = bucket.first.openTimeMs :=
    Int.ediv_mul_cancel boundary
  have span : (bucket.last.openTimeMs : ℤ) =
      bucket.first.openTimeMs + bucket.rest.length * source.millis :=
    (seamless.free bucket List.mem_cons_self).span
  induction later generalizing bucket with
  | nil =>
      refine ⟨?_, .singleton _⟩
      rw [Settled, Contiguous, start, span]
  | cons next later ih =>
      have boundary' := seamless.next_boundary coarser
      obtain ⟨settled, unskipped⟩ := ih seamless.tail boundary' (Int.ediv_mul_cancel boundary')
        (seamless.free next (by simp)).span
      refine ⟨⟨?_, settled⟩, .cons_cons (seamless.next_slot coarser) unskipped⟩
      have adjacent := (List.isChain_cons_cons.mp seamless.adjacent).1
      have ends := seamless.next_first coarser
      rw [Block.toList, List.length_cons, Nat.cast_add, Nat.cast_one]
      refine (Int.ediv_eq_of_eq_mul_left source.millis_pos.ne' ?_).symm
      rw [add_mul, one_mul] at ends ⊢
      omega

end Seamless

/-- From the first boundary on nothing is missing. -/
theorem HoleFree.settled (coarser : source.Coarsens target) (free : HoleFree source bars) :
    Settled source target (wholeBuckets target bars) ∧
      Unskipped target (wholeBuckets target bars) := by
  have seamless : Seamless source target (buckets target bars) := free.seamless
  rw [wholeBuckets]
  generalize buckets target bars = split at seamless
  cases split with
  | nil => exact ⟨trivial, .nil⟩
  | cons leading later =>
      rw [fromBoundary]
      split
      · rename_i boundary
        exact seamless.settled coarser boundary
      · cases later with
        | nil => exact ⟨trivial, .nil⟩
        | cons next later => exact seamless.tail.settled coarser (seamless.next_boundary coarser)

variable [LinearOrder Decimal] [AddCommMonoid Decimal]

/-- **Bars without a hole are resampled, to bars without a hole.** -/
theorem HoleFree.resampled (coarser : source.Coarsens target) (free : HoleFree source bars) :
    resample bars source target = .ok ((wholeBuckets target bars).map (barOf target)) ∧
      HoleFree target ((wholeBuckets target bars).map (barOf target)) := by
  obtain ⟨settled, unskipped⟩ := free.settled coarser
  refine ⟨(resample_ok_iff coarser).mpr ⟨free.inOrder, settled, rfl⟩, ?_, ?_⟩
  · intro whole among
    obtain ⟨bucket, member, rfl⟩ := List.mem_map.mp among
    rw [coe_openTimeMs_barOf free.inOrder member]
    exact dvd_mul_left _ _
  · rw [List.isChain_map]
    refine unskipped.imp_of_mem_imp fun bucket next member member' adjacent => ?_
    rw [coe_openTimeMs_barOf free.inOrder member, coe_openTimeMs_barOf free.inOrder member',
      adjacent, add_mul, one_mul]

/-! ## Buckets of buckets -/

/-- A coarser slot is known from the finer one. -/
theorem slot_coarser (multiple : middle.millis ∣ coarse.millis) (time : I64) :
    coarse.slot time = middle.slot time / (coarse.millis / middle.millis) := by
  rw [Interval.slot, Interval.slot, Int.ediv_ediv_of_nonneg middle.millis_pos.le,
    Int.mul_ediv_cancel' multiple]

/-- The label of a finer bucket is in the coarser bucket of its times. -/
theorem slot_bucketStartMs (multiple : middle.millis ∣ coarse.millis) {time : I64}
    (low : -2 ^ 63 ≤ middle.slot time * middle.millis) :
    coarse.slot (middle.bucketStartMs time) = coarse.slot time := by
  have label : (middle.bucketStartMs time : ℤ) = middle.slot time * middle.millis := by
    rw [middle.coe_bucketStartMs]
    exact max_eq_right low
  rw [slot_coarser multiple, slot_coarser multiple time, Interval.slot, label,
    Int.mul_ediv_cancel _ middle.millis_pos.ne']

/-- A multiple of the finer width starts a coarser bucket where the one before it lies in
another. -/
theorem dvd_succ_iff {slot : ℤ} {finer wider : ℤ} (multiple : finer ∣ wider) (positive : 0 < finer)
    (positive' : 0 < wider) :
    wider ∣ (slot + 1) * finer ↔ slot / (wider / finer) ≠ (slot + 1) / (wider / finer) := by
  obtain ⟨times, rfl⟩ := multiple
  have many : 0 < times := pos_of_mul_pos_right positive' positive.le
  rw [Int.mul_ediv_cancel_left _ positive.ne', mul_comm finer times,
    Int.mul_dvd_mul_iff_right positive.ne']
  have whole := Int.mul_ediv_add_emod (slot + 1) times
  have low := Int.emod_nonneg (slot + 1) many.ne'
  have high := Int.emod_lt_of_pos (slot + 1) many
  constructor
  · intro divides same
    have none := Int.emod_eq_zero_of_dvd divides
    have below := Int.mul_ediv_self_le (x := slot) many.ne'
    have above := Int.lt_mul_ediv_self_add (x := slot) many
    rw [same] at below
    omega
  · intro apart
    by_contra inside
    have some : (slot + 1) % times ≠ 0 := mt Int.dvd_of_emod_eq_zero inside
    have split : (slot + 1) % times - 1 + times * ((slot + 1) / times) = slot ∧
        0 ≤ (slot + 1) % times - 1 ∧ (slot + 1) % times - 1 < times := by omega
    exact apart ((Int.ediv_emod_unique many).mpr split).1

/-- The finer buckets of each coarser one. -/
def nested (coarse : Interval) (split : List (Block (Bar Decimal))) :
    List (Block (Block (Bar Decimal))) :=
  blocks (fun bucket => coarse.slot bucket.first.openTimeMs) split

omit [LinearOrder Decimal] [AddCommMonoid Decimal] in
/-- Cutting into coarse buckets is cutting into middle ones first and joining those that lie in one
coarse bucket. -/
theorem buckets_coarser (multiple : middle.millis ∣ coarse.millis) (bars : List (Bar Decimal)) :
    buckets coarse bars = (nested coarse (buckets middle bars)).map Block.join := by
  have coarser := blocks_coarse (fun bar : Bar Decimal => middle.slot bar.openTimeMs)
    (fun slot => slot / (coarse.millis / middle.millis)) bars
  simp only [← slot_coarser multiple] at coarser
  exact coarser

/-- The buckets of the bars of finer buckets. -/
theorem buckets_map_barOf (multiple : middle.millis ∣ coarse.millis)
    {split : List (Block (Bar Decimal))}
    (low : ∀ bucket ∈ split, -2 ^ 63 ≤ middle.slot bucket.first.openTimeMs * middle.millis) :
    buckets coarse (split.map (barOf middle)) =
      (nested coarse split).map (Block.map (barOf middle)) := by
  rw [buckets, blocks_map, nested]
  congr 1
  refine blocks_congr _ fun bucket member => ?_
  change coarse.slot (middle.bucketStartMs (bucket.fold Bar.absorb).openTimeMs) = _
  rw [openTimeMs_fold]
  exact slot_bucketStartMs multiple (low bucket member)

/-- **The bar of buckets in a row is the bar of their bars.** -/
theorem barOf_join (multiple : middle.millis ∣ coarse.millis) {outer : Block (Block (Bar Decimal))}
    (low : -2 ^ 63 ≤ middle.slot outer.first.first.openTimeMs * middle.millis) :
    barOf coarse (outer.map (barOf middle)) = barOf coarse outer.join := by
  have relabelled (later : List (Block (Bar Decimal))) (bar : Bar Decimal) :
      (later.map (barOf middle)).foldl Bar.absorb bar =
        (later.map (Block.fold Bar.absorb)).foldl Bar.absorb bar := by
    induction later generalizing bar with
    | nil => rfl
    | cons next later ih => exact ih _
  have folded : (outer.map (barOf middle)).fold Bar.absorb =
      (outer.join.fold Bar.absorb).relabel middle := by
    rw [Block.fold_join, Block.fold, Block.fold]
    exact (relabelled outer.rest _).trans (foldl_relabel _ _)
  have label : coarse.bucketStartMs (middle.bucketStartMs outer.first.first.openTimeMs) =
      coarse.bucketStartMs outer.first.first.openTimeMs :=
    coarse.bucketStartMs_inj.mpr (slot_bucketStartMs multiple low)
  have start : (outer.join.fold Bar.absorb).openTimeMs = outer.first.first.openTimeMs :=
    openTimeMs_fold _
  rw [barOf, barOf, folded]
  simp only [Bar.relabel, start, label]

/-- The coarser buckets from a boundary on. -/
def nestedFromBoundary (coarse : Interval) :
    List (Block (Block (Bar Decimal))) → List (Block (Block (Bar Decimal)))
  | [] => []
  | leading :: later =>
      if coarse.millis ∣ (leading.first.first.openTimeMs : ℤ) then leading :: later else later

omit [LinearOrder Decimal] [AddCommMonoid Decimal] in
/-- Starting at a coarse boundary drops outer buckets and reorders none. -/
theorem nestedFromBoundary_sublist (outer : List (Block (Block (Bar Decimal)))) :
    (nestedFromBoundary coarse outer).Sublist outer := by
  cases outer with
  | nil => exact .slnil
  | cons leading later =>
      rw [nestedFromBoundary]
      split
      · exact .refl _
      · exact List.sublist_cons_self _ _

omit [LinearOrder Decimal] [AddCommMonoid Decimal] in
/-- It does not matter whether joined buckets or their parts start at the boundary. -/
theorem fromBoundary_map_join (outer : List (Block (Block (Bar Decimal)))) :
    fromBoundary coarse (outer.map Block.join) =
      (nestedFromBoundary coarse outer).map Block.join := by
  cases outer with
  | nil => rfl
  | cons leading later =>
      rw [nestedFromBoundary, apply_ite (List.map Block.join)]
      rfl

/-- It does not matter whether the bars of the middle buckets or the buckets start at the coarse
boundary. -/
theorem fromBoundary_map_barOf {outer : List (Block (Block (Bar Decimal)))}
    (boundary : ∀ leading ∈ outer.head?, middle.millis ∣ (leading.first.first.openTimeMs : ℤ)) :
    fromBoundary coarse (outer.map (Block.map (barOf middle))) =
      (nestedFromBoundary coarse outer).map (Block.map (barOf middle)) := by
  cases outer with
  | nil => rfl
  | cons leading later =>
      have label : ((barOf middle leading.first).openTimeMs : ℤ) =
          leading.first.first.openTimeMs := by
        change (middle.bucketStartMs (leading.first.fold Bar.absorb).openTimeMs : ℤ) = _
        have start := leading.first.first.openTimeMs.2.1
        rw [openTimeMs_fold, middle.coe_bucketStartMs, Interval.slot,
          Int.ediv_mul_cancel (boundary leading rfl)]
        exact max_eq_right start
      rw [nestedFromBoundary, apply_ite (List.map (Block.map (barOf middle))), ← label]
      rfl

omit [LinearOrder Decimal] [AddCommMonoid Decimal] in
/-- **What the finer pass drops, the coarser pass drops**, whether its leading bucket lies in the
same coarser bucket as the next one or before it. -/
theorem nestedFromBoundary_fromBoundary (coarser : fine.Coarsens middle)
    (further : middle.Coarsens coarse) {split : List (Block (Bar Decimal))}
    (seamless : Seamless fine middle split) :
    nestedFromBoundary coarse (nested coarse (fromBoundary middle split)) =
      nestedFromBoundary coarse (nested coarse split) := by
  cases split with
  | nil => rfl
  | cons leading later =>
      rw [fromBoundary]
      split
      · rfl
      · rename_i inside
        have inside' : ¬ coarse.millis ∣ (leading.first.openTimeMs : ℤ) :=
          fun multiple => inside (further.multiple.trans multiple)
        cases later with
        | nil => exact (if_neg inside').symm
        | cons next later =>
            have slot := seamless.next_slot coarser
            have boundary := seamless.next_boundary coarser
            obtain ⟨rest, others, opening⟩ := exists_blocks_cons
              (fun bucket : Block (Bar Decimal) => coarse.slot bucket.first.openTimeMs) next later
            have whole : nested coarse (next :: later) = ⟨next, rest⟩ :: others := opening
            have extended : nested coarse (leading :: next :: later) =
                extend (fun bucket => coarse.slot bucket.first.openTimeMs) leading
                  (⟨next, rest⟩ :: others) := by
              rw [← whole]
              rfl
            have starts : coarse.millis ∣ (next.first.openTimeMs : ℤ) ↔
                coarse.slot leading.first.openTimeMs ≠ coarse.slot next.first.openTimeMs := by
              rw [slot_coarser further.multiple, slot_coarser further.multiple, slot,
                seamless.next_first coarser]
              exact dvd_succ_iff further.multiple middle.millis_pos coarse.millis_pos
            rw [whole, extended, nestedFromBoundary, extend]
            by_cases same : coarse.slot leading.first.openTimeMs = coarse.slot next.first.openTimeMs
            · rw [if_pos same, if_neg fun multiple => starts.mp multiple same]
              exact (if_neg inside').symm
            · rw [if_neg same, if_pos (starts.mpr same)]
              exact (if_neg inside').symm

omit [LinearOrder Decimal] [AddCommMonoid Decimal] in
/-- Seamless middle buckets lead every outer bucket at a boundary of the middle interval. -/
theorem Seamless.boundary (coarser : fine.Coarsens middle) {split : List (Block (Bar Decimal))}
    (seamless : Seamless fine middle split) :
    ∀ leading ∈ (nested coarse (fromBoundary middle split)).head?,
      middle.millis ∣ (leading.first.first.openTimeMs : ℤ) := by
  have first : ∀ bucket ∈ (fromBoundary middle split).head?,
      middle.millis ∣ (bucket.first.openTimeMs : ℤ) := by
    cases split with
    | nil => exact fun _ absent => absurd absent (Option.not_mem_none _)
    | cons leading later =>
        rw [fromBoundary]
        split
        · rename_i boundary
          exact fun bucket same => Option.some.inj same ▸ boundary
        · cases later with
          | nil => exact fun _ absent => absurd absent (Option.not_mem_none _)
          | cons next later =>
              exact fun bucket same => Option.some.inj same ▸ seamless.next_boundary coarser
  generalize fromBoundary middle split = kept at first
  cases kept with
  | nil => exact fun _ absent => absurd absent (Option.not_mem_none _)
  | cons bucket later =>
      obtain ⟨rest, others, opening⟩ := exists_blocks_cons
        (fun bucket : Block (Bar Decimal) => coarse.slot bucket.first.openTimeMs) bucket later
      have whole : nested coarse (bucket :: later) = ⟨bucket, rest⟩ :: others := opening
      rw [whole]
      exact fun leading same => Option.some.inj same ▸ first bucket rfl

/-- **Two passes make of bars without a hole what one pass makes of them.** A chart may therefore be
built from the finest bars or from bars it already has. Both ends are included: what the first pass
drops at the edges the second would have dropped as well. -/
theorem resample_composes (coarser : fine.Coarsens middle) (further : middle.Coarsens coarse)
    (free : HoleFree fine bars) :
    ∃ middles wholes, resample bars fine middle = .ok middles ∧
      resample middles middle coarse = .ok wholes ∧ resample bars fine coarse = .ok wholes := by
  have multiple := further.multiple
  have direct : fine.Coarsens coarse :=
    ⟨coarser.wider.trans further.wider, coarser.multiple.trans multiple⟩
  obtain ⟨first, free'⟩ := free.resampled coarser
  refine ⟨_, _, first, (free'.resampled further).1, ?_⟩
  have low {bucket : Block (Bar Decimal)} (member : bucket ∈ wholeBuckets middle bars) :
      -2 ^ 63 ≤ middle.slot bucket.first.openTimeMs * middle.millis := by
    rw [← coe_openTimeMs_barOf free.inOrder member]
    exact (barOf middle bucket).openTimeMs.2.1
  have seamless : Seamless fine middle (buckets middle bars) := free.seamless
  have opening : ∀ leading ∈ (nested coarse (wholeBuckets middle bars)).head?,
      middle.millis ∣ (leading.first.first.openTimeMs : ℤ) := seamless.boundary coarser
  rw [(free.resampled direct).1]
  congr 1
  rw [wholeBuckets, buckets_coarser multiple, fromBoundary_map_join,
    ← nestedFromBoundary_fromBoundary coarser further seamless, List.map_map, wholeBuckets,
    buckets_map_barOf multiple fun bucket member => low member, fromBoundary_map_barOf opening,
    List.map_map]
  refine List.map_congr_left fun outer member => (barOf_join multiple (low ?_)).symm
  have among := (nestedFromBoundary_sublist _).subset member
  exact mem_of_mem_blocks _ among outer.first_mem

/-! ## Half an hour of minutes -/

def fifteenMinutes : Interval := ⟨15, .minute, by decide, by decide, by rintro (_ | _) <;> decide⟩

/-- From inside a bucket of five minutes on, into another one. -/
def halfHour : List (Bar ℤ) := (List.range 30).map fun minute => quietMinute (minute + 3)

/-- Of half an hour of minutes, five-minute bars make the same quarters of an hour as the minutes
themselves. -/
theorem half_hour_composes : ∃ middles wholes,
    resample halfHour oneMinute fiveMinutes = .ok middles ∧
      resample middles fiveMinutes fifteenMinutes = .ok wholes ∧
      resample halfHour oneMinute fifteenMinutes = .ok wholes :=
  resample_composes ⟨by decide, by decide⟩ ⟨by decide, by decide⟩
    ⟨by decide +kernel, by decide +kernel⟩

end Oppen.Candles
