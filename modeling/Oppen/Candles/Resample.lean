import Oppen.Candles.Bar
import Oppen.Foundation.Fold

/-! # Resampling

Bars of one interval are aggregated into bars of a multiple of it, in one pass with the target
bucket under construction at hand. The pass accepts exactly the slices in order whose target
buckets, from the first one that starts a bucket on, are complete, but for the last one, which
has no hole; and it returns the join of each of them.
-/

namespace Oppen.Candles

open Foundation Oppen.Ledger

/-- Why a resample was refused. -/
inductive ResampleError where
  | notAMultiple (source target : String)
  | notCoarser (source target : String)
  | misaligned (source : String) (openTimeMs : I64)
  | outOfOrder (openTimeMs : I64)
  | incompleteBucket (openTimeMs : I64) (got want : ℤ)
  deriving DecidableEq

/-- A target bucket under construction. -/
structure Pending (Decimal : Type) where
  bar : Bar Decimal
  got : ℤ
  openedOnBoundary : Bool
  lastOpenMs : I64

/-- What the pass over the source bars has at hand. -/
structure Pass (Decimal : Type) where
  out : List (Bar Decimal)
  pending : Option (Pending Decimal)
  previousOpen : Option I64
  /-- Set once the first target bucket has been decided. -/
  leadingResolved : Bool

def Pass.start {Decimal : Type} : Pass Decimal := ⟨[], none, none, false⟩

variable {Decimal : Type}

namespace Pending

/-- `Pending::seal`: a bucket that has been left behind; `none` drops it. -/
def sealBucket (pending : Pending Decimal) (want : ℤ) (leadingResolved : Bool) :
    Except ResampleError (Option (Bar Decimal)) :=
  if pending.got = want then .ok (some pending.bar)
  else if leadingResolved = false ∧ pending.openedOnBoundary = false then .ok none
  else .error (.incompleteBucket pending.bar.openTimeMs pending.got want)

/-- `Pending::is_contiguous_prefix`. -/
def isContiguousPrefix (pending : Pending Decimal) (sourceMs : ℤ) : Prop :=
  pending.lastOpenMs = I64.saturate (pending.bar.openTimeMs +
    I64.saturate (I64.saturate (pending.got - 1) * sourceMs))

instance (pending : Pending Decimal) (sourceMs : ℤ) :
    Decidable (pending.isContiguousPrefix sourceMs) :=
  inferInstanceAs (Decidable (_ = _))

end Pending

/-- After the last bar: the trailing bucket may be short, but not have a hole. -/
def Pass.finish (source : Interval) (want : ℤ) (pass : Pass Decimal) :
    Except ResampleError (List (Bar Decimal)) :=
  match pass.pending with
  | none => .ok pass.out
  | some last =>
      if pass.leadingResolved = true ∨ last.openedOnBoundary = true then do
        refuseIf (¬ last.isContiguousPrefix source.millis)
          (.incompleteBucket last.bar.openTimeMs last.got want)
        return pass.out ++ [last.bar]
      else .ok pass.out

variable [LinearOrder Decimal] [AddCommMonoid Decimal]

namespace Pending

/-- A bucket with its first bar. -/
def opened (target : Interval) (bar : Bar Decimal) : Pending Decimal where
  bar := bar.relabel target
  got := 1
  openedOnBoundary := bar.openTimeMs = target.bucketStartMs bar.openTimeMs
  lastOpenMs := bar.openTimeMs

/-- One more bar of the same bucket. -/
def absorb (pending : Pending Decimal) (bar : Bar Decimal) : Pending Decimal :=
  { pending with
    bar := pending.bar.absorb bar
    got := pending.got + 1
    lastOpenMs := bar.openTimeMs }

end Pending

/-- One source bar. -/
def Pass.step (source target : Interval) (want : ℤ) (pass : Pass Decimal) (bar : Bar Decimal) :
    Except ResampleError (Pass Decimal) := do
  refuseIf (Int.tmod bar.openTimeMs source.millis ≠ 0)
    (.misaligned source.display bar.openTimeMs)
  refuseIf (pass.previousOpen.any (fun previous => bar.openTimeMs ≤ previous) = true)
    (.outOfOrder bar.openTimeMs)
  match pass.pending with
  | none =>
      return ⟨pass.out, some (.opened target bar), some bar.openTimeMs, pass.leadingResolved⟩
  | some current =>
      if current.bar.openTimeMs = target.bucketStartMs bar.openTimeMs then
        return ⟨pass.out, some (current.absorb bar), some bar.openTimeMs, pass.leadingResolved⟩
      else do
        let kept ← current.sealBucket want pass.leadingResolved
        return ⟨pass.out ++ kept.toList, some (.opened target bar), some bar.openTimeMs, true⟩

/-- Aggregates bars of one interval into a coarser one. -/
def resample (sourceBars : List (Bar Decimal)) (source target : Interval) :
    Except ResampleError (List (Bar Decimal)) := do
  refuseIf (target.millis ≤ source.millis) (.notCoarser source.display target.display)
  refuseIf (Int.tmod target.millis source.millis ≠ 0)
    (.notAMultiple source.display target.display)
  let want := target.millis / source.millis
  let pass ← sourceBars.foldlM (Pass.step source target want) Pass.start
  pass.finish source want

/-! ## What is resampled -/

/-- The target is a proper multiple of the source. -/
structure Interval.Coarsens (source target : Interval) : Prop where
  wider : source.millis < target.millis
  multiple : source.millis ∣ target.millis

/-- Aligned to the source interval, and strictly ascending. -/
structure InOrder (source : Interval) (bars : List (Bar Decimal)) : Prop where
  aligned : ∀ bar ∈ bars, source.millis ∣ (bar.openTimeMs : ℤ)
  ascending : bars.IsChain fun bar next => (bar.openTimeMs : ℤ) < next.openTimeMs

/-- The bars of each target bucket. -/
def buckets (target : Interval) (bars : List (Bar Decimal)) : List (Block (Bar Decimal)) :=
  blocks (fun bar => target.slot bar.openTimeMs) bars

/-- The buckets from the first one on whose start the bars have. -/
def fromBoundary (target : Interval) : List (Block (Bar Decimal)) → List (Block (Bar Decimal))
  | [] => []
  | leading :: later =>
      if target.millis ∣ (leading.first.openTimeMs : ℤ) then leading :: later else later

/-- The bar of a bucket. -/
def barOf (target : Interval) (bucket : Block (Bar Decimal)) : Bar Decimal :=
  (bucket.fold Bar.absorb).relabel target

/-- The bars of a bucket are its first slots, with nothing missing between them. -/
def Contiguous (source target : Interval) (bucket : Block (Bar Decimal)) : Prop :=
  (bucket.last.openTimeMs : ℤ) =
    target.slot bucket.first.openTimeMs * target.millis + bucket.rest.length * source.millis

/-- All buckets but the last one are complete, and the last one has no hole. -/
def Settled (source target : Interval) : List (Block (Bar Decimal)) → Prop
  | [] => True
  | [last] => Contiguous source target last
  | bucket :: next :: later =>
      (bucket.toList.length : ℤ) = target.millis / source.millis ∧
        Settled source target (next :: later)

/-! ## The pass over one bucket -/

section Passing

variable {source target : Interval} {want : ℤ} {out : List (Bar Decimal)}
  {previous : Option I64} {resolved : Bool}

/-- What is pending after the bars of a bucket. -/
def summary (target : Interval) (bucket : Block (Bar Decimal)) : Pending Decimal :=
  bucket.rest.foldl Pending.absorb (.opened target bucket.first)

/-- Absorbing the rest of a bucket is the fold of its bars, with their number and the last
opening. -/
theorem foldl_absorb (rest : List (Bar Decimal)) (pending : Pending Decimal) (last : Bar Decimal)
    (here : pending.lastOpenMs = last.openTimeMs) :
    rest.foldl Pending.absorb pending =
      ⟨rest.foldl Bar.absorb pending.bar, pending.got + rest.length, pending.openedOnBoundary,
        (rest.getLastD last).openTimeMs⟩ := by
  induction rest generalizing pending last with
  | nil =>
      rw [List.foldl_nil, List.foldl_nil, List.length_nil, Nat.cast_zero, add_zero,
        List.getLastD_nil, ← here]
  | cons bar rest ih =>
      rw [List.foldl_cons, ih (pending.absorb bar) bar rfl, List.getLastD_cons, List.length_cons]
      simp only [Pending.absorb, List.foldl_cons, Nat.cast_add, Nat.cast_one, Pending.mk.injEq,
        and_true, true_and]
      omega

/-- Folding into a relabelled bar relabels the fold. -/
theorem foldl_relabel (rest : List (Bar Decimal)) (bar : Bar Decimal) :
    rest.foldl Bar.absorb (bar.relabel target) = (rest.foldl Bar.absorb bar).relabel target := by
  induction rest generalizing bar with
  | nil => rfl
  | cons next rest ih => rw [List.foldl_cons, List.foldl_cons, ← Bar.relabel_absorb, ih]

/-- The fold of a bucket opens where its first bar does. -/
theorem openTimeMs_fold (bucket : Block (Bar Decimal)) :
    (bucket.fold Bar.absorb).openTimeMs = bucket.first.openTimeMs := by
  rw [Block.fold]
  generalize bucket.first = bar
  induction bucket.rest generalizing bar with
  | nil => rfl
  | cons next rest ih => rw [List.foldl_cons, ih, Bar.openTimeMs_absorb]

/-- The summary the loop ends with is the bar of the bucket, with its size and its two ends. -/
theorem summary_eq (bucket : Block (Bar Decimal)) :
    summary target bucket =
      ⟨barOf target bucket, 1 + bucket.rest.length,
        bucket.first.openTimeMs = target.bucketStartMs bucket.first.openTimeMs,
        bucket.last.openTimeMs⟩ := by
  rw [summary, foldl_absorb bucket.rest _ bucket.first rfl, Pending.opened, foldl_relabel]
  rfl

/-- A bar in order is not refused. -/
theorem Pass.step_admitted {pass : Pass Decimal} {bar : Bar Decimal}
    (aligned : source.millis ∣ (bar.openTimeMs : ℤ))
    (later : ∀ time ∈ pass.previousOpen, (time : ℤ) < bar.openTimeMs) :
    pass.step source target want bar =
      match pass.pending with
      | none =>
          .ok ⟨pass.out, some (.opened target bar), some bar.openTimeMs, pass.leadingResolved⟩
      | some current =>
          if current.bar.openTimeMs = target.bucketStartMs bar.openTimeMs then
            .ok ⟨pass.out, some (current.absorb bar), some bar.openTimeMs, pass.leadingResolved⟩
          else do
            let kept ← current.sealBucket want pass.leadingResolved
            return ⟨pass.out ++ kept.toList, some (.opened target bar), some bar.openTimeMs,
              true⟩ := by
  have whole : ¬ Int.tmod bar.openTimeMs source.millis ≠ 0 :=
    not_not.mpr (Int.tmod_eq_zero_of_dvd aligned)
  have after : ¬ pass.previousOpen.any (fun previous => bar.openTimeMs ≤ previous) = true := by
    cases before : pass.previousOpen with
    | none => exact Bool.false_ne_true
    | some time =>
        have ahead := later time before
        simp only [Option.any_some, decide_eq_true_eq, not_le]
        exact ahead
  rw [Pass.step, refuseIf, refuseIf, if_neg whole, if_neg after]
  cases pass.pending <;> rfl

/-- Every accepted slice is in order. -/
theorem inOrder_of_ok {bars : List (Bar Decimal)} {pass : Pass Decimal}
    (run : bars.foldlM (Pass.step source target want) Pass.start = .ok pass) :
    InOrder source bars := by
  have history := foldlM_history
    (fun seen (pass : Pass Decimal) => InOrder source seen ∧
      pass.previousOpen = seen.getLast?.map Bar.openTimeMs)
    ⟨⟨fun _ absent => absurd absent List.not_mem_nil, .nil⟩, rfl⟩ ?_ run
  · exact history.1
  · rintro seen before bar after ⟨ordered, previous⟩ moved
    obtain ⟨_, whole, moved⟩ := bind_eq_ok moved
    obtain ⟨_, later, moved⟩ := bind_eq_ok moved
    have whole := not_not.mp (refuseIf_ok whole)
    have later := refuseIf_ok later
    refine ⟨⟨?_, ?_⟩, ?_⟩
    · intro other member
      rcases List.mem_append.mp member with old | new
      · exact ordered.aligned other old
      · rw [List.mem_singleton.mp new]
        exact Int.dvd_of_tmod_eq_zero whole
    · refine List.isChain_append.mpr ⟨ordered.ascending, .singleton _, ?_⟩
      intro last isLast next isNext
      rw [List.head?_cons, Option.mem_some_iff] at isNext
      subst isNext
      rw [previous, Option.mem_def.mp isLast] at later
      simp only [Option.map_some, Option.any_some, decide_eq_true_eq, not_le] at later
      exact later
    · rw [List.getLast?_concat, Option.map_some]
      cases pending : before.pending with
      | none =>
          rw [pending] at moved
          obtain rfl := Except.ok.inj moved
          rfl
      | some current =>
          rw [pending] at moved
          dsimp only at moved
          split at moved
          · obtain rfl := Except.ok.inj moved
            rfl
          · obtain ⟨kept, -, moved⟩ := bind_eq_ok moved
            obtain rfl := Except.ok.inj moved
            rfl

end Passing

/-! ## Bars of one bucket -/

section Bucket

variable {source target : Interval}

omit [LinearOrder Decimal] [AddCommMonoid Decimal] in
/-- Bars in order lie a source interval apart, at least. -/
theorem InOrder.span {first : Bar Decimal} {rest : List (Bar Decimal)}
    (ordered : InOrder source (first :: rest)) :
    (first.openTimeMs : ℤ) + rest.length * source.millis ≤ (rest.getLastD first).openTimeMs := by
  induction rest generalizing first with
  | nil => simp
  | cons next rest ih =>
      obtain ⟨ahead, ascending⟩ := List.isChain_cons_cons.mp ordered.ascending
      have later := ih ⟨fun bar member => ordered.aligned bar (List.mem_cons_of_mem _ member),
        ascending⟩
      have apart : source.millis ∣ (next.openTimeMs : ℤ) - first.openTimeMs :=
        Int.dvd_sub (ordered.aligned next (by simp)) (ordered.aligned first (by simp))
      have wide := Int.le_of_dvd (by omega) apart
      rw [List.getLastD_cons, List.length_cons, Nat.cast_add, Nat.cast_one, add_mul, one_mul]
      omega

/-- The bars of one target bucket. -/
structure OneBucket (source target : Interval) (bucket : Block (Bar Decimal)) : Prop where
  ordered : InOrder source bucket.toList
  uniform : ∀ bar ∈ bucket.toList,
    target.slot bar.openTimeMs = target.slot bucket.first.openTimeMs

namespace OneBucket

variable {bucket : Block (Bar Decimal)} (one : OneBucket source target bucket)
include one

omit [LinearOrder Decimal] [AddCommMonoid Decimal] in
/-- The last bar of a bucket is in the slot of the first. -/
theorem last_slot :
    target.slot bucket.last.openTimeMs = target.slot bucket.first.openTimeMs :=
  one.uniform _ bucket.last_mem

omit [LinearOrder Decimal] [AddCommMonoid Decimal] in
/-- The bars of a bucket fit into it. -/
theorem fits :
    (bucket.first.openTimeMs : ℤ) + bucket.rest.length * source.millis <
      target.slot bucket.first.openTimeMs * target.millis + target.millis := by
  have span : _ ≤ (bucket.last.openTimeMs : ℤ) := one.ordered.span
  have below := target.lt_slot_mul bucket.last.openTimeMs
  rw [one.last_slot] at below
  omega

omit [LinearOrder Decimal] [AddCommMonoid Decimal] in
/-- A bucket without its first slot is short. -/
theorem short (coarser : source.Coarsens target)
    (inside : ¬ target.millis ∣ (bucket.first.openTimeMs : ℤ)) :
    (1 + bucket.rest.length : ℤ) ≠ target.millis / source.millis := by
  intro full
  have fits := one.fits
  have low := target.slot_mul_le bucket.first.openTimeMs
  have ahead : target.slot bucket.first.openTimeMs * target.millis ≠ bucket.first.openTimeMs :=
    fun same => inside ⟨target.slot bucket.first.openTimeMs, by rw [mul_comm]; exact same.symm⟩
  have apart : source.millis ∣
      (bucket.first.openTimeMs : ℤ) - target.slot bucket.first.openTimeMs * target.millis :=
    Int.dvd_sub (one.ordered.aligned _ bucket.first_mem) (coarser.multiple.mul_left _)
  have wide := Int.le_of_dvd (by omega) apart
  have whole := Int.ediv_mul_cancel coarser.multiple
  rw [← full, add_mul, one_mul] at whole
  omega

/-- What is pending says whether the bars of a bucket have a hole. -/
theorem isContiguousPrefix_iff
    (low : -2 ^ 63 ≤ target.slot bucket.first.openTimeMs * target.millis) :
    (summary target bucket).isContiguousPrefix source.millis ↔ Contiguous source target bucket := by
  have fits := one.fits
  have start := target.slot_mul_le bucket.first.openTimeMs
  have width := target.millis_le
  have positive := source.millis_pos
  have span : _ ≤ (bucket.last.openTimeMs : ℤ) := one.ordered.span
  have high := bucket.last.openTimeMs.2.2
  have count : (bucket.rest.length : ℤ) ≤ bucket.rest.length * source.millis :=
    le_mul_of_one_le_right (by omega) (by omega)
  have label : ((barOf target bucket).openTimeMs : ℤ) =
      target.slot bucket.first.openTimeMs * target.millis := by
    change (target.bucketStartMs (bucket.fold Bar.absorb).openTimeMs : ℤ) = _
    rw [openTimeMs_fold, target.coe_bucketStartMs]
    omega
  rw [Pending.isContiguousPrefix, summary_eq, Contiguous]
  dsimp only
  have got : -2 ^ 63 ≤ (bucket.rest.length : ℤ) := by omega
  have wide : -2 ^ 63 ≤ bucket.rest.length * source.millis := by omega
  rw [add_sub_cancel_left, I64.saturate_of_mem got (by omega),
    I64.saturate_of_mem wide (by omega), label, ← Subtype.coe_inj,
    I64.saturate_of_mem (by omega) (by omega)]

end OneBucket

end Bucket

/-! ## The pass over all buckets -/

section Tiling

variable {source target : Interval}

/-- Buckets in a row, with the bars of each. -/
structure Tiled (source target : Interval) (split : List (Block (Bar Decimal))) : Prop where
  each : ∀ bucket ∈ split, OneBucket source target bucket
  ahead : split.IsChain fun bucket next =>
    (bucket.last.openTimeMs : ℤ) < next.first.openTimeMs
  apart : split.IsChain fun bucket next =>
    target.slot bucket.first.openTimeMs ≠ target.slot next.first.openTimeMs

omit [LinearOrder Decimal] [AddCommMonoid Decimal] in
/-- The buckets of an ordered slice tile it. -/
theorem InOrder.tiled {bars : List (Bar Decimal)} (ordered : InOrder source bars) :
    Tiled source target (buckets target bars) := by
  have ascending := ordered.ascending
  have whole : (buckets target bars).flatMap Block.toList = bars := flatMap_blocks _ bars
  rw [← whole, isChain_flatMap_toList] at ascending
  refine ⟨fun bucket member => ?_, ascending.2,
    isChain_blocks (fun bar => target.slot bar.openTimeMs) bars⟩
  refine ⟨⟨fun bar inside => ordered.aligned bar ?_, ascending.1 bucket member⟩,
    fun bar inside => key_of_mem_block _ member inside⟩
  rw [← whole]
  exact List.mem_flatMap.mpr ⟨bucket, member, inside⟩

omit [LinearOrder Decimal] [AddCommMonoid Decimal] in
/-- The buckets behind the first tile what they hold. -/
theorem Tiled.tail {bucket : Block (Bar Decimal)} {later : List (Block (Bar Decimal))}
    (tiled : Tiled source target (bucket :: later)) : Tiled source target later :=
  ⟨fun other member => tiled.each other (List.mem_cons_of_mem _ member), tiled.ahead.tail,
    tiled.apart.tail⟩

omit [LinearOrder Decimal] [AddCommMonoid Decimal] in
/-- A later bucket starts later. -/
theorem Tiled.slot_lt {bucket next : Block (Bar Decimal)} {later : List (Block (Bar Decimal))}
    (tiled : Tiled source target (bucket :: next :: later)) :
    target.slot bucket.first.openTimeMs < target.slot next.first.openTimeMs := by
  have ahead := (List.isChain_cons_cons.mp tiled.ahead).1
  have apart := (List.isChain_cons_cons.mp tiled.apart).1
  have one := tiled.each bucket List.mem_cons_self
  rw [← one.last_slot] at apart ⊢
  exact lt_of_le_of_ne (Int.ediv_le_ediv target.millis_pos ahead.le) apart

variable {want : ℤ} {out final : List (Bar Decimal)} {resolved : Bool}

/-- The further bars of the bucket that is pending. -/
theorem absorbs {rest : List (Bar Decimal)} {last : Bar Decimal} {pending : Pending Decimal}
    (ordered : InOrder source (last :: rest))
    (same : ∀ bar ∈ rest, pending.bar.openTimeMs = target.bucketStartMs bar.openTimeMs) :
    rest.foldlM (Pass.step source target want) ⟨out, some pending, some last.openTimeMs, resolved⟩ =
      .ok ⟨out, some (rest.foldl Pending.absorb pending), some (rest.getLastD last).openTimeMs,
        resolved⟩ := by
  induction rest generalizing last pending with
  | nil => rfl
  | cons bar rest ih =>
      obtain ⟨ahead, ascending⟩ := List.isChain_cons_cons.mp ordered.ascending
      have moved : Pass.step source target want
          ⟨out, some pending, some last.openTimeMs, resolved⟩ bar =
          .ok ⟨out, some (pending.absorb bar), some bar.openTimeMs, resolved⟩ := by
        rw [Pass.step_admitted (ordered.aligned bar (by simp)) ?_]
        · exact if_pos (same bar List.mem_cons_self)
        · intro time known
          rwa [← Option.some.inj known]
      rw [List.foldlM_cons, moved, List.getLastD_cons]
      exact ih ⟨fun other member =>
        ordered.aligned other (List.mem_cons_of_mem _ member), ascending⟩
        fun other member => same other (List.mem_cons_of_mem _ member)

/-- The bars of a bucket whose first one is pending. -/
theorem OneBucket.absorbs {bucket : Block (Bar Decimal)} (one : OneBucket source target bucket) :
    bucket.rest.foldlM (Pass.step source target want)
        ⟨out, some (.opened target bucket.first), some bucket.first.openTimeMs, resolved⟩ =
      .ok ⟨out, some (summary target bucket), some bucket.last.openTimeMs, resolved⟩ :=
  Candles.absorbs one.ordered fun bar member =>
    target.bucketStartMs_inj.mpr (one.uniform bar (List.mem_cons_of_mem _ member)).symm

/-- Whether the first bar of a bucket was seen. -/
theorem OneBucket.openedOnBoundary_iff {bucket : Block (Bar Decimal)}
    (one : OneBucket source target bucket) :
    (summary target bucket).openedOnBoundary = true ↔
      target.millis ∣ (bucket.first.openTimeMs : ℤ) := by
  have aligned := source.thousand_dvd_millis.trans (one.ordered.aligned _ bucket.first_mem)
  rw [summary_eq, ← target.eq_bucketStartMs_iff aligned]
  exact decide_eq_true_iff

/-- The next bucket starts: the one that is left is kept, dropped or refused. -/
theorem step_next {bucket next : Block (Bar Decimal)} {later : List (Block (Bar Decimal))}
    (tiled : Tiled source target (bucket :: next :: later)) :
    next.toList.foldlM (Pass.step source target want)
        ⟨out, some (summary target bucket), some bucket.last.openTimeMs, resolved⟩ =
      (do
        let kept ← (summary target bucket).sealBucket want resolved
        return ⟨out ++ kept.toList, some (summary target next), some next.last.openTimeMs,
          true⟩) := by
  have one := tiled.each next (by simp)
  have other : ¬ (summary target bucket).bar.openTimeMs =
      target.bucketStartMs next.first.openTimeMs := by
    rw [summary_eq]
    change ¬ target.bucketStartMs (bucket.fold Bar.absorb).openTimeMs = _
    rw [openTimeMs_fold, target.bucketStartMs_inj]
    exact tiled.slot_lt.ne
  have ahead := (List.isChain_cons_cons.mp tiled.ahead).1
  rw [Block.toList, List.foldlM_cons, Pass.step_admitted (one.ordered.aligned _ next.first_mem) ?_]
  · dsimp only
    rw [if_neg other]
    cases (summary target bucket).sealBucket want resolved with
    | error error => rfl
    | ok kept => exact one.absorbs
  · intro time known
    rwa [← Option.some.inj known]

/-- The buckets whose bars are returned. -/
def returned (target : Interval) (resolved : Bool) (split : List (Block (Bar Decimal))) :
    List (Block (Bar Decimal)) :=
  if resolved = true then split else fromBoundary target split

omit [LinearOrder Decimal] [AddCommMonoid Decimal] in
/-- What is returned are all buckets, or all but a first one that does not start at its boundary. -/
theorem returned_eq (bucket : Block (Bar Decimal)) (later : List (Block (Bar Decimal))) :
    returned target resolved (bucket :: later) =
      if resolved = true ∨ target.millis ∣ (bucket.first.openTimeMs : ℤ) then bucket :: later
      else later := by
  cases resolved with
  | false =>
      rw [returned, if_neg Bool.false_ne_true, fromBoundary]
      simp only [Bool.false_eq_true, false_or]
  | true => rw [returned, if_pos rfl, if_pos (.inl rfl)]

/-- A bucket that is left is returned where it is complete, and dropped where its first slot was
not seen and no bucket was decided. -/
theorem OneBucket.sealBucket_eq {bucket : Block (Bar Decimal)}
    (one : OneBucket source target bucket) :
    (summary target bucket).sealBucket want resolved =
      if (bucket.toList.length : ℤ) = want then .ok (some (barOf target bucket))
      else if resolved = true ∨ target.millis ∣ (bucket.first.openTimeMs : ℤ) then
        .error (.incompleteBucket (barOf target bucket).openTimeMs bucket.toList.length want)
      else .ok none := by
  have got : (summary target bucket).got = bucket.toList.length := by
    rw [summary_eq, Block.toList, List.length_cons, Nat.cast_add, Nat.cast_one, add_comm]
  have kept := one.openedOnBoundary_iff
  rw [Pending.sealBucket, got]
  by_cases full : (bucket.toList.length : ℤ) = want
  · rw [if_pos full, if_pos full, summary_eq]
  · rw [if_neg full, if_neg full]
    by_cases decided : resolved = true ∨ target.millis ∣ (bucket.first.openTimeMs : ℤ)
    · rw [if_pos decided, if_neg ?_, summary_eq]
      rintro ⟨leading, inside⟩
      rcases decided with resolved | boundary
      · exact Bool.false_ne_true (leading.symm.trans resolved)
      · exact Bool.false_ne_true (inside.symm.trans (kept.mpr boundary))
    · obtain ⟨leading, inside⟩ := not_or.mp decided
      rw [if_neg decided, if_pos ⟨Bool.eq_false_iff.mpr leading,
        Bool.eq_false_iff.mpr (mt kept.mp inside)⟩]

/-- The trailing bucket. -/
theorem finish_iff {bucket : Block (Bar Decimal)} (one : OneBucket source target bucket)
    (low : resolved = true → -2 ^ 63 ≤ target.slot bucket.first.openTimeMs * target.millis)
    {previous : Option I64} :
    Pass.finish source want ⟨out, some (summary target bucket), previous, resolved⟩ = .ok final ↔
      Settled source target (returned target resolved [bucket]) ∧
        final = out ++ (returned target resolved [bucket]).map (barOf target) := by
  have kept : (resolved = true ∨ (summary target bucket).openedOnBoundary = true) ↔
      (resolved = true ∨ target.millis ∣ (bucket.first.openTimeMs : ℤ)) :=
    or_congr_right one.openedOnBoundary_iff
  rw [returned_eq, Pass.finish]
  dsimp only
  by_cases decided : resolved = true ∨ target.millis ∣ (bucket.first.openTimeMs : ℤ)
  · have low : -2 ^ 63 ≤ target.slot bucket.first.openTimeMs * target.millis := by
      rcases decided with resolved | boundary
      · exact low resolved
      · rw [Interval.slot, Int.ediv_mul_cancel boundary]
        exact bucket.first.openTimeMs.2.1
    rw [if_pos (kept.mpr decided), if_pos decided, summary_eq]
    change _ ↔ Contiguous source target bucket ∧ final = out ++ [barOf target bucket]
    rw [← one.isContiguousPrefix_iff low, summary_eq]
    by_cases whole : (summary target bucket).isContiguousPrefix source.millis
    · rw [summary_eq] at whole
      rw [refuseIf, if_neg (not_not.mpr whole)]
      constructor
      · intro run
        exact ⟨whole, (Except.ok.inj run).symm⟩
      · rintro ⟨-, rfl⟩
        rfl
    · rw [summary_eq] at whole
      rw [refuseIf, if_pos whole]
      constructor
      · intro run
        cases run
      · exact fun settled => absurd settled.1 whole
  · rw [if_neg (mt kept.mp decided), if_neg decided, List.map_nil, List.append_nil]
    constructor
    · intro run
      exact ⟨trivial, (Except.ok.inj run).symm⟩
    · rintro ⟨-, rfl⟩
      rfl

/-- **From a bucket that is pending on, the pass accepts what is settled.** -/
theorem closes (coarser : source.Coarsens target) {bucket : Block (Bar Decimal)}
    {later : List (Block (Bar Decimal))} (tiled : Tiled source target (bucket :: later))
    (low : resolved = true → -2 ^ 63 ≤ target.slot bucket.first.openTimeMs * target.millis) :
    (later.flatMap Block.toList).foldlM (Pass.step source target (target.millis / source.millis))
          ⟨out, some (summary target bucket), some bucket.last.openTimeMs, resolved⟩ >>=
        Pass.finish source (target.millis / source.millis) = .ok final ↔
      Settled source target (returned target resolved (bucket :: later)) ∧
        final = out ++ (returned target resolved (bucket :: later)).map (barOf target) := by
  have one := tiled.each bucket List.mem_cons_self
  induction later generalizing bucket out resolved with
  | nil => exact finish_iff one low
  | cons next later ih =>
      have high : -2 ^ 63 ≤ target.slot next.first.openTimeMs * target.millis := by
        have less : (target.slot bucket.first.openTimeMs + 1) * target.millis ≤
            target.slot next.first.openTimeMs * target.millis :=
          mul_le_mul_of_nonneg_right tiled.slot_lt target.millis_pos.le
        have above := target.lt_slot_mul bucket.first.openTimeMs
        have start := bucket.first.openTimeMs.2.1
        rw [add_mul, one_mul] at less
        omega
      have one' := tiled.each next (by simp)
      rw [List.flatMap_cons, List.foldlM_append, step_next tiled, returned_eq, one.sealBucket_eq]
      by_cases full : (bucket.toList.length : ℤ) = target.millis / source.millis
      · have boundary : target.millis ∣ (bucket.first.openTimeMs : ℤ) := by
          refine not_not.mp fun inside => one.short coarser inside ?_
          rw [← full, Block.toList, List.length_cons, Nat.cast_add, Nat.cast_one, add_comm]
        rw [if_pos full, if_pos (.inr boundary)]
        refine (ih tiled.tail (fun _ => high) one').trans ?_
        rw [returned, if_pos rfl, List.append_assoc]
        exact ⟨fun run => ⟨⟨full, run.1⟩, run.2⟩, fun run => ⟨run.1.2, run.2⟩⟩
      · rw [if_neg full]
        by_cases decided : resolved = true ∨ target.millis ∣ (bucket.first.openTimeMs : ℤ)
        · rw [if_pos decided, if_pos decided]
          constructor
          · intro run
            cases run
          · exact fun settled => absurd settled.1.1 full
        · rw [if_neg decided, if_neg decided]
          refine (ih tiled.tail (fun _ => high) one').trans ?_
          rw [returned, if_pos rfl, List.append_assoc]
          rfl

/-- Only a multiple is resampled to. -/
theorem coarsens_of_ok {bars : List (Bar Decimal)} (run : resample bars source target = .ok out) :
    source.Coarsens target := by
  obtain ⟨_, wider, run⟩ := bind_eq_ok run
  obtain ⟨_, multiple, -⟩ := bind_eq_ok run
  exact ⟨not_le.mp (refuseIf_ok wider),
    Int.dvd_of_tmod_eq_zero (not_not.mp (refuseIf_ok multiple))⟩

/-- **The slices that are resampled, and what is returned.** -/
theorem resample_ok_iff (coarser : source.Coarsens target) {bars : List (Bar Decimal)} :
    resample bars source target = .ok out ↔
      InOrder source bars ∧ Settled source target (fromBoundary target (buckets target bars)) ∧
        out = (fromBoundary target (buckets target bars)).map (barOf target) := by
  have wider : ¬ target.millis ≤ source.millis := not_le.mpr coarser.wider
  have multiple : ¬ Int.tmod target.millis source.millis ≠ 0 :=
    not_not.mpr (Int.tmod_eq_zero_of_dvd coarser.multiple)
  have passes : resample bars source target = bars.foldlM (Pass.step source target
      (target.millis / source.millis)) .start >>=
        Pass.finish source (target.millis / source.millis) := by
    rw [resample, refuseIf, refuseIf, if_neg wider, if_neg multiple]
    rfl
  have accepted (ordered : InOrder source bars) : resample bars source target = .ok out ↔
      Settled source target (fromBoundary target (buckets target bars)) ∧
        out = (fromBoundary target (buckets target bars)).map (barOf target) := by
    have tiled : Tiled source target (buckets target bars) := ordered.tiled
    have whole : (buckets target bars).flatMap Block.toList = bars := flatMap_blocks _ bars
    rw [passes]
    generalize buckets target bars = split at tiled whole ⊢
    subst whole
    cases split with
    | nil =>
        constructor
        · intro run
          exact ⟨trivial, (Except.ok.inj run).symm⟩
        · rintro ⟨-, rfl⟩
          rfl
    | cons bucket later =>
        have one := tiled.each bucket List.mem_cons_self
        have opens : Pass.step source target (target.millis / source.millis) .start bucket.first =
            .ok ⟨[], some (.opened target bucket.first), some bucket.first.openTimeMs, false⟩ :=
          Pass.step_admitted (one.ordered.aligned _ bucket.first_mem)
            fun time known => absurd known (Option.not_mem_none time)
        have closed : _ >>= _ = Except.ok out ↔ _ ∧ out = [] ++ _ :=
          closes coarser tiled fun never => absurd never Bool.false_ne_true
        rw [List.flatMap_cons, List.foldlM_append, Block.toList, List.foldlM_cons, opens]
        rw [List.nil_append, returned, if_neg Bool.false_ne_true] at closed
        refine Iff.trans ?_ closed
        change (bucket.rest.foldlM _ _ >>= _) >>= _ = _ ↔ _
        rw [one.absorbs]
        rfl
  constructor
  · intro run
    rw [passes] at run
    obtain ⟨pass, folded, -⟩ := bind_eq_ok run
    have ordered := inOrder_of_ok folded
    exact ⟨ordered, (accepted ordered).mp (passes.trans run)⟩
  · rintro ⟨ordered, settled⟩
    exact (accepted ordered).mpr settled

end Tiling

end Oppen.Candles
