import Oppen.Guardrail.Bucket

/-! # Runs of a token bucket

A bucket of a dense rate is a meter of tokens: `count` of them at most, filling at `count` a
period and drawn one by one. What holds of the meter holds of every sequence of calls.
-/

namespace Oppen.Guardrail.TokenBucket

open Foundation

variable {rate : OrderRate} {bucket : TokenBucket} {nowMs : UInt64}

/-! ## The meter -/

/-- The level in tokens. -/
def level (bucket : TokenBucket) : ℚ := bucket.volume / (micro * bucket.rate.perMs.toNat)

/-- How many tokens a rate brings in a millisecond. -/
def flow (rate : OrderRate) : ℚ := rate.count.toNat / rate.perMs.toNat

theorem flow_nonneg (rate : OrderRate) : 0 ≤ flow rate := by
  unfold flow
  positivity

theorem level_nonneg (bucket : TokenBucket) : 0 ≤ bucket.level := by
  unfold level
  positivity

/-- A refill fills the meter. -/
theorem level_accrued (dense : Dense rate) (sound : Sound rate bucket)
    (moving : 0 < rate.perMs.toNat) (forward : bucket.lastMs ≤ nowMs) :
    (bucket.accrued nowMs).level =
      Meter.fill (rate.count.toNat : ℚ) (flow rate) bucket.level
        ((nowMs.toNat : ℚ) - bucket.lastMs.toNat) := by
  have per : (0 : ℚ) < rate.perMs.toNat := by exact_mod_cast moving
  have one : (0 : ℚ) < micro := by norm_num [micro]
  have scale : (0 : ℚ) < micro * rate.perMs.toNat := mul_pos one per
  have elapsed : ((nowMs.toNat - bucket.lastMs.toNat : Nat) : ℚ) =
      (nowMs.toNat : ℚ) - bucket.lastMs.toNat :=
    Nat.cast_sub (UInt64.le_iff_toNat_le.mp forward)
  rw [level, level, (volume_accrued dense sound moving nowMs).1, accrued_rate, sound.rated,
    sound.capacity, Meter.fill, Nat.cast_min, ← min_div_div_right scale.le]
  push_cast
  rw [elapsed, flow]
  congr 1
  · field_simp
  · field_simp

/-- A token is there when the level says so. -/
theorem one_le_level_iff (sound : Sound rate bucket) (moving : 0 < rate.perMs.toNat) :
    1 ≤ bucket.level ↔ micro ≤ bucket.tokensMicro := by
  have per : (0 : ℚ) < rate.perMs.toNat := by exact_mod_cast moving
  have one : (0 : ℚ) < micro := by norm_num [micro]
  have carried := sound.carried moving
  rw [level, volume, sound.rated, le_div_iff₀ (mul_pos one per), one_mul]
  norm_cast
  constructor
  · intro enough
    by_contra short
    have less := Nat.mul_le_mul_right rate.perMs.toNat (not_le.mp short)
    rw [Nat.succ_mul] at less
    omega
  · intro enough
    exact (Nat.mul_le_mul_right _ enough).trans (Nat.le_add_right ..)

/-- The bucket without one token. -/
def spent (bucket : TokenBucket) : TokenBucket :=
  { bucket with tokensMicro := bucket.tokensMicro - micro }

/-- A take draws a token. -/
theorem level_take (sound : Sound rate bucket) (moving : 0 < rate.perMs.toNat)
    (stocked : micro ≤ bucket.tokensMicro) :
    bucket.spent.level = bucket.level - 1 := by
  have per : (0 : ℚ) < rate.perMs.toNat := by exact_mod_cast moving
  have one : (0 : ℚ) < micro := by norm_num [micro]
  rw [level, level, volume, volume, spent, sound.rated]
  push_cast [Nat.cast_sub stocked]
  field_simp
  ring

/-- A sound bucket with fewer tokens is sound. -/
theorem Sound.fewer (sound : Sound rate bucket) {tokens : Nat}
    (fewer : tokens ≤ bucket.tokensMicro) :
    Sound rate { bucket with tokensMicro := tokens } where
  rated := sound.rated
  capacity := sound.capacity
  carried := sound.carried
  bounded := by
    have bounded := sound.bounded
    have scaled := Nat.mul_le_mul_right bucket.rate.perMs.toNat fewer
    simp only [volume] at bounded ⊢
    omega

theorem lastMs_fewer (bucket : TokenBucket) (tokensMicro : Nat) :
    ({ bucket with tokensMicro } : TokenBucket).lastMs = bucket.lastMs := rfl

@[simp] theorem spent_lastMs (bucket : TokenBucket) : bucket.spent.lastMs = bucket.lastMs :=
  lastMs_fewer bucket _

/-- A sound bucket that has given a token is sound. -/
theorem Sound.spent (sound : Sound rate bucket) : Sound rate bucket.spent :=
  sound.fewer (Nat.sub_le _ _)

/-! ## One call -/

/-- What a call that goes forward does: a take that succeeds draws a token of the refilled
bucket, and anything else leaves the refilled bucket. -/
inductive Performed (bucket : TokenBucket) :
    BucketCall → Except BucketError Unit → TokenBucket → Prop
  | took (nowMs : UInt64) (stocked : micro ≤ (bucket.accrued nowMs).tokensMicro) :
      Performed bucket (.tryTake nowMs) (.ok ()) (bucket.accrued nowMs).spent
  | refused (nowMs : UInt64) (short : (bucket.accrued nowMs).tokensMicro < micro) :
      Performed bucket (.tryTake nowMs)
        (.error (.empty (bucket.accrued nowMs).tokensMicro (bucket.accrued nowMs).retryAfterMs))
        (bucket.accrued nowMs)
  | refilled (nowMs : UInt64) :
      Performed bucket (.refill nowMs) (.ok ()) (bucket.accrued nowMs)
  | peeked (nowMs : UInt64) :
      Performed bucket (.peek nowMs) (bucket.accrued nowMs).peek (bucket.accrued nowMs)

/-- Every call at a time from the last one on does what `Performed` says, whether it is a refill or
a taking. -/
theorem performed (moving : bucket.rate.perMs ≠ 0) (call : BucketCall)
    (forward : bucket.lastMs ≤ call.nowMs) :
    Performed bucket call (bucket.perform call).1 (bucket.perform call).2 := by
  cases call with
  | refill nowMs =>
      have refilled : bucket.refill nowMs = _ := refill_forward moving forward
      rw [perform, refilled]
      exact .refilled nowMs
  | peek nowMs =>
      have refilled : bucket.refill nowMs = _ := refill_forward moving forward
      rw [perform, refilled]
      exact .peeked nowMs
  | tryTake nowMs =>
      have refilled : bucket.refill nowMs = _ := refill_forward moving forward
      rw [perform, tryTake, refilled]
      dsimp only
      by_cases short : (bucket.accrued nowMs).tokensMicro < micro
      · have empty : (bucket.accrued nowMs).peek = _ := if_pos short
        rw [empty]
        exact .refused nowMs short
      · have present : (bucket.accrued nowMs).peek = _ := if_neg short
        rw [present]
        exact .took nowMs (Nat.not_lt.mp short)

/-! ## Sequences of calls -/

/-- The calls come in the order of their times. -/
def Timed (start : UInt64) (calls : List BucketCall) : Prop :=
  (start :: calls.map BucketCall.nowMs).Pairwise (· ≤ ·)

/-- A run of calls is in order if the first is not before the start and the rest are in order from
there. -/
theorem timed_cons {start : UInt64} {call : BucketCall} {calls : List BucketCall} :
    Timed start (call :: calls) ↔ start ≤ call.nowMs ∧ Timed call.nowMs calls := by
  rw [Timed, List.map_cons, List.pairwise_cons]
  constructor
  · rintro ⟨least, rest⟩
    exact ⟨least _ List.mem_cons_self, rest⟩
  · rintro ⟨forward, rest⟩
    refine ⟨fun time member => ?_, rest⟩
    rcases List.mem_cons.mp member with rfl | later
    · exact forward
    · exact UInt64.le_trans forward ((List.pairwise_cons.mp rest).1 time later)

/-- A run performs its first call and then the rest. -/
theorem run_cons (bucket : TokenBucket) (call : BucketCall) (calls : List BucketCall) :
    bucket.run (call :: calls) = (bucket.perform call).2.run calls := rfl

/-- The times at which tokens were taken are among the times of the calls, in their order. -/
theorem takes_sublist (calls : List BucketCall) (bucket : TokenBucket) :
    (bucket.takes calls).Sublist (calls.map BucketCall.nowMs) := by
  induction calls generalizing bucket with
  | nil => exact .slnil
  | cons call calls ih =>
      rw [takes, List.map_cons]
      unfold BucketCall.taken
      split
      · exact (ih _).cons_cons _
      · exact (ih _).cons _

/-- The times as the meter counts them. -/
def times (taken : List UInt64) : List ℚ := taken.map fun time => (time.toNat : ℚ)

/-- The bucket that a call leaves is a bucket of the rate, at the time of the call. -/
theorem Performed.sound (dense : Dense rate) (moving : 0 < rate.perMs.toNat)
    (sound : Sound rate bucket) {call : BucketCall} {answer : Except BucketError Unit}
    {after : TokenBucket} (performed : Performed bucket call answer after) :
    Sound rate after ∧ after.lastMs = call.nowMs := by
  cases performed with
  | took nowMs stocked =>
      refine ⟨(sound.accrued dense moving nowMs).spent, ?_⟩
      rw [spent_lastMs, accrued_lastMs]
      rfl
  | refused nowMs | refilled nowMs | peeked nowMs =>
      exact ⟨sound.accrued dense moving nowMs, accrued_lastMs nowMs⟩

/-- **Runs.** Along a sequence of calls every take finds a token in the meter, and what the
bucket holds in the end is what the takes leave of it. -/
theorem metered (dense : Dense rate) (moving : 0 < rate.perMs.toNat) {calls : List BucketCall}
    {nowMs : UInt64} (sound : Sound rate bucket)
    (timed : Timed bucket.lastMs (calls ++ [.refill nowMs])) :
    Sound rate (bucket.run calls) ∧ (bucket.run calls).lastMs ≤ nowMs ∧
      Meter.Covered (rate.count.toNat : ℚ) (flow rate) 1 bucket.level bucket.lastMs.toNat
        (times (bucket.takes calls)) ∧
      ((bucket.run calls).accrued nowMs).level =
        Meter.drain (rate.count.toNat : ℚ) (flow rate) 1 bucket.level bucket.lastMs.toNat
          (times (bucket.takes calls)) nowMs.toNat := by
  induction calls generalizing bucket with
  | nil =>
      have forward := (timed_cons.mp timed).1
      exact ⟨sound, forward, trivial, level_accrued dense sound moving forward⟩
  | cons call calls ih =>
      obtain ⟨forward, rest⟩ := timed_cons.mp timed
      have rated : bucket.rate.perMs ≠ 0 := by
        rw [sound.rated]
        exact perMs_pos.mpr moving
      have performed := performed rated call forward
      obtain ⟨sound', last⟩ := performed.sound dense moving sound
      rw [← last] at rest
      obtain ⟨final, ends, covered, level⟩ := ih sound' rest
      refine ⟨final, ends, ?_⟩
      change _ ∧ (((bucket.perform call).2.run calls).accrued nowMs).level = _
      rw [level, takes]
      -- what comes later finds the meter as the call left it
      have filled := level_accrued dense sound moving forward
      have flows := flow_nonneg rate
      rw [last] at covered rest ⊢
      have after := (List.pairwise_cons.mp rest).1
      rw [List.append_eq, List.map_append] at after
      have later : ∀ time ∈ times ((bucket.perform call).2.takes calls),
          (call.nowMs.toNat : ℚ) ≤ time := by
        intro time member
        obtain ⟨taken, inside, rfl⟩ := List.mem_map.mp member
        have called := (takes_sublist calls _).subset inside
        have least := after taken (List.mem_append_left _ called)
        exact_mod_cast UInt64.le_iff_toNat_le.mp least
      have ahead : (call.nowMs.toNat : ℚ) ≤ nowMs.toNat := by
        have least := after nowMs (List.mem_append_right _ (List.mem_singleton_self _))
        exact_mod_cast UInt64.le_iff_toNat_le.mp least
      generalize bucket.perform call = result at *
      obtain ⟨answer, after⟩ := result
      dsimp only at *
      cases performed with
      | took now stocked =>
          have enough := (one_le_level_iff (sound.accrued dense moving now) moving).mpr stocked
          have drawn := level_take (sound.accrued dense moving now) moving stocked
          change (bucket.accrued now).level = _ at filled
          rw [drawn, filled] at covered ⊢
          rw [filled] at enough
          exact ⟨⟨enough, covered⟩, rfl⟩
      | refused now | refilled now | peeked now =>
          change (bucket.accrued now).level = _ at filled
          rw [filled] at covered ⊢
          refine ⟨Meter.covered_fill flows later covered, ?_⟩
          exact Meter.drain_fill flows later ahead

end Oppen.Guardrail.TokenBucket
