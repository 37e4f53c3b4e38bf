import Oppen.Guardrail.BucketRuns

/-! # Exactness of the token bucket

For the rates that bring at least a millionth of a token every millisecond the bucket is exact,
and for no other: below that a full bucket that is polled carries a remainder into the next
token.
-/

namespace Oppen.Guardrail.TokenBucket

open Foundation

/-- What a bucket of a rate promises over all sequences of calls. Sequences that take at the same
times are not told apart, and no window holds more takes than a full bucket and what the rate brings
in it. -/
structure Exact (rate : OrderRate) : Prop where
  /-- The level depends on the times of the takes only. -/
  polling : ∀ (start : UInt64) (first second : List BucketCall) (nowMs : UInt64),
    Timed start (first ++ [.refill nowMs]) → Timed start (second ++ [.refill nowMs]) →
      (new rate start).takes first = (new rate start).takes second →
        ((new rate start).run (first ++ [.refill nowMs])).tokensMicro =
          ((new rate start).run (second ++ [.refill nowMs])).tokensMicro
  window : ∀ (start : UInt64) (calls : List BucketCall), Timed start calls →
    ∀ opens width : Nat,
      (((new rate start).takes calls).filter fun time : UInt64 =>
        opens ≤ time.toNat ∧ time.toNat ≤ opens + width).length ≤
          rate.count.toNat + width * rate.count.toNat / rate.perMs.toNat
  /-- A take that fails is not seen later. -/
  failed : ∀ (start : UInt64) (calls : List BucketCall) (nowMs : UInt64)
    (rest : List BucketCall) (error : BucketError), Timed start (calls ++ .tryTake nowMs :: rest) →
      (((new rate start).run calls).tryTake nowMs).1 = .error error →
        (((new rate start).run calls).tryTake nowMs).2.answers rest =
            ((new rate start).run calls).answers rest ∧
          (rest ≠ [] → (((new rate start).run calls).tryTake nowMs).2.run rest =
            ((new rate start).run calls).run rest)
  bounded : ∀ (start : UInt64) (calls : List BucketCall), Timed start calls →
    ((new rate start).run calls).tokensMicro ≤ rate.count.toNat * micro
  backwards : ∀ (start : UInt64) (calls : List BucketCall) (call : BucketCall),
    Timed start calls → call.nowMs < ((new rate start).run calls).lastMs →
      (((new rate start).run calls).perform call).2 = (new rate start).run calls
  /-- Whoever waits as long as a refusal says gets a token. -/
  retry : rate.count ≠ 0 → ∀ (start : UInt64) (calls : List BucketCall) (nowMs : UInt64)
    (tokens wait : Nat), Timed start (calls ++ [.tryTake nowMs]) →
      (((new rate start).run calls).tryTake nowMs).1 = .error (.empty tokens wait) →
        ∀ later : UInt64, nowMs.toNat + wait ≤ later.toNat →
          ((((new rate start).run calls).tryTake nowMs).2.tryTake later).1 = .ok ()
  /-- A rate without tokens gives none. -/
  idle : rate.count = 0 → ∀ (start : UInt64) (calls : List BucketCall), Timed start calls →
    (new rate start).takes calls = []

variable {rate : OrderRate} {bucket : TokenBucket} {nowMs : UInt64}

/-! ## Rates that do not move -/

/-- A frozen bucket refuses every call and stays as it is. -/
theorem perform_frozen (frozen : bucket.rate.perMs = 0) (call : BucketCall) :
    bucket.perform call = (.error .invalidRate, bucket) := by
  cases call with
  | refill nowMs | peek nowMs => rw [perform, refill_zero frozen]
  | tryTake nowMs => rw [perform, tryTake, refill_zero frozen]

/-- A call before the last time is refused and leaves the bucket as it is. -/
theorem perform_backwards (moving : bucket.rate.perMs ≠ 0) {call : BucketCall}
    (earlier : call.nowMs < bucket.lastMs) :
    bucket.perform call = (.error (.clockWentBackwards bucket.lastMs), bucket) := by
  have refused := refill_backwards moving earlier
  cases call with
  | refill nowMs | peek nowMs =>
      rw [BucketCall.nowMs] at refused
      rw [perform, refused]
  | tryTake nowMs =>
      rw [BucketCall.nowMs] at refused
      rw [perform, tryTake, refused]

/-- A frozen bucket stays as it is over a whole run. -/
theorem run_frozen (frozen : bucket.rate.perMs = 0) (calls : List BucketCall) :
    bucket.run calls = bucket := by
  induction calls with
  | nil => rfl
  | cons call calls ih =>
      change (bucket.perform call).2.run calls = bucket
      rw [perform_frozen frozen]
      exact ih

theorem takes_frozen (frozen : bucket.rate.perMs = 0) (calls : List BucketCall) :
    bucket.takes calls = [] := by
  induction calls with
  | nil => rfl
  | cons call calls ih =>
      rw [takes, perform_frozen frozen]
      cases call <;> exact ih

/-- A frozen rate is exact, since nothing is ever given. -/
theorem exact_frozen (frozen : rate.perMs = 0) : Exact rate where
  polling start first second nowMs _ _ _ := by
    rw [run_frozen frozen, run_frozen frozen]
  window start calls _ opens width := by
    rw [takes_frozen frozen, List.filter_nil, List.length_nil]
    exact Nat.zero_le _
  failed start calls nowMs rest error _ _ := by
    rw [run_frozen frozen, tryTake, refill_zero frozen]
    exact ⟨rfl, fun _ => rfl⟩
  bounded start calls _ := by
    rw [run_frozen frozen]
    exact min_le_left ..
  backwards start calls call _ _ := by
    rw [run_frozen frozen, perform_frozen frozen]
  retry _ start calls nowMs tokens wait _ refused := by
    rw [run_frozen frozen, tryTake, refill_zero frozen] at refused
    cases refused
  idle _ start calls _ := takes_frozen frozen calls

/-! ## Dense rates -/

/-- The calls up to one of them are in order, with a look at its time in its place. -/
theorem Timed.until {start : UInt64} {calls rest : List BucketCall} {call : BucketCall}
    (timed : Timed start (calls ++ call :: rest)) :
    Timed start (calls ++ [.refill call.nowMs]) := by
  refine timed.sublist ((List.Sublist.cons_cons start) ?_)
  rw [List.map_append, List.map_append]
  exact (List.Sublist.refl _).append (List.singleton_sublist.mpr List.mem_cons_self)

/-- Some time is the latest. -/
theorem Timed.extend {start : UInt64} {calls : List BucketCall} (timed : Timed start calls) :
    Timed start (calls ++ [.refill (-1)]) := by
  rw [Timed, List.map_append, ← List.cons_append]
  refine List.pairwise_append.mpr ⟨timed, List.pairwise_singleton _ _, fun time _ last is => ?_⟩
  rw [List.mem_singleton.mp is, UInt64.le_iff_toNat_le]
  have bounded := time.toNat_lt
  change time.toNat ≤ 2 ^ 64 - 1
  omega

/-- The times at which tokens were taken ascend. -/
theorem Timed.times_sorted {start : UInt64} {calls : List BucketCall} (timed : Timed start calls)
    (bucket : TokenBucket) :
    ((start.toNat : ℚ) :: times (bucket.takes calls)).Pairwise (· ≤ ·) := by
  have within := timed.sublist ((takes_sublist calls bucket).cons_cons start)
  have cast : ((start :: bucket.takes calls).map fun time =>
    (time.toNat : ℚ)).Pairwise (· ≤ ·) := by
    refine List.pairwise_map.mpr (within.imp fun before => ?_)
    exact_mod_cast UInt64.le_iff_toNat_le.mp before
  exact cast

/-- A refill before another call is not seen. -/
theorem perform_accrued (dense : Dense rate) (moving : 0 < rate.perMs.toNat)
    (sound : Sound rate bucket) (forward : bucket.lastMs ≤ nowMs) {call : BucketCall}
    (onward : nowMs ≤ call.nowMs) :
    (bucket.accrued nowMs).perform call = bucket.perform call := by
  have rated : bucket.rate.perMs ≠ 0 := by
    rw [sound.rated]
    exact perMs_pos.mpr moving
  have again : (bucket.accrued nowMs).refill call.nowMs = bucket.refill call.nowMs := by
    rw [refill_forward rated (UInt64.le_trans forward onward), refill_forward,
      sound.accrued_accrued dense moving forward onward]
    · rw [accrued_rate]
      exact rated
    · rw [accrued_lastMs]
      exact onward
  have outdated (error : BucketError) : bucket.refill call.nowMs ≠ .error error := by
    rw [refill_forward rated (UInt64.le_trans forward onward)]
    exact nofun
  cases call with
  | refill now | peek now | tryTake now =>
      simp only [BucketCall.nowMs] at again outdated
      simp only [perform, tryTake, again]
      cases found : bucket.refill now with
      | error error => exact absurd found (outdated error)
      | ok refilled => rfl

/-- A refused taking leaves the bucket filled up to its time, with less than one token, and says how
long to wait. -/
theorem refused_of_error (moving : bucket.rate.perMs ≠ 0) (forward : bucket.lastMs ≤ nowMs)
    {error : BucketError} (failed : (bucket.tryTake nowMs).1 = .error error) :
    (bucket.tryTake nowMs).2 = bucket.accrued nowMs ∧
      (bucket.accrued nowMs).tokensMicro < micro ∧
      error = .empty (bucket.accrued nowMs).tokensMicro (bucket.accrued nowMs).retryAfterMs := by
  have performed := performed moving (.tryTake nowMs) forward
  change Performed bucket (.tryTake nowMs) (bucket.tryTake nowMs).1 (bucket.tryTake nowMs).2
    at performed
  rw [failed] at performed
  generalize (bucket.tryTake nowMs).2 = after at *
  cases performed with
  | refused _ short => exact ⟨rfl, short, rfl⟩

/-- A bucket whose rate has a token has room for one. -/
theorem Sound.holds_one (sound : Sound rate bucket) (some : rate.count ≠ 0) :
    micro ≤ bucket.capacityMicro := by
  rw [sound.capacity]
  exact Nat.le_mul_of_pos_left micro
    (Nat.pos_of_ne_zero fun none => some (UInt32.toNat_inj.mp none))

/-- The wait a refusal names brings what is missing. -/
theorem retry_brings (sound : Sound rate bucket) (some : rate.count ≠ 0) :
    (micro - bucket.tokensMicro) * rate.perMs.toNat ≤
      bucket.retryAfterMs * bucket.capacityMicro := by
  have one := sound.holds_one some
  have filled : 0 < bucket.capacityMicro := lt_of_lt_of_le (by simp only [micro]; decide) one
  have per := rate.perMs.toNat_lt
  have small : micro = 1000000 := by simp only [micro]
  have missing : (micro - bucket.tokensMicro) * rate.perMs.toNat ≤
      bucket.capacityMicro * rate.perMs.toNat :=
    Nat.mul_le_mul_right _ ((Nat.sub_le ..).trans one)
  have unsaturated : min ((micro - bucket.tokensMicro) * rate.perMs.toNat) u128Max =
      (micro - bucket.tokensMicro) * rate.perMs.toNat := by
    refine min_eq_left ?_
    calc (micro - bucket.tokensMicro) * rate.perMs.toNat
        ≤ 1000000 * 2 ^ 64 := Nat.mul_le_mul (by omega) per.le
      _ ≤ u128Max := by decide
  rw [retryAfterMs, if_neg filled.ne', sound.rated, unsaturated]
  generalize (micro - bucket.tokensMicro) * rate.perMs.toNat = amount at *
  generalize bucket.capacityMicro = capacityMicro at *
  -- the wait is at most a period
  have wait : (amount + capacityMicro - 1) / capacityMicro ≤ u64Max := by
    have whole : (amount + capacityMicro - 1) / capacityMicro ≤ rate.perMs.toNat := by
      refine Nat.le_of_lt_succ (Nat.div_lt_of_lt_mul ?_)
      rw [Nat.mul_succ]
      omega
    rw [u64Max]
    omega
  rw [min_eq_left wait]
  have parts := Nat.div_add_mod (amount + capacityMicro - 1) capacityMicro
  have rest := Nat.mod_lt (amount + capacityMicro - 1) filled
  rw [Nat.mul_comm] at parts
  omega

/-- After the wait a refusal names there is a token. -/
theorem retry_accrued (dense : Dense rate) (moving : 0 < rate.perMs.toNat)
    (sound : Sound rate bucket) (some : rate.count ≠ 0) {later : UInt64}
    (waited : bucket.lastMs.toNat + bucket.retryAfterMs ≤ later.toNat) :
    micro ≤ (bucket.accrued later).tokensMicro := by
  have brings := retry_brings sound some
  obtain ⟨volume', carried⟩ := volume_accrued dense sound moving later
  have one := sound.holds_one some
  have waits : bucket.retryAfterMs ≤ later.toNat - bucket.lastMs.toNat := by omega
  have flows := Nat.mul_le_mul_right bucket.capacityMicro waits
  have full := Nat.mul_le_mul_right rate.perMs.toNat one
  have enough : micro * rate.perMs.toNat ≤ (bucket.accrued later).volume := by
    rw [volume']
    refine le_min ?_ full
    have split : micro * rate.perMs.toNat ≤ bucket.tokensMicro * rate.perMs.toNat +
        (micro - bucket.tokensMicro) * rate.perMs.toNat := by
      rw [← Nat.add_mul]
      exact Nat.mul_le_mul_right _ le_add_tsub
    have held : bucket.tokensMicro * rate.perMs.toNat ≤ bucket.volume := by
      rw [TokenBucket.volume, sound.rated]
      exact Nat.le_add_right ..
    omega
  rw [TokenBucket.volume, accrued_rate, sound.rated] at enough
  by_contra short
  have less := Nat.mul_le_mul_right rate.perMs.toNat (Nat.succ_le_of_lt (Nat.not_le.mp short))
  rw [Nat.succ_mul] at less
  omega

/-- A new bucket holds the whole of its rate's tokens. -/
theorem new_level (moving : 0 < rate.perMs.toNat) (start : UInt64) :
    (new rate start).level = rate.count.toNat := by
  have per : (0 : ℚ) < rate.perMs.toNat := by exact_mod_cast moving
  have one : (0 : ℚ) < micro := by norm_num [micro]
  have sound := new_sound rate start
  have full : (new rate start).tokensMicro = rate.count.toNat * micro := sound.capacity
  rw [level, volume, full, sound.rated]
  change ((_ + 0 : Nat) : ℚ) / _ = _
  push_cast
  field_simp
  ring

/-- Two sound buckets of one level hold the same tokens, since the carry is below one token's
worth. -/
theorem Sound.tokens_eq {first second : TokenBucket} (one : Sound rate first)
    (two : Sound rate second) (moving : 0 < rate.perMs.toNat) (same : first.level = second.level) :
    first.tokensMicro = second.tokensMicro := by
  have per : (0 : ℚ) < rate.perMs.toNat := by exact_mod_cast moving
  have micros : (0 : ℚ) < micro := by norm_num [micro]
  rw [level, level, one.rated, two.rated, div_left_inj' (mul_pos micros per).ne'] at same
  have volumes : first.volume = second.volume := by exact_mod_cast same
  have carried₁ := one.carried moving
  have carried₂ := two.carried moving
  rw [volume, volume, one.rated, two.rated] at volumes
  calc first.tokensMicro
      = (first.tokensMicro * rate.perMs.toNat + first.carry) / rate.perMs.toNat := by
        rw [Nat.mul_comm, Nat.mul_add_div moving, Nat.div_eq_of_lt carried₁, Nat.add_zero]
    _ = second.tokensMicro := by
        rw [volumes, Nat.mul_comm, Nat.mul_add_div moving, Nat.div_eq_of_lt carried₂, Nat.add_zero]

/-- A sound bucket holds no more tokens than its rate allows. -/
theorem Sound.tokens_le (sound : Sound rate bucket) (moving : 0 < rate.perMs.toNat) :
    bucket.tokensMicro ≤ rate.count.toNat * micro := by
  have bounded := sound.bounded
  rw [volume, sound.rated, sound.capacity] at bounded
  refine Nat.le_of_mul_le_mul_right ?_ moving
  omega

/-- **Exactness.** A bucket of a dense rate keeps what the meter promises. -/
theorem exact_dense (dense : Dense rate) (moving : 0 < rate.perMs.toNat) : Exact rate where
  polling start first second nowMs timed timed' same := by
    have sound := new_sound rate start
    obtain ⟨sound₁, ends₁, _, level₁⟩ := metered dense moving sound timed
    obtain ⟨sound₂, ends₂, _, level₂⟩ := metered dense moving sound timed'
    have rated {bucket : TokenBucket} (sound : Sound rate bucket) : bucket.rate.perMs ≠ 0 := by
      rw [sound.rated]
      exact perMs_pos.mpr moving
    have refilled {calls : List BucketCall}
        (sound : Sound rate ((new rate start).run calls))
        (ends : ((new rate start).run calls).lastMs ≤ nowMs) :
        (new rate start).run (calls ++ [.refill nowMs]) =
          ((new rate start).run calls).accrued nowMs := by
      rw [run, List.foldl_append, List.foldl_cons, List.foldl_nil]
      change (((new rate start).run calls).perform _).2 = _
      rw [perform, refill_forward (rated sound) ends]
    rw [refilled sound₁ ends₁, refilled sound₂ ends₂]
    rw [same] at level₁
    exact (sound₁.accrued dense moving nowMs).tokens_eq (sound₂.accrued dense moving nowMs) moving
      (level₁.trans level₂.symm)
  window start calls timed opens width := by
    have sound := new_sound rate start
    obtain ⟨_, _, covered, _⟩ := metered dense moving sound timed.extend
    have full := new_level moving start
    have ordered : (opens : ℚ) ≤ (opens + width : Nat) := by
      exact_mod_cast Nat.le_add_right opens width
    have bound := Meter.draws_within (flow_nonneg rate) covered (timed.times_sorted _) ordered
      (level_nonneg _) full.le
    have counted : (times ((new rate start).takes calls)).filter
        (fun time => decide ((opens : ℚ) ≤ time ∧ time ≤ (opens + width : Nat))) =
          times (((new rate start).takes calls).filter fun time : UInt64 =>
            opens ≤ time.toNat ∧ time.toNat ≤ opens + width) := by
      rw [times, times, List.filter_map]
      congr 2
      funext time
      simp only [Function.comp_apply, Nat.cast_le]
    have per : (0 : ℚ) < rate.perMs.toNat := by exact_mod_cast moving
    rw [counted, times, List.length_map, mul_one, flow, ← sub_le_iff_le_add', mul_div_assoc',
      le_div_iff₀ per] at bound
    push_cast at bound
    rw [add_sub_cancel_left, sub_mul] at bound
    generalize (((new rate start).takes calls).filter _).length = number at bound ⊢
    have whole : number * rate.perMs.toNat ≤
        width * rate.count.toNat + rate.count.toNat * rate.perMs.toNat := by
      exact_mod_cast (by linarith : (number : ℚ) * rate.perMs.toNat ≤
        width * rate.count.toNat + rate.count.toNat * rate.perMs.toNat)
    rw [← Nat.sub_le_iff_le_add', Nat.le_div_iff_mul_le moving, Nat.sub_mul]
    omega
  failed start calls nowMs rest error timed failed := by
    have sound := new_sound rate start
    obtain ⟨sound', ends, _, _⟩ := metered dense moving sound timed.until
    have rated : ((new rate start).run calls).rate.perMs ≠ 0 := by
      rw [sound'.rated]
      exact perMs_pos.mpr moving
    replace ends : ((new rate start).run calls).lastMs ≤ nowMs := ends
    obtain ⟨after, _, _⟩ := refused_of_error rated ends failed
    rw [after]
    cases rest with
    | nil => exact ⟨rfl, fun none => absurd rfl none⟩
    | cons call rest =>
        have onward : nowMs ≤ call.nowMs := by
          have ordered := (List.pairwise_cons.mp timed).2
          rw [List.map_append] at ordered
          exact (List.pairwise_cons.mp (List.pairwise_append.mp ordered).2.1).1 _ List.mem_cons_self
        have same := perform_accrued dense moving sound' ends onward
        rw [answers, answers, run_cons, run_cons, same]
        exact ⟨rfl, fun _ => rfl⟩
  bounded start calls timed := by
    exact (metered dense moving (new_sound rate start) timed.extend).1.tokens_le moving
  backwards start calls call timed earlier := by
    have sound := (metered dense moving (new_sound rate start) timed.extend).1
    have rated : ((new rate start).run calls).rate.perMs ≠ 0 := by
      rw [sound.rated]
      exact perMs_pos.mpr moving
    rw [perform_backwards rated earlier]
  retry some start calls nowMs tokens wait timed refused later waited := by
    obtain ⟨sound, ends, _, _⟩ := metered dense moving (new_sound rate start) timed.until
    have rated : ((new rate start).run calls).rate.perMs ≠ 0 := by
      rw [sound.rated]
      exact perMs_pos.mpr moving
    replace ends : ((new rate start).run calls).lastMs ≤ nowMs := ends
    obtain ⟨after, _, reported⟩ := refused_of_error rated ends refused
    cases reported
    rw [after]
    have sound' := sound.accrued dense moving nowMs
    have waited' : (((new rate start).run calls).accrued nowMs).lastMs.toNat +
        (((new rate start).run calls).accrued nowMs).retryAfterMs ≤ later.toNat := by
      rw [accrued_lastMs]
      exact waited
    have enough := retry_accrued dense moving sound' some waited'
    have forward : (((new rate start).run calls).accrued nowMs).lastMs ≤ later := by
      rw [UInt64.le_iff_toNat_le]
      omega
    have performed := performed (by rw [accrued_rate]; exact rated) (.tryTake later) forward
    change Performed _ (.tryTake later) (tryTake _ later).1 (tryTake _ later).2 at performed
    generalize tryTake _ later = result at performed ⊢
    obtain ⟨answer, last⟩ := result
    dsimp only at performed ⊢
    cases performed with
    | took => rfl
    | refused _ short => exact absurd enough (Nat.not_le.mpr short)
  idle none start calls timed := by
    obtain ⟨_, _, covered, _⟩ := metered dense moving (new_sound rate start) timed.extend
    cases taken : (new rate start).takes calls with
    | nil => rfl
    | cons time rest =>
        rw [taken] at covered
        have enough := covered.1.trans (Meter.fill_le _ _ _ _)
        rw [none] at enough
        norm_num at enough

/-! ## Rates that are not dense -/

/-- The product of the refill does not saturate for any time of 64 bits. -/
theorem numerator_new (rate : OrderRate) {elapsed : Nat} (small : elapsed < 2 ^ 64) :
    min (elapsed * (rate.count.toNat * micro)) u128Max = elapsed * (rate.count.toNat * micro) := by
  refine min_eq_left ?_
  calc elapsed * (rate.count.toNat * micro)
      ≤ 2 ^ 64 * 2 ^ 52 := Nat.mul_le_mul small.le (capacity_small rate)
    _ ≤ u128Max := by decide

/-- Too short a time brings no token, and is carried. -/
theorem accrued_short {per : Nat} {tokensMicro carry : Nat} {lastMs nowMs : UInt64}
    (period : rate.perMs.toNat = per)
    (short : (nowMs.toNat - lastMs.toNat) * (rate.count.toNat * micro) + carry < per) :
    accrued ⟨rate, rate.count.toNat * micro, tokensMicro, lastMs, carry⟩ nowMs =
      ⟨rate, rate.count.toNat * micro, tokensMicro, nowMs,
        (nowMs.toNat - lastMs.toNat) * (rate.count.toNat * micro) + carry⟩ := by
  have now := nowMs.toNat_lt
  have elapsed := numerator_new rate (show nowMs.toNat - lastMs.toNat < 2 ^ 64 by omega)
  simp only [accrued, elapsed, period, Nat.div_eq_of_lt short, Nat.mod_eq_of_lt short,
    lt_irrefl, if_false]

/-- A full bucket stays full and gives up what it carried. -/
theorem accrued_full {carry : Nat} {lastMs nowMs : UInt64} (moving : 0 < rate.perMs.toNat)
    (long : rate.perMs.toNat ≤
      (nowMs.toNat - lastMs.toNat) * (rate.count.toNat * micro) + carry) :
    accrued ⟨rate, rate.count.toNat * micro, rate.count.toNat * micro, lastMs, carry⟩ nowMs =
      ⟨rate, rate.count.toNat * micro, rate.count.toNat * micro, nowMs, 0⟩ := by
  have now := nowMs.toNat_lt
  have elapsed := numerator_new rate (show nowMs.toNat - lastMs.toNat < 2 ^ 64 by omega)
  have gains := Nat.div_pos long moving
  have small := capacity_small rate
  have full : rate.count.toNat * micro ≤ min (rate.count.toNat * micro +
      min (((nowMs.toNat - lastMs.toNat) * (rate.count.toNat * micro) + carry) / rate.perMs.toNat)
        u64Max) u64Max := by
    refine le_min (Nat.le_add_right ..) (small.trans ?_)
    decide
  simp only [accrued, elapsed, if_pos gains, if_pos full]

/-- A time that brings one millionth. -/
theorem accrued_one {tokensMicro carry : Nat} {lastMs nowMs : UInt64}
    (long : rate.perMs.toNat ≤
      (nowMs.toNat - lastMs.toNat) * (rate.count.toNat * micro) + carry)
    (short : (nowMs.toNat - lastMs.toNat) * (rate.count.toNat * micro) + carry <
      2 * rate.perMs.toNat) (room : tokensMicro + 1 < rate.count.toNat * micro) :
    (accrued ⟨rate, rate.count.toNat * micro, tokensMicro, lastMs, carry⟩ nowMs).tokensMicro =
      tokensMicro + 1 := by
  have now := nowMs.toNat_lt
  have elapsed := numerator_new rate (show nowMs.toNat - lastMs.toNat < 2 ^ 64 by omega)
  have gain : ((nowMs.toNat - lastMs.toNat) * (rate.count.toNat * micro) + carry) /
      rate.perMs.toNat = 1 := by
    refine Nat.div_eq_of_lt_le ?_ ?_
    · rw [Nat.one_mul]
      exact long
    · exact short
  have small := capacity_small rate
  have limit : u64Max = 2 ^ 64 - 1 := rfl
  have plain : min (tokensMicro + min 1 u64Max) u64Max = tokensMicro + 1 := by omega
  simp only [accrued, elapsed, gain, zero_lt_one, if_true, plain, if_neg (Nat.not_le.mpr room)]

/-- A taking is answered where the filled bucket has a token, and it spends that. -/
theorem perform_take (moving : bucket.rate.perMs ≠ 0) (forward : bucket.lastMs ≤ nowMs)
    (stocked : micro ≤ (bucket.accrued nowMs).tokensMicro) :
    bucket.perform (.tryTake nowMs) = (.ok (), (bucket.accrued nowMs).spent) := by
  have performed := performed moving (.tryTake nowMs) forward
  generalize bucket.perform (.tryTake nowMs) = result at performed ⊢
  obtain ⟨answer, after⟩ := result
  cases performed with
  | took => rfl
  | refused _ short => exact absurd stocked (Nat.not_le.mpr short)

/-- A refill is answered, and the bucket is filled up to its time. -/
theorem perform_refill (moving : bucket.rate.perMs ≠ 0) (forward : bucket.lastMs ≤ nowMs) :
    bucket.perform (.refill nowMs) = (.ok (), bucket.accrued nowMs) := by
  rw [perform, refill_forward moving forward]

/-- A full bucket that is polled too soon before a take keeps what it carried. -/
theorem polled_differs (sparse : rate.count.toNat * micro < rate.perMs.toNat)
    (some : rate.count ≠ 0) : ∃ polled taken nowMs : UInt64,
      Timed 0 ([.refill polled, .tryTake taken] ++ [.refill nowMs]) ∧
      (new rate 0).takes [.refill polled, .tryTake taken] =
        (new rate 0).takes [.tryTake taken] ∧
      ((new rate 0).run ([.refill polled, .tryTake taken] ++ [.refill nowMs])).tokensMicro =
        ((new rate 0).run ([.tryTake taken] ++ [.refill nowMs])).tokensMicro + 1 := by
  have sound := new_sound rate 0
  have one := sound.holds_one some
  rw [sound.capacity] at one
  have million : micro = 1000000 := by simp only [micro]
  have start : new rate 0 = ⟨rate, rate.count.toNat * micro, rate.count.toNat * micro, 0, 0⟩ := by
    have capacity := sound.capacity
    simp only [new] at capacity ⊢
    rw [capacity]
  have moving : 0 < rate.perMs.toNat := by omega
  have rated := perMs_pos.mpr moving
  have bounded := rate.perMs.toNat_lt
  -- the last time at which a full bucket still carries
  obtain ⟨time, reached, before⟩ :
      ∃ time, rate.perMs.toNat ≤ (time + 1) * (rate.count.toNat * micro) ∧
        time * (rate.count.toNat * micro) < rate.perMs.toNat := by
    have positive : 0 < rate.count.toNat * micro := by omega
    refine ⟨(rate.perMs.toNat - 1) / (rate.count.toNat * micro), ?_, ?_⟩
    · have past := Nat.lt_mul_div_succ (rate.perMs.toNat - 1) positive
      rw [Nat.mul_comm] at past
      omega
    · have below := Nat.div_mul_le_self (rate.perMs.toNat - 1) (rate.count.toNat * micro)
      omega
  have size : UInt64.size = 2 ^ 64 := rfl
  have zero : (0 : UInt64).toNat = 0 := rfl
  have early : time * 1000000 ≤ time * (rate.count.toNat * micro) :=
    Nat.mul_le_mul_left time (by omega)
  have polledAt : (UInt64.ofNat (time + 1)).toNat = time + 1 := UInt64.toNat_ofNat_of_lt (by omega)
  have takenAt : (UInt64.ofNat (time + 2)).toNat = time + 2 := UInt64.toNat_ofNat_of_lt (by omega)
  have readAt : (UInt64.ofNat (2 * time + 2)).toNat = 2 * time + 2 :=
    UInt64.toNat_ofNat_of_lt (by omega)
  have later : 1 ≤ time := by
    by_contra none
    obtain rfl : time = 0 := by omega
    rw [Nat.zero_add, Nat.one_mul] at reached
    omega
  obtain ⟨left, drawn⟩ : ∃ left, left + micro = rate.count.toNat * micro :=
    ⟨rate.count.toNat * micro - micro, Nat.sub_add_cancel one⟩
  generalize UInt64.ofNat (time + 1) = polled at polledAt
  generalize UInt64.ofNat (time + 2) = taken at takenAt
  generalize UInt64.ofNat (2 * time + 2) = nowMs at readAt
  have order₁ : (0 : UInt64) ≤ polled := UInt64.le_iff_toNat_le.mpr (by omega)
  have order₂ : polled ≤ taken := UInt64.le_iff_toNat_le.mpr (by omega)
  have order₃ : taken ≤ nowMs := UInt64.le_iff_toNat_le.mpr (by omega)
  have spends (time : UInt64) (carry : Nat) :
      spent ⟨rate, rate.count.toNat * micro, rate.count.toNat * micro, time, carry⟩ =
        ⟨rate, rate.count.toNat * micro, left, time, carry⟩ := by
    rw [spent, ← drawn, Nat.add_sub_cancel]
  -- polled, the full bucket gives up what it carried, and carries again
  have filled : rate.perMs.toNat ≤
      (polled.toNat - (0 : UInt64).toNat) * (rate.count.toNat * micro) + 0 := by
    rw [polledAt, zero, Nat.sub_zero, Nat.add_zero]
    exact reached
  have refilled : (new rate 0).perform (.refill polled) =
      (.ok (), ⟨rate, rate.count.toNat * micro, rate.count.toNat * micro, polled, 0⟩) := by
    rw [start, perform_refill rated order₁]
    exact congrArg (Prod.mk (Except.ok ())) (accrued_full moving filled)
  have carries : (taken.toNat - polled.toNat) * (rate.count.toNat * micro) + 0 <
      rate.perMs.toNat := by
    rw [polledAt, takenAt, show time + 2 - (time + 1) = 1 by omega, Nat.one_mul]
    exact sparse
  have polledTake : perform
      ⟨rate, rate.count.toNat * micro, rate.count.toNat * micro, polled, 0⟩ (.tryTake taken) =
        (.ok (), ⟨rate, rate.count.toNat * micro, left, taken,
          (taken.toNat - polled.toNat) * (rate.count.toNat * micro) + 0⟩) := by
    rw [perform_take rated order₂, accrued_short rfl carries, spends]
    rw [accrued_short rfl carries]
    exact one
  -- unpolled, it gives it up at the take
  have long : rate.perMs.toNat ≤
      (taken.toNat - (0 : UInt64).toNat) * (rate.count.toNat * micro) + 0 := by
    rw [takenAt, zero, Nat.sub_zero, Nat.add_zero]
    exact reached.trans (Nat.mul_le_mul_right _ (by omega))
  have plainTake : (new rate 0).perform (.tryTake taken) =
      (.ok (), ⟨rate, rate.count.toNat * micro, left, taken, 0⟩) := by
    have order : (0 : UInt64) ≤ taken := UInt64.le_trans order₁ order₂
    rw [start, perform_take rated order, accrued_full moving long, spends]
    rw [accrued_full moving long]
    exact one
  refine ⟨polled, taken, nowMs, ?_, ?_, ?_⟩
  · exact timed_cons.mpr ⟨order₁, timed_cons.mpr ⟨order₂, timed_cons.mpr ⟨order₃,
      List.pairwise_singleton _ _⟩⟩⟩
  · simp only [takes, refilled, polledTake, plainTake, BucketCall.taken]
    rfl
  · have elapsed : nowMs.toNat - taken.toNat = time := by omega
    have gap : taken.toNat - polled.toNat = 1 := by omega
    have gained : (accrued ⟨rate, rate.count.toNat * micro, left, taken,
        (taken.toNat - polled.toNat) * (rate.count.toNat * micro) + 0⟩ nowMs).tokensMicro =
          left + 1 := by
      refine accrued_one ?_ ?_ (by omega)
      · rw [elapsed, gap, Nat.one_mul, Nat.add_zero, ← Nat.succ_mul]
        exact reached
      · rw [elapsed, gap, Nat.one_mul, Nat.add_zero]
        omega
    have unchanged : (accrued ⟨rate, rate.count.toNat * micro, left, taken, 0⟩ nowMs).tokensMicro =
        left := by
      refine congrArg tokensMicro (accrued_short rfl ?_)
      rw [elapsed, Nat.add_zero]
      exact before
    have read {bucket : TokenBucket} (rated : bucket.rate.perMs ≠ 0)
        (forward : bucket.lastMs ≤ nowMs) :
        bucket.run [.refill nowMs] = bucket.accrued nowMs :=
      congrArg Prod.snd (perform_refill rated forward)
    simp only [List.cons_append, List.nil_append, run_cons (new rate 0), refilled]
    rw [run_cons, polledTake, plainTake]
    dsimp only
    rw [read rated order₃, read rated order₃, gained, unchanged]

/-- A sparse rate is not exact: a call between two others loses the fraction of the token that had
accrued. -/
theorem not_exact_of_sparse (sparse : rate.count.toNat * micro < rate.perMs.toNat)
    (some : rate.count ≠ 0) : ¬ Exact rate := by
  intro precise
  obtain ⟨polled, taken, nowMs, timed, same, differs⟩ := polled_differs sparse some
  have fewer : Timed 0 ([.tryTake taken] ++ [.refill nowMs]) :=
    timed.sublist ((List.sublist_cons_self _ _).cons_cons 0)
  have level := precise.polling 0 [.refill polled, .tryTake taken] [.tryTake taken] nowMs timed
    fewer same
  omega

/-- **Exactness.** A bucket is exact if and only if its rate is dense. A rate is dense if it brings
at least a millionth of a token every millisecond, or no token at all. Below that the level a full
bucket shows depends on how often it was polled. -/
theorem exact_iff_dense (rate : OrderRate) : Exact rate ↔ Dense rate := by
  constructor
  · intro precise
    by_contra sparse
    obtain ⟨short, some⟩ := not_or.mp sparse
    exact not_exact_of_sparse (Nat.not_le.mp short) some precise
  · intro dense
    rcases Nat.eq_zero_or_pos rate.perMs.toNat with none | moving
    · exact exact_frozen (UInt64.toNat_inj.mp none)
    · exact exact_dense dense moving

/-- One order an hour is not metered exactly. -/
theorem hourly_not_exact : ¬ Exact ⟨1, 3600000⟩ := by
  refine not_exact_of_sparse ?_ (by decide)
  simp only [micro]
  decide

end Oppen.Guardrail.TokenBucket
