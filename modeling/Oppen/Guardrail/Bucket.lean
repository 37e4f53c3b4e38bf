import Mathlib.Data.Nat.Cast.Order.Field
import Oppen.Foundation.Meter
import Oppen.Guardrail.Engine

/-! # The order-rate token bucket

Integer arithmetic in millionths of a token. The remainder of a refill is carried, so that the
level is the one of a meter that fills continuously, however often it is read: as long as the
capacity in millionths is at least the period in milliseconds. Below that a full bucket that is
refilled too soon to gain anything carries a remainder on top.
-/

namespace Oppen.Guardrail

open Foundation Oppen.Ledger

/-- One token, in the bucket's internal millionths. -/
@[irreducible] def micro : Nat := 1000000

/-- `u128::MAX`. -/
def u128Max : Nat := 2 ^ 128 - 1

/-- Why a token could not be taken. -/
inductive BucketError where
  | empty (tokensAvailableMicro retryAfterMs : Nat)
  | clockWentBackwards (lastMs : UInt64)
  | invalidRate
  deriving DecidableEq

/-- `TokenBucket`; the counters are `u64`s. -/
structure TokenBucket where
  rate : OrderRate
  capacityMicro : Nat
  tokensMicro : Nat
  lastMs : UInt64
  carry : Nat
  deriving DecidableEq

namespace TokenBucket

def new (rate : OrderRate) (nowMs : UInt64) : TokenBucket :=
  let capacityMicro := min (rate.count.toNat * micro) u64Max
  ⟨rate, capacityMicro, capacityMicro, nowMs, 0⟩

variable (bucket : TokenBucket)

/-- What `refill` accrues for the elapsed interval. -/
def accrued (nowMs : UInt64) : TokenBucket :=
  let elapsed := nowMs.toNat - bucket.lastMs.toNat
  let numerator := min (elapsed * bucket.capacityMicro) u128Max + bucket.carry
  let per := bucket.rate.perMs.toNat
  let gain := numerator / per
  let refilled := { bucket with carry := numerator % per, lastMs := nowMs }
  if 0 < gain then
    let tokensMicro := min (bucket.tokensMicro + min gain u64Max) u64Max
    -- a full bucket has nothing to carry
    if bucket.capacityMicro ≤ tokensMicro then
      { refilled with tokensMicro := bucket.capacityMicro, carry := 0 }
    else { refilled with tokensMicro }
  else refilled

/-- `refill`. -/
def refill (nowMs : UInt64) : Except BucketError TokenBucket := do
  refuseIf (bucket.rate.perMs = 0) .invalidRate
  refuseIf (nowMs < bucket.lastMs) (.clockWentBackwards bucket.lastMs)
  return bucket.accrued nowMs

/-- `retry_after_ms`: milliseconds until one whole token exists, rounded up. -/
def retryAfterMs : Nat :=
  if bucket.capacityMicro = 0 then u64Max
  else
    let missing := min ((micro - bucket.tokensMicro) * bucket.rate.perMs.toNat) u128Max
    min ((missing + bucket.capacityMicro - 1) / bucket.capacityMicro) u64Max

/-- `peek`: the answer `try_take` would give, once refilled. -/
def peek : Except BucketError Unit :=
  refuseIf (bucket.tokensMicro < micro) (.empty bucket.tokensMicro bucket.retryAfterMs)

/-- `try_take`: refills, then spends one token. -/
def tryTake (nowMs : UInt64) : Except BucketError Unit × TokenBucket :=
  match bucket.refill nowMs with
  | .error error => (.error error, bucket)
  | .ok refilled =>
      match refilled.peek with
      | .error error => (.error error, refilled)
      | .ok () => (.ok (), { refilled with tokensMicro := refilled.tokensMicro - micro })

end TokenBucket

/-! ## Calls -/

/-- A call on a bucket; who peeks has refilled. -/
inductive BucketCall where
  | refill (nowMs : UInt64)
  | tryTake (nowMs : UInt64)
  | peek (nowMs : UInt64)
  deriving DecidableEq

def BucketCall.nowMs : BucketCall → UInt64
  | .refill nowMs | .tryTake nowMs | .peek nowMs => nowMs

/-- The time of a take that succeeded. -/
def BucketCall.taken : BucketCall → Except BucketError Unit → List UInt64
  | .tryTake nowMs, .ok () => [nowMs]
  | _, _ => []

namespace TokenBucket

/-- What a call answers, and the bucket it leaves. -/
def perform (bucket : TokenBucket) : BucketCall → Except BucketError Unit × TokenBucket
  | .refill nowMs =>
      match bucket.refill nowMs with
      | .error error => (.error error, bucket)
      | .ok refilled => (.ok (), refilled)
  | .tryTake nowMs => bucket.tryTake nowMs
  | .peek nowMs =>
      match bucket.refill nowMs with
      | .error error => (.error error, bucket)
      | .ok refilled => (refilled.peek, refilled)

/-- The bucket after a sequence of calls. -/
def run (bucket : TokenBucket) (calls : List BucketCall) : TokenBucket :=
  calls.foldl (fun bucket call => (bucket.perform call).2) bucket

/-- What a sequence of calls answers. -/
def answers (bucket : TokenBucket) : List BucketCall → List (Except BucketError Unit)
  | [] => []
  | call :: calls => (bucket.perform call).1 :: (bucket.perform call).2.answers calls

/-- When the takes of a sequence of calls succeeded. -/
def takes (bucket : TokenBucket) : List BucketCall → List UInt64
  | [] => []
  | call :: calls =>
      call.taken (bucket.perform call).1 ++ (bucket.perform call).2.takes calls

end TokenBucket

/-! ## Levels -/

namespace TokenBucket

/-- The level in millionths of a token, each divided into a period. -/
def volume (bucket : TokenBucket) : Nat :=
  bucket.tokensMicro * bucket.rate.perMs.toNat + bucket.carry

/-- Every millisecond brings at least a millionth of a token, or the bucket holds none. -/
def Dense (rate : OrderRate) : Prop :=
  rate.perMs.toNat ≤ rate.count.toNat * micro ∨ rate.count = 0

/-- What every bucket of a rate satisfies. -/
structure Sound (rate : OrderRate) (bucket : TokenBucket) : Prop where
  rated : bucket.rate = rate
  capacity : bucket.capacityMicro = rate.count.toNat * micro
  carried : 0 < rate.perMs.toNat → bucket.carry < rate.perMs.toNat
  bounded : bucket.volume ≤ bucket.capacityMicro * rate.perMs.toNat

variable {rate : OrderRate} {bucket : TokenBucket} {nowMs : UInt64}

/-- A full bucket's tokens are few enough that no sum of the refill overflows. -/
theorem capacity_small (rate : OrderRate) : rate.count.toNat * micro ≤ 2 ^ 52 := by
  have count := rate.count.toNat_lt
  simp only [micro]
  omega

/-- A new bucket is sound: it is full, with nothing carried over. -/
theorem new_sound (rate : OrderRate) (nowMs : UInt64) : Sound rate (new rate nowMs) where
  rated := rfl
  capacity := by
    have small := capacity_small rate
    simp only [new, u64Max]
    omega
  carried := id
  bounded := le_rfl

/-- A rate moves exactly if its period is positive. -/
theorem perMs_pos {perMs : UInt64} : perMs ≠ 0 ↔ 0 < perMs.toNat := by
  rw [Nat.pos_iff_ne_zero, ne_eq, ne_eq, ← UInt64.toNat_inj]
  rfl

/-- A bucket whose period is zero refuses every refill. -/
theorem refill_zero (frozen : bucket.rate.perMs = 0) (nowMs : UInt64) :
    bucket.refill nowMs = .error .invalidRate := by
  simp only [refill, refuseIf, if_pos frozen, bind, Except.bind]

/-- A bucket refuses to be refilled at a time before its last one. -/
theorem refill_backwards (moving : bucket.rate.perMs ≠ 0) (earlier : nowMs < bucket.lastMs) :
    bucket.refill nowMs = .error (.clockWentBackwards bucket.lastMs) := by
  simp only [refill, refuseIf, if_neg moving, if_pos earlier, bind, Except.bind]

/-- A bucket that moves is refilled at any time from its last one on. -/
theorem refill_forward (moving : bucket.rate.perMs ≠ 0) (forward : bucket.lastMs ≤ nowMs) :
    bucket.refill nowMs = .ok (bucket.accrued nowMs) := by
  simp only [refill, refuseIf, if_neg moving, if_neg (UInt64.not_lt.mpr forward), bind, Except.bind]
  rfl

/-- An interval that saturates nothing. -/
theorem numerator_eq (capacity : bucket.capacityMicro = rate.count.toNat * micro)
    (nowMs : UInt64) :
    min ((nowMs.toNat - bucket.lastMs.toNat) * bucket.capacityMicro) u128Max =
      (nowMs.toNat - bucket.lastMs.toNat) * bucket.capacityMicro := by
  refine min_eq_left ?_
  have small := capacity_small rate
  rw [← capacity] at small
  have now := nowMs.toNat_lt
  calc (nowMs.toNat - bucket.lastMs.toNat) * bucket.capacityMicro
      ≤ 2 ^ 64 * 2 ^ 52 := Nat.mul_le_mul (by omega) small
    _ ≤ u128Max := by decide

@[simp] theorem accrued_lastMs (nowMs : UInt64) : (bucket.accrued nowMs).lastMs = nowMs := by
  unfold accrued
  dsimp only
  split
  · split <;> rfl
  · rfl

@[simp] theorem accrued_rate (nowMs : UInt64) : (bucket.accrued nowMs).rate = bucket.rate := by
  unfold accrued
  dsimp only
  split
  · split <;> rfl
  · rfl

@[simp] theorem accrued_capacityMicro (nowMs : UInt64) :
    (bucket.accrued nowMs).capacityMicro = bucket.capacityMicro := by
  unfold accrued
  dsimp only
  split
  · split <;> rfl
  · rfl

/-- **One refill.** The level grows with the time and stops at the capacity. -/
theorem volume_accrued (dense : Dense rate) (sound : Sound rate bucket)
    (moving : 0 < rate.perMs.toNat) (nowMs : UInt64) :
    (bucket.accrued nowMs).volume =
        min (bucket.volume + (nowMs.toNat - bucket.lastMs.toNat) * bucket.capacityMicro)
          (bucket.capacityMicro * rate.perMs.toNat) ∧
      (bucket.accrued nowMs).carry < rate.perMs.toNat := by
  have precise := numerator_eq sound.capacity nowMs
  have carried := sound.carried moving
  have bounded := sound.bounded
  have capacity : bucket.capacityMicro ≤ u64Max := by
    have small := capacity_small rate
    rw [sound.capacity, u64Max]
    omega
  have brings : rate.perMs.toNat ≤ bucket.capacityMicro ∨ bucket.capacityMicro = 0 := by
    rw [sound.capacity]
    refine dense.imp_right fun none => ?_
    rw [none]
    exact Nat.zero_mul _
  simp only [volume, accrued, precise, sound.rated] at bounded ⊢
  clear precise
  generalize nowMs.toNat - bucket.lastMs.toNat = elapsed
  have parts := Nat.div_add_mod' (elapsed * bucket.capacityMicro + bucket.carry) rate.perMs.toNat
  have rest := Nat.mod_lt (elapsed * bucket.capacityMicro + bucket.carry) moving
  generalize (elapsed * bucket.capacityMicro + bucket.carry) / rate.perMs.toNat = gain at *
  generalize (elapsed * bucket.capacityMicro + bucket.carry) % rate.perMs.toNat = remainder at *
  by_cases gains : 0 < gain
  · rw [if_pos gains]
    by_cases full : bucket.capacityMicro ≤ bucket.tokensMicro + gain
    · have reached : bucket.capacityMicro ≤
          min (bucket.tokensMicro + min gain u64Max) u64Max := by omega
      have enough := Nat.mul_le_mul_right rate.perMs.toNat full
      rw [if_pos reached]
      dsimp only
      refine ⟨?_, moving⟩
      rw [Nat.add_mul] at enough
      rw [min_eq_right (by omega), Nat.add_zero]
    · have plain : min (bucket.tokensMicro + min gain u64Max) u64Max =
          bucket.tokensMicro + gain := by omega
      have room := Nat.mul_le_mul_right rate.perMs.toNat (not_le.mp full)
      rw [plain, if_neg full]
      dsimp only
      refine ⟨?_, rest⟩
      rw [Nat.succ_mul, Nat.add_mul] at room
      rw [min_eq_left (by omega), Nat.add_mul]
      omega
  · -- nothing is gained in too short a time only
    rw [if_neg gains]
    dsimp only
    refine ⟨?_, rest⟩
    obtain rfl : gain = 0 := by omega
    rw [Nat.zero_mul, Nat.zero_add] at parts
    have idle : elapsed * bucket.capacityMicro = 0 := by
      rcases brings with brings | none
      · rcases Nat.eq_zero_or_pos elapsed with still | passed
        · rw [still, Nat.zero_mul]
        · have one := Nat.mul_le_mul_right bucket.capacityMicro passed
          omega
      · rw [none, Nat.mul_zero]
    rw [idle, Nat.zero_add] at parts
    rw [idle, Nat.add_zero, min_eq_left bounded, parts]

/-- What accrues keeps a bucket sound: within its capacity, and with a carry below one token's
worth. -/
theorem Sound.accrued (sound : Sound rate bucket) (dense : Dense rate)
    (moving : 0 < rate.perMs.toNat) (nowMs : UInt64) : Sound rate (bucket.accrued nowMs) := by
  obtain ⟨level, carried⟩ := volume_accrued dense sound moving nowMs
  refine ⟨?_, ?_, fun _ => carried, ?_⟩
  · rw [accrued_rate, sound.rated]
  · rw [accrued_capacityMicro, sound.capacity]
  · rw [level, accrued_capacityMicro]
    exact min_le_right ..

/-- A bucket is its level at its time. -/
theorem Sound.eq_of_volume {first second : TokenBucket} (one : Sound rate first)
    (two : Sound rate second) (moving : 0 < rate.perMs.toNat)
    (volume : first.volume = second.volume)
    (last : first.lastMs = second.lastMs) : first = second := by
  have tokens (bucket : TokenBucket) (sound : Sound rate bucket) :
      bucket.tokensMicro = bucket.volume / rate.perMs.toNat ∧
        bucket.carry = bucket.volume % rate.perMs.toNat := by
    have carried := sound.carried moving
    rw [TokenBucket.volume, sound.rated, Nat.mul_comm, Nat.mul_add_div moving,
      Nat.mul_add_mod, Nat.div_eq_of_lt carried, Nat.mod_eq_of_lt carried]
    exact ⟨rfl, rfl⟩
  obtain ⟨tokens₁, carry₁⟩ := tokens first one
  obtain ⟨tokens₂, carry₂⟩ := tokens second two
  cases first
  cases second
  simp only [TokenBucket.mk.injEq]
  rw [volume] at tokens₁ carry₁
  exact ⟨one.rated.trans two.rated.symm, one.capacity.trans two.capacity.symm,
    tokens₁.trans tokens₂.symm, last, carry₁.trans carry₂.symm⟩

/-- Reading the level in between makes no difference. -/
theorem Sound.accrued_accrued (sound : Sound rate bucket) (dense : Dense rate)
    (moving : 0 < rate.perMs.toNat) {nowMs later : UInt64} (forward : bucket.lastMs ≤ nowMs)
    (onward : nowMs ≤ later) : (bucket.accrued nowMs).accrued later = bucket.accrued later := by
  have first := sound.accrued dense moving nowMs
  refine (first.accrued dense moving later).eq_of_volume (sound.accrued dense moving later) moving
    ?_ ((accrued_lastMs later).trans (accrued_lastMs later).symm)
  rw [(volume_accrued dense first moving later).1, (volume_accrued dense sound moving later).1,
    (volume_accrued dense sound moving nowMs).1, accrued_lastMs, accrued_capacityMicro]
  rw [UInt64.le_iff_toNat_le] at forward onward
  have joined : later.toNat - bucket.lastMs.toNat =
      (nowMs.toNat - bucket.lastMs.toNat) + (later.toNat - nowMs.toNat) := by omega
  rw [joined, Nat.add_mul, ← Nat.add_assoc]
  generalize (later.toNat - nowMs.toNat) * bucket.capacityMicro = more
  omega

end TokenBucket

end Oppen.Guardrail
