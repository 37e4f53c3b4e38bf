import Oppen.Foundation.Run
import Oppen.Guardrail.Cancels
import Oppen.Guardrail.Exactness

/-! # The reserve for cancels

What an order that is cleared leaves of the address's budget, in every run of evaluations,
cancels and changes of the budget. An order leaves the reserve whole unless the bucket holds a
fraction of a token more than the reserve when it is spent from; a cancel is charged and never
refused.
-/

namespace Oppen.Guardrail

open Foundation Oppen.Json Oppen.Ledger Oppen.Signing

/-! ## Levels of any rate -/

namespace TokenBucket

/-- What a bucket of a rate satisfies however sparse the rate is. -/
structure Bounded (rate : OrderRate) (bucket : TokenBucket) : Prop where
  rated : bucket.rate = rate
  capacity : bucket.capacityMicro = rate.count.toNat * micro
  within : bucket.tokensMicro ≤ bucket.capacityMicro
  carried : bucket.carry < rate.perMs.toNat

variable {rate : OrderRate} {bucket : TokenBucket} {nowMs : UInt64}

/-- A new bucket is within its bounds. -/
theorem new_bounded (moving : 0 < rate.perMs.toNat) (nowMs : UInt64) :
    Bounded rate (new rate nowMs) where
  rated := rfl
  capacity := (new_sound rate nowMs).capacity
  within := le_rfl
  carried := moving

/-- A bucket within its bounds moves. -/
theorem Bounded.moving (bounded : Bounded rate bucket) : bucket.rate.perMs ≠ 0 := by
  rw [bounded.rated, perMs_pos]
  exact Nat.zero_lt_of_lt bounded.carried

/-- A refill takes nothing away, and leaves a bucket of the rate. -/
theorem Bounded.accrued (bounded : Bounded rate bucket) (nowMs : UInt64) :
    Bounded rate (bucket.accrued nowMs) ∧
      bucket.tokensMicro ≤ (bucket.accrued nowMs).tokensMicro := by
  have small := capacity_small rate
  have limit : u64Max = 2 ^ 64 - 1 := rfl
  have within := bounded.within
  have moving : 0 < rate.perMs.toNat := Nat.zero_lt_of_lt bounded.carried
  rw [← bounded.capacity] at small
  have rest (numerator : ℕ) : numerator % bucket.rate.perMs.toNat < rate.perMs.toNat := by
    rw [bounded.rated]
    exact Nat.mod_lt _ moving
  suffices kept : (bucket.accrued nowMs).tokensMicro ≤ bucket.capacityMicro ∧
      (bucket.accrued nowMs).carry < rate.perMs.toNat ∧
      bucket.tokensMicro ≤ (bucket.accrued nowMs).tokensMicro by
    refine ⟨⟨?_, ?_, ?_, kept.2.1⟩, kept.2.2⟩
    · rw [accrued_rate, bounded.rated]
    · rw [accrued_capacityMicro, bounded.capacity]
    · rw [accrued_capacityMicro]
      exact kept.1
  unfold TokenBucket.accrued
  dsimp only
  split
  · split
    · exact ⟨le_rfl, moving, within⟩
    · rename_i room
      exact ⟨by dsimp only; omega, rest _, by dsimp only; omega⟩
  · exact ⟨within, rest _, le_rfl⟩

/-- What an interval brings: the bucket is full, or holds that much more. -/
theorem Bounded.accrued_eq (bounded : Bounded rate bucket) (nowMs : UInt64) {gain rest : ℕ}
    (brought : ((nowMs.toNat - bucket.lastMs.toNat) * bucket.capacityMicro + bucket.carry) /
      rate.perMs.toNat = gain)
    (left : ((nowMs.toNat - bucket.lastMs.toNat) * bucket.capacityMicro + bucket.carry) %
      rate.perMs.toNat = rest) :
    bucket.accrued nowMs =
      if 0 < gain ∧ bucket.capacityMicro ≤ bucket.tokensMicro + gain then
        ⟨bucket.rate, bucket.capacityMicro, bucket.capacityMicro, nowMs, 0⟩
      else ⟨bucket.rate, bucket.capacityMicro, bucket.tokensMicro + gain, nowMs, rest⟩ := by
  have limit : u64Max = 2 ^ 64 - 1 := rfl
  have small := capacity_small rate
  have within := bounded.within
  rw [← bounded.capacity] at small
  unfold TokenBucket.accrued
  dsimp only
  rw [numerator_eq bounded.capacity nowMs, bounded.rated, brought, left]
  by_cases gains : 0 < gain
  · rw [if_pos gains]
    by_cases full : bucket.capacityMicro ≤ bucket.tokensMicro + gain
    · rw [if_pos (by omega), if_pos ⟨gains, full⟩]
    · have plain : min (bucket.tokensMicro + min gain u64Max) u64Max =
          bucket.tokensMicro + gain := by omega
      rw [plain, if_neg full, if_neg fun both => full both.2]
  · obtain rfl : gain = 0 := by omega
    rw [if_neg gains, if_neg fun both => gains both.1]
    rfl

/-- A bucket without a token forgets nothing: reading it in between makes no difference. -/
theorem Bounded.accrued_short (bounded : Bounded rate bucket) {later : UInt64}
    (short : (bucket.accrued nowMs).tokensMicro < micro) (forward : bucket.lastMs ≤ nowMs)
    (onward : nowMs ≤ later) : (bucket.accrued nowMs).accrued later = bucket.accrued later := by
  have moving : 0 < rate.perMs.toNat := Nat.zero_lt_of_lt bounded.carried
  have after := (bounded.accrued nowMs).1
  have capacity := bounded.capacity
  rw [UInt64.le_iff_toNat_le] at forward onward
  have joined : (later.toNat - bucket.lastMs.toNat) * bucket.capacityMicro + bucket.carry =
      (later.toNat - nowMs.toNat) * bucket.capacityMicro +
        ((nowMs.toNat - bucket.lastMs.toNat) * bucket.capacityMicro + bucket.carry) := by
    rw [← Nat.add_assoc, ← Nat.add_mul]
    congr 2
    omega
  have parts := Nat.div_add_mod' ((nowMs.toNat - bucket.lastMs.toNat) * bucket.capacityMicro +
    bucket.carry) rate.perMs.toNat
  have whole := bounded.accrued_eq later rfl rfl
  have half := bounded.accrued_eq nowMs rfl rfl
  rw [joined] at whole
  generalize numerator : (nowMs.toNat - bucket.lastMs.toNat) * bucket.capacityMicro +
    bucket.carry = first at *
  have room : ¬ (0 < first / rate.perMs.toNat ∧
      bucket.capacityMicro ≤ bucket.tokensMicro + first / rate.perMs.toNat) := by
    rintro ⟨gains, full⟩
    rw [half, if_pos ⟨gains, full⟩, capacity] at short
    -- a full bucket without a token is one that holds none
    have none : rate.count.toNat = 0 := by
      by_contra some
      have one := Nat.mul_le_mul_right micro (Nat.one_le_iff_ne_zero.mpr some)
      dsimp only at short
      omega
    rw [capacity, none, Nat.zero_mul, Nat.mul_zero, Nat.zero_add] at numerator
    rw [← numerator, Nat.div_eq_of_lt bounded.carried] at gains
    exact lt_irrefl _ gains
  rw [if_neg room] at half
  rw [half] at after ⊢
  rw [after.accrued_eq later rfl rfl, whole]
  dsimp only
  generalize (later.toNat - nowMs.toNat) * bucket.capacityMicro = second
  generalize first / rate.perMs.toNat = gain at *
  generalize first % rate.perMs.toNat = rest at *
  have moved : second + first = second + rest + gain * rate.perMs.toNat := by omega
  rw [moved, Nat.add_mul_div_right _ _ moving, Nat.add_mul_mod_self_right]
  generalize (second + rest) / rate.perMs.toNat = more
  have same : (0 < more ∧ bucket.capacityMicro ≤ bucket.tokensMicro + gain + more) ↔
      (0 < more + gain ∧ bucket.capacityMicro ≤ bucket.tokensMicro + (more + gain)) := by omega
  rw [if_congr same rfl rfl, Nat.add_assoc, Nat.add_comm gain more]

/-- A second refill at the same time does nothing. -/
theorem Bounded.accrued_again (bounded : Bounded rate bucket) (nowMs : UInt64) :
    (bucket.accrued nowMs).accrued nowMs = bucket.accrued nowMs := by
  obtain ⟨after, -⟩ := bounded.accrued nowMs
  have last : (bucket.accrued nowMs).lastMs = nowMs := accrued_lastMs nowMs
  have rest := after.carried
  generalize bucket.accrued nowMs = refilled at *
  rw [← after.rated] at rest
  subst last
  unfold TokenBucket.accrued
  simp only [Nat.sub_self, Nat.zero_mul, Nat.zero_min, Nat.zero_add, Nat.div_eq_of_lt rest,
    Nat.mod_eq_of_lt rest, lt_irrefl, if_false]

/-- A bucket with fewer tokens stays within its bounds. -/
theorem Bounded.fewer (bounded : Bounded rate bucket) {tokensMicro : ℕ}
    (fewer : tokensMicro ≤ bucket.tokensMicro) :
    Bounded rate { bucket with tokensMicro := tokensMicro } :=
  ⟨bounded.rated, bounded.capacity, fewer.trans bounded.within, bounded.carried⟩

/-- A bucket that gave a token stays within its bounds. -/
theorem Bounded.spent (bounded : Bounded rate bucket) : Bounded rate bucket.spent :=
  bounded.fewer (Nat.sub_le _ _)

/-- Whatever is asked of a bucket, it stays one of its rate. -/
theorem Bounded.perform (bounded : Bounded rate bucket) (call : BucketCall) :
    Bounded rate (bucket.perform call).2 := by
  by_cases forward : bucket.lastMs ≤ call.nowMs
  · have performed := performed bounded.moving call forward
    generalize bucket.perform call = result at performed ⊢
    obtain ⟨answer, after⟩ := result
    cases performed with
    | took nowMs _ => exact (bounded.accrued nowMs).1.spent
    | refused nowMs _ => exact (bounded.accrued nowMs).1
    | refilled nowMs => exact (bounded.accrued nowMs).1
    | peeked nowMs => exact (bounded.accrued nowMs).1
  · have backwards := perform_backwards bounded.moving (UInt64.not_le.mp forward)
    rw [backwards]
    exact bounded

/-- **Whole tokens are drawn back to back.** -/
theorem Bounded.draws {times : List UInt64} (bounded : Bounded rate bucket)
    (timed : Timed bucket.lastMs (times.map .tryTake))
    (stocked : times.length * micro ≤ bucket.tokensMicro) :
    bucket.answers (times.map .tryTake) = times.map fun _ => .ok () := by
  induction times generalizing bucket with
  | nil => rfl
  | cons nowMs times ih =>
      obtain ⟨forward, timed⟩ := timed_cons.mp timed
      obtain ⟨after, more⟩ := bounded.accrued nowMs
      rw [List.length_cons, Nat.succ_mul] at stocked
      have performed := performed bounded.moving (.tryTake nowMs) forward
      have spent : bucket.perform (.tryTake nowMs) = (.ok (), (bucket.accrued nowMs).spent) := by
        generalize bucket.perform (.tryTake nowMs) = result at performed ⊢
        obtain ⟨answer, left⟩ := result
        cases performed with
        | took => rfl
        | refused _ short => exact absurd short (by omega)
      rw [List.map_cons, answers, spent, List.map_cons]
      refine congrArg _ (ih after.spent ?_ ?_)
      · rw [spent_lastMs, accrued_lastMs]
        exact timed
      · change _ ≤ (bucket.accrued nowMs).tokensMicro - micro
        omega

end TokenBucket

/-! ## Spending from the address's budget -/

section Spending

variable {dec : RiskDecimals} {budget : GlobalRateBudget} {bucket after : TokenBucket}
  {nowMs : UInt64}

/-- A number of millionths compares with a whole number as the tokens do. -/
theorem tokens_le_iff (bucket : TokenBucket) (whole : ℕ) :
    dec.value (bucket.tokens dec) ≤ whole ↔ bucket.tokensMicro ≤ whole * micro := by
  rw [TokenBucket.tokens, dec.value_millionths, div_le_iff₀ (by norm_num)]
  unfold micro
  exact_mod_cast Iff.rfl

/-- What an order that gets a request does to the bucket. -/
theorem spendGlobal_ok (bounded : TokenBucket.Bounded budget.rate bucket) {left : dec.Decimal}
    (run : spendGlobal dec bucket budget .fresh nowMs = (.ok left, after)) :
    budget.reserve.toNat * micro < (bucket.accrued nowMs).tokensMicro ∧
      micro ≤ (bucket.accrued nowMs).tokensMicro ∧ after = (bucket.accrued nowMs).spent := by
  unfold spendGlobal at run
  by_cases forward : bucket.lastMs ≤ nowMs
  · rw [TokenBucket.refill_forward bounded.moving forward] at run
    dsimp only at run
    rw [if_neg (not_not.mpr rfl)] at run
    split at run
    · exact nomatch (Prod.mk.inj run).1
    rename_i above
    rw [tokens_le_iff, not_le] at above
    obtain ⟨refilled, -⟩ := bounded.accrued nowMs
    have performed := TokenBucket.performed refilled.moving (.tryTake nowMs)
      (UInt64.le_of_eq (TokenBucket.accrued_lastMs nowMs))
    change TokenBucket.Performed _ _ ((bucket.accrued nowMs).tryTake nowMs).1
      ((bucket.accrued nowMs).tryTake nowMs).2 at performed
    generalize (bucket.accrued nowMs).tryTake nowMs = result at performed run
    obtain ⟨answer, taken⟩ := result
    dsimp only at performed
    cases performed with
    | took _ stocked =>
        rw [bounded.accrued_again nowMs] at stocked run
        exact ⟨above, stocked, (Prod.mk.inj run).2.symm⟩
    | refused _ short => exact nomatch (Prod.mk.inj run).1
  · rw [TokenBucket.refill_backwards bounded.moving (UInt64.not_le.mp forward)] at run
    exact nomatch (Prod.mk.inj run).1

/-- Whatever a mode spends, the bucket stays one of its rate. -/
theorem spendGlobal_bounded (bounded : TokenBucket.Bounded budget.rate bucket) (mode : Mode)
    (nowMs : UInt64) :
    TokenBucket.Bounded budget.rate (spendGlobal dec bucket budget mode nowMs).2 := by
  unfold spendGlobal
  split
  · exact bounded
  · rename_i refilled refill
    have kept : TokenBucket.Bounded budget.rate refilled := by
      have performed := bounded.perform (.refill nowMs)
      rw [TokenBucket.perform, refill] at performed
      exact performed
    split
    · exact kept
    · split
      · exact kept
      · have performed := kept.perform (.tryTake nowMs)
        rw [TokenBucket.perform] at performed
        split
        · rename_i taken same
          rw [same] at performed
          exact performed
        · rename_i left same
          rw [same] at performed
          exact performed

end Spending

/-! ## Cancels -/

/-- A request for a cancel. -/
inductive CancelCall (dec : RiskDecimals) where
  | cancel (agent : String) (cancels : List CancelWire) (reason : String) (nowMs : UInt64)
  | cancelByCloid (agent : String) (cancels : List CancelByCloidWire) (reason : String)
      (nowMs : UInt64)
  | scheduleCancel (agent : String) (cancelAtMs : Option UInt64) (nowMs : UInt64)
  | discretionary (ask : CancelAsk dec.Decimal)

section Cancelling

variable {dec : RiskDecimals} {setup : EngineSetup} {answers : Answers dec.Decimal}

def CancelCall.nowMs : CancelCall dec → UInt64
  | .cancel _ _ _ nowMs | .cancelByCloid _ _ _ nowMs | .scheduleCancel _ _ nowMs => nowMs
  | .discretionary ask => ask.nowMs

/-- What a cancel answers, and what it leaves of the engine. -/
def CancelCall.perform (setup : EngineSetup) (answers : Answers dec.Decimal)
    (state : OrderState dec.Decimal) : CancelCall dec →
    Except (Refusal dec.Decimal) (Cleared dec.Decimal) × OrderState dec.Decimal
  | .cancel agent cancels reason nowMs => clearCancel setup answers agent cancels reason nowMs state
  | .cancelByCloid agent cancels reason nowMs =>
      clearCancelByCloid setup answers agent cancels reason nowMs state
  | .scheduleCancel agent cancelAtMs nowMs =>
      clearScheduleCancel setup answers agent cancelAtMs nowMs state
  | .discretionary ask => evaluateCancel setup answers ask state

/-- Why a call was refused, if it was. -/
def refusalOf {α : Type} : Except (Refusal dec.Decimal) α → Option (Refusal dec.Decimal)
  | .ok _ => none
  | .error refusal => some refusal

/-- The same engine with another bucket for the address. -/
def OrderState.withGlobalBucket (state : OrderState dec.Decimal) (globalBucket : TokenBucket) :
    OrderState dec.Decimal := { state with globalBucket }

/-- Refreshing the policy reads nothing of the global bucket. -/
theorem refreshPolicy_withGlobalBucket (state : OrderState dec.Decimal)
    (globalBucket : TokenBucket) :
    (state.withGlobalBucket globalBucket).refreshPolicy answers =
      ((state.refreshPolicy answers).1,
        (state.refreshPolicy answers).2.withGlobalBucket globalBucket) := by
  unfold OrderState.refreshPolicy
  cases answers.policy with
  | error detail => rfl
  | ok version =>
      dsimp only [OrderState.withGlobalBucket]
      cases state.engine.publish dec.toPolicyDecimals version <;> rfl

/-- Why an agent's own request is refused. -/
theorem decideDiscretionaryCancel_refusal (ask : CancelAsk dec.Decimal)
    (state : OrderState dec.Decimal) (globalBucket : TokenBucket) :
    refusalOf (decideDiscretionaryCancel setup answers ask none false
        (state.withGlobalBucket globalBucket)).1 =
      refusalOf (decideDiscretionaryCancel setup answers ask none false state).1 := by
  unfold decideDiscretionaryCancel
  split
  · rfl
  · rw [refreshPolicy_withGlobalBucket]
    generalize state.refreshPolicy answers = refreshed
    obtain ⟨verdict, state⟩ := refreshed
    cases verdict with
    | error refusal => rfl
    | ok done =>
        dsimp only [OrderState.withGlobalBucket]
        split <;> rfl

/-- Recording makes the same of what is refused for the same reason. -/
theorem evaluateCancel_refusal (ask : CancelAsk dec.Decimal) (state : OrderState dec.Decimal) :
    refusalOf (evaluateCancel setup answers ask state).1 =
      (refusalOf (decideDiscretionaryCancel setup answers ask none false state).1 <|>
        match answers.audit with
        | .error detail => some (.unevaluable (.auditWriteFailed detail))
        | .ok () => none) := by
  unfold evaluateCancel
  generalize decideDiscretionaryCancel setup answers ask none false state = decision
  obtain ⟨outcome, left⟩ := decision
  cases outcome with
  | ok cleared =>
      dsimp only [recordOutcome]
      cases answers.audit <;> rfl
  | error refusal =>
      split
      · rename_i same
        cases same
        rfl
      · rename_i same
        cases same
        rw [recordOutcome_error]
        rfl

/-- **No budget refuses a cancel.** A cancel is refused for the same reason, or not at all,
whatever the bucket of the address holds. -/
theorem CancelCall.refusal_eq (call : CancelCall dec) (state : OrderState dec.Decimal)
    (globalBucket : TokenBucket) :
    refusalOf (call.perform setup answers (state.withGlobalBucket globalBucket)).1 =
      refusalOf (call.perform setup answers state).1 := by
  cases call with
  | cancel agent cancels reason nowMs =>
      simp only [perform, clearCancel, clearRiskReducing]
      split <;> rfl
  | cancelByCloid agent cancels reason nowMs =>
      simp only [perform, clearCancelByCloid, clearRiskReducing]
      split <;> rfl
  | scheduleCancel agent cancelAtMs nowMs =>
      simp only [perform, clearScheduleCancel]
      split <;> rfl
  | discretionary ask =>
      rw [perform, perform, evaluateCancel_refusal, evaluateCancel_refusal,
        decideDiscretionaryCancel_refusal]

variable (setup answers) in
/-- A cancel changes what the engine knows, and draws from the address's bucket. -/
theorem CancelCall.perform_eq (call : CancelCall dec) (state : OrderState dec.Decimal) :
    ∃ outcome engine globalBucket,
      call.perform setup answers state = (outcome, { state with engine, globalBucket }) ∧
        (globalBucket = state.globalBucket ∨
          globalBucket = (state.globalBucket.tryTake call.nowMs).2) := by
  cases call with
  | cancel agent cancels reason nowMs =>
      simp only [perform, clearCancel, clearRiskReducing]
      split
      · exact ⟨_, _, _, rfl, .inl rfl⟩
      · exact ⟨_, _, _, rfl, .inr rfl⟩
  | cancelByCloid agent cancels reason nowMs =>
      simp only [perform, clearCancelByCloid, clearRiskReducing]
      split
      · exact ⟨_, _, _, rfl, .inl rfl⟩
      · exact ⟨_, _, _, rfl, .inr rfl⟩
  | scheduleCancel agent cancelAtMs nowMs =>
      simp only [perform, clearScheduleCancel]
      split
      · exact ⟨_, _, _, rfl, .inl rfl⟩
      · exact ⟨_, _, _, rfl, .inr rfl⟩
  | discretionary ask =>
      suffices decided : ∃ outcome engine globalBucket,
          decideDiscretionaryCancel setup answers ask none false state =
            (outcome, { state with engine, globalBucket }) ∧
          (globalBucket = state.globalBucket ∨
            globalBucket = (state.globalBucket.tryTake ask.nowMs).2) by
        obtain ⟨outcome, engine, globalBucket, decided, drawn⟩ := decided
        rw [perform, evaluateCancel, decided]
        split <;> rename_i same <;> cases same <;> exact ⟨_, _, _, rfl, drawn⟩
      obtain ⟨verdict, engine, refreshed⟩ := state.refreshPolicy_eq answers
      unfold decideDiscretionaryCancel
      rw [refreshed]
      split
      · exact ⟨_, _, _, rfl, .inl rfl⟩
      · cases verdict with
        | error refusal => exact ⟨_, _, _, rfl, .inl rfl⟩
        | ok done =>
            dsimp only
            split
            · exact ⟨_, _, _, rfl, .inl rfl⟩
            · exact ⟨_, _, _, rfl, .inr rfl⟩

end Cancelling

/-! ## Evaluations -/

section Evaluating

variable {dec : RiskDecimals} {setup : EngineSetup} {answers : Answers dec.Decimal}

variable (answers) in
/-- What waits for an operator changes the proposals and nothing else. -/
theorem requireApproval_eq (mode : Mode) (ask : Evaluation dec.Decimal)
    (passed : Passed dec.Decimal) (state : OrderState dec.Decimal) :
    ∃ verdict proposals proposalSeq, requireApproval answers mode ask passed state =
      (verdict, { state with proposals, proposalSeq }) := by
  unfold requireApproval
  dsimp only
  split
  · exact ⟨_, _, _, rfl⟩
  · split
    · exact ⟨_, _, _, rfl⟩
    · exact ⟨_, _, _, rfl⟩
    · split <;> exact ⟨_, _, _, rfl⟩

variable (setup answers) in
/-- An evaluation leaves the budget as it is, and the bucket or what it spent from it. -/
theorem decideOrder_budget (mode : Mode) (ask : Evaluation dec.Decimal)
    (state : OrderState dec.Decimal) :
    (decideOrder setup answers mode ask state).2.globalBudget = state.globalBudget ∧
      ((decideOrder setup answers mode ask state).2.globalBucket = state.globalBucket ∨
        (decideOrder setup answers mode ask state).2.globalBucket =
          (spendGlobal dec state.globalBucket state.globalBudget mode ask.nowMs).2) := by
  obtain ⟨verdict, engine, reached, -⟩ := reachBudgets_eq setup answers mode ask state
  unfold decideOrder
  rw [reached]
  cases verdict with
  | error refusal => exact ⟨rfl, .inl rfl⟩
  | ok passed =>
      unfold spendBudgets
      dsimp only
      split
      · exact ⟨rfl, .inl rfl⟩
      generalize TokenBucket.perform _ _ = taken
      obtain ⟨spent, bucket⟩ := taken
      cases spent with
      | error error => exact ⟨rfl, .inl rfl⟩
      | ok taken =>
          dsimp only [OrderState.setBucket]
          generalize spendGlobal _ _ _ _ _ = charge
          obtain ⟨left, globalBucket⟩ := charge
          cases left with
          | error refusal => exact ⟨rfl, .inr rfl⟩
          | ok globalTokens =>
              dsimp only
              obtain ⟨verdict, proposals, proposalSeq, approved⟩ := requireApproval_eq
                answers mode ask passed (OrderState.mk engine _ _ globalBucket _ _)
              rw [approved]
              cases verdict <;> exact ⟨rfl, .inr rfl⟩

/-- An evaluation leaves the state its fresh decision leaves. -/
theorem evaluate_state (ask : Evaluation dec.Decimal) (state : OrderState dec.Decimal) :
    (evaluate setup answers ask state).2 = (decideOrder setup answers .fresh ask state).2 := by
  unfold evaluate
  generalize decideOrder setup answers .fresh ask state = decision
  obtain ⟨outcome, left⟩ := decision
  dsimp only
  split <;> rename_i same <;> cases same <;> rfl

/-- A preflight leaves the state its decision leaves. -/
theorem preflight_state (ask : Evaluation dec.Decimal) (state : OrderState dec.Decimal) :
    (preflight setup answers ask state).2 = (decideOrder setup answers .preflight ask state).2 := by
  unfold preflight
  generalize decideOrder setup answers .preflight ask state = decision
  obtain ⟨outcome, left⟩ := decision
  cases outcome with
  | ok cleared =>
      dsimp only
      split <;> rfl
  | error refusal => rfl

end Evaluating

/-! ## Runs -/

/-- What happens to the budget of the address. Orders draw on it down to the reserve, and cancels
below it. -/
inductive BudgetAct where
  | evaluate
  | approve
  | preflight
  | cancel
  | setBudget
  | elsewhere
  deriving DecidableEq

section Runs

variable {dec : RiskDecimals} {setup : EngineSetup}

/-- `operator_set_global_rate_budget`, once the budget is valid. -/
def OrderState.setBudget (state : OrderState dec.Decimal) (budget : GlobalRateBudget)
    (nowMs : UInt64) : OrderState dec.Decimal :=
  { state with
    globalBudget := budget
    globalBucket :=
      if state.globalBucket.rate = budget.rate then state.globalBucket
      else .new budget.rate nowMs }

/-- One call on the engine, whatever the rest of the program answers it; everything else it
does leaves the budgets alone. -/
inductive BudgetStep (dec : RiskDecimals) (setup : EngineSetup) :
    OrderState dec.Decimal → BudgetAct → OrderState dec.Decimal → Prop
  | evaluate (before : OrderState dec.Decimal) (answers : Answers dec.Decimal)
      (ask : Evaluation dec.Decimal) :
      BudgetStep dec setup before .evaluate (evaluate setup answers ask before).2
  | approve (before : OrderState dec.Decimal) (answers : Answers dec.Decimal)
      (route : AuthorizedRoute) (ask : Evaluation dec.Decimal) :
      BudgetStep dec setup before .approve
        (decideOrder setup answers (.approved route) ask before).2
  | preflight (before : OrderState dec.Decimal) (answers : Answers dec.Decimal)
      (ask : Evaluation dec.Decimal) :
      BudgetStep dec setup before .preflight (preflight setup answers ask before).2
  | cancel (before : OrderState dec.Decimal) (answers : Answers dec.Decimal)
      (call : CancelCall dec) :
      BudgetStep dec setup before .cancel (call.perform setup answers before).2
  | setBudget (before : OrderState dec.Decimal) (budget : GlobalRateBudget) (nowMs : UInt64)
      (valid : budget.validate = .ok ()) :
      BudgetStep dec setup before .setBudget (before.setBudget budget nowMs)
  | elsewhere (before after : OrderState dec.Decimal)
      (budget : after.globalBudget = before.globalBudget)
      (bucket : after.globalBucket = before.globalBucket)
        (buckets : after.buckets = before.buckets) :
      BudgetStep dec setup before .elsewhere after

/-- The bucket of the address is one of its budget. -/
def OrderState.Metered (state : OrderState dec.Decimal) : Prop :=
  TokenBucket.Bounded state.globalBudget.rate state.globalBucket

/-- A valid budget has a rate that moves. -/
theorem validate_moving {budget : GlobalRateBudget} (valid : budget.validate = .ok ()) :
    0 < budget.rate.perMs.toNat := by
  obtain ⟨_, first, -⟩ := bind_eq_ok valid
  exact TokenBucket.perMs_pos.mp (refuseIf_ok first)

/-- An engine starts with a full bucket. -/
theorem metered_new {state : OrderState dec.Decimal} {nowMs : UInt64}
    (valid : state.globalBudget.validate = .ok ())
    (full : state.globalBucket = .new state.globalBudget.rate nowMs) : state.Metered := by
  rw [OrderState.Metered, full]
  exact TokenBucket.new_bounded (validate_moving valid) nowMs

/-- **One call.** -/
theorem BudgetStep.metered {before after : OrderState dec.Decimal} {act : BudgetAct}
    (step : BudgetStep dec setup before act after) (metered : before.Metered) : after.Metered := by
  have decided (answers : Answers dec.Decimal) (mode : Mode) (ask : Evaluation dec.Decimal) :
      (decideOrder setup answers mode ask before).2.Metered := by
    obtain ⟨budget, same | spent⟩ := decideOrder_budget setup answers mode
      ask before
    · rw [OrderState.Metered, budget, same]
      exact metered
    · rw [OrderState.Metered, budget, spent]
      exact spendGlobal_bounded metered mode ask.nowMs
  cases step with
  | evaluate answers ask =>
      rw [evaluate_state]
      exact decided answers .fresh ask
  | approve answers route ask => exact decided answers _ ask
  | preflight answers ask =>
      rw [preflight_state]
      exact decided answers .preflight ask
  | cancel answers call =>
      obtain ⟨outcome, engine, globalBucket, performed, rfl | rfl⟩ := call.perform_eq
        setup answers before
      · rw [performed]
        exact metered
      · rw [performed]
        exact TokenBucket.Bounded.perform metered (.tryTake call.nowMs)
  | setBudget budget nowMs valid =>
      rw [OrderState.Metered, OrderState.setBudget]
      dsimp only
      split
      · rename_i same
        rw [← same, TokenBucket.Bounded.rated metered]
        exact metered
      · exact TokenBucket.new_bounded (validate_moving valid) nowMs
  | elsewhere _ budget bucket buckets =>
      rw [OrderState.Metered, budget, bucket]
      exact metered

/-- **Every run.** -/
theorem metered_run {start after : OrderState dec.Decimal} {acts : List BudgetAct}
    (run : Run (BudgetStep dec setup) start acts after) (metered : start.Metered) :
    after.Metered := by
  induction run with
  | nil => exact metered
  | snoc _ step ih => exact step.metered ih

/-! ## The reserve -/

/-- The bucket holds the reserve. -/
def OrderState.HoldsReserve (state : OrderState dec.Decimal) : Prop :=
  state.globalBudget.reserve.toNat * micro ≤ state.globalBucket.tokensMicro

/-- Once refilled, the bucket holds less than a whole token more than the reserve. -/
def OrderState.InReserveGap (state : OrderState dec.Decimal) (nowMs : UInt64) : Prop :=
  state.globalBudget.reserve.toNat * micro < (state.globalBucket.accrued nowMs).tokensMicro ∧
    (state.globalBucket.accrued nowMs).tokensMicro <
      (state.globalBudget.reserve.toNat + 1) * micro

instance (state : OrderState dec.Decimal) : Decidable state.HoldsReserve :=
  inferInstanceAs (Decidable (_ ≤ _))

instance (state : OrderState dec.Decimal) (nowMs : UInt64) : Decidable (state.InReserveGap nowMs) :=
  inferInstanceAs (Decidable (_ ∧ _))

/-- A cleared order leaves a bucket that it drew a token of. -/
theorem evaluate_spends {answers : Answers dec.Decimal} {ask : Evaluation dec.Decimal}
    {before after : OrderState dec.Decimal} {cleared : Cleared dec.Decimal}
    (metered : before.Metered)
    (run : evaluate setup answers ask before = (.ok cleared, after)) :
    after.globalBudget = before.globalBudget ∧
      after.globalBucket = (before.globalBucket.accrued ask.nowMs).spent ∧
      before.globalBudget.reserve.toNat * micro <
        (before.globalBucket.accrued ask.nowMs).tokensMicro ∧
      micro ≤ (before.globalBucket.accrued ask.nowMs).tokensMicro := by
  obtain ⟨clearing⟩ := decideOrder_ok (evaluate_ok run)
  obtain ⟨above, stocked, drawn⟩ := spendGlobal_ok metered clearing.spent
  rw [clearing.result]
  exact ⟨rfl, drawn, above, stocked⟩

/-- **Exactly when an order leaves the reserve.** -/
theorem holdsReserve_iff {answers : Answers dec.Decimal} {ask : Evaluation dec.Decimal}
    {before after : OrderState dec.Decimal} {cleared : Cleared dec.Decimal}
    (metered : before.Metered)
    (run : evaluate setup answers ask before = (.ok cleared, after)) :
    after.HoldsReserve ↔ ¬ before.InReserveGap ask.nowMs := by
  obtain ⟨budget, drawn, above, stocked⟩ := evaluate_spends metered run
  rw [OrderState.HoldsReserve, OrderState.InReserveGap, budget, drawn, TokenBucket.spent,
    Nat.succ_mul]
  generalize (before.globalBucket.accrued ask.nowMs).tokensMicro = tokens at above stocked ⊢
  generalize before.globalBudget.reserve.toNat * micro = reserve at above ⊢
  generalize micro = token at stocked ⊢
  constructor
  · intro kept gap
    dsimp only at kept
    omega
  · intro whole
    dsimp only
    omega

/-- **Orders and the reserve.** In every run, an order that is cleared leaves the reserve
exactly when the bucket did not hold a fraction of a token more than it; where the reserve is
held, that many cancels are charged back to back; and no cancel is refused for the budget. -/
theorem reserve_kept_iff {start before : OrderState dec.Decimal} {startMs : UInt64}
    {acts : List BudgetAct} (valid : start.globalBudget.validate = .ok ())
    (full : start.globalBucket = .new start.globalBudget.rate startMs)
    (run : Run (BudgetStep dec setup) start acts before) :
    (∀ answers ask cleared after, evaluate setup answers ask before = (.ok cleared, after) →
      (after.HoldsReserve ↔ ¬ before.InReserveGap ask.nowMs)) ∧
    (before.HoldsReserve → ∀ times : List UInt64,
      TokenBucket.Timed before.globalBucket.lastMs (times.map .tryTake) →
      times.length ≤ before.globalBudget.reserve.toNat →
      before.globalBucket.answers (times.map .tryTake) = times.map fun _ => .ok ()) ∧
    (∀ (answers : Answers dec.Decimal) (call : CancelCall dec) (globalBucket : TokenBucket),
      refusalOf (call.perform setup answers (before.withGlobalBucket globalBucket)).1 =
        refusalOf (call.perform setup answers before).1) := by
  have metered := metered_run run (metered_new valid full)
  refine ⟨fun answers ask cleared after evaluated => holdsReserve_iff metered evaluated, ?_, ?_⟩
  · intro holds times timed few
    exact metered.draws timed ((Nat.mul_le_mul_right micro few).trans holds)
  · exact fun answers call globalBucket => call.refusal_eq before globalBucket

end Runs

namespace OneSymbol

/-- Two requests a second, one of them kept for cancels. -/
def tight : GlobalRateBudget := ⟨⟨2, 1000⟩, 1⟩

/-- An order to buy one for a flat account. -/
def single (nowMs : UInt64) : Evaluation dec.Decimal :=
  ask (snapshot (dollars 0) (dollars 0)) (dollars 100) (dollars 1) nowMs

/-- One cancel at the start. -/
def cancelled : OrderState dec.Decimal :=
  ((CancelCall.cancel "maker" [⟨0, 7⟩] "stale" 0 : CancelCall dec).perform
    setup (answers guardrails)
    (state guardrails tight)).2

/-- A quarter of a second later the bucket holds one and a half tokens; the order takes one of
them, and half a token is left of the reserve. -/
theorem order_into_reserve :
    Run (BudgetStep dec setup) (state guardrails tight) [.cancel] cancelled ∧
      (evaluate setup (answers guardrails) (single 250) cancelled).1.isOk = true ∧
      (evaluate setup (answers guardrails) (single 250) cancelled).2.globalBucket.tokensMicro =
        500000 ∧
      ¬ (evaluate setup (answers guardrails) (single 250) cancelled).2.HoldsReserve :=
  ⟨.single (.cancel _ _ _), by decide +kernel, by decide +kernel, by decide +kernel⟩

/-- Half a second later the order leaves the reserve whole. -/
theorem order_beside_reserve :
    (evaluate setup (answers guardrails) (single 500) cancelled).1.isOk = true ∧
      (evaluate setup (answers guardrails) (single 500) cancelled).2.HoldsReserve := by
  have cleared : (evaluate setup (answers guardrails) (single 500) cancelled).1.isOk = true := by
    decide +kernel
  have valid : (state guardrails tight).globalBudget.validate = .ok () :=
    eq_ok_of_some (by decide +kernel)
  have full : (state guardrails tight).globalBucket =
      .new (state guardrails tight).globalBudget.rate 0 := rfl
  obtain ⟨kept, -, -⟩ := reserve_kept_iff valid full
    (.single (.cancel _ (answers guardrails) (.cancel "maker" [⟨0, 7⟩] "stale" 0)))
  refine ⟨cleared, ?_⟩
  obtain ⟨clearance, ok⟩ : ∃ clearance,
      (evaluate setup (answers guardrails) (single 500) cancelled).1 = .ok clearance := by
    cases result : (evaluate setup (answers guardrails) (single 500) cancelled).1 with
    | error refusal => exact nomatch result ▸ cleared
    | ok clearance => exact ⟨clearance, rfl⟩
  exact (kept _ _ _ _ (Prod.ext ok rfl)).mpr (by decide +kernel)

end OneSymbol

end Oppen.Guardrail
