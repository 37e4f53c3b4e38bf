import Oppen.Guardrail.Preflight

/-! # What a refused order costs

An order that is refused before it is charged leaves both budgets as they were for every later
call: the address's bucket untouched, the agent's at most read.
-/

namespace Oppen.Guardrail

open Foundation Oppen.Json Oppen.Ledger Oppen.Signing

/-! ## Buckets that answer alike -/

namespace TokenBucket

variable {rate : OrderRate} {bucket : TokenBucket} {nowMs later : UInt64}

/-- A call asks what a refill at its time leaves. -/
theorem perform_congr {first second refilled : TokenBucket} (call : BucketCall)
    (one : first.refill call.nowMs = .ok refilled) (two : second.refill call.nowMs = .ok refilled) :
    first.perform call = second.perform call := by
  cases call with
  | refill nowMs =>
      dsimp only [BucketCall.nowMs] at one two
      rw [perform, perform, one, two]
  | peek nowMs =>
      dsimp only [BucketCall.nowMs] at one two
      rw [perform, perform, one, two]
  | tryTake nowMs =>
      dsimp only [BucketCall.nowMs] at one two
      rw [perform, perform, tryTake, tryTake, one, two]

/-- Calls in order answer what the first refill of them leaves. -/
theorem answers_congr {first second : TokenBucket} {call : BucketCall} (calls : List BucketCall)
    (one : first.rate.perMs ≠ 0) (two : second.rate.perMs ≠ 0)
    (forward : first.lastMs ≤ call.nowMs) (onward : second.lastMs ≤ call.nowMs)
    (same : first.accrued call.nowMs = second.accrued call.nowMs) :
    first.answers (call :: calls) = second.answers (call :: calls) := by
  have refilled := refill_forward two onward
  rw [← same] at refilled
  rw [answers, answers, perform_congr call (refill_forward one forward) refilled]

/-- A full bucket of a dense rate stays what a new one is. -/
theorem new_accrued (dense : Dense rate) (moving : 0 < rate.perMs.toNat) (nowMs later : UInt64) :
    (new rate nowMs).accrued later = (new rate later).accrued later := by
  have one := new_sound rate nowMs
  have two := new_sound rate later
  refine (one.accrued dense moving later).eq_of_volume (two.accrued dense moving later) moving ?_
    ((accrued_lastMs later).trans (accrued_lastMs later).symm)
  have full (start : UInt64) : ((new rate start).accrued later).volume =
      (new rate start).capacityMicro * rate.perMs.toNat := by
    rw [(volume_accrued dense (new_sound rate start) moving later).1]
    refine min_eq_right ?_
    exact Nat.le_add_right _ _
  rw [full, full]
  rfl

/-- What a take that is refused leaves of a bucket: the bucket, where its clock is ahead, or the
refilled one. -/
theorem perform_refused {left : TokenBucket} {error : BucketError} (moving : bucket.rate.perMs ≠ 0)
    (run : bucket.perform (.tryTake nowMs) = (.error error, left)) :
    left = bucket ∨ bucket.lastMs ≤ nowMs ∧ left = bucket.accrued nowMs ∧
      (bucket.accrued nowMs).tokensMicro < micro := by
  by_cases forward : bucket.lastMs ≤ nowMs
  · have performed := performed moving (.tryTake nowMs) forward
    rw [run] at performed
    cases performed with
    | refused _ short => exact .inr ⟨forward, rfl, short⟩
  · have backwards : bucket.perform (.tryTake nowMs) =
        (.error (.clockWentBackwards bucket.lastMs), bucket) :=
      perform_backwards moving (UInt64.not_le.mp forward)
    rw [backwards] at run
    exact .inl (Prod.mk.inj run).2.symm

end TokenBucket

/-! ## What is asked of an agent's bucket -/

section Asking

variable {dec : RiskDecimals} {setup : EngineSetup} {answers : Answers dec.Decimal}
  {ask : Evaluation dec.Decimal} {before after : OrderState dec.Decimal}

/-- What calls on an agent's bucket answer, while its rate is the one given. -/
def OrderState.asked (state : OrderState dec.Decimal) (agent : String) (rate : OrderRate) :
    List BucketCall → List (Except BucketError Unit)
  | [] => []
  | call :: calls => (state.bucketFor agent rate call.nowMs).answers (call :: calls)

/-- Every agent's bucket is one of its rate. -/
def OrderState.Stocked (state : OrderState dec.Decimal) : Prop :=
  ∀ agent bucket, state.buckets agent = some bucket → TokenBucket.Bounded bucket.rate bucket

/-- The bucket for a rate is one that is held at this rate, or a new one. -/
theorem OrderState.bucketFor_cases (state : OrderState dec.Decimal) (agent : String)
    (rate : OrderRate) :
    (∃ bucket, state.buckets agent = some bucket ∧ bucket.rate = rate ∧
        ∀ time, state.bucketFor agent rate time = bucket) ∨
      ((∀ bucket, state.buckets agent = some bucket → bucket.rate ≠ rate) ∧
        ∀ time, state.bucketFor agent rate time = .new rate time) := by
  unfold bucketFor
  cases state.buckets agent with
  | none => exact .inr ⟨fun bucket same => (nomatch same), fun _ => rfl⟩
  | some bucket =>
      by_cases same : bucket.rate = rate
      · refine .inl ⟨bucket, rfl, same, fun time => ?_⟩
        dsimp only
        rw [if_pos same]
      · refine .inr ⟨?_, fun time => ?_⟩
        · intro other held
          cases held
          exact same
        · dsimp only
          rw [if_neg same]

/-- The rate is one that polling makes no difference to, or the agent's bucket is there already. -/
def OrderState.Steady (state : OrderState dec.Decimal) (agent : String) (rate : OrderRate) : Prop :=
  TokenBucket.Dense rate ∨ ∃ bucket, state.buckets agent = some bucket ∧ bucket.rate = rate

/-- A bucket that was only read answers as if it had not been. -/
theorem asked_read {agent : String} {rate : OrderRate} {nowMs : UInt64} {left : TokenBucket}
    {calls : List BucketCall} (stocked : before.Stocked) (moving : rate.perMs ≠ 0)
    (steady : before.Steady agent rate) (held : after.buckets agent = some left)
    (read : left = before.bucketFor agent rate nowMs ∨
      (before.bucketFor agent rate nowMs).lastMs ≤ nowMs ∧
        left = (before.bucketFor agent rate nowMs).accrued nowMs ∧
        ((before.bucketFor agent rate nowMs).accrued nowMs).tokensMicro < micro)
    (timed : TokenBucket.Timed nowMs calls) :
    after.asked agent rate calls = before.asked agent rate calls := by
  cases calls with
  | nil => rfl
  | cons call calls =>
      obtain ⟨forward, -⟩ := TokenBucket.timed_cons.mp timed
      have found (rated : left.rate = rate) : after.bucketFor agent rate call.nowMs = left := by
        unfold OrderState.bucketFor
        rw [held]
        exact if_pos rated
      rw [OrderState.asked, OrderState.asked]
      rcases before.bucketFor_cases agent rate with ⟨bucket, present, rated, same⟩ | ⟨absent, fresh⟩
      · have bounded := stocked agent bucket present
        rw [same] at read
        rw [same]
        rcases read with rfl | ⟨last, rfl, short⟩
        · rw [found rated]
        · have kept := bucket.accrued_rate nowMs
          rw [found (kept.trans rated)]
          refine TokenBucket.answers_congr calls ?_ bounded.moving ?_ ?_
            (bounded.accrued_short short last forward)
          · rw [kept]
            exact bounded.moving
          · rw [TokenBucket.accrued_lastMs]
            exact forward
          · exact UInt64.le_trans last forward
      · have dense : TokenBucket.Dense rate := by
          rcases steady with dense | ⟨bucket, present, rated⟩
          · exact dense
          · exact absurd rated (absent bucket present)
        have positive := TokenBucket.perMs_pos.mp moving
        have full := TokenBucket.new_accrued dense positive nowMs call.nowMs
        rw [fresh] at read
        rw [fresh]
        rcases read with rfl | ⟨-, rfl, -⟩
        · rw [found rfl]
          exact TokenBucket.answers_congr calls moving moving forward (UInt64.le_refl _) full
        · have kept := (TokenBucket.new rate nowMs).accrued_rate nowMs
          rw [found kept]
          refine TokenBucket.answers_congr calls ?_ moving ?_ (UInt64.le_refl _) ?_
          · rw [kept]
            exact moving
          · rw [TokenBucket.accrued_lastMs]
            exact forward
          · exact ((TokenBucket.new_sound rate nowMs).accrued_accrued dense positive
              (UInt64.le_refl nowMs) forward).trans full

/-- A call on another agent's bucket makes no difference. -/
theorem asked_elsewhere {agent : String} (rate : OrderRate) (calls : List BucketCall)
    (same : after.buckets agent = before.buckets agent) :
    after.asked agent rate calls = before.asked agent rate calls := by
  unfold OrderState.asked OrderState.bucketFor
  rw [same]

end Asking

/-! ## What a decision charges -/

section Charging

variable {dec : RiskDecimals} {setup : EngineSetup} {answers : Answers dec.Decimal}
  {ask : Evaluation dec.Decimal} {before after : OrderState dec.Decimal}

/-- A valid configuration has an order rate that moves. -/
theorem validate_rate {config : AgentGuardrails dec.Decimal}
    (valid : config.validate dec.toPolicyDecimals = .ok ()) : config.orderRate.perMs ≠ 0 := by
  unfold AgentGuardrails.validate at valid
  obtain ⟨_, _, valid⟩ := bind_eq_ok valid
  obtain ⟨_, _, valid⟩ := bind_eq_ok valid
  obtain ⟨_, _, valid⟩ := bind_eq_ok valid
  obtain ⟨_, _, valid⟩ := bind_eq_ok valid
  obtain ⟨_, rate, -⟩ := bind_eq_ok valid
  exact refuseIf_ok rate

/-- A valid configuration has a slippage that is not negative. -/
theorem validate_slippage {config : AgentGuardrails dec.Decimal}
    (valid : config.validate dec.toPolicyDecimals = .ok ()) :
    0 ≤ dec.value config.maxSlippageBps := by
  unfold AgentGuardrails.validate at valid
  obtain ⟨_, _, valid⟩ := bind_eq_ok valid
  obtain ⟨_, _, valid⟩ := bind_eq_ok valid
  obtain ⟨_, slippage, -⟩ := bind_eq_ok valid
  exact not_lt.mp (mt (dec.isSignNegative_iff _).mpr (refuseIf_ok slippage))

/-- An account that passes its check has positive equity. -/
theorem checkAccount_ok {account : AccountSnapshot dec.Decimal}
    {config : AgentGuardrails dec.Decimal} {nowMs : UInt64} {done : Unit}
    (run : checkAccount account config nowMs = .ok done) : 0 < dec.value account.equityUsd := by
  obtain ⟨_, -, run⟩ := bind_eq_ok run
  obtain ⟨_, -, run⟩ := bind_eq_ok run
  obtain ⟨_, -, run⟩ := bind_eq_ok run
  obtain ⟨_, equity, -⟩ := bind_eq_ok run
  exact not_le.mp (refuseIf_ok equity)

/-- An admitted order is its agent's, under guardrails that were checked. -/
theorem checkAdmission_config {mode : Mode} {engine : EngineState dec.Decimal}
    {route : AuthorizedRoute} {config : AgentGuardrails dec.Decimal}
    (run : checkAdmission setup answers mode ask engine = .ok (route, config)) :
    engine.policy.guardrails.get ask.agent = some config ∧
      config.validate dec.toPolicyDecimals = .ok () ∧
      0 < dec.value ask.exposure.agent.equityUsd := by
  unfold checkAdmission at run
  obtain ⟨_, _, run⟩ := bind_eq_ok run
  cases held : engine.policy.guardrails.get ask.agent with
  | none =>
      rw [held] at run
      exact nomatch run
  | some found =>
      rw [held] at run
      obtain ⟨_, valid, run⟩ := bind_eq_ok run
      obtain ⟨_, -, run⟩ := bind_eq_ok run
      obtain ⟨_, -, run⟩ := bind_eq_ok run
      obtain ⟨_, -, run⟩ := bind_eq_ok run
      obtain ⟨_, -, run⟩ := bind_eq_ok run
      obtain ⟨_, account, run⟩ := bind_eq_ok run
      obtain ⟨_, -, run⟩ := bind_eq_ok run
      obtain ⟨_, -, run⟩ := bind_eq_ok run
      obtain ⟨rfl, rfl⟩ := Prod.mk.inj (Except.ok.inj run)
      exact ⟨rfl, mapError_eq_ok valid, checkAccount_ok account⟩

/-- The refusals of an order that both budgets were charged for: it waits for an operator, or it
could not be put down, in the journal of approvals or in the audit. -/
def Refusal.afterCharge : Refusal dec.Decimal → Prop
  | .approvalRequired .. => True
  | .unevaluable (.approvalAuthority _) | .unevaluable (.auditWriteFailed _) => True
  | _ => False

/-- The address's budget is what refuses an order: the order passed every check before it, and its
agent's bucket had a token for it, which is gone by then. -/
def RefusedByAddress (setup : EngineSetup) (answers : Answers dec.Decimal)
    (ask : Evaluation dec.Decimal) (before : OrderState dec.Decimal)
    (refusal : Refusal dec.Decimal) : Prop :=
  ∃ passed state bucket left,
    reachBudgets setup answers .fresh ask before = (.ok passed, state) ∧
    (state.bucketFor ask.agent passed.config.orderRate ask.nowMs).tryTake ask.nowMs =
      (.ok (), bucket) ∧
    spendGlobal dec state.globalBucket state.globalBudget .fresh ask.nowMs = (.error refusal, left)

/-- What a decision does to the budgets. The agent's bucket is asked before the address's, so a
refusal by the address comes after the agent was charged. -/
inductive Charge (setup : EngineSetup) (answers : Answers dec.Decimal) (mode : Mode)
    (ask : Evaluation dec.Decimal) (before after : OrderState dec.Decimal) :
    Except (Refusal dec.Decimal) (Cleared dec.Decimal) → Prop
  /-- Refused before the budgets. -/
  | untouched (refusal : Refusal dec.Decimal)
      (globalBucket : after.globalBucket = before.globalBucket)
      (buckets : after.buckets = before.buckets) :
      Charge setup answers mode ask before after (.error refusal)
  /-- Refused with the agent's bucket read. -/
  | read (refusal : Refusal dec.Decimal) (config : AgentGuardrails dec.Decimal)
      (bucket : TokenBucket) (moving : config.orderRate.perMs ≠ 0)
      (configured : after.engine.policy.guardrails.get ask.agent = some config)
      (left : bucket = before.bucketFor ask.agent config.orderRate ask.nowMs ∨
        ∃ error, (before.bucketFor ask.agent config.orderRate ask.nowMs).perform
          (mode.bucketCall ask.nowMs) = (.error error, bucket))
      (globalBucket : after.globalBucket = before.globalBucket)
      (buckets : after.buckets = Function.update before.buckets ask.agent (some bucket)) :
      Charge setup answers mode ask before after (.error refusal)
  /-- The agent's bucket answered, and the address's was asked. -/
  | charged (outcome : Except (Refusal dec.Decimal) (Cleared dec.Decimal))
      (config : AgentGuardrails dec.Decimal) (bucket : TokenBucket)
      (moving : config.orderRate.perMs ≠ 0)
      (taken : (before.bucketFor ask.agent config.orderRate ask.nowMs).perform
          (mode.bucketCall ask.nowMs) = (.ok (), bucket))
      (buckets : after.buckets = Function.update before.buckets ask.agent (some bucket))
      (late : ∀ refusal, outcome = .error refusal → mode = .fresh →
        refusal.afterCharge ∨ RefusedByAddress setup answers ask before refusal) :
      Charge setup answers mode ask before after outcome

/-- What the address's budget refuses an order for is never the agent's own rate. -/
theorem spendGlobal_refused {bucket left : TokenBucket} {budget : GlobalRateBudget} {mode : Mode}
    {nowMs : UInt64} {refusal : Refusal dec.Decimal}
    (run : spendGlobal dec bucket budget mode nowMs = (.error refusal, left)) :
    ∀ maxOrders perMs tokens retryAfterMs,
      refusal ≠ .orderRate maxOrders perMs tokens retryAfterMs := by
  rintro maxOrders perMs tokens retryAfterMs rfl
  unfold spendGlobal at run
  split at run
  · rename_i error _
    cases error <;> exact nomatch (Prod.mk.inj run).1
  · split at run
    · exact nomatch (Prod.mk.inj run).1
    · split at run
      · exact nomatch (Prod.mk.inj run).1
      · split at run <;> exact nomatch (Prod.mk.inj run).1

/-- An order that passed everything waits for an operator, or for the approval journal. -/
theorem requireApproval_refused {mode : Mode} {passed : Passed dec.Decimal}
    {state left : OrderState dec.Decimal} {refusal : Refusal dec.Decimal}
    (run : requireApproval answers mode ask passed state = (.error refusal, left)) :
    refusal.afterCharge := by
  unfold requireApproval at run
  dsimp only at run
  split at run
  · exact nomatch (Prod.mk.inj run).1
  · split at run
    · exact nomatch (Prod.mk.inj run).1
    · cases run
      trivial
    · split at run <;> cases run <;> trivial

variable (setup answers) in
/-- **What a decision charges.** -/
theorem decideOrder_charge (mode : Mode) (ask : Evaluation dec.Decimal)
    (before : OrderState dec.Decimal) :
    Charge setup answers mode ask before (decideOrder setup answers mode ask before).2
      (decideOrder setup answers mode ask before).1 := by
  obtain ⟨verdict, engine, reached, passes⟩ := reachBudgets_eq setup answers mode ask before
  unfold decideOrder
  rw [reached]
  cases verdict with
  | error refusal => exact .untouched refusal rfl rfl
  | ok passed =>
      obtain ⟨configured, valid, -⟩ := checkAdmission_config (passes passed rfl).admission
      have moving := validate_rate valid
      unfold spendBudgets
      dsimp only
      split
      · exact .read _ passed.config _ moving configured (.inl rfl) rfl rfl
      generalize took : TokenBucket.perform _ _ = taken
      obtain ⟨spent, bucket⟩ := taken
      cases spent with
      | error error =>
          exact .read _ passed.config bucket moving configured (.inr ⟨error, took⟩) rfl rfl
      | ok taken =>
          dsimp only [OrderState.setBucket]
          generalize charged : spendGlobal _ _ _ _ _ = charge
          obtain ⟨left, globalBucket⟩ := charge
          cases left with
          | error refusal =>
              refine .charged _ passed.config bucket moving took rfl ?_
              rintro other same rfl
              cases same
              exact .inr ⟨passed, _, bucket, globalBucket, reached, took, charged⟩
          | ok globalTokens =>
              dsimp only
              obtain ⟨verdict, proposals, proposalSeq, approved⟩ := requireApproval_eq
                answers mode ask passed (OrderState.mk engine _ _ globalBucket _ _)
              rw [approved]
              cases verdict with
              | error refusal =>
                  refine .charged _ passed.config bucket moving took rfl ?_
                  intro other same _
                  cases same
                  exact .inl (requireApproval_refused approved)
              | ok done =>
                  exact .charged _ passed.config bucket moving took rfl fun _ same => (nomatch same)

/-! ## Runs -/

/-- The bucket an agent is served from is within its bounds, new or kept. -/
theorem bucketFor_bounded (agent : String) {rate : OrderRate} (stocked : before.Stocked)
    (moving : rate.perMs ≠ 0) (nowMs : UInt64) :
    TokenBucket.Bounded rate (before.bucketFor agent rate nowMs) := by
  rcases before.bucketFor_cases agent rate with ⟨bucket, present, rfl, same⟩ | ⟨-, fresh⟩
  · rw [same]
    exact stocked agent bucket present
  · rw [fresh]
    exact TokenBucket.new_bounded (TokenBucket.perMs_pos.mp moving) nowMs

/-- A state with another bucket for one agent. -/
theorem Stocked.update {agent : String} {bucket : TokenBucket} {rate : OrderRate}
    (stocked : before.Stocked) (bounded : TokenBucket.Bounded rate bucket)
    (buckets : after.buckets = Function.update before.buckets agent (some bucket)) :
    after.Stocked := by
  intro other found held
  rw [buckets] at held
  by_cases same : other = agent
  · subst same
    rw [Function.update_self] at held
    cases held
    rw [bounded.rated]
    exact bounded
  · rw [Function.update_of_ne same] at held
    exact stocked other found held

/-- **One decision.** -/
theorem decideOrder_stocked (mode : Mode) (ask : Evaluation dec.Decimal)
    (stocked : before.Stocked) :
    (decideOrder setup answers mode ask before).2.Stocked := by
  have charge := decideOrder_charge setup answers mode ask before
  generalize decideOrder setup answers mode ask before = decision at charge ⊢
  obtain ⟨outcome, after⟩ := decision
  dsimp only at charge ⊢
  cases charge with
  | untouched refusal globalBucket buckets =>
      intro agent bucket held
      rw [buckets] at held
      exact stocked agent bucket held
  | read refusal config bucket moving configured left globalBucket buckets =>
      have bounded := bucketFor_bounded ask.agent stocked moving ask.nowMs
      rcases left with rfl | ⟨error, asked⟩
      · exact Stocked.update stocked bounded buckets
      · have kept := bounded.perform (mode.bucketCall ask.nowMs)
        rw [asked] at kept
        exact Stocked.update stocked kept buckets
  | charged _ config bucket moving taken buckets late =>
      have kept := (bucketFor_bounded ask.agent stocked moving ask.nowMs).perform
        (mode.bucketCall ask.nowMs)
      rw [taken] at kept
      exact Stocked.update stocked kept buckets

/-- **One call.** -/
theorem BudgetStep.stocked {act : BudgetAct} (step : BudgetStep dec setup before act after)
    (stocked : before.Stocked) : after.Stocked := by
  cases step with
  | evaluate answers ask =>
      rw [evaluate_state]
      exact decideOrder_stocked .fresh ask stocked
  | approve answers route ask => exact decideOrder_stocked _ ask stocked
  | preflight answers ask =>
      rw [preflight_state]
      exact decideOrder_stocked .preflight ask stocked
  | cancel answers call =>
      obtain ⟨outcome, engine, globalBucket, performed, -⟩ := call.perform_eq setup answers
        before
      rw [performed]
      exact stocked
  | setBudget budget nowMs valid => exact stocked
  | elsewhere _ budget bucket buckets =>
      intro agent held same
      rw [buckets] at same
      exact stocked agent held same

/-- **Every run.** -/
theorem stocked_run {start : OrderState dec.Decimal} {acts : List BudgetAct}
    (run : Run (BudgetStep dec setup) start acts after) (stocked : start.Stocked) :
    after.Stocked := by
  induction run with
  | nil => exact stocked
  | snoc _ step ih => exact step.stocked ih

/-- What a refused evaluation charged, if it is not one that is refused after the charge. -/
theorem evaluate_charge {refusal : Refusal dec.Decimal}
    (run : evaluate setup answers ask before = (.error refusal, after))
    (early : ¬ refusal.afterCharge) :
    Charge setup answers .fresh ask before after (.error refusal) := by
  have charge := decideOrder_charge setup answers .fresh ask before
  unfold evaluate at run
  generalize decideOrder setup answers .fresh ask before = decision at charge run
  obtain ⟨outcome, left⟩ := decision
  dsimp only at charge
  split at run
  · rename_i detail _ same
    cases same
    cases run
    exact absurd trivial early
  · rename_i same
    cases same
    obtain ⟨recorded, rfl⟩ := Prod.mk.inj run
    unfold recordOutcome at recorded
    split at recorded
    · cases recorded
      exact absurd trivial early
    · rw [recorded] at charge
      exact charge

/-- **A refused order costs no rate.** After every run, an order that is refused before the charge,
and not by the address's budget, leaves the address's bucket as it was, and every agent's, at the
rate of its guardrails, answering the later calls as if the order had not been. The agent's bucket
may have been filled up to the refusal's time, which no later call can tell. A refusal by the
address's budget comes after the agent's token is taken. -/
theorem refused_costs_nothing {start : OrderState dec.Decimal} {acts : List BudgetAct}
    {refusal : Refusal dec.Decimal} (none : start.buckets = fun _ => none)
    (run : Run (BudgetStep dec setup) start acts before)
    (refused : evaluate setup answers ask before = (.error refusal, after))
    (early : ¬ refusal.afterCharge)
    (otherwise : ¬ RefusedByAddress setup answers ask before refusal) :
    after.globalBucket = before.globalBucket ∧
      ∀ agent config, after.engine.policy.guardrails.get agent = some config →
        before.Steady agent config.orderRate →
        ∀ calls, TokenBucket.Timed ask.nowMs calls →
          after.asked agent config.orderRate calls = before.asked agent config.orderRate calls := by
  have stocked : before.Stocked := by
    refine stocked_run run ?_
    intro agent bucket held
    rw [none] at held
    exact nomatch held
  cases evaluate_charge refused early with
  | untouched _ globalBucket buckets =>
      refine ⟨globalBucket, fun agent config _ _ calls _ => ?_⟩
      exact asked_elsewhere config.orderRate calls (congrFun buckets agent)
  | read _ config bucket moving configured left globalBucket buckets =>
      refine ⟨globalBucket, fun agent found held steady calls timed => ?_⟩
      by_cases same : agent = ask.agent
      · subst same
        obtain rfl : config = found := Option.some.inj (configured.symm.trans held)
        have present : after.buckets ask.agent = some bucket := by
          rw [buckets, Function.update_self]
        refine asked_read stocked moving steady present ?_ timed
        rcases left with rfl | ⟨error, asked⟩
        · exact .inl rfl
        · have bounded := bucketFor_bounded ask.agent stocked moving ask.nowMs
          exact TokenBucket.perform_refused bounded.moving asked
      · refine asked_elsewhere found.orderRate calls ?_
        rw [buckets, Function.update_of_ne same]
  | charged _ config bucket moving taken buckets late =>
      rcases late refusal rfl rfl with waits | address
      · exact absurd waits early
      · exact absurd address otherwise

end Charging

namespace OneSymbol

/-- An agent with one order a minute. -/
def frugal : AgentGuardrails dec.Decimal := { guardrails with orderRate := ⟨1, 60000⟩ }

/-- The agent whose one order waits for an operator. -/
def waiting : AgentGuardrails dec.Decimal := { frugal with approvalRequired := true }

/-- An order that waits for an operator is refused, and the agent's one token is gone. -/
theorem waiting_order_charged :
    refusalOf (evaluate setup (answers waiting) (single 0) (state waiting loose)).1 =
        some (.approvalRequired "BTC" (dollars 100) "maker-0-1" 120000) ∧
      (((state waiting loose).asked "maker" waiting.orderRate [.tryTake 0]).all (·.isOk)) = true ∧
      ((evaluate setup (answers waiting) (single 0) (state waiting loose)).2.asked "maker"
        waiting.orderRate [.tryTake 0]).all (·.isOk) = false := by
  decide +kernel

/-- The agent's one order was cleared. -/
def exhausted : OrderState dec.Decimal :=
  (evaluate setup (answers frugal) (single 0) (state frugal loose)).2

/-- A second order is refused: the address's bucket is as it was, and the agent's next token comes
when it would have. -/
theorem second_order_free :
    (evaluate setup (answers frugal) (single 10) exhausted).2.globalBucket =
      exhausted.globalBucket ∧
    (evaluate setup (answers frugal) (single 10) exhausted).2.asked "maker" frugal.orderRate
        [.tryTake 60000] = exhausted.asked "maker" frugal.orderRate [.tryTake 60000] := by
  have reason : refusalOf (evaluate setup (answers frugal) (single 10) exhausted).1 =
      some (.orderRate 1 60000 (dec.millionths 166) 59991) := by
    decide +kernel
  have configured : (evaluate setup (answers frugal) (single 10)
      exhausted).2.engine.policy.guardrails.get "maker" = some frugal := by
    decide +kernel
  have dense : TokenBucket.Dense frugal.orderRate := .inl (by decide +kernel)
  generalize same : evaluate setup (answers frugal) (single 10) exhausted = result at *
  obtain ⟨outcome, after⟩ := result
  cases outcome with
  | ok cleared => exact nomatch reason
  | error refusal =>
      obtain rfl := Option.some.inj reason
      obtain ⟨address, kept⟩ := refused_costs_nothing rfl
        (.single (.evaluate _ (answers frugal) (single 0))) same (fun late => late)
        fun ⟨_, _, _, _, _, _, spent⟩ => spendGlobal_refused spent _ _ _ _ rfl
      exact ⟨address, kept "maker" frugal configured (.inl dense) _
        (TokenBucket.timed_cons.mpr ⟨by decide, List.pairwise_singleton _ _⟩)⟩

end OneSymbol

end Oppen.Guardrail
