import Oppen.Guardrail.Reserve

/-! # What a preflight foretells

A preflight and a fresh evaluation ask the same questions of the same state. They part where a
fresh order leaves something for an operator, and where it is held back for the cancels.
-/

namespace Oppen.Guardrail

open Oppen.Json Oppen.Ledger Oppen.Signing

section Foretelling

variable {dec : RiskDecimals} {setup : EngineSetup} {answers : Answers dec.Decimal}
  {ask : Evaluation dec.Decimal} {state : OrderState dec.Decimal}

/-- What a preflight reports of a refusal: the refusal, or the approval that an order would wait
for, without the id of a proposal that was not made. -/
inductive Reports (ask : Evaluation dec.Decimal) : Refusal dec.Decimal → Refusal dec.Decimal → Prop
  | same (refusal : Refusal dec.Decimal) : Reports ask refusal refusal
  | proposed (notionalUsd : dec.Decimal) (id : String) (expiresAtMs : UInt64) :
      Reports ask (.approvalRequired ask.intent.symbol notionalUsd id expiresAtMs)
        (.approvalRequired ask.intent.symbol notionalUsd ""
          (saturatingMs ask.nowMs approvalTtlMs))
  | unproposed (notionalUsd : dec.Decimal) (detail : String) :
      Reports ask (approvalRefusal detail)
        (.approvalRequired ask.intent.symbol notionalUsd ""
          (saturatingMs ask.nowMs approvalTtlMs))

/-- How the outcome of a fresh order relates to the one of a preflight. -/
inductive Foretold (ask : Evaluation dec.Decimal) :
    Except (Refusal dec.Decimal) (Cleared dec.Decimal) →
    Except (Refusal dec.Decimal) (Cleared dec.Decimal) → Prop
  | cleared (order foretold : Cleared dec.Decimal) : Foretold ask (.ok order) (.ok foretold)
  | refused (refusal reported : Refusal dec.Decimal) (reports : Reports ask refusal reported) :
      Foretold ask (.error refusal) (.error reported)
  /-- A preflight sends no request, and is not asked whether there is one left. -/
  | withheld (tokens : dec.Decimal) (reserve : UInt32) (retryAfterMs : ℕ)
      (foretold : Except (Refusal dec.Decimal) (Cleared dec.Decimal)) :
      Foretold ask (.error (.globalRateBudget tokens reserve retryAfterMs)) foretold

/-! ## The same questions -/

/-- Up to the budgets a mode differs by the route it was approved for. -/
theorem reachBudgets_mode (mode other : Mode) (same : mode.approvedRoute = other.approvedRoute)
    (ask : Evaluation dec.Decimal) (state : OrderState dec.Decimal) :
    reachBudgets setup answers mode ask state = reachBudgets setup answers other ask state := by
  unfold reachBudgets checkAdmission checkRoute
  rw [same]

/-- Peeking answers what a take would. -/
theorem TokenBucket.peek_answers (bucket : TokenBucket) (nowMs : UInt64) :
    (bucket.perform (.peek nowMs)).1 = (bucket.perform (.tryTake nowMs)).1 := by
  unfold perform
  dsimp only
  unfold tryTake
  cases bucket.refill nowMs with
  | error error => rfl
  | ok refilled =>
      dsimp only
      cases refilled.peek <;> rfl

variable (dec) in
/-- What the address's budget answers the two. -/
theorem spendGlobal_foretold (bucket : TokenBucket) (budget : GlobalRateBudget) (nowMs : UInt64) :
    (∃ tokens reserve retryAfterMs, (spendGlobal dec bucket budget .fresh nowMs).1 =
        .error (.globalRateBudget tokens reserve retryAfterMs)) ∨
      (∃ refusal, (spendGlobal dec bucket budget .fresh nowMs).1 = .error refusal ∧
        (spendGlobal dec bucket budget .preflight nowMs).1 = .error refusal) ∨
      ∃ left foretold, (spendGlobal dec bucket budget .fresh nowMs).1 = .ok left ∧
        (spendGlobal dec bucket budget .preflight nowMs).1 = .ok foretold := by
  unfold spendGlobal
  cases bucket.refill nowMs with
  | error error => exact .inr (.inl ⟨_, rfl, rfl⟩)
  | ok refilled =>
      dsimp only
      have sends : Mode.preflight ≠ Mode.fresh := fun same => nomatch same
      rw [if_neg (not_not.mpr rfl), if_pos sends]
      split
      · exact .inl ⟨_, _, _, rfl⟩
      · split
        · exact .inr (.inr ⟨_, _, rfl, rfl⟩)
        · exact .inl ⟨_, _, _, rfl⟩

variable (answers ask) in
/-- What the approval answers the two, whatever else a preflight left alone. -/
theorem requireApproval_foretold (passed : Passed dec.Decimal)
    (state other : OrderState dec.Decimal) :
    ((requireApproval answers .fresh ask passed state).1 = .ok () ∧
        (requireApproval answers .preflight ask passed other).1 = .ok ()) ∨
      ∃ refusal reported, (requireApproval answers .fresh ask passed state).1 = .error refusal ∧
        (requireApproval answers .preflight ask passed other).1 = .error reported ∧
        Reports ask refusal reported := by
  unfold requireApproval
  dsimp only
  by_cases direct : passed.config.approvalRequired = false
  · rw [if_pos direct, if_pos direct]
    exact .inl ⟨rfl, rfl⟩
  · rw [if_neg direct, if_neg direct]
    refine .inr ?_
    split
    · exact ⟨_, _, rfl, rfl, .proposed _ _ _⟩
    · exact ⟨_, _, rfl, rfl, .unproposed _ _⟩
    · exact ⟨_, _, rfl, rfl, .proposed _ _ _⟩

/-- **The budgets**, as the two are asked. -/
theorem spendBudgets_foretold (passed : Passed dec.Decimal) (state : OrderState dec.Decimal) :
    Foretold ask (spendBudgets setup answers .fresh ask passed state).1
      (spendBudgets setup answers .preflight ask passed state).1 := by
  unfold spendBudgets
  dsimp only [Mode.bucketCall]
  cases answers.feedLast with
  | error refusal => exact .refused _ _ (.same _)
  | ok fed =>
      dsimp only
      have answered := (state.bucketFor ask.agent passed.config.orderRate ask.nowMs).peek_answers
        ask.nowMs
      generalize TokenBucket.perform _ (.peek ask.nowMs) = peeked at answered ⊢
      generalize TokenBucket.perform _ (.tryTake ask.nowMs) = taken at answered ⊢
      obtain ⟨answer, peeked⟩ := peeked
      obtain ⟨spent, taken⟩ := taken
      obtain rfl : answer = spent := answered
      cases answer with
      | error error => exact .refused _ _ (.same _)
      | ok done =>
          dsimp only [OrderState.setBucket]
          have charged := spendGlobal_foretold dec state.globalBucket state.globalBudget
            ask.nowMs
          generalize spendGlobal dec _ _ .fresh _ = charge at charged ⊢
          generalize spendGlobal dec _ _ .preflight _ = foretold at charged ⊢
          obtain ⟨left, globalBucket⟩ := charge
          obtain ⟨seen, globalSeen⟩ := foretold
          dsimp only at charged
          rcases charged with ⟨tokens, reserve, retryAfterMs, rfl⟩ | ⟨refusal, rfl, rfl⟩ |
            ⟨left, foretold, rfl, rfl⟩
          · exact .withheld _ _ _ _
          · exact .refused _ _ (.same _)
          · dsimp only
            generalize OrderState.mk _ _ _ globalBucket _ _ = spent
            generalize OrderState.mk _ _ _ globalSeen _ _ = seen
            have asked := requireApproval_foretold answers ask passed spent
              seen
            generalize requireApproval answers .fresh ask passed spent = approval at asked ⊢
            generalize requireApproval answers .preflight ask passed seen = expected at asked ⊢
            obtain ⟨approval, spent⟩ := approval
            obtain ⟨expected, seen⟩ := expected
            rcases asked with ⟨rfl, rfl⟩ | ⟨refusal, reported, rfl, rfl, reports⟩
            · exact .cleared _ _
            · exact .refused _ _ reports

variable (setup answers) in
/-- **One order, asked and tried.** -/
theorem decideOrder_foretold (ask : Evaluation dec.Decimal) (state : OrderState dec.Decimal) :
    Foretold ask (decideOrder setup answers .fresh ask state).1
      (decideOrder setup answers .preflight ask state).1 := by
  unfold decideOrder
  rw [reachBudgets_mode .preflight .fresh rfl]
  generalize reachBudgets setup answers .fresh ask state = reached
  obtain ⟨verdict, state⟩ := reached
  cases verdict with
  | error refusal => exact .refused _ _ (.same _)
  | ok passed => exact spendBudgets_foretold passed state

/-- What `evaluate` answers, when its verdict is recorded. -/
theorem evaluate_recorded (audit : answers.audit = .ok ()) (ask : Evaluation dec.Decimal)
    (state : OrderState dec.Decimal) :
    (evaluate setup answers ask state).1 = (decideOrder setup answers .fresh ask state).1 := by
  unfold evaluate
  generalize decideOrder setup answers .fresh ask state = decision
  obtain ⟨outcome, left⟩ := decision
  dsimp only
  split
  · rename_i same
    exact (Prod.mk.inj same).1.symm
  · rename_i same
    obtain ⟨rfl, rfl⟩ := Prod.mk.inj same
    unfold recordOutcome
    rw [audit]

/-- **Preflight agrees with evaluate.** Where the address's budget is not what an order is refused
for, a preflight would clear exactly what is cleared, once the submission journal agrees, and
it reports the refusal that is returned. -/
theorem preflight_agrees (audit : answers.audit = .ok ())
    (spare : ∀ tokens reserve retryAfterMs, (evaluate setup answers ask state).1 ≠
      .error (.globalRateBudget tokens reserve retryAfterMs)) :
    ((preflight setup answers ask state).1.wouldClear = true ↔
      (∃ cleared, (evaluate setup answers ask state).1 = .ok cleared) ∧
        answers.submission = .ok ()) ∧
    (∀ refusal, (evaluate setup answers ask state).1 = .error refusal →
      ∃ reported, (preflight setup answers ask state).1.refusal = some reported ∧
        Reports ask refusal reported) ∧
    (∀ cleared, (evaluate setup answers ask state).1 = .ok cleared →
      (preflight setup answers ask state).1.refusal = refusalOf answers.submission) := by
  have foretold := decideOrder_foretold setup answers ask state
  rw [evaluate_recorded audit] at *
  unfold preflight
  generalize (decideOrder setup answers .fresh ask state).1 = outcome at *
  generalize decideOrder setup answers .preflight ask state = asked at *
  obtain ⟨expected, after⟩ := asked
  dsimp only at foretold
  cases foretold with
  | withheld tokens reserve retryAfterMs foretold => exact absurd rfl (spare _ _ _)
  | refused refusal reported reports =>
      dsimp only
      refine ⟨⟨fun clear => (nomatch clear), ?_⟩, ?_, fun cleared same => (nomatch same)⟩
      · rintro ⟨⟨cleared, same⟩, -⟩
        exact nomatch same
      · intro other same
        cases same
        exact ⟨reported, rfl, reports⟩
  | cleared order foretold =>
      dsimp only
      cases answers.submission with
      | error refusal =>
          refine ⟨⟨fun clear => (nomatch clear), ?_⟩, fun other same => (nomatch same),
            fun _ _ => rfl⟩
          rintro ⟨-, same⟩
          exact nomatch same
      | ok done =>
          exact ⟨⟨fun _ => ⟨⟨order, rfl⟩, rfl⟩, fun _ => rfl⟩, fun other same => (nomatch same),
            fun _ _ => rfl⟩

end Foretelling

namespace OneSymbol

instance : DecidableEq dec.Decimal := inferInstanceAs (DecidableEq FixedPoint)

/-- The guardrails of an agent whose orders wait for an operator. -/
def supervised : AgentGuardrails dec.Decimal := { guardrails with approvalRequired := true }

/-- Two requests a second, none of them kept back. -/
def loose : GlobalRateBudget := ⟨⟨2, 1000⟩, 0⟩

/-- The refusal of an order that waits for an operator names its proposal; the one a preflight
reports names none. -/
theorem preflight_names_no_proposal :
    refusalOf (evaluate setup (answers supervised) (single 0) (state supervised loose)).1 =
        some (.approvalRequired "BTC" (dollars 100) "maker-0-1" 120000) ∧
      (preflight setup (answers supervised) (single 0) (state supervised loose)).1.refusal =
        some (.approvalRequired "BTC" (dollars 100) "" 120000) ∧
      (preflight setup (answers supervised) (single 0) (state supervised loose)).1.refusal ≠
        refusalOf (evaluate setup (answers supervised) (single 0) (state supervised loose)).1 := by
  decide +kernel

/-- An order that is cleared was foretold. -/
theorem preflight_clears :
    (evaluate setup (answers guardrails) (single 0) (state guardrails loose)).1.isOk = true ∧
      (preflight setup (answers guardrails) (single 0) (state guardrails loose)).1.wouldClear =
        true := by
  have cleared : (evaluate setup (answers guardrails) (single 0)
      (state guardrails loose)).1.isOk = true := by decide +kernel
  refine ⟨cleared, ?_⟩
  generalize same : (evaluate setup (answers guardrails) (single 0)
    (state guardrails loose)).1 = outcome at cleared
  cases outcome with
  | error refusal => exact nomatch cleared
  | ok order =>
      refine (preflight_agrees rfl ?_).1.mpr ⟨⟨order, same⟩, rfl⟩
      intro tokens reserve retryAfterMs refused
      rw [same] at refused
      exact nomatch refused

end OneSymbol

end Oppen.Guardrail
