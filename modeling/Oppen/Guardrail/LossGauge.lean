import Oppen.Guardrail.Decide
import Oppen.Guardrail.SlippagePrice

/-! # The loss budgets as a gauge

Each configured loss budget has a row on the gauge: what is consumed of it, and whether that trips
the breaker. With exact decimals a row is tripped exactly when the breaker fires on its limit, and
the first one that is tripped is the breach that the breaker reports.
-/

namespace Oppen.Guardrail

open Oppen.Ledger

/-- Whose budget a row of the gauge measures. -/
inductive BudgetScope where
  | agent
  | account
  deriving DecidableEq

/-- One loss budget, before it fires. -/
structure LossBudget (Decimal : Type) where
  scope : BudgetScope
  kind : LossKind
  consumedUsd : Decimal
  limitUsd : Decimal
  utilizationPct : Option Decimal
  remainingUsd : Decimal
  tripped : Bool
  deriving DecidableEq

/-- The limit of each kind. -/
def LossLimits.limitOf {Decimal : Type} (limits : LossLimits Decimal) : LossKind → Option Decimal
  | .daily => limits.maxDailyLossUsd
  | .drawdown => limits.maxDrawdownUsd

section Gauge

variable {dec : RiskDecimals}

/-- A row for a limit that is set; a daily one only where the snapshot covers the day. -/
def gaugeRow (scope : BudgetScope) (limits : LossLimits dec.Decimal)
    (account : AccountSnapshot dec.Decimal) (nowMs : UInt64) (kind : LossKind) :
    Option (LossBudget dec.Decimal) := do
  let limitUsd ← limits.limitOf kind
  if kind = .daily ∧ ¬ account.coversDayOf nowMs then none
  else
    let consumed := Guardrail.consumedUsd account kind
    some {
      scope, kind
      consumedUsd := consumed
      limitUsd
      utilizationPct := Guardrail.utilizationPct kind (some limitUsd) account
      remainingUsd :=
        dec.max (dec.saturatingSub limitUsd (dec.max consumed dec.zero)) dec.zero
      tripped := decide (dec.value limitUsd ≤ dec.value consumed) }

/-- One set of limits as rows of the gauge. -/
def gauge (scope : BudgetScope) (limits : LossLimits dec.Decimal)
    (account : AccountSnapshot dec.Decimal) (nowMs : UInt64) : List (LossBudget dec.Decimal) :=
  [LossKind.daily, .drawdown].filterMap (gaugeRow scope limits account nowMs)

/-- Every loss budget an agent is measured against. -/
def EngineState.lossBudget (engine : EngineState dec.Decimal) (agent : String)
    (exposure : Exposure dec.Decimal) (nowMs : UInt64) : List (LossBudget dec.Decimal) :=
  (match engine.policy.guardrails.get agent with
    | some config => gauge .agent config.loss exposure.agent nowMs
    | none => []) ++
  match exposure.fleet with
    | some fleet => gauge .account engine.policy.accountLimits fleet nowMs
    | none => []

/-! ## Budgets -/

/-- Who is stopped when a budget is exhausted. -/
def BudgetScope.killScope (agent : String) : BudgetScope → KillScope
  | .agent => .agent agent
  | .account => .global

/-- The breach of a row. -/
def LossBudget.breach (agent : String) (row : LossBudget dec.Decimal) : Breach dec.Decimal :=
  ⟨row.scope.killScope agent, row.kind, row.consumedUsd, row.limitUsd⟩

/-- A limit that is set, and the snapshot it is measured on. -/
structure Budget (Decimal : Type) where
  scope : BudgetScope
  account : AccountSnapshot Decimal
  kind : LossKind
  limitUsd : Decimal

/-- The limits that are set, the daily one first. -/
def budgetsOf (scope : BudgetScope) (limits : LossLimits dec.Decimal)
    (account : AccountSnapshot dec.Decimal) : List (Budget dec.Decimal) :=
  [LossKind.daily, .drawdown].filterMap fun kind =>
    (limits.limitOf kind).map fun limitUsd => ⟨scope, account, kind, limitUsd⟩

/-- All of them, those of the agent first. -/
def budgets (agentLimits accountLimits : LossLimits dec.Decimal)
    (exposure : Exposure dec.Decimal) : List (Budget dec.Decimal) :=
  budgetsOf .agent agentLimits exposure.agent ++
    exposure.fleet.toList.flatMap (budgetsOf .account accountLimits)

/-- The check of the breaker for one budget. -/
def Budget.check (agent : String) (budget : Budget dec.Decimal) : Option (Breach dec.Decimal) :=
  checkBudget (budget.scope.killScope agent) budget.account budget.kind (some budget.limitUsd)

/-- A row reads its budget: it is tripped exactly when the breaker fires, and of a positive limit
nothing remains exactly when a hundred percent are used. -/
structure LossBudget.Reads (agent : String) (budget : Budget dec.Decimal)
    (row : LossBudget dec.Decimal) : Prop where
  scope : row.scope = budget.scope
  kind : row.kind = budget.kind
  limitUsd : row.limitUsd = budget.limitUsd
  fires : row.tripped = true ↔ (budget.check agent).isSome = true
  full : 0 < dec.value budget.limitUsd → ∃ pct, row.utilizationPct = some pct ∧
    (100 ≤ dec.value pct ↔ dec.value row.remainingUsd = 0) ∧
    (dec.value row.remainingUsd = 0 ↔ row.tripped = true)

/-- The gauge of one set of budgets agrees with the breaker. A budget is shown as spent exactly if
the breaker trips on it. -/
structure GaugeAgrees (agent : String) (budgets : List (Budget dec.Decimal))
    (rows : List (LossBudget dec.Decimal)) (breach : Option (Breach dec.Decimal)) : Prop where
  each : List.Forall₂ (LossBudget.Reads agent) budgets rows
  first : (rows.find? LossBudget.tripped).map (LossBudget.breach agent) = breach

/-! ## One row -/

/-- Quotients whose whole part is that of the exact quotient. A decimal may have no digits for the
rest of it. -/
def RiskDecimals.WholeQuotients (dec : RiskDecimals) : Prop :=
  ∀ left right, dec.value right ≠ 0 → ∃ quotient, dec.checkedDiv left right = some quotient ∧
    ⌊dec.value quotient⌋ = ⌊dec.value left / dec.value right⌋

/-- A saturating difference is the difference, where amounts are exact. -/
theorem value_saturatingSub (exact : dec.Exact) (left right : dec.Decimal) :
    dec.value (dec.saturatingSub left right) = dec.value left - dec.value right := by
  obtain ⟨difference, same⟩ := Option.isSome_iff_exists.mp (exact.sub left right)
  rw [RiskDecimals.saturatingSub, same, Option.getD_some]
  exact dec.value_checkedSub _ _ _ same

/-- A hundred percent are reached at the limit. -/
theorem hundred_le_utilizationPct (exact : dec.Exact) (whole : dec.WholeQuotients)
    {account : AccountSnapshot dec.Decimal} {kind : LossKind} {limitUsd : dec.Decimal}
    (positive : 0 < dec.value limitUsd) : ∃ pct,
      utilizationPct kind (some limitUsd) account = some pct ∧
        (100 ≤ dec.value pct ↔ dec.value limitUsd ≤ dec.value (consumedUsd account kind)) := by
  obtain ⟨quotient, divided, parts⟩ :=
    whole (dec.max (consumedUsd account kind) dec.zero) limitUsd positive.ne'
  obtain ⟨pct, multiplied⟩ := Option.isSome_iff_exists.mp (exact.mul quotient (dec.ofInt 100))
  refine ⟨pct, ?_, ?_⟩
  · change ratioPct _ _ = _
    rw [ratioPct, if_neg positive.ne', divided]
    exact multiplied
  · have value := dec.value_checkedMul _ _ _ multiplied
    rw [dec.value_ofInt] at value
    have one : 100 ≤ dec.value pct ↔ (1 : ℤ) ≤ ⌊dec.value quotient⌋ := by
      rw [Int.le_floor, value, Int.cast_one, Int.cast_ofNat]
      constructor
      · intro reached
        linarith
      · intro reached
        linarith
    rw [one, parts, Int.le_floor, Int.cast_one, one_le_div₀ positive, dec.value_max,
      dec.value_zero]
    exact le_sup_iff.trans (or_iff_left (not_le.mpr positive))

/-- A row of the gauge reads its budget. -/
theorem gaugeRow_reads (exact : dec.Exact) (whole : dec.WholeQuotients) (agent : String)
    {scope : BudgetScope} {limits : LossLimits dec.Decimal}
    {account : AccountSnapshot dec.Decimal} {nowMs : UInt64} {kind : LossKind}
    {limitUsd : dec.Decimal} (set : limits.limitOf kind = some limitUsd)
    (covered : account.coversDayOf nowMs) : ∃ row,
      gaugeRow scope limits account nowMs kind = some row ∧
        row.Reads agent ⟨scope, account, kind, limitUsd⟩ ∧
        Budget.check agent ⟨scope, account, kind, limitUsd⟩ =
          if row.tripped then some (row.breach agent) else none := by
  rw [gaugeRow, set]
  refine ⟨_, if_neg fun uncovered => uncovered.2 covered, ⟨rfl, rfl, rfl, ?_, fun positive => ?_⟩,
    ?_⟩
  · change decide _ = true ↔ Option.isSome (if _ then _ else _) = true
    rw [decide_eq_true_iff]
    split
    case isTrue fires => exact ⟨fun _ => rfl, fun _ => fires⟩
    case isFalse quiet => exact ⟨fun fires => absurd fires quiet, nofun⟩
  · obtain ⟨pct, used, full⟩ :=
      @hundred_le_utilizationPct dec exact whole account kind limitUsd positive
    have remaining : dec.value (dec.max (dec.saturatingSub limitUsd
        (dec.max (consumedUsd account kind) dec.zero)) dec.zero) = 0 ↔
          dec.value limitUsd ≤ dec.value (consumedUsd account kind) := by
      rw [dec.value_max, value_saturatingSub exact, dec.value_max, dec.value_zero, max_eq_right_iff,
        sub_nonpos]
      exact le_sup_iff.trans (or_iff_left (not_le.mpr positive))
    refine ⟨pct, used, full.trans remaining.symm, remaining.trans ?_⟩
    exact decide_eq_true_iff.symm
  · change (if _ then _ else _) = if decide _ = true then _ else _
    simp only [decide_eq_true_eq]
    rfl

/-! ## The gauge -/

/-- The rows of some kinds, with the first of them that fires. -/
theorem gaugeRows_agree (exact : dec.Exact) (whole : dec.WholeQuotients) (agent : String)
    (scope : BudgetScope) (limits : LossLimits dec.Decimal)
    {account : AccountSnapshot dec.Decimal} {nowMs : UInt64}
    (covered : account.coversDayOf nowMs) (kinds : List LossKind) :
    GaugeAgrees agent
      (kinds.filterMap fun kind =>
        (limits.limitOf kind).map fun limitUsd => ⟨scope, account, kind, limitUsd⟩)
      (kinds.filterMap (gaugeRow scope limits account nowMs))
      (kinds.findSome? fun kind =>
        checkBudget (scope.killScope agent) account kind (limits.limitOf kind)) := by
  induction kinds with
  | nil => exact ⟨.nil, rfl⟩
  | cons kind kinds ih =>
      rw [List.filterMap_cons, List.filterMap_cons, List.findSome?_cons]
      cases set : limits.limitOf kind with
      | none =>
          have quiet : gaugeRow scope limits account nowMs kind = none := by
            rw [gaugeRow, set]
            rfl
          rw [quiet]
          exact ih
      | some limitUsd =>
          obtain ⟨row, shown, reads, checked⟩ :=
            @gaugeRow_reads dec exact whole agent scope limits account nowMs kind limitUsd set
              covered
          have fired : checkBudget (scope.killScope agent) account kind (some limitUsd) =
              if row.tripped then some (row.breach agent) else none := checked
          rw [shown, fired]
          refine ⟨.cons reads ih.each, ?_⟩
          dsimp only
          cases tripped : row.tripped with
          | true =>
              rw [List.find?_cons_of_pos tripped]
              rfl
          | false =>
              rw [List.find?_cons_of_neg (by rw [tripped]; nofun)]
              exact ih.first

/-- The gauge shows what the breaker will decide, on the budgets of one scope. The account's history
is asked to cover the day, since the gauge is not shown otherwise. -/
theorem gauge_agrees (exact : dec.Exact) (whole : dec.WholeQuotients) (agent : String)
    (scope : BudgetScope) (limits : LossLimits dec.Decimal)
    {account : AccountSnapshot dec.Decimal} {nowMs : UInt64}
    (covered : account.coversDayOf nowMs) :
    GaugeAgrees agent (budgetsOf scope limits account) (gauge scope limits account nowMs)
      (checkLoss (scope.killScope agent) limits account) := by
  obtain ⟨each, first⟩ := gaugeRows_agree exact whole agent scope limits covered
    [LossKind.daily, .drawdown]
  refine ⟨each, first.trans ?_⟩
  rw [List.findSome?_cons, List.findSome?_cons, List.findSome?_nil, checkLoss]
  change _ = (checkBudget _ _ _ limits.maxDailyLossUsd <|> checkBudget _ _ _ limits.maxDrawdownUsd)
  simp only [LossLimits.limitOf]
  cases checkBudget (scope.killScope agent) account .daily limits.maxDailyLossUsd <;>
    cases checkBudget (scope.killScope agent) account .drawdown limits.maxDrawdownUsd <;> rfl

/-- The gauges of two sets of budgets, one after the other. -/
theorem GaugeAgrees.append {agent : String} {budgets budgets' : List (Budget dec.Decimal)}
    {rows rows' : List (LossBudget dec.Decimal)} {breach breach' : Option (Breach dec.Decimal)}
    (agrees : GaugeAgrees agent budgets rows breach)
    (agrees' : GaugeAgrees agent budgets' rows' breach') :
    GaugeAgrees agent (budgets ++ budgets') (rows ++ rows') (breach <|> breach') := by
  refine ⟨List.rel_append agrees.each agrees'.each, ?_⟩
  rw [List.find?_append, ← agrees.first, ← agrees'.first]
  cases rows.find? LossBudget.tripped <;> rfl

/-- **The gauge agrees with the breaker:** every limit that is set has a row, which is tripped
exactly when the breaker fires on it, and the first row that is tripped is the breach. An operator
who reads the gauge reads what the breaker will decide. -/
theorem lossBudget_agrees (exact : dec.Exact) (whole : dec.WholeQuotients)
    {engine : EngineState dec.Decimal} {agent : String} {config : AgentGuardrails dec.Decimal}
    {exposure : Exposure dec.Decimal} {nowMs : UInt64}
    (registered : engine.policy.guardrails.get agent = some config)
    (covered : exposure.agent.coversDayOf nowMs)
    (fleetCovered : ∀ fleet ∈ exposure.fleet, fleet.coversDayOf nowMs) :
    GaugeAgrees agent (budgets config.loss engine.policy.accountLimits exposure)
      (engine.lossBudget agent exposure nowMs)
      (checkAll agent config.loss exposure.agent engine.policy.accountLimits exposure.fleet) := by
  rw [EngineState.lossBudget, registered, checkAll]
  refine (gauge_agrees exact whole agent .agent config.loss covered).append ?_
  cases shared : exposure.fleet with
  | none => exact ⟨.nil, rfl⟩
  | some fleet =>
      have agrees := gauge_agrees exact whole agent .account engine.policy.accountLimits
        (fleetCovered fleet shared)
      rwa [Option.toList_some, List.flatMap_singleton]

end Gauge

/-! ## A budget of a hundred dollars -/

/-- The quotient of two decimals without what is below its last place. -/
def wholeQuotient (left right : FixedPoint) : FixedPoint :=
  ⟨⌊left.value / right.value * 10 ^ 28⌋, 28⟩

/-- The quotient that is cut off has the value cut off at 28 places. -/
theorem value_wholeQuotient (left right : FixedPoint) :
    (wholeQuotient left right).value = ⌊left.value / right.value * 10 ^ 28⌋ / 10 ^ 28 := rfl

/-- The quotient that is cut off is within its last place. -/
theorem wholeQuotient_near (left right : FixedPoint) :
    |(wholeQuotient left right).value - left.value / right.value| ≤ 1 / 10 ^ 28 := by
  rw [value_wholeQuotient]
  generalize left.value / right.value = exact
  have below := Int.floor_le (exact * 10 ^ 28)
  have above := Int.lt_floor_add_one (exact * 10 ^ 28)
  rw [abs_le]
  constructor
  · rw [neg_le_sub_iff_le_add, ← add_div, le_div_iff₀ (by positivity)]
    exact above.le
  · have lower : (⌊exact * 10 ^ 28⌋ / 10 ^ 28 : ℚ) ≤ exact :=
      (div_le_iff₀ (by positivity)).mpr below
    exact (sub_nonpos.mpr lower).trans (by positivity)

/-- Cutting a quotient off at its places keeps its whole part. -/
theorem floor_wholeQuotient (left right : FixedPoint) :
    ⌊(wholeQuotient left right).value⌋ = ⌊left.value / right.value⌋ := by
  rw [value_wholeQuotient]
  generalize left.value / right.value = exact
  refine le_antisymm (Int.floor_mono ?_) (Int.le_floor.mpr ?_)
  · exact (div_le_iff₀ (by positivity)).mpr (Int.floor_le _)
  · rw [le_div_iff₀ (by positivity)]
    have scaled : ⌊exact⌋ * 10 ^ 28 ≤ ⌊exact * 10 ^ 28⌋ := by
      refine Int.le_floor.mpr ?_
      push_cast
      exact mul_le_mul_of_nonneg_right (Int.floor_le exact) (by positivity)
    exact_mod_cast scaled

/-- Decimals whose quotients are rounded down. -/
def RiskDecimals.whole : RiskDecimals :=
  { RiskDecimals.reference with
    checkedDiv := fun left right =>
      if right.coefficient = 0 then none else some (wholeQuotient left right)
    value_checkedDiv := by
      intro left right result same
      split at same
      · exact nomatch same
      · rename_i nonzero
        cases same
        refine ⟨?_, (wholeQuotient_near left right).trans ?_⟩
        · exact div_ne_zero (Int.cast_ne_zero.mpr nonzero) (by positivity)
        · exact div_le_div_of_nonneg_right (le_max_left _ _) (by positivity) }

/-- The decimals of the witness are exact. -/
theorem RiskDecimals.whole_exact : RiskDecimals.whole.Exact :=
  ⟨reference_exact.add, reference_exact.sub, reference_exact.mul, reference_exact.roundSf,
    reference_exact.stripped, reference_exact.canonical⟩

/-- The quotients of the witness keep their whole part. -/
theorem RiskDecimals.whole_wholeQuotients : RiskDecimals.whole.WholeQuotients := by
  intro left right nonzero
  have coefficient : right.coefficient ≠ 0 := by
    intro none
    refine nonzero ?_
    change (right.coefficient : ℚ) / _ = 0
    rw [none, Int.cast_zero, zero_div]
  exact ⟨wholeQuotient left right, if_neg coefficient, floor_wholeQuotient left right⟩

/-- The guardrails of an agent that may lose a hundred dollars a day. -/
def hundredDollars : AgentGuardrails RiskDecimals.whole.Decimal :=
  { OneSymbol.guardrails with loss := ⟨some (OneSymbol.dollars 100), none⟩ }

/-- A day on which the agent has realised a loss. -/
def losingDay (lossUsd : Int) : AccountSnapshot RiskDecimals.whole.Decimal :=
  { OneSymbol.snapshot (OneSymbol.dollars 0) (OneSymbol.dollars 0) with
    realizedPnlTodayUsd := OneSymbol.dollars (-lossUsd) }

def hundredDollarsEngine : EngineState RiskDecimals.whole.Decimal :=
  OneSymbol.engine hundredDollars

/-- At the limit the row is tripped, and the breaker fires. -/
theorem lossBudget_agrees_hundredDollars :
    GaugeAgrees "maker"
      (budgets hundredDollars.loss hundredDollarsEngine.policy.accountLimits
        ⟨OneSymbol.account, losingDay 100, none⟩)
      (hundredDollarsEngine.lossBudget "maker" ⟨OneSymbol.account, losingDay 100, none⟩ 0)
      (checkAll "maker" hundredDollars.loss (losingDay 100)
        hundredDollarsEngine.policy.accountLimits none) :=
  @lossBudget_agrees .whole RiskDecimals.whole_exact RiskDecimals.whole_wholeQuotients
    hundredDollarsEngine "maker" hundredDollars ⟨OneSymbol.account, losingDay 100, none⟩ 0 rfl
    (by decide) (fun _ absent => absurd absent (Option.not_mem_none _))

end Oppen.Guardrail
