import Oppen.Foundation.Failures
import Oppen.Guardrail.Costs

/-! # Where a slippage refusal comes from

Only the last of the caps refuses an order for its slippage: an evaluation does, exactly when
everything before that cap passed and the cap refuses.
-/

namespace Oppen.Guardrail

open Foundation Oppen.Ledger

/-- A refusal for slippage. -/
def Refusal.ForSlippage {Decimal : Type} : Refusal Decimal → Prop
  | .slippage .. => True
  | _ => False

instance {Decimal : Type} : ∀ refusal : Refusal Decimal, Decidable refusal.ForSlippage
  | .slippage .. => isTrue trivial
  | .cancellationApprovalRequired .. | .pilotBudget .. | .missingReason | .reasonTooLong ..
  | .reasonControlCharacter .. | .symbolNotAllowed .. | .orderNotional .. | .openExposure ..
  | .positionNotional .. | .volScaledPositionNotional .. | .orderRate .. | .globalRateBudget ..
  | .reduceOnly .. | .leverage .. | .tradingPaused .. | .lossLimit .. | .venueRule ..
  | .approvalRequired .. | .unevaluable .. => isFalse not_false

/-! ## Steps that refuse for something else -/

/-- A check never fails in a way its refusal is not. -/
theorem refuseIf_neverFails {Error : Type} {kind : Error → Prop} {bad : Prop} [Decidable bad]
    {refusal : Error} (other : ¬ kind refusal) : NeverFails kind (refuseIf bad refusal) := by
  intro error failed
  rwa [← (refuseIf_error failed).2]

/-- Errors that are lifted into another kind never fail in this one. -/
theorem mapError_neverFails {Error Error' Value : Type} {kind : Error' → Prop}
    {lift : Error → Error'} (other : ∀ error, ¬ kind (lift error)) (run : Except Error Value) :
    NeverFails kind (mapError lift run) := by
  cases run with
  | ok value => exact neverFails_ok value
  | error error => exact neverFails_error (other error)

section Checks

variable {dec : RiskDecimals} {setup : EngineSetup} {answers : Answers dec.Decimal}
  {ask : Evaluation dec.Decimal} {config : AgentGuardrails dec.Decimal}
  {account : AccountSnapshot dec.Decimal} {asset : Asset} {market : MarketRef dec.Decimal}
  {intent : OrderIntent dec.Decimal} {referencePx : dec.Decimal} {nowMs : UInt64}

/-- A computation that refuses no order for its slippage. -/
abbrev SparesSlippage {Value : Type} (run : Except (Refusal dec.Decimal) Value) : Prop :=
  NeverFails Refusal.ForSlippage run

/-- An overflow is no refusal for slippage. -/
theorem checked_spares (amount : Option dec.Decimal) (field : String) :
    SparesSlippage (checked amount field) := by
  cases amount with
  | some amount => exact neverFails_ok amount
  | none => exact neverFails_error not_false

theorem checkReason_spares (reason : String) : SparesSlippage (checkReason dec reason) := by
  refine .bind (refuseIf_neverFails not_false) fun _ =>
    .bind (refuseIf_neverFails not_false) fun _ => ?_
  split
  · exact neverFails_error not_false
  · exact neverFails_ok _

/-- The checks of a request refuse nothing for slippage. -/
theorem checkRequest_spares (ask : Evaluation dec.Decimal) : SparesSlippage (checkRequest ask) :=
  .bind (checkReason_spares _) fun _ => refuseIf_neverFails not_false

theorem checkAccount_spares : SparesSlippage (checkAccount account config nowMs) :=
  .bind (refuseIf_neverFails not_false) fun _ => .bind (refuseIf_neverFails not_false) fun _ =>
    .bind (refuseIf_neverFails not_false) fun _ => .bind (refuseIf_neverFails not_false) fun _ =>
      refuseIf_neverFails not_false

/-- The registry and the feed session answer what cannot be evaluated, and nothing else. -/
structure Answers.Unevaluated (answers : Answers dec.Decimal) : Prop where
  route : ∀ refusal, answers.route = .error refusal → ∃ reason, refusal = .unevaluable reason
  feedFirst : ∀ refusal, answers.feedFirst = .error refusal →
    ∃ reason, refusal = .unevaluable reason
  feedLast : ∀ refusal, answers.feedLast = .error refusal → ∃ reason, refusal = .unevaluable reason

/-- What cannot be evaluated is not refused for its slippage. -/
theorem unevaluable_spares {Value : Type} {run : Except (Refusal dec.Decimal) Value}
    (unevaluated : ∀ refusal, run = .error refusal → ∃ reason, refusal = .unevaluable reason) :
    SparesSlippage run := by
  intro refusal failed
  obtain ⟨reason, rfl⟩ := unevaluated refusal failed
  exact not_false

/-- The checks of a route refuse nothing for slippage, where the registry and the feed only refuse
what cannot be evaluated. -/
theorem checkRoute_spares (plain : answers.Unevaluated) (mode : Mode)
    (engine : EngineState dec.Decimal) :
    SparesSlippage (checkRoute setup answers mode ask engine) :=
  .bind (refuseIf_neverFails not_false) fun _ => .bind (unevaluable_spares plain.route) fun _ =>
    .bind (refuseIf_neverFails not_false) fun _ => .bind (refuseIf_neverFails not_false) fun _ =>
      .bind (refuseIf_neverFails not_false) fun _ =>
        .bind (refuseIf_neverFails not_false) fun _ => neverFails_ok _

theorem checkKill_spares (engine : EngineState dec.Decimal) (agent : String) :
    SparesSlippage (checkKill engine agent) := by
  unfold checkKill
  split
  · exact neverFails_error not_false
  · exact neverFails_ok _

theorem checkFleet_spares (limits : LossLimits dec.Decimal)
    (fleet : Option (AccountSnapshot dec.Decimal)) :
    SparesSlippage (checkFleet limits config fleet nowMs) := by
  unfold checkFleet
  split
  · exact neverFails_ok _
  · split
    · exact neverFails_error not_false
    · exact checkAccount_spares

/-- The checks of admission refuse nothing for slippage. -/
theorem checkAdmission_spares (plain : answers.Unevaluated) (mode : Mode)
    (engine : EngineState dec.Decimal) :
    SparesSlippage (checkAdmission setup answers mode ask engine) := by
  refine .bind (checkRoute_spares plain mode engine) fun route => ?_
  split
  · exact neverFails_error not_false
  · refine .bind (mapError_neverFails (fun _ => not_false) _) fun _ =>
      .bind (checkKill_spares engine _) fun _ =>
        .bind (mapError_neverFails (fun _ => not_false) _) fun _ => ?_
    exact .bind (refuseIf_neverFails not_false) fun _ => .bind (refuseIf_neverFails not_false)
      fun _ => .bind checkAccount_spares fun _ => .bind (unevaluable_spares plain.feedFirst)
        fun _ => .bind (checkFleet_spares _ _) fun _ => neverFails_ok _

theorem checkMarket_spares : SparesSlippage (checkMarket market config nowMs) := by
  refine .bind (refuseIf_neverFails not_false) fun _ => .bind (refuseIf_neverFails not_false)
    fun _ => .bind (refuseIf_neverFails not_false) fun _ => .bind ?_ fun _ => ?_
  · unfold checkDivergence
    split
    · dsimp only
      split
      · exact neverFails_ok _
      · exact .bind (refuseIf_neverFails not_false) fun _ => refuseIf_neverFails not_false
    · exact neverFails_ok _
  · unfold referencePrice
    split
    · exact neverFails_ok _
    · exact neverFails_error not_false

/-! ## The caps before the slippage -/

/-- Rounding an order refuses nothing for slippage. -/
theorem roundOrder_spares : SparesSlippage (roundOrder config account asset intent) := by
  refine .bind (checked_spares _ _) fun _ =>
    .bind (mapError_neverFails (fun _ => not_false) _) fun _ => ?_
  split
  · exact neverFails_error not_false
  · refine .bind (refuseIf_neverFails not_false) fun _ => ?_
    have capped {notionalUsd : dec.Decimal} {order : Rounded dec.Decimal} : SparesSlippage (do
        refuseIf (dec.value config.maxOrderUsd < dec.value notionalUsd)
          (.orderNotional intent.symbol notionalUsd config.maxOrderUsd)
        return order) :=
      .bind (refuseIf_neverFails not_false) fun _ => neverFails_ok _
    dsimp only
    split
    · refine .bind ?_ fun _ => capped
      exact .bind (refuseIf_neverFails not_false) fun _ => .bind (refuseIf_neverFails not_false)
        fun _ => .bind (refuseIf_neverFails not_false) fun _ => refuseIf_neverFails not_false
    · exact capped

theorem worstPosition_spares (szi : dec.Decimal) (sides : Sides dec.Decimal) :
    SparesSlippage (worstPosition szi sides) :=
  .bind (checked_spares _ _) fun _ => .bind (checked_spares _ _) fun _ => neverFails_ok _

theorem worstPositions_spares (sides : Sides dec.Decimal) (sz : dec.Decimal) :
    SparesSlippage (worstPositions account intent sides sz) :=
  .bind (worstPosition_spares _ _) fun _ => .bind (checked_spares _ _) fun _ =>
    .bind (worstPosition_spares _ _) fun _ => neverFails_ok _

theorem volScaledCap_spares (symbol : String) :
    SparesSlippage (volScaledCap config market symbol) := by
  unfold volScaledCap
  split
  · exact neverFails_ok _
  · split
    · exact neverFails_error not_false
    · exact .bind (checked_spares _ _) fun _ => neverFails_ok _

theorem checkPosition_spares (sides : Sides dec.Decimal) (positions : Positions dec.Decimal) :
    SparesSlippage (checkPosition config market intent referencePx sides positions) := by
  refine .bind (checked_spares _ _) fun _ => .bind (checked_spares _ _) fun _ =>
    .bind (refuseIf_neverFails not_false) fun _ => .bind (volScaledCap_spares _) fun _ =>
      .bind (checked_spares _ _) fun _ => ?_
  dsimp only
  split
  · exact .bind (refuseIf_neverFails not_false) fun _ => neverFails_ok _
  · exact neverFails_ok _

theorem checkLeverage_spares (order : Rounded dec.Decimal) (positions : Positions dec.Decimal)
    (positionAfterUsd : dec.Decimal) : SparesSlippage
      (checkLeverage config account asset intent referencePx order positions positionAfterUsd) := by
  have opened : SparesSlippage (openingUsd intent order.sz referencePx) := by
    unfold openingUsd
    split
    · exact neverFails_ok _
    · exact checked_spares _ _
  refine .bind ?_ fun _ => .bind (checked_spares _ _) fun _ => .bind (checked_spares _ _) fun _ =>
    .bind ?_ fun _ => .bind ?_ fun _ => .bind (checked_spares _ _) fun _ =>
      .bind (refuseIf_neverFails not_false) fun _ => neverFails_ok _
  · exact .bind (refuseIf_neverFails not_false) fun _ => neverFails_ok _
  · unfold checkOpenExposure
    split
    · exact neverFails_ok _
    · split
      · exact neverFails_ok _
      · exact .bind opened fun _ => .bind (checked_spares _ _) fun _ =>
          refuseIf_neverFails not_false
  · exact .bind (checked_spares _ _) fun _ => neverFails_ok _

/-- An order within every cap but the one on its slippage. -/
structure WithinOtherCaps (config : AgentGuardrails dec.Decimal)
    (account : AccountSnapshot dec.Decimal) (asset : Asset) (market : MarketRef dec.Decimal)
    (intent : OrderIntent dec.Decimal) (referencePx : dec.Decimal) (order : Rounded dec.Decimal) :
    Prop where
  rounded : roundOrder config account asset intent = .ok order
  held : ∃ positions positionAfterUsd volScaled leverage,
    worstPositions account intent order.sides order.sz = .ok positions ∧
      checkPosition config market intent referencePx order.sides positions =
        .ok (positionAfterUsd, volScaled) ∧
      checkLeverage config account asset intent referencePx order positions positionAfterUsd =
        .ok leverage

/-- **Only the cap on slippage refuses for slippage.** -/
theorem measure_slippage_iff {refusal : Refusal dec.Decimal} (slipped : refusal.ForSlippage) :
    measure config account asset market intent referencePx = .error refusal ↔
      ∃ order, WithinOtherCaps config account asset market intent referencePx order ∧
        checkSlippage config intent referencePx order = .error refusal := by
  constructor
  · intro refused
    obtain ⟨order, rounded, refused⟩ := (roundOrder_spares.bind_eq_error_iff slipped).mp refused
    obtain ⟨positions, worst, refused⟩ :=
      ((worstPositions_spares _ _).bind_eq_error_iff slipped).mp refused
    obtain ⟨⟨positionAfterUsd, volScaled⟩, position, refused⟩ :=
      ((checkPosition_spares _ _).bind_eq_error_iff slipped).mp refused
    obtain ⟨leverage, levered, refused⟩ :=
      ((checkLeverage_spares _ _ _).bind_eq_error_iff slipped).mp refused
    refine ⟨order, ⟨rounded, _, _, _, _, worst, position, levered⟩, ?_⟩
    rcases bind_eq_error refused with refused | ⟨_, -, finished⟩
    · exact refused
    · exact nomatch finished
  · rintro ⟨order, ⟨rounded, positions, positionAfterUsd, volScaled, leverage, worst, position,
      levered⟩, refused⟩
    unfold measure
    refine (roundOrder_spares.bind_eq_error_iff slipped).mpr ⟨order, rounded, ?_⟩
    refine ((worstPositions_spares _ _).bind_eq_error_iff slipped).mpr ⟨positions, worst, ?_⟩
    refine ((checkPosition_spares _ _).bind_eq_error_iff slipped).mpr
      ⟨(positionAfterUsd, volScaled), position, ?_⟩
    refine ((checkLeverage_spares _ _ _).bind_eq_error_iff slipped).mpr ⟨leverage, levered, ?_⟩
    rw [refused]
    rfl

/-! ## Evaluations that reach the cap -/

/-- An evaluation that passes everything before the cap on slippage. Whether it is then refused is
the check's own comparison. -/
structure ReachesSlippage (setup : EngineSetup) (answers : Answers dec.Decimal)
    (ask : Evaluation dec.Decimal) (state : OrderState dec.Decimal)
    (config : AgentGuardrails dec.Decimal) (referencePx : dec.Decimal)
    (order : Rounded dec.Decimal) : Prop where
  request : checkRequest ask = .ok ()
  refreshed : (state.refreshPolicy answers).1 = .ok ()
  admitted : ∃ route, checkAdmission setup answers .fresh ask
    (state.refreshPolicy answers).2.engine = .ok (route, config)
  unbroken : checkAll ask.agent config.loss ask.exposure.agent
    (state.refreshPolicy answers).2.engine.policy.accountLimits ask.exposure.fleet = none
  market : checkMarket ask.market config ask.nowMs = .ok referencePx
  allowed : ask.intent.symbol ∈ config.symbols.keys
  capped : WithinOtherCaps config ask.exposure.agent ask.asset ask.market ask.intent referencePx
    order

/-- The caps refuse for slippage exactly if every cap before it passes and the order's price is too
far. The refusal is then that of the slippage check itself. -/
theorem checkCaps_slippage_iff {refusal : Refusal dec.Decimal} (slipped : refusal.ForSlippage) :
    checkCaps config ask = .error refusal ↔
      ∃ referencePx order, checkMarket ask.market config ask.nowMs = .ok referencePx ∧
        ask.intent.symbol ∈ config.symbols.keys ∧
        WithinOtherCaps config ask.exposure.agent ask.asset ask.market ask.intent referencePx
          order ∧
        checkSlippage config ask.intent referencePx order = .error refusal := by
  have allows : SparesSlippage (refuseIf (ask.intent.symbol ∉ config.symbols.keys)
      (.symbolNotAllowed ask.intent.symbol config.symbols.keys : Refusal dec.Decimal)) :=
    refuseIf_neverFails not_false
  constructor
  · intro refused
    obtain ⟨referencePx, market, refused⟩ :=
      (checkMarket_spares.bind_eq_error_iff slipped).mp refused
    obtain ⟨_, allowed, refused⟩ := (allows.bind_eq_error_iff slipped).mp refused
    rcases bind_eq_error refused with refused | ⟨_, -, finished⟩
    · obtain ⟨order, within, refused⟩ := (measure_slippage_iff slipped).mp refused
      exact ⟨referencePx, order, market, not_not.mp (refuseIf_ok allowed), within, refused⟩
    · exact nomatch finished
  · rintro ⟨referencePx, order, market, allowed, within, refused⟩
    refine (checkMarket_spares.bind_eq_error_iff slipped).mpr ⟨referencePx, market, ?_⟩
    have measured := (measure_slippage_iff slipped).mpr ⟨order, within, refused⟩
    rw [refuseIf, if_neg (not_not.mpr allowed)]
    change (measure _ _ _ _ _ _ >>= _) = _
    rw [measured]
    rfl

/-- A breach is no refusal for slippage. -/
theorem OrderState.trip_spares (state : OrderState dec.Decimal) (breach : Breach dec.Decimal) :
    ¬ (state.trip answers breach nowMs).1.ForSlippage := by
  unfold OrderState.trip
  dsimp only
  split
  · exact not_false
  · split <;> exact not_false

/-- A policy that is not read is refused as what cannot be evaluated. -/
theorem OrderState.refreshPolicy_spares (state : OrderState dec.Decimal) :
    SparesSlippage (state.refreshPolicy answers).1 := by
  unfold OrderState.refreshPolicy
  dsimp only
  split
  · exact neverFails_error not_false
  · split
    · exact neverFails_error not_false
    · exact neverFails_ok _

/-- An order is refused for slippage before any budget exactly if it reaches that check and fails
it. -/
theorem reachBudgets_slippage_iff (plain : answers.Unevaluated) (state : OrderState dec.Decimal)
    {refusal : Refusal dec.Decimal} (slipped : refusal.ForSlippage) :
    (reachBudgets setup answers .fresh ask state).1 = .error refusal ↔
      ∃ config referencePx order,
        ReachesSlippage setup answers ask state config referencePx order ∧
          checkSlippage config ask.intent referencePx order = .error refusal := by
  have refreshes : SparesSlippage (state.refreshPolicy answers).1 := state.refreshPolicy_spares
  generalize refreshed : state.refreshPolicy answers = read at refreshes
  obtain ⟨verdict, read⟩ := read
  constructor
  · intro refused
    unfold reachBudgets at refused
    rw [refreshed] at refused
    split at refused
    · rename_i failed
      rw [Except.error.inj refused] at failed
      exact absurd slipped (checkRequest_spares ask _ failed)
    rename_i request
    cases verdict with
    | error other =>
        rw [Except.error.inj refused] at refreshes
        exact absurd slipped (refreshes _ rfl)
    | ok done =>
        dsimp only at refused
        split at refused
        · rename_i failed
          rw [Except.error.inj refused] at failed
          exact absurd slipped (checkAdmission_spares plain _ _ _ failed)
        rename_i route config admitted
        split at refused
        · rw [← Except.error.inj refused] at slipped
          exact absurd slipped (OrderState.trip_spares _ _)
        rename_i unbroken
        split at refused
        · rename_i failed
          rw [Except.error.inj refused] at failed
          obtain ⟨referencePx, order, market, allowed, within, failed⟩ :=
            (checkCaps_slippage_iff slipped).mp failed
          refine ⟨config, referencePx, order, ⟨request, ?_, ⟨route, ?_⟩, ?_, market, allowed,
            within⟩, failed⟩
          · rw [refreshed]
          · rw [refreshed]
            exact admitted
          · rw [refreshed]
            exact unbroken
        · exact nomatch refused
  · rintro ⟨config, referencePx, order, reaches, refused⟩
    obtain ⟨request, read', ⟨route, admitted⟩, unbroken, market, allowed, within⟩ := reaches
    rw [refreshed] at read' admitted unbroken
    dsimp only at read' admitted unbroken
    have capped := (checkCaps_slippage_iff slipped).mpr
      ⟨referencePx, order, market, allowed, within, refused⟩
    unfold reachBudgets
    rw [request]
    dsimp only
    rw [refreshed, read']
    dsimp only
    rw [admitted]
    dsimp only
    rw [unbroken]
    dsimp only
    rw [capped]

/-! ## The budgets -/

theorem spendGlobal_spares (bucket : TokenBucket) (budget : GlobalRateBudget) (mode : Mode) :
    SparesSlippage (spendGlobal dec bucket budget mode nowMs).1 := by
  unfold spendGlobal
  split
  · rename_i error _
    cases error <;> exact neverFails_error not_false
  · split
    · exact neverFails_ok _
    · split
      · exact neverFails_error not_false
      · split
        · exact neverFails_ok _
        · exact neverFails_error not_false

theorem requireApproval_spares (mode : Mode) (passed : Passed dec.Decimal)
    (state : OrderState dec.Decimal) :
    SparesSlippage (requireApproval answers mode ask passed state).1 := by
  intro refusal failed slipped
  have waits := requireApproval_refused (Prod.ext failed rfl)
  cases refusal <;> first | exact slipped | exact waits

/-- The budgets refuse nothing for slippage. -/
theorem spendBudgets_spares (plain : answers.Unevaluated) (mode : Mode)
    (passed : Passed dec.Decimal) (state : OrderState dec.Decimal) :
    SparesSlippage (spendBudgets setup answers mode ask passed state).1 := by
  unfold spendBudgets
  dsimp only
  split
  · rename_i refusal failed
    exact neverFails_error (unevaluable_spares plain.feedLast _ failed)
  generalize TokenBucket.perform _ _ = taken
  obtain ⟨spent, bucket⟩ := taken
  cases spent with
  | error error => cases error <;> exact neverFails_error not_false
  | ok done =>
      dsimp only
      have charged : SparesSlippage (spendGlobal dec (state.setBucket ask.agent bucket).globalBucket
          (state.setBucket ask.agent bucket).globalBudget mode ask.nowMs).1 :=
        spendGlobal_spares _ _ _
      generalize spendGlobal _ _ _ _ _ = charge at charged ⊢
      obtain ⟨left, globalBucket⟩ := charge
      cases left with
      | error refusal => exact neverFails_error (charged refusal rfl)
      | ok globalTokens =>
          dsimp only
          have approved : SparesSlippage (requireApproval answers mode ask passed
              { state.setBucket ask.agent bucket with globalBucket }).1 :=
            requireApproval_spares _ _ _
          generalize requireApproval _ _ _ _ _ = approval at approved ⊢
          obtain ⟨required, left⟩ := approval
          cases required with
          | error refusal => exact neverFails_error (approved refusal rfl)
          | ok done => exact neverFails_ok _

/-- An outcome that is a refusal for slippage. -/
def RefusedForSlippage (outcome : Except (Refusal dec.Decimal) (Cleared dec.Decimal)) : Prop :=
  ∃ refusal, outcome = .error refusal ∧ refusal.ForSlippage

instance : ∀ outcome : Except (Refusal dec.Decimal) (Cleared dec.Decimal),
    Decidable (RefusedForSlippage outcome)
  | .ok _ => isFalse fun ⟨_, same, _⟩ => nomatch same
  | .error refusal => decidable_of_iff refusal.ForSlippage
      ⟨fun slipped => ⟨refusal, rfl, slipped⟩, fun ⟨_, same, slipped⟩ => by
        rwa [Except.error.inj same]⟩

/-- What is refused for slippage is decided before the budgets, and reported as it is. -/
theorem evaluate_eq_reachBudgets (plain : answers.Unevaluated) (state : OrderState dec.Decimal)
    {refusal : Refusal dec.Decimal} (slipped : refusal.ForSlippage) :
    (evaluate setup answers ask state).1 = .error refusal ↔
      (reachBudgets setup answers .fresh ask state).1 = .error refusal := by
  have decided : (decideOrder setup answers .fresh ask state).1 = .error refusal ↔
      (reachBudgets setup answers .fresh ask state).1 = .error refusal := by
    unfold decideOrder
    generalize reachBudgets setup answers .fresh ask state = reached
    obtain ⟨verdict, state⟩ := reached
    cases verdict with
    | error other =>
        dsimp only
        rw [Except.error.injEq, Except.error.injEq]
    | ok passed =>
        refine ⟨fun refused => ?_, nofun⟩
        exact absurd slipped (spendBudgets_spares plain _ _ _ _ refused)
  rw [← decided]
  unfold evaluate
  generalize decideOrder setup answers .fresh ask state = decision
  obtain ⟨outcome, state⟩ := decision
  split
  · rename_i same
    rw [(Prod.mk.inj same).1]
  · rename_i same
    obtain ⟨rfl, rfl⟩ := Prod.mk.inj same
    cases outcome with
    | error other => rw [recordOutcome_error]
    | ok cleared =>
        refine ⟨fun refused => ?_, nofun⟩
        dsimp only [recordOutcome] at refused
        split at refused
        · rw [← Except.error.inj refused] at slipped
          exact absurd slipped not_false
        · exact nomatch refused

/-- **An evaluation refuses for slippage at the cap on slippage.** -/
theorem evaluate_slippage_iff (plain : answers.Unevaluated) (state : OrderState dec.Decimal) :
    RefusedForSlippage (evaluate setup answers ask state).1 ↔
      ∃ config referencePx order,
        ReachesSlippage setup answers ask state config referencePx order ∧
          ∃ refusal, checkSlippage config ask.intent referencePx order = .error refusal ∧
            refusal.ForSlippage := by
  constructor
  · rintro ⟨refusal, refused, slipped⟩
    obtain ⟨config, referencePx, order, reaches, refused⟩ :=
      (reachBudgets_slippage_iff plain state slipped).mp
        ((evaluate_eq_reachBudgets plain state slipped).mp refused)
    exact ⟨config, referencePx, order, reaches, refusal, refused, slipped⟩
  · rintro ⟨config, referencePx, order, reaches, refusal, refused, slipped⟩
    have reached := (reachBudgets_slippage_iff plain state slipped).mpr
      ⟨config, referencePx, order, reaches, refused⟩
    exact ⟨refusal, (evaluate_eq_reachBudgets plain state slipped).mpr reached, slipped⟩

end Checks

end Oppen.Guardrail
