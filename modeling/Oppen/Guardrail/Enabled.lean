import Oppen.Guardrail.Enabling

/-! # What is enabled is what was reviewed

Every acknowledgment of a run is of a review its own engine began and showed, of evidence that
was compared with a second reading of the venue, and of authority that a row on the reviewed
head witnesses. An admission that is checked later is for that route.
-/

namespace Oppen.Guardrail

open Foundation Oppen.Ledger Oppen.Feed

variable {dec : EvidenceDecimals}

section Enabled

variable (reader : ActivationReader dec.Decimal) (lib : Libraries) (handle : Handle)

/-- The row of the request stands directly on the head that was reviewed, and nothing inhibited
the engine since its generation was captured. -/
def RequestedUnder (start now : Activations dec.Decimal) (acts : List (ActivationAct dec))
    (id engine : Nat) (authority : ActivationAuthority dec.Decimal) : Prop :=
  ∃ first second third before asked appended,
    acts = first ++ .capture id :: (second ++ .request id :: third) ∧
      (∀ act ∈ second ++ .request id :: third, ¬ act.Inhibits engine) ∧
      Run (ActivationStep reader lib handle) start (first ++ .capture id :: second) before ∧
      ActivationStep reader lib handle before (.request id) asked ∧
      Run (ActivationStep reader lib handle) asked third now ∧
      RequestedOn reader lib authority before.store asked.store appended

/-- What an acknowledgment rests on. -/
structure Enables (start now after : Activations dec.Decimal) (acts : List (ActivationAct dec))
    (id nowMs engine : Nat) (review : ActivationReview dec.Decimal)
    (evidence : ActivationEvidence dec.Decimal) (current : ActivationAuthority dec.Decimal) :
    Prop where
  own : review.observation.owner = engine
  reviewed : .review id engine review.evidence ∈ acts
  confirmed : .confirm id engine evidence ∈ acts
  displayed : Displayed review
  requested : RequestedUnder reader lib handle start now acts id engine
    review.observation.authority
  authority : SameAuthority review.observation.authority current
  material : SameMaterial dec.toPolicyDecimals review.evidence evidence
  after_review : review.display.observedAtMs ≤ evidence.readStartedAtMs
  deadline : review.display.observedAtMs ≤ nowMs ∧ nowMs < review.display.expiresAtMs
  fed : ((now.engines engine).session.admission (now.engines engine).monitors
    (some review.observation.feedStamp) (now.engines engine).network
      current.route.binding.container).isSome = true
  fresh : ∃ config, review.observation.authority.policy.state.guardrails.get
      review.observation.authority.route.binding.agent = some config ∧
    Fresh config review.observation.authority.route evidence nowMs
      (now.engines engine).session.lastTickMs
  unblocked : (now.engines engine).state.effectiveKill.blocking
    current.route.binding.agent = none
  acknowledged : (after.engines engine).state =
    acknowledging (now.engines engine).state review current
  apart : ∀ other, other ≠ engine → after.engines other = now.engines other
  once : ∀ earlierMs, .acknowledge id earlierMs ∉ acts

/-- What an engine holds was acknowledged by a confirmation of the run, for one route. -/
def Covered (start : Activations dec.Decimal) (acts : List (ActivationAct dec))
    (engine : Nat) (acknowledgment : PolicyAcknowledgment) (route : AuthorizedRoute) : Prop :=
  ∃ earlier before after later id nowMs review evidence current,
    acts = earlier ++ .acknowledge id nowMs :: later ∧
      Run (ActivationStep reader lib handle) start earlier before ∧
      ActivationStep reader lib handle before (.acknowledge id nowMs) after ∧
      before.attempts id = .verified engine review evidence current ∧
      route = current.route ∧
      acknowledgment = ⟨current.policy.revision, review.observation.generation⟩

end Enabled

section Facts

variable {reader : ActivationReader dec.Decimal} {lib : Libraries} {handle : Handle}
  {start now after : Activations dec.Decimal} {acts : List (ActivationAct dec)}
  {act : ActivationAct dec} {id engine nowMs : Nat} {review : ActivationReview dec.Decimal}
  {evidence : ActivationEvidence dec.Decimal} {current : ActivationAuthority dec.Decimal}

/-! ## Confirmation -/

/-- What a confirmation that holds says of its engine and its evidence. -/
structure Confirmed (engine : ActivationEngine dec.Decimal) (review : ActivationReview dec.Decimal)
    (evidence : ActivationEvidence dec.Decimal) (current : ActivationAuthority dec.Decimal)
    (nowMs : Nat) : Prop where
  counted : review.observation.generation ≠ u64Max
  generation : engine.state.stopGeneration = review.observation.generation
  unblocked : engine.state.effectiveKill.blocking current.route.binding.agent = none
  fed : (engine.session.admission engine.monitors (some review.observation.feedStamp)
    engine.network current.route.binding.container).isSome = true
  after_review : review.display.observedAtMs ≤ evidence.readStartedAtMs
  deadline : review.display.observedAtMs ≤ nowMs ∧ nowMs < review.display.expiresAtMs
  valid : ∃ display, validateEvidence dec review.observation.authority
    review.observation.generation evidence nowMs engine.session.lastTickMs = .ok display

/-- What the local check says: no stop was made since, and no switch blocks the agent. -/
theorem checkLocal_ok {state : EngineState dec.Decimal} {generation : Nat}
    (run : checkLocal state current generation = .ok ()) :
    (generation ≠ u64Max ∧ state.stopGeneration = generation) ∧
      state.effectiveKill.blocking current.route.binding.agent = none := by
  obtain ⟨_, held, run⟩ := bind_eq_ok run
  have held := refuseIf_ok held
  push Not at held
  split at run
  · cases run
  · rename_i unblocked
    exact ⟨⟨held.1, held.2.1⟩, unblocked⟩

/-- A passed check is a confirmation, field by field as `Confirmed` has it. -/
theorem checkConfirmation_ok {engine : ActivationEngine dec.Decimal}
    (run : checkConfirmation engine review evidence current nowMs = .ok ()) :
    Confirmed engine review evidence current nowMs := by
  obtain ⟨_, locally, run⟩ := bind_eq_ok run
  obtain ⟨_, feed, run⟩ := bind_eq_ok run
  obtain ⟨_, deadline, run⟩ := bind_eq_ok run
  obtain ⟨display, valid, _⟩ := bind_eq_ok run
  obtain ⟨⟨counted, generation⟩, unblocked⟩ := checkLocal_ok locally
  obtain ⟨_, admits, feed⟩ := bind_eq_ok feed
  cases feed
  have admits := refuseIf_ok admits
  have deadline := refuseIf_ok deadline
  push Not at deadline
  refine ⟨counted, generation, unblocked, ?_, deadline.2.2, ⟨deadline.1, deadline.2.1⟩,
    display, valid⟩
  rw [Option.isNone_iff_eq_none] at admits
  exact Option.isSome_iff_ne_none.mpr admits

/-- Nothing inhibited an engine between the capture of a generation and a look at it. -/
theorem Requested.under (initial : start.Sound)
    (requested : Requested reader lib handle start acts now id engine review evidence current)
    (counted : review.observation.generation ≠ u64Max)
    (generation : (now.engines engine).state.stopGeneration = review.observation.generation) :
    RequestedUnder reader lib handle start now acts id engine review.observation.authority := by
  obtain ⟨earlier, before, asked, third, appended, rfl, captured, request, onward, on⟩ :=
    requested.requested
  obtain ⟨first, opened, begun, second, rfl, opening, capture, waiting, observed⟩ := captured
  obtain ⟨own, _, head, same⟩ := requested.rechecked
  rw [own] at observed
  have sound := opening.invariant Activations.Sound (fun _ _ _ sound step => step.sound sound)
    initial
  have since := (waiting.snoc request).append onward
  rw [List.append_assoc, List.singleton_append] at since
  have calm := (run_uninhibited since (capture.bounded sound.bounded)).2.2
    (generation.trans observed.symm) (generation ▸ counted)
  refine ⟨first, second, third, before, asked, appended, ?_, calm,
    ?_, request, onward, on.same head same⟩
  · rw [List.append_assoc, List.cons_append]
  · have joined := (opening.snoc capture).append waiting
    rwa [List.append_assoc, List.singleton_append] at joined

/-! ## Closed attempts -/

/-- An attempt that is closed stays closed. -/
theorem ActivationStep.closed (step : ActivationStep reader lib handle now act after)
    (closed : now.attempts id = .closed) : after.attempts id = .closed := by
  have moved : ∀ {attempt : Nat} {stage : ActivationStage dec.Decimal},
      after.attempts = Function.update now.attempts attempt stage →
        (now.attempts attempt = .closed → stage = .closed) → after.attempts id = .closed := by
    intro attempt stage changed kept
    rw [changed, Function.update_apply]
    split
    · rename_i here
      exact kept (here ▸ closed)
    · exact closed
  cases step with
  | stop | inhibit | withdraw | overlay | publish | reconcile | feed | write => exact closed
  | refuse | failReview | failConfirmation | discard | acknowledge => exact moved rfl fun _ => rfl
  | begin _ _ _ _ stage | observe _ _ _ _ stage | capture _ _ _ _ stage | review _ _ _ _ stage
  | reread _ _ _ _ stage | «show» _ _ _ _ _ stage | confirm _ _ _ _ stage
  | recheck _ _ _ _ stage | allow _ _ _ _ _ stage | request _ _ _ _ _ _ stage
  | note _ _ _ _ _ _ stage | verify _ _ _ _ _ _ stage =>
      exact moved rfl fun ended => nomatch ended.symm.trans stage

/-- An attempt that acknowledged is closed. -/
theorem closed_of_acknowledged (run : Run (ActivationStep reader lib handle) start acts now)
    (member : .acknowledge id nowMs ∈ acts) : now.attempts id = .closed := by
  revert member
  refine run.history (fun acts now => .acknowledge id nowMs ∈ acts → now.attempts id = .closed)
    nofun ?_
  intro seen before act after _ closed step member
  rcases List.mem_append.mp member with earlier | last
  · exact step.closed (closed earlier)
  · cases List.mem_singleton.mp last
    cases step with
    | acknowledge => exact Function.update_self ..

/-! ## Coverage -/

/-- No order is admitted. -/
def Inhibited (state : EngineState dec.Decimal) : Prop :=
  state.acknowledged = none ∧
    ∀ route supervised, state.checkScopedAcknowledgment route supervised ≠ .ok ()

/-- An engine without an acknowledgement is inhibited. -/
theorem inhibited_of_unacknowledged {state : EngineState dec.Decimal}
    (none : state.acknowledged = none) : Inhibited state := by
  refine ⟨none, fun route supervised run => ?_⟩
  obtain ⟨_, checked, _⟩ := bind_eq_ok run
  have held := refuseIf_ok checked
  push Not at held
  rw [none] at held
  cases held.2

/-- What covered an acknowledgement still covers it after one more act. -/
theorem Covered.grow {acknowledgment : PolicyAcknowledgment} {route : AuthorizedRoute}
    (covered : Covered reader lib handle start acts engine acknowledgment route)
    (act : ActivationAct dec) :
    Covered reader lib handle start (acts ++ [act]) engine acknowledgment route := by
  obtain ⟨earlier, before, after, later, id, nowMs, review, evidence, current, rfl, rest⟩ := covered
  exact ⟨earlier, before, after, later ++ [act], id, nowMs, review, evidence, current,
    by rw [List.append_assoc, List.cons_append], rest⟩

/-- What an acknowledged engine holds of its route. -/
def Scoped (reader : ActivationReader dec.Decimal) (lib : Libraries) (handle : Handle)
    (start : Activations dec.Decimal) (acts : List (ActivationAct dec)) (engine : Nat)
    (state : EngineState dec.Decimal) : Prop :=
  ∀ acknowledgment, state.acknowledged = some acknowledgment →
    ∃ route, state.activationScope = some route ∧
      Covered reader lib handle start acts engine acknowledgment route

/-- No step of an activation changes whether an engine is supervised. -/
theorem ActivationStep.supervised (step : ActivationStep reader lib handle now act after)
    (engine : Nat) : (after.engines engine).supervised = (now.engines engine).supervised := by
  have moved : ∀ {other : Nat} {changed : ActivationEngine dec.Decimal},
      after.engines = Function.update now.engines other changed →
        changed.supervised = (now.engines other).supervised →
          (after.engines engine).supervised = (now.engines engine).supervised := by
    intro other changed updated kept
    rw [updated, Function.update_apply]
    split
    · rename_i here
      rw [here]
      exact kept
    · rfl
  cases step with
  | stop | inhibit | withdraw | overlay | publish | reconcile | feed | begin | capture | refuse
  | confirm | acknowledge | failReview | failConfirmation => exact moved rfl rfl
  | _ => rfl

/-- Every step keeps that a supervised engine which is acknowledged has the route its
acknowledgement is covered by. -/
theorem ActivationStep.holdsScope (run : Run (ActivationStep reader lib handle) start acts now)
    (step : ActivationStep reader lib handle now act after)
    (supervised : (now.engines engine).supervised = true)
    (held : Scoped reader lib handle start acts engine (now.engines engine).state) :
    Scoped reader lib handle start (acts ++ [act]) engine (after.engines engine).state := by
  have kept : Scoped reader lib handle start (acts ++ [act]) engine (now.engines engine).state := by
    intro acknowledgment acknowledged
    obtain ⟨route, scope, covered⟩ := held acknowledgment acknowledged
    exact ⟨route, scope, covered.grow act⟩
  have effect := step.effect engine
  generalize (after.engines engine).state = state at effect
  cases effect with
  | same | overlaid | published => exact kept
  | inhibited | withdrawn => exact fun _ => nofun
  | reconciled _ unsupervised =>
      rw [supervised] at unsupervised
      cases unsupervised
  | acknowledged id nowMs is review evidence current stage =>
      subst is
      rintro _ ⟨⟩
      exact ⟨current.route, rfl, acts, now, after, [], id, nowMs, review, evidence, current, rfl,
        run, step, stage, rfl, rfl⟩

/-- After every run a supervised engine which is acknowledged has the route its acknowledgement is
covered by. The run begins with no engine acknowledged. -/
theorem run_scoped (unread : ∀ engine, (start.engines engine).state.acknowledged = none)
    (run : Run (ActivationStep reader lib handle) start acts now) (engine : Nat) :
    (now.engines engine).supervised = true →
      Scoped reader lib handle start acts engine (now.engines engine).state := by
  refine run.history (fun acts now => (now.engines engine).supervised = true →
    Scoped reader lib handle start acts engine (now.engines engine).state) ?_ ?_
  · intro _ acknowledgment held
    rw [unread] at held
    cases held
  · intro seen before act after earlier held step supervised
    rw [step.supervised] at supervised
    exact step.holdsScope earlier supervised (held supervised)

/-- An order that is admitted is for the route in scope. -/
theorem route_of_scoped {state : EngineState dec.Decimal} {route other : AuthorizedRoute}
    (scope : state.activationScope = some route)
    (admitted : state.checkScopedAcknowledgment other true = .ok ()) : other = route := by
  obtain ⟨_, _, run⟩ := bind_eq_ok admitted
  have same := refuseIf_ok run
  push Not at same
  exact (Option.some.inj (scope.symm.trans (same (.inl rfl)))).symm

/-! ## Acknowledgments -/

/-- The step that acknowledges is the end of an attempt that was captured, reviewed, requested and
verified, in that order. -/
theorem ActivationStep.enables (initial : start.Sound) (idle : ∀ id, start.attempts id = .idle)
    (run : Run (ActivationStep reader lib handle) start acts now)
    (step : ActivationStep reader lib handle now (.acknowledge id nowMs) after) :
    ∃ engine review evidence current,
      now.attempts id = .verified engine review evidence current ∧
        Enables reader lib handle start now after acts id nowMs engine review evidence current ∧
          (SingleTokens review.evidence → SingleTokens evidence →
            SameBalances dec.toPolicyDecimals review.evidence evidence) := by
  have progress := run_progress idle run id
  have unspent : now.attempts id ≠ .closed → ∀ earlierMs, .acknowledge id earlierMs ∉ acts :=
    fun unclosed earlierMs member => unclosed (closed_of_acknowledged run member)
  cases step with
  | acknowledge _ engine review evidence current stage _ holds =>
      rw [stage] at progress unspent
      have requested : Requested reader lib handle start acts now id engine review evidence
        current := progress
      have confirmed := checkConfirmation_ok holds
      obtain ⟨own, material, head, authority⟩ := requested.rechecked
      obtain ⟨firstTick, firstDisplay, shown⟩ := requested.displayed
      obtain ⟨display, valid⟩ := confirmed.valid
      obtain ⟨same, balances⟩ := checkMaterial_ok material (validateEvidence_ok shown).2.1
        (validateEvidence_ok valid).2.1
      refine ⟨engine, review, evidence, current, stage, ?_, sameBalances_of_sameMap balances⟩
      exact {
        own := own
        reviewed := own ▸ requested.called
        confirmed := requested.confirmed
        displayed := requested.displayed
        requested := requested.under initial confirmed.counted confirmed.generation
        authority := authority
        material := same
        after_review := confirmed.after_review
        deadline := confirmed.deadline
        fed := confirmed.fed
        fresh := (validateEvidence_ok valid).1
        unblocked := confirmed.unblocked
        acknowledged := by
          show (Function.update now.engines engine _ engine).state = _
          rw [Function.update_self]
        apart := fun other different => Function.update_of_ne different ..
        once := unspent nofun }

/-- What holds of activation after a run. Each field is about one step from the state the run
reached, so together they speak of every step of every run. -/
structure Activated (reader : ActivationReader dec.Decimal) (lib : Libraries) (handle : Handle)
    (start now : Activations dec.Decimal) (acts : List (ActivationAct dec)) : Prop where
  /-- A confirmation acknowledges the review it confirms, once. -/
  enables : ∀ {id nowMs after},
    ActivationStep reader lib handle now (.acknowledge id nowMs) after →
      ∃ engine review evidence current,
        now.attempts id = .verified engine review evidence current ∧
          Enables reader lib handle start now after acts id nowMs engine review evidence
            current ∧
          (SingleTokens review.evidence → SingleTokens evidence →
            SameBalances dec.toPolicyDecimals review.evidence evidence)
  /-- Nothing else acknowledges a supervised engine. -/
  only : ∀ {act after engine acknowledgment}, ActivationStep reader lib handle now act after →
    (now.engines engine).supervised = true →
      (after.engines engine).state.acknowledged = some acknowledgment →
        (now.engines engine).state.acknowledged = some acknowledgment ∨
          ∃ id nowMs, act = .acknowledge id nowMs
  /-- A review that is not begun leaves its engine inhibited. -/
  refused : ∀ {id after engine}, ActivationStep reader lib handle now (.refuse id) after →
    (now.attempts id).begins = some engine → Inhibited (after.engines engine).state
  /-- So do a review that is not shown and a confirmation that is refused. -/
  failed : ∀ {id engine after}, ActivationStep reader lib handle now (.fail id engine) after →
    Inhibited (after.engines engine).state
  /-- A supervised engine admits orders of the one route that was acknowledged. -/
  covers : ∀ {engine acknowledgment}, (now.engines engine).supervised = true →
    (now.engines engine).state.acknowledged = some acknowledgment →
      ∃ route, (now.engines engine).state.activationScope = some route ∧
        Covered reader lib handle start acts engine acknowledgment route ∧
        ∀ other, (now.engines engine).state.checkScopedAcknowledgment other true = .ok () →
          other = route

/-- An engine's acknowledgement is the one it had or the one its attempt ends with. -/
theorem ActivationStep.only {acknowledgment : PolicyAcknowledgment}
    (step : ActivationStep reader lib handle now act after)
    (supervised : (now.engines engine).supervised = true)
    (held : (after.engines engine).state.acknowledged = some acknowledgment) :
    (now.engines engine).state.acknowledged = some acknowledgment ∨
      ∃ id nowMs, act = .acknowledge id nowMs := by
  have effect := step.effect engine
  generalize (after.engines engine).state = state at effect held
  cases effect with
  | same | overlaid | published => exact .inl held
  | inhibited | withdrawn => cases held
  | reconciled _ unsupervised =>
      rw [supervised] at unsupervised
      cases unsupervised
  | acknowledged id nowMs is => exact .inr ⟨id, nowMs, is⟩

/-- The engines and the attempts agree at the start, where no attempt has begun. -/
theorem start_sound (store : Store) (supervised : Nat → Bool) (network : Nat → Network)
    (session : Nat → FeedSession) (monitors : Nat → Nat → Monitor) :
    (Activations.start store supervised network session monitors :
      Activations dec.Decimal).Sound where
  bounded := fun _ => Nat.zero_le _
  locked := fun _ _ => nofun
  inhibited := fun _ _ => nofun

/-- **What activation enables is what was reviewed.** After any run a confirmation acknowledges the
review it confirms, and no other; a supervised engine is acknowledged in no other way; a refusal or
a failure leaves its engine inhibited; and an engine admits orders of the acknowledged route only.
That the balances are the reviewed ones asks that no token is listed twice. -/
theorem activation_enables_reviewed {store : Store} {supervised : Nat → Bool}
    {network : Nat → Network} {session : Nat → FeedSession} {monitors : Nat → Nat → Monitor}
    (run : Run (ActivationStep reader lib handle)
      (.start store supervised network session monitors) acts now) :
    Activated reader lib handle (.start store supervised network session monitors) now acts := by
  have initial : (Activations.start store supervised network session monitors :
    Activations dec.Decimal).Sound := start_sound store supervised network session monitors
  have sound := run.invariant Activations.Sound (fun _ _ _ sound step => step.sound sound) initial
  constructor
  case enables => exact fun step => step.enables initial (fun _ => rfl) run
  case only => exact fun step => step.only
  case refused =>
      intro id after engine step begins
      exact inhibited_of_unacknowledged (sound.unacknowledged begins (step.effect engine))
  case failed =>
      intro id engine after step
      refine inhibited_of_unacknowledged ?_
      have effect := step.effect engine
      generalize (after.engines engine).state = state at effect
      cases effect with
      | inhibited | withdrawn => rfl
      | same calm | overlaid _ calm | published _ calm => exact absurd rfl calm
      | reconciled is | acknowledged _ _ is => cases is
  case covers =>
      intro engine acknowledgment supervised held
      obtain ⟨route, scope, covered⟩ := run_scoped (fun _ => rfl) run engine supervised
        acknowledgment held
      exact ⟨route, scope, covered, fun other => route_of_scoped scope⟩

/-- A confirmation that nothing disturbs is verified. -/
theorem run_confirms {appended : Appended} {db : Db} {noted : Store} {atMs : Nat}
    (stage : now.attempts id = .reviewed review) (free : (now.engines engine).holder = none)
    (own : review.observation.owner = engine)
    (material : checkMaterial dec.toPolicyDecimals review.evidence evidence = .ok ())
    (alpha : (now.engines engine).Alpha)
    (read : observeActivation reader now.store review.observation.authority.route.binding.agent
      review.observation.authority.route.binding.container = .ok current)
    (same : checkHistory review.observation.authority current = .ok ())
    (holds : checkConfirmation (now.engines engine) review evidence current atMs = .ok ())
    (written : requestActivation reader lib current review.observation.generation atMs
      now.store = .ok (appended, db))
    (noting : noteHead handle true { now.store with db } appended = (.ok (), noted))
    (witnessed : confirmRequest reader current appended noted = .ok ()) :
    ∃ after, Run (ActivationStep reader lib handle) now
        [.confirm id engine evidence, .recheck id, .allow id atMs, .request id, .note id,
          .verify id] after ∧
      after.engines engine = { now.engines engine with holder := some id } ∧
        after.attempts id = .verified engine review evidence current := by
  obtain ⟨held, is⟩ : ∃ held, held = now.withEngine engine
    { now.engines engine with holder := some id } := ⟨_, rfl⟩
  have locked : held.engines engine = { now.engines engine with holder := some id } := by
    rw [is]
    exact Function.update_self ..
  have kept : held.store = now.store := by rw [is]; rfl
  have confirm : ActivationStep reader lib handle now (.confirm id engine evidence)
      (held.withAttempt id (.confirming engine review evidence)) := by
    rw [is]
    exact .confirm id engine evidence review stage free
  have recheck : ActivationStep reader lib handle
      (held.withAttempt id (.confirming engine review evidence)) (.recheck id)
      (held.withAttempt id (.rechecked engine review evidence current)) := by
    rw [← held.withAttempt_again id (.confirming engine review evidence) (.rechecked ..)]
    exact .recheck id engine review evidence (held.attempts_withAttempt id _) own material
      (locked.symm ▸ alpha) current (kept.symm ▸ read) same
  have allow : ActivationStep reader lib handle
      (held.withAttempt id (.rechecked engine review evidence current)) (.allow id atMs)
      (held.withAttempt id (.allowed engine review evidence current atMs)) := by
    rw [← held.withAttempt_again id (.rechecked engine review evidence current) (.allowed ..)]
    exact .allow id engine review evidence current (held.attempts_withAttempt id _) atMs
      (locked.symm ▸ holds)
  have request : ActivationStep reader lib handle
      (held.withAttempt id (.allowed engine review evidence current atMs)) (.request id)
      ({ held with store := { now.store with db } }.withAttempt id
        (.requested engine review evidence current appended)) := by
    rw [← Activations.withAttempt_again _ id (.allowed engine review evidence current atMs)
      (.requested ..), ← kept]
    exact .request id engine review evidence current atMs (held.attempts_withAttempt id _) appended
      db (kept.symm ▸ written)
  have note : ActivationStep reader lib handle
      ({ held with store := { now.store with db } }.withAttempt id
        (.requested engine review evidence current appended)) (.note id)
      ({ held with store := noted }.withAttempt id
        (.published engine review evidence current appended)) := by
    rw [← Activations.withAttempt_again _ id (.requested engine review evidence current appended)
      (.published ..)]
    exact .note id engine review evidence current appended (Activations.attempts_withAttempt _ id _)
      noted noting
  have verify : ActivationStep reader lib handle
      ({ held with store := noted }.withAttempt id
        (.published engine review evidence current appended)) (.verify id)
      ({ held with store := noted }.withAttempt id
        (.verified engine review evidence current)) := by
    rw [← Activations.withAttempt_again _ id (.published engine review evidence current appended)
      (.verified ..)]
    exact .verify id engine review evidence current appended
      (Activations.attempts_withAttempt _ id _) witnessed
  exact ⟨_, ((((Run.single confirm).snoc recheck).snoc allow).snoc request).snoc note
    |>.snoc verify,
    locked, Activations.attempts_withAttempt _ id _⟩

end Facts

namespace RepeatedToken

abbrev dollars (amount : Int) : EvidenceDecimals.reference.Decimal := ⟨amount, 0⟩

def account : Address := .filled 1

def wallet : Address := .filled 2

def route : AuthorizedRoute :=
  ⟨.testnet, 1, ⟨"maker", account, none, ⟨1, wallet, 0, 1000000000⟩⟩⟩

def guardrails : AgentGuardrails EvidenceDecimals.reference.Decimal where
  symbols := .empty
  maxOrderUsd := dollars 15
  maxPositionUsd := dollars 25
  maxSlippageBps := dollars 50
  orderRate := ⟨10, 60000⟩
  reduceOnly := false
  risk := ⟨1, .isolated, some (dollars 25), none⟩
  loss := ⟨none, none⟩
  approvalRequired := false
  freshness := ⟨60000, 60000⟩
  maxMarkDivergenceBps := dollars 50
  markDivergenceWindowMs := 60000

def policy : PolicyVersion EvidenceDecimals.reference.Decimal :=
  ⟨1, .collect [("maker", guardrails)], ⟨none, .empty⟩, ⟨none, none⟩⟩

def pilot : PilotState EvidenceDecimals.reference.Decimal :=
  ⟨"maker", account, 0, ⟨0, ""⟩, dollars 0, dollars 0, dollars 0, none⟩

/-- A ledger whose journals show one route, one policy and one pilot. -/
def reader : ActivationReader EvidenceDecimals.reference.Decimal :=
  ⟨fun _ _ => .ok route, fun _ => .ok policy, fun _ _ => .ok pilot, fun _ _ => .ok false⟩

def lib : Libraries := .reference checksum

def handle : Handle := ⟨.testnet, false⟩

/-- A supervised engine of the testnet whose feed is reconciled. -/
def start : Activations EvidenceDecimals.reference.Decimal :=
  .start (opened lib handle) (fun _ => true) (fun _ => .testnet)
    (fun _ => ⟨0, some 0, some (.testnet, account), some 1000, true, none, none, none⟩)
    fun _ _ => .new

/-- Evidence with that much USDC, and one of another coin of the same token. -/
def evidence (atMs : Nat) (usdc : Int) :
    ActivationEvidence EvidenceDecimals.reference.Decimal where
  readStartedAtMs := atMs
  readCompletedAtMs := atMs
  perps := ⟨dollars 0, dollars 0, [], 900⟩
  balances := [⟨"USDC", 0, dollars usdc, dollars 0⟩, ⟨"PURR", 0, dollars 1, dollars 0⟩]
  orders := []
  referencePrices := .empty
  accountRole := .user
  signerRole := .agent account
  extraAgents := [⟨"maker", wallet, 1000000000⟩]

def authority : ActivationAuthority EvidenceDecimals.reference.Decimal :=
  ⟨⟨0, genesisHash lib .testnet⟩, route, policy, pilot⟩

def observation : ActivationObservation EvidenceDecimals.reference.Decimal :=
  ⟨0, authority, 1, ⟨0, some ⟨0, 0⟩⟩⟩

/-- The engine that has seen the policy. -/
def informed : ActivationEngine EvidenceDecimals.reference.Decimal :=
  { start.engines 0 with
    state := { (start.engines 0).state.inhibit with
      policyRevision := 1, policy := policy.state } }

/-- What is shown of the evidence read first. -/
def display : ActivationDisplay EvidenceDecimals.reference.Decimal :=
  (reviewDisplay informed observation (evidence 1000 100) authority 1000).toOption.get
    (by decide +kernel)

def review : ActivationReview EvidenceDecimals.reference.Decimal :=
  ⟨observation, evidence 1000 100, display⟩

/-- The row of the request. -/
def asked : Appended × Db :=
  (requestActivation reader lib authority 1 1010 start.store).toOption.get (by decide +kernel)

def reviewing : List (ActivationAct .reference) :=
  [.begin 0 0 "maker" account, .observe 0, .capture 0, .review 0 0 (evidence 1000 100), .reread 0,
    .show 0 1000]

def confirming : List (ActivationAct .reference) :=
  [.confirm 0 0 (evidence 1010 5), .recheck 0, .allow 0 1010, .request 0, .note 0, .verify 0]

/-- The engine of the sample publishes the initial policy. -/
theorem published : (start.engines 0).state.inhibit.publish PolicyDecimals.reference policy =
    .ok informed.state :=
  rfl

/-- The local and the feed's checks of the capture pass. -/
theorem captured : checkLocal informed.state authority 1 = .ok () ∧
    (checkFeed informed (informed.session.stamp informed.monitors) account).isOk = true :=
  ⟨eq_ok_of_some (by decide +kernel), by decide +kernel⟩

/-- The history of the sample is the one that was reviewed. -/
theorem unchanged : checkHistory authority authority = .ok () :=
  eq_ok_of_some (by decide +kernel)

/-- The evidence of the sample is fit for a display. -/
theorem shown :
    reviewDisplay informed observation (evidence 1000 100) authority 1000 = .ok display :=
  ok_get _

/-- The balances of both readings collect to the same map. -/
theorem unseen : checkMaterial .reference (evidence 1000 100) (evidence 1010 5) = .ok () :=
  eq_ok_of_some (by decide +kernel)

/-- The confirmation is admitted with fresh evidence. -/
theorem admitted : checkConfirmation informed review (evidence 1010 5) authority 1010 = .ok () :=
  eq_ok_of_some (by decide +kernel)

/-- The request of the activation is appended to the journal. -/
theorem appended : requestActivation reader lib authority 1 1010 start.store = .ok asked :=
  ok_get _

/-- The appended request is confirmed by its anchor. -/
theorem witnessed : confirmRequest reader authority asked.1 { start.store with db := asked.2 } =
    .ok () :=
  eq_ok_of_some (by decide +kernel)

/-- The sample's attempt is reviewed, and nothing was written by then. -/
theorem reviewed_run : ∃ now, Run (ActivationStep reader lib handle) start reviewing now ∧
    now.store = start.store ∧ now.engines 0 = informed ∧ now.attempts 0 = .reviewed review :=
  ⟨_, .snoc (.snoc (.snoc (.snoc (.snoc (.single (.begin 0 0 "maker" account rfl rfl))
      (.observe 0 0 "maker" account rfl ⟨rfl, rfl⟩ authority rfl))
      (.capture 0 0 account authority rfl informed.state published captured.1 captured.2))
      (.review 0 0 (evidence 1000 100) observation rfl))
      (.reread 0 0 observation (evidence 1000 100) rfl rfl ⟨rfl, rfl⟩ authority rfl unchanged))
      (.show 0 0 observation (evidence 1000 100) authority rfl 1000 display shown), rfl, rfl, rfl⟩

/-- The sample's attempt is confirmed, its request written and verified, and the engine is held for
it. -/
theorem verified_run : ∃ now,
    Run (ActivationStep reader lib handle) start (reviewing ++ confirming) now ∧
      now.engines 0 = { informed with holder := some 0 } ∧
        now.attempts 0 = .verified 0 review (evidence 1010 5) authority := by
  obtain ⟨now, reviewed, store, engine, stage⟩ := reviewed_run
  have free : (now.engines 0).holder = none := by rw [engine]; rfl
  have alpha : (now.engines 0).Alpha := by rw [engine]; exact ⟨rfl, rfl⟩
  have holds : checkConfirmation (now.engines 0) review (evidence 1010 5) authority 1010 =
      .ok () := by
    rw [engine]
    exact admitted
  have read : observeActivation reader now.store "maker" account = .ok authority := by
    rw [store]
    rfl
  have written : requestActivation reader lib authority 1 1010 now.store =
      .ok (asked.1, asked.2) := by
    rw [store, Prod.mk.eta]
    exact appended
  have noting : noteHead handle true { now.store with db := asked.2 } asked.1 =
      (.ok (), { start.store with db := asked.2 }) := by
    rw [store]
    rfl
  obtain ⟨after, confirmed, held, stage⟩ := run_confirms stage free rfl unseen alpha read unchanged
    holds written noting witnessed
  rw [engine] at held
  exact ⟨after, reviewed.append confirmed, held, stage⟩

/-- The balances a confirmation acknowledged are not the ones that were reviewed. -/
theorem activation_misses_balances : ∃ acts now after review evidence current,
    Run (ActivationStep reader lib handle) start acts now ∧
      ActivationStep reader lib handle now (.acknowledge 0 1010) after ∧
        now.attempts 0 = .verified 0 review evidence current ∧
          ¬ SameBalances PolicyDecimals.reference review.evidence evidence := by
  obtain ⟨now, run, engine, stage⟩ := verified_run
  have holds : checkConfirmation (now.engines 0) review (evidence 1010 5) authority 1010 =
      .ok () := by
    rw [engine]
    exact admitted
  refine ⟨_, now, _, review, evidence 1010 5, authority, run,
    .acknowledge 0 0 review (evidence 1010 5) authority stage 1010 holds, stage, fun same => ?_⟩
  have kept := (same ⟨"USDC", 0, 100, 0⟩).mp (by decide +kernel)
  revert kept
  decide +kernel

/-- What that run enables. -/
theorem activated : ∃ now,
    Activated reader lib handle start now (reviewing ++ confirming) := by
  obtain ⟨now, run, _, _⟩ := verified_run
  exact ⟨now, activation_enables_reviewed run⟩

end RepeatedToken

end Oppen.Guardrail
