import Oppen.Feed.Session
import Oppen.Ledger.Activation

/-! # Activation

An operator enables a route in three calls: a review is begun, shown and confirmed. Each call
is several steps, and between any two of them stops arrive, policies and pilots change, feeds
fall behind and other reviews go on.
-/

namespace Oppen.Guardrail

open Foundation Oppen.Ledger Oppen.Feed

/-! ## The three capabilities -/

/-- `ActivationObservation`; engines are told apart by a number. -/
structure ActivationObservation (Decimal : Type) where
  owner : Nat
  authority : ActivationAuthority Decimal
  generation : Nat
  feedStamp : FeedStamp

structure ActivationReview (Decimal : Type) where
  observation : ActivationObservation Decimal
  evidence : ActivationEvidence Decimal
  display : ActivationDisplay Decimal

/-- An engine, as far as activation uses it. `holder` is the call that has its mutation
lock. -/
structure ActivationEngine (Decimal : Type) where
  supervised : Bool
  network : Network
  state : EngineState Decimal
  session : FeedSession
  monitors : Nat → Monitor
  holder : Option Nat

/-- `activation_authority`: only a supervised engine of the testnet activates. -/
def ActivationEngine.Alpha {Decimal : Type} (engine : ActivationEngine Decimal) : Prop :=
  engine.supervised = true ∧ engine.network = .testnet

/-- How far one activation is. Each capability is given up to the next call. -/
inductive ActivationStage (Decimal : Type) where
  | idle
  -- `begin_activation_review`
  | beginning (engine : Nat) (agent : String) (account : Address)
  | begun (engine : Nat) (account : Address) (authority : ActivationAuthority Decimal)
  | observed (observation : ActivationObservation Decimal)
  -- `review_activation`
  | reviewing (engine : Nat) (observation : ActivationObservation Decimal)
      (evidence : ActivationEvidence Decimal)
  | reread (engine : Nat) (observation : ActivationObservation Decimal)
      (evidence : ActivationEvidence Decimal) (current : ActivationAuthority Decimal)
  | reviewed (review : ActivationReview Decimal)
  -- `confirm_activation`
  | confirming (engine : Nat) (review : ActivationReview Decimal)
      (evidence : ActivationEvidence Decimal)
  | rechecked (engine : Nat) (review : ActivationReview Decimal)
      (evidence : ActivationEvidence Decimal) (current : ActivationAuthority Decimal)
  | allowed (engine : Nat) (review : ActivationReview Decimal)
      (evidence : ActivationEvidence Decimal) (current : ActivationAuthority Decimal) (atMs : Nat)
  | requested (engine : Nat) (review : ActivationReview Decimal)
      (evidence : ActivationEvidence Decimal) (current : ActivationAuthority Decimal)
      (appended : Appended)
  | published (engine : Nat) (review : ActivationReview Decimal)
      (evidence : ActivationEvidence Decimal) (current : ActivationAuthority Decimal)
      (appended : Appended)
  | verified (engine : Nat) (review : ActivationReview Decimal)
      (evidence : ActivationEvidence Decimal) (current : ActivationAuthority Decimal)
  | closed

namespace ActivationStage

variable {Decimal : Type}

/-- The engine whose review is being begun. -/
def begins : ActivationStage Decimal → Option Nat
  | .beginning engine .. | .begun engine .. => some engine
  | _ => none

/-- The engine whose review is being confirmed. -/
def confirms : ActivationStage Decimal → Option Nat
  | .confirming engine .. | .rechecked engine .. | .allowed engine .. | .requested engine ..
  | .published engine .. | .verified engine .. => some engine
  | _ => none

/-- The engine whose mutation lock the call has. -/
def holds (stage : ActivationStage Decimal) : Option Nat := stage.begins.or stage.confirms

/-- The engine that reviews. -/
def reviews : ActivationStage Decimal → Option Nat
  | .reviewing engine .. | .reread engine .. => some engine
  | _ => none

end ActivationStage

/-- A ledger, the engines over it and the activations under way. -/
structure Activations (Decimal : Type) where
  store : Store
  engines : Nat → ActivationEngine Decimal
  attempts : Nat → ActivationStage Decimal

namespace Activations

variable {Decimal : Type} (now : Activations Decimal)

/-- Engines that have read nothing. -/
def start (store : Store) (supervised : Nat → Bool) (network : Nat → Network)
    (session : Nat → FeedSession) (monitors : Nat → Nat → Monitor) : Activations Decimal where
  store := store
  engines := fun engine =>
    ⟨supervised engine, network engine, .unread, session engine, monitors engine, none⟩
  attempts := fun _ => .idle

def withEngine (engine : Nat) (changed : ActivationEngine Decimal) : Activations Decimal :=
  { now with engines := Function.update now.engines engine changed }

def withState (engine : Nat) (state : EngineState Decimal) : Activations Decimal :=
  now.withEngine engine { now.engines engine with state }

def withAttempt (id : Nat) (stage : ActivationStage Decimal) : Activations Decimal :=
  { now with attempts := Function.update now.attempts id stage }

/-- The attempt that was set is the one that is read. -/
@[simp]
theorem attempts_withAttempt (id : Nat) (stage : ActivationStage Decimal) :
    (now.withAttempt id stage).attempts id = stage :=
  Function.update_self ..

/-- Of two settings of one attempt the later one stays. -/
@[simp]
theorem withAttempt_again (id : Nat) (first second : ActivationStage Decimal) :
    (now.withAttempt id first).withAttempt id second = now.withAttempt id second := by
  rw [withAttempt, withAttempt, withAttempt, Function.update_idem]

end Activations

/-! ## The checks of an engine -/

section Checks

variable {dec : EvidenceDecimals}

/-- `check_local`. -/
def checkLocal (state : EngineState dec.Decimal) (current : ActivationAuthority dec.Decimal)
    (generation : Nat) : Except (ActivationRefusal dec.Decimal) Unit := do
  refuseIf (generation = u64Max ∨ state.stopGeneration ≠ generation ∨
      state.policyRevision ≠ current.policy.revision ∨ state.acknowledged.isSome = true)
    (.authority "policy, local stop or admission changed since review")
  match state.effectiveKill.blocking current.route.binding.agent with
  | some (scope, engagement) =>
      .error (.tradingPaused scope engagement.engagedAtMs engagement.reason)
  | none => .ok ()

/-- The feed admits the stamp; what it says of its last tick. -/
def checkFeed (engine : ActivationEngine dec.Decimal) (stamp : FeedStamp) (account : Address) :
    Except (ActivationRefusal dec.Decimal) (Option Nat) := do
  refuseIf ((engine.session.admission engine.monitors (some stamp) engine.network
    account).isNone = true) .feedAdmission
  return engine.session.lastTickMs

/-- `check_review_deadline`. -/
def checkReviewDeadline (review : ActivationReview dec.Decimal)
    (evidence : ActivationEvidence dec.Decimal) (nowMs : Nat) :
    Except (ActivationRefusal dec.Decimal) Unit :=
  refuseIf (nowMs < review.display.observedAtMs ∨ review.display.expiresAtMs ≤ nowMs ∨
      evidence.readStartedAtMs < review.display.observedAtMs)
    (.authority "human review expired or confirmation evidence predates review")

/-- What a review shows, unless the deadline overflows. -/
def reviewDisplay (engine : ActivationEngine dec.Decimal)
    (observation : ActivationObservation dec.Decimal) (evidence : ActivationEvidence dec.Decimal)
    (current : ActivationAuthority dec.Decimal) (nowMs : Nat) :
    Except (ActivationRefusal dec.Decimal) (ActivationDisplay dec.Decimal) := do
  checkLocal engine.state current observation.generation
  let lastTickMs ← checkFeed engine observation.feedStamp current.route.binding.container
  let display ← validateEvidence dec observation.authority observation.generation evidence nowMs
    lastTickMs
  refuseIf (u64Max < nowMs + 60000) (.authority "human review deadline overflow")
  return { display with
    expiresAtMs := min (min (nowMs + 60000)
      observation.authority.route.binding.wallet.validUntilMs) display.walletApproval.validUntil }

/-- What a confirmation checks of its engine, before its row and after it. -/
def checkConfirmation (engine : ActivationEngine dec.Decimal)
    (review : ActivationReview dec.Decimal) (evidence : ActivationEvidence dec.Decimal)
    (current : ActivationAuthority dec.Decimal) (nowMs : Nat) :
    Except (ActivationRefusal dec.Decimal) Unit := do
  checkLocal engine.state current review.observation.generation
  let lastTickMs ← checkFeed engine review.observation.feedStamp current.route.binding.container
  checkReviewDeadline review evidence nowMs
  let _ ← validateEvidence dec review.observation.authority review.observation.generation
    evidence nowMs lastTickMs
  return ()

/-- What an engine holds once a review is acknowledged. -/
def acknowledging (state : EngineState dec.Decimal) (review : ActivationReview dec.Decimal)
    (current : ActivationAuthority dec.Decimal) : EngineState dec.Decimal :=
  { state with
    activationScope := some current.route
    acknowledged := some ⟨current.policy.revision, review.observation.generation⟩ }

end Checks

/-! ## Steps -/

/-- What happens to the activations under way, stage by stage, and to the engines beside them. -/
inductive ActivationAct (dec : EvidenceDecimals) where
  | stop (engine : Nat) (scope : KillScope) (engagement : Engagement dec.Decimal)
  | inhibit (engine : Nat)
  | withdraw (engine : Nat) (released : Bool)
  | overlay (engine : Nat) (emergency : List (KillScope × Engagement dec.Decimal))
  | publish (engine : Nat) (version : PolicyVersion dec.Decimal)
  | reconcile (engine : Nat)
  | feed (engine : Nat) (session : FeedSession) (monitors : Nat → Monitor)
  | write (store : Store)
  | begin (id engine : Nat) (agent : String) (account : Address)
  | observe (id : Nat)
  | capture (id : Nat)
  | refuse (id : Nat)
  | review (id engine : Nat) (evidence : ActivationEvidence dec.Decimal)
  | reread (id : Nat)
  | show (id nowMs : Nat)
  | confirm (id engine : Nat) (evidence : ActivationEvidence dec.Decimal)
  | recheck (id : Nat)
  | allow (id nowMs : Nat)
  | request (id : Nat)
  | note (id : Nat)
  | verify (id : Nat)
  | acknowledge (id nowMs : Nat)
  | fail (id engine : Nat)
  | discard (id : Nat)

/-- One step of one activation, or of what interleaves with it. Every stage reads its authority
afresh, so whatever came between is seen. -/
inductive ActivationStep {dec : EvidenceDecimals} (reader : ActivationReader dec.Decimal)
    (lib : Libraries) (handle : Handle) (now : Activations dec.Decimal) :
    ActivationAct dec → Activations dec.Decimal → Prop
  -- a local stop takes no mutation lock
  | stop (engine : Nat) (scope : KillScope) (engagement : Engagement dec.Decimal) :
      ActivationStep reader lib handle now (.stop engine scope engagement)
        (now.withState engine ((now.engines engine).state.stop scope engagement))
  -- a refused read or mutation, a review of a release, a poisoned mutation lock
  | inhibit (engine : Nat) :
      ActivationStep reader lib handle now (.inhibit engine)
        (now.withState engine (now.engines engine).state.inhibit)
  | withdraw (engine : Nat) (released : Bool) :
      ActivationStep reader lib handle now (.withdraw engine released)
        (now.withState engine ((now.engines engine).state.withdraw released))
  | overlay (engine : Nat) (emergency : List (KillScope × Engagement dec.Decimal)) :
      ActivationStep reader lib handle now (.overlay engine emergency)
        (now.withState engine { (now.engines engine).state with emergency })
  | publish (engine : Nat) (version : PolicyVersion dec.Decimal) (state : EngineState dec.Decimal)
      (published : (now.engines engine).state.publish dec.toPolicyDecimals version = .ok state) :
      ActivationStep reader lib handle now (.publish engine version) (now.withState engine state)
  -- `operator_acknowledge_policy`, which a supervised engine refuses
  | reconcile (engine : Nat) (unsupervised : (now.engines engine).supervised = false)
      (free : (now.engines engine).holder = none) :
      ActivationStep reader lib handle now (.reconcile engine)
        (now.withState engine { (now.engines engine).state with
          acknowledged := some ⟨(now.engines engine).state.policyRevision,
            (now.engines engine).state.stopGeneration⟩ })
  | feed (engine : Nat) (session : FeedSession) (monitors : Nat → Monitor) :
      ActivationStep reader lib handle now (.feed engine session monitors)
        (now.withEngine engine { now.engines engine with session, monitors })
  -- any other writer of the ledger, in this process or another
  | write (store : Store) :
      ActivationStep reader lib handle now (.write store) { now with store }
  | begin (id engine : Nat) (agent : String) (account : Address)
      (idle : now.attempts id = .idle) (free : (now.engines engine).holder = none) :
      ActivationStep reader lib handle now (.begin id engine agent account)
        ((now.withEngine engine { now.engines engine with
          state := (now.engines engine).state.inhibit, holder := some id }).withAttempt id
            (.beginning engine agent account))
  | observe (id engine : Nat) (agent : String) (account : Address)
      (stage : now.attempts id = .beginning engine agent account)
      (alpha : (now.engines engine).Alpha) (authority : ActivationAuthority dec.Decimal)
      (read : observeActivation reader now.store agent account = .ok authority) :
      ActivationStep reader lib handle now (.observe id)
        (now.withAttempt id (.begun engine account authority))
  | capture (id engine : Nat) (account : Address) (authority : ActivationAuthority dec.Decimal)
      (stage : now.attempts id = .begun engine account authority)
      (state : EngineState dec.Decimal)
      (published : (now.engines engine).state.publish dec.toPolicyDecimals authority.policy =
        .ok state)
      (fresh : checkLocal state authority state.stopGeneration = .ok ())
      (fed : (checkFeed (now.engines engine)
        ((now.engines engine).session.stamp (now.engines engine).monitors) account).isOk) :
      ActivationStep reader lib handle now (.capture id)
        ((now.withEngine engine { now.engines engine with state, holder := none }).withAttempt id
          (.observed ⟨engine, authority, state.stopGeneration,
            (now.engines engine).session.stamp (now.engines engine).monitors⟩))
  -- an error after the review was begun
  | refuse (id engine : Nat) (stage : (now.attempts id).begins = some engine) :
      ActivationStep reader lib handle now (.refuse id)
        ((now.withEngine engine { now.engines engine with holder := none }).withAttempt id .closed)
  | review (id engine : Nat) (evidence : ActivationEvidence dec.Decimal)
      (observation : ActivationObservation dec.Decimal)
      (stage : now.attempts id = .observed observation) :
      ActivationStep reader lib handle now (.review id engine evidence)
        (now.withAttempt id (.reviewing engine observation evidence))
  | reread (id engine : Nat) (observation : ActivationObservation dec.Decimal)
      (evidence : ActivationEvidence dec.Decimal)
      (stage : now.attempts id = .reviewing engine observation evidence)
      (own : observation.owner = engine) (alpha : (now.engines engine).Alpha)
      (current : ActivationAuthority dec.Decimal)
      (read : observeActivation reader now.store observation.authority.route.binding.agent
        observation.authority.route.binding.container = .ok current)
      (same : checkHistory observation.authority current = .ok ()) :
      ActivationStep reader lib handle now (.reread id)
        (now.withAttempt id (.reread engine observation evidence current))
  | show (id engine : Nat) (observation : ActivationObservation dec.Decimal)
      (evidence : ActivationEvidence dec.Decimal) (current : ActivationAuthority dec.Decimal)
      (stage : now.attempts id = .reread engine observation evidence current) (nowMs : Nat)
      (display : ActivationDisplay dec.Decimal)
      (shown : reviewDisplay (now.engines engine) observation evidence current nowMs =
        .ok display) :
      ActivationStep reader lib handle now (.show id nowMs)
        (now.withAttempt id (.reviewed ⟨observation, evidence, display⟩))
  | confirm (id engine : Nat) (evidence : ActivationEvidence dec.Decimal)
      (review : ActivationReview dec.Decimal) (stage : now.attempts id = .reviewed review)
      (free : (now.engines engine).holder = none) :
      ActivationStep reader lib handle now (.confirm id engine evidence)
        ((now.withEngine engine { now.engines engine with holder := some id }).withAttempt id
          (.confirming engine review evidence))
  | recheck (id engine : Nat) (review : ActivationReview dec.Decimal)
      (evidence : ActivationEvidence dec.Decimal)
      (stage : now.attempts id = .confirming engine review evidence)
      (own : review.observation.owner = engine)
      (material : checkMaterial dec.toPolicyDecimals review.evidence evidence = .ok ())
      (alpha : (now.engines engine).Alpha) (current : ActivationAuthority dec.Decimal)
      (read : observeActivation reader now.store review.observation.authority.route.binding.agent
        review.observation.authority.route.binding.container = .ok current)
      (same : checkHistory review.observation.authority current = .ok ()) :
      ActivationStep reader lib handle now (.recheck id)
        (now.withAttempt id (.rechecked engine review evidence current))
  | allow (id engine : Nat) (review : ActivationReview dec.Decimal)
      (evidence : ActivationEvidence dec.Decimal) (current : ActivationAuthority dec.Decimal)
      (stage : now.attempts id = .rechecked engine review evidence current) (nowMs : Nat)
      (holds : checkConfirmation (now.engines engine) review evidence current nowMs = .ok ()) :
      ActivationStep reader lib handle now (.allow id nowMs)
        (now.withAttempt id (.allowed engine review evidence current nowMs))
  -- `record_request`: the row, its publication, and a look at the ledger after it
  | request (id engine : Nat) (review : ActivationReview dec.Decimal)
      (evidence : ActivationEvidence dec.Decimal) (current : ActivationAuthority dec.Decimal)
      (atMs : Nat) (stage : now.attempts id = .allowed engine review evidence current atMs)
      (appended : Appended) (db : Db)
      (written : requestActivation reader lib current review.observation.generation atMs
        now.store = .ok (appended, db)) :
      ActivationStep reader lib handle now (.request id)
        ({ now with store := { now.store with db } }.withAttempt id
          (.requested engine review evidence current appended))
  | note (id engine : Nat) (review : ActivationReview dec.Decimal)
      (evidence : ActivationEvidence dec.Decimal) (current : ActivationAuthority dec.Decimal)
      (appended : Appended)
      (stage : now.attempts id = .requested engine review evidence current appended)
      (store : Store) (noted : noteHead handle true now.store appended = (.ok (), store)) :
      ActivationStep reader lib handle now (.note id)
        ({ now with store }.withAttempt id (.published engine review evidence current appended))
  | verify (id engine : Nat) (review : ActivationReview dec.Decimal)
      (evidence : ActivationEvidence dec.Decimal) (current : ActivationAuthority dec.Decimal)
      (appended : Appended)
      (stage : now.attempts id = .published engine review evidence current appended)
      (confirmed : confirmRequest reader current appended now.store = .ok ()) :
      ActivationStep reader lib handle now (.verify id)
        (now.withAttempt id (.verified engine review evidence current))
  | acknowledge (id engine : Nat) (review : ActivationReview dec.Decimal)
      (evidence : ActivationEvidence dec.Decimal) (current : ActivationAuthority dec.Decimal)
      (stage : now.attempts id = .verified engine review evidence current) (nowMs : Nat)
      (holds : checkConfirmation (now.engines engine) review evidence current nowMs = .ok ()) :
      ActivationStep reader lib handle now (.acknowledge id nowMs)
        ((now.withEngine engine { now.engines engine with
          state := acknowledging (now.engines engine).state review current
          holder := none }).withAttempt id .closed)
  -- a review or a confirmation that refuses or panics: its guard inhibits
  | failReview (id engine : Nat) (stage : (now.attempts id).reviews = some engine) :
      ActivationStep reader lib handle now (.fail id engine)
        ((now.withState engine (now.engines engine).state.inhibit).withAttempt id .closed)
  | failConfirmation (id engine : Nat) (stage : (now.attempts id).confirms = some engine) :
      ActivationStep reader lib handle now (.fail id engine)
        ((now.withEngine engine { now.engines engine with
          state := (now.engines engine).state.inhibit, holder := none }).withAttempt id .closed)
  -- a capability that is dropped
  | discard (id : Nat) (idle : (now.attempts id).begins = none)
      (unreviewed : (now.attempts id).reviews = none)
      (unconfirmed : (now.attempts id).confirms = none) :
      ActivationStep reader lib handle now (.discard id) (now.withAttempt id .closed)

end Oppen.Guardrail
