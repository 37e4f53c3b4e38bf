import Oppen.Foundation.Run
import Oppen.Guardrail.Engine
import Oppen.Ledger.PolicyRelease

/-! # Stops and releases

One engine over a policy journal. A stop takes the state of the engine and nothing else. What
makes it durable, and what releases it, takes the mutation lock, the state and the ledger in
turns, and between any two of these other calls go on.
-/

namespace Oppen.Guardrail

open Foundation Oppen.Json Oppen.Ledger

/-! ## What the calls do to the state -/

namespace EngineState

variable {Decimal : Type} (state : EngineState Decimal)

/-- What stops a scope in this process. -/
def stopOf (scope : KillScope) : Option (Engagement Decimal) :=
  (state.emergency.find? fun entry => entry.1 = scope).map Prod.snd

/-- The stop of a scope kept locally while its release is committed. -/
def overlay (scope : KillScope) (engagement : Engagement Decimal) : EngineState Decimal :=
  { state with
    emergency := if ∃ entry ∈ state.emergency, entry.1 = scope then state.emergency
      else state.emergency ++ [(scope, engagement)] }

/-- The local stop of a scope removed. -/
def lift (scope : KillScope) : EngineState Decimal :=
  { state with emergency := state.emergency.filter fun entry => entry.1 ≠ scope }

/-- `policy_candidate`. -/
def policyCandidate : Except String (Nat × PersistedState Decimal) := do
  refuseIf (state.policyRevision = 0) "verified policy unavailable"
  return (state.policyRevision, state.policy)

end EngineState

/-- `PendingOperatorKill`. -/
structure PendingOperatorKill (Decimal : Type) where
  scope : KillScope
  engagement : Engagement Decimal
  incarnation : Nat
  atMs : UInt64

/-- A change of the policy, and the version it is a change of. -/
structure PolicyChange (Decimal : Type) where
  revision : Nat
  base : PersistedState Decimal
  next : PersistedState Decimal
  atMs : UInt64

/-- The kill switch with a scope engaged. -/
def PersistedState.engaging {Decimal : Type} (policy : PersistedState Decimal) (scope : KillScope)
    (engagement : Engagement Decimal) : PersistedState Decimal :=
  { policy with kill := policy.kill.engage engagement scope }

/-- The kill switch with a scope released. -/
def PersistedState.releasing {Decimal : Type} (policy : PersistedState Decimal)
    (scope : KillScope) : PersistedState Decimal :=
  { policy with kill := policy.kill.release scope }

section Reviews

variable {dec : PolicyDecimals}

/-- What `review_kill_release` makes of a snapshot. -/
def reviewRelease (state : EngineState dec.Decimal) (snapshot : ReleaseSnapshot dec.Decimal)
    (network : Network) (scope : KillScope) (operationId : String) (nowMs : UInt64) :
    Except String (ReleaseRequest dec.Decimal) := do
  let localEngagement := state.stopOf scope
  let persistedEngagement := snapshot.policy.state.kill.engagement scope
  refuseIf (localEngagement = none ∧ persistedEngagement = none) "requested scope is not engaged"
  refuseIf (state.stopGeneration = u64Max) "stop generation exhausted"
  refuseIf (∃ engagement ∈ localEngagement.toList ++ persistedEngagement.toList,
      nowMs < engagement.engagedAtMs)
    "review clock precedes engagement"
  refuseIf (u64Max < nowMs.toNat + 60000) "release deadline overflow"
  return {
    head := snapshot.head
    before := snapshot.policy.state
    display := {
      operationId, network, scope, persistedEngagement, localEngagement
      policyRevision := snapshot.policy.revision
      stopGeneration := .ofNat state.stopGeneration
      affected := snapshot.affected
      remainingKill := state.effectiveKill.release scope
      reviewedAtMs := nowMs
      expiresAtMs := nowMs + 60000 } }

/-- `check_local`. -/
def checkReleaseLocal (state : EngineState dec.Decimal) (request : ReleaseRequest dec.Decimal) :
    Except String Unit :=
  refuseIf (state.stopGeneration ≠ request.display.stopGeneration.toNat ∨
      state.stopGeneration = u64Max ∨ state.policyRevision ≠ request.display.policyRevision ∨
      engagementValue (state.stopOf request.display.scope) ≠
        engagementValue request.display.localEngagement)
    "reviewed stop generation, policy or local engagement changed"

/-- `check_time`. -/
def checkReleaseTime (request : ReleaseRequest dec.Decimal) (atMs : UInt64) :
    Except String Unit :=
  refuseIf (atMs < request.display.reviewedAtMs ∨ request.display.expiresAtMs ≤ atMs)
    "kill release review expired or clock rolled back"

/-- The local stop is kept until the release is verified. -/
def EngineState.retain (state : EngineState dec.Decimal) (request : ReleaseRequest dec.Decimal) :
    EngineState dec.Decimal :=
  match request.display.localEngagement.or request.display.persistedEngagement with
  | some engagement => (state.overlay request.display.scope engagement).withdraw true
  | none => state.withdraw true

end Reviews

/-! ## Calls -/

/-- How far one call is. Every call before its last stage holds what it read or committed. -/
inductive KillStage (Decimal : Type) where
  | idle
  -- `begin_operator_kill`, and `persist_operator_kill` under the mutation lock
  | pending (halt : PendingOperatorKill Decimal)
  | persisting (halt : PendingOperatorKill Decimal)
  | loaded (halt : PendingOperatorKill Decimal) (version : PolicyVersion Decimal)
  | refreshed (halt : PendingOperatorKill Decimal)
  -- a breaker that tripped, before it has the mutation lock
  | tripped (change : PolicyChange Decimal)
  -- `commit_policy`, for a release with the generation its scope was captured at
  | changing (change : PolicyChange Decimal) (releases : Option (KillScope × Nat))
  | withdrawn (change : PolicyChange Decimal) (releases : Option (KillScope × Nat))
  | exchanged (change : PolicyChange Decimal) (releases : Option (KillScope × Nat))
      (version : PolicyVersion Decimal)
  | published (change : PolicyChange Decimal) (releases : Option (KillScope × Nat))
  -- `refresh_policy` of any other call
  | read (version : PolicyVersion Decimal)
  -- `review_kill_release`
  | reviewing (scope : KillScope)
  | observed (scope : KillScope) (snapshot : ReleaseSnapshot Decimal)
  | reviewed (request : ReleaseRequest Decimal)
  -- `confirm_kill_release`
  | confirming (request : ReleaseRequest Decimal)
  | overlaid (request : ReleaseRequest Decimal)
  | removed (request : ReleaseRequest Decimal) (version : PolicyVersion Decimal)
  -- an error that is being returned
  | failing
  | closed

/-- The generation a release was captured at. -/
def KillStage.captured {Decimal : Type} : KillStage Decimal → Option Nat
  | .changing _ releases | .withdrawn _ releases | .exchanged _ releases _
  | .published _ releases => releases.map Prod.snd
  | .reviewed request | .confirming request | .overlaid request | .removed request _ =>
      some request.display.stopGeneration.toNat
  | _ => none

/-- An engine, its ledger and the calls on it. `holder` is the call that has the mutation lock,
and `incarnations` tells the stops of one scope apart. -/
structure KillEngine (Decimal : Type) where
  store : Store
  state : EngineState Decimal
  incarnations : List (KillScope × Nat)
  nextIncarnation : Nat
  holder : Option Nat
  calls : Nat → KillStage Decimal

namespace KillEngine

variable {Decimal : Type} (now : KillEngine Decimal)

/-- `kill_incarnations.get`. -/
def incarnation (scope : KillScope) : Option Nat :=
  (now.incarnations.find? fun entry => entry.1 = scope).map Prod.snd

def withCall (id : Nat) (stage : KillStage Decimal) : KillEngine Decimal :=
  { now with calls := Function.update now.calls id stage }

/-- The mutation lock released, if the call has it. -/
def unlocked (id : Nat) : KillEngine Decimal :=
  { now with holder := if now.holder = some id then none else now.holder }

/-- `begin_operator_kill`: the stop, and the incarnation it is of. -/
def beginning (id : Nat) (scope : KillScope) (engagement : Engagement Decimal) :
    KillEngine Decimal :=
  let state := now.state.stop scope engagement
  let held := (state.stopOf scope).getD engagement
  match now.incarnation scope with
  | some incarnation =>
      { now with state }.withCall id (.pending ⟨scope, held, incarnation, engagement.engagedAtMs⟩)
  | none =>
      { now with
        state
        incarnations := now.incarnations ++ [(scope, now.nextIncarnation)]
        nextIncarnation := now.nextIncarnation + 1 }.withCall id
          (.pending ⟨scope, held, now.nextIncarnation, engagement.engagedAtMs⟩)

def withState (change : EngineState Decimal → EngineState Decimal) : KillEngine Decimal :=
  { now with state := change now.state }

/-- What a release that goes through removes. -/
def lifting (scope : KillScope) : KillEngine Decimal :=
  { now with
    state := now.state.lift scope
    incarnations := now.incarnations.filter fun entry => entry.1 ≠ scope }

end KillEngine

/-- An engine that is opened: it publishes what it can load, and acknowledges nothing. -/
def KillEngine.start {dec : PolicyDecimals} (journal : PolicyJournal dec) (store : Store) :
    KillEngine dec.Decimal where
  store := store
  state := match currentPolicy journal store with
    | .ok version => match EngineState.unread.publish dec version with
      | .ok state => state
      | .error _ => .unread
    | .error _ => .unread
  incarnations := []
  nextIncarnation := 0
  holder := none
  calls := fun _ => .idle

/-! ## Steps -/

/-- What happens to an engine's kill switch: the stages of the calls on it, and what other processes
commit to its journal in between. -/
inductive KillAct (dec : PolicyDecimals) where
  | begin (id : Nat) (scope : KillScope) (engagement : Engagement dec.Decimal)
  | trip (id : Nat) (scope : KillScope) (engagement : Engagement dec.Decimal) (atMs : UInt64)
  | persist (id : Nat)
  | load (id : Nat)
  | refresh (id : Nat)
  | candidate (id : Nat)
  | configure (id : Nat) (guardrails : KeyMap (AgentGuardrails dec.Decimal))
      (limits : LossLimits dec.Decimal) (atMs : UInt64)
  | capture (id : Nat) (scope : KillScope) (atMs : UInt64)
  | withdraw (id : Nat)
  | exchange (id : Nat) (publish : Bool)
  | publish (id : Nat)
  | settle (id : Nat)
  | release (id : Nat) (scope : KillScope)
  | read (id : Nat)
  | inhibit
  | enable (acknowledged : Option PolicyAcknowledgment) (scope : Option AuthorizedRoute)
  | write (store : Store)
  | review (id : Nat) (scope : KillScope)
  | observe (id : Nat)
  | show (id : Nat) (operationId : String) (nowMs : UInt64)
  | confirm (id : Nat)
  | overlay (id : Nat) (nowMs : UInt64)
  | commit (id : Nat) (nowMs : UInt64) (publish : Bool)
  | complete (id : Nat) (scope : KillScope) (nowMs : UInt64)
  | fail (id : Nat) (inhibits : Bool)

namespace KillAct

variable {dec : PolicyDecimals}

/-- The scope whose `EngineState::stop` the act runs. -/
def stops : KillAct dec → Option KillScope
  | .begin _ scope _ | .trip _ scope _ _ => some scope
  | _ => none

/-- The call that captures the generation it will compare. -/
def captures : KillAct dec → Option Nat
  | .capture id _ _ | .show id _ _ => some id
  | _ => none

/-- The release that returns `Ok`, and the scope it names. -/
def releases : KillAct dec → Option (Nat × KillScope)
  | .release id scope | .complete id scope _ => some (id, scope)
  | _ => none

end KillAct

section Steps

variable {dec : PolicyDecimals} (journal : PolicyJournal dec)

/-- One step of one call, or of another process. A call that holds the mutation lock keeps the
others out, but a stop waits for none. -/
inductive KillStep (now : KillEngine dec.Decimal) : KillAct dec → KillEngine dec.Decimal → Prop
  -- a stop waits for no other call
  | begin (id : Nat) (scope : KillScope) (engagement : Engagement dec.Decimal)
      (idle : now.calls id = .idle) :
      KillStep now (.begin id scope engagement) (now.beginning id scope engagement)
  | trip (id : Nat) (scope : KillScope) (engagement : Engagement dec.Decimal) (atMs : UInt64)
      (idle : now.calls id = .idle) :
      KillStep now (.trip id scope engagement atMs)
        ({ now with state := now.state.stop scope engagement }.withCall id
          (.tripped ⟨now.state.policyRevision, now.state.policy,
            now.state.policy.engaging scope engagement, atMs⟩))
  -- `persist_operator_kill`: the stop it was begun with must still be the one in place
  | persist (id : Nat) (halt : PendingOperatorKill dec.Decimal)
      (stage : now.calls id = .pending halt) (free : now.holder = none)
      (current : now.incarnation halt.scope = some halt.incarnation) :
      KillStep now (.persist id)
        ({ now with holder := some id }.withCall id (.persisting halt))
  | load (id : Nat) (halt : PendingOperatorKill dec.Decimal)
      (stage : now.calls id = .persisting halt) (version : PolicyVersion dec.Decimal)
      (loaded : currentPolicy journal now.store = .ok version) :
      KillStep now (.load id) (now.withCall id (.loaded halt version))
  | refresh (id : Nat) (halt : PendingOperatorKill dec.Decimal)
      (version : PolicyVersion dec.Decimal) (stage : now.calls id = .loaded halt version)
      (state : EngineState dec.Decimal) (published : now.state.publish dec version = .ok state) :
      KillStep now (.refresh id) ({ now with state }.withCall id (.refreshed halt))
  | engage (id : Nat) (halt : PendingOperatorKill dec.Decimal)
      (stage : now.calls id = .refreshed halt) (revision : Nat)
      (policy : PersistedState dec.Decimal)
      (candidate : now.state.policyCandidate = .ok (revision, policy)) :
      KillStep now (.candidate id) (now.withCall id
        (.changing ⟨revision, policy, policy.engaging halt.scope halt.engagement, halt.atMs⟩ none))
  | lockTripped (id : Nat) (change : PolicyChange dec.Decimal)
      (stage : now.calls id = .tripped change) (free : now.holder = none) :
      KillStep now (.persist id)
        ({ now with holder := some id }.withCall id (.changing change none))
  -- `register_agent`, `operator_set_guardrails`, `operator_set_account_limits`
  | configure (id : Nat) (guardrails : KeyMap (AgentGuardrails dec.Decimal))
      (limits : LossLimits dec.Decimal) (atMs : UInt64) (idle : now.calls id = .idle)
      (free : now.holder = none) (revision : Nat) (policy : PersistedState dec.Decimal)
      (candidate : now.state.policyCandidate = .ok (revision, policy)) :
      KillStep now (.configure id guardrails limits atMs)
        ({ now with holder := some id }.withCall id
          (.changing ⟨revision, policy,
            { policy with guardrails, accountLimits := limits }, atMs⟩ none))
  -- `operator_release_kill`, up to `commit_policy`
  | capture (id : Nat) (scope : KillScope) (atMs : UInt64) (idle : now.calls id = .idle)
      (free : now.holder = none) (revision : Nat) (policy : PersistedState dec.Decimal)
      (candidate : now.state.policyCandidate = .ok (revision, policy)) :
      KillStep now (.capture id scope atMs)
        ({ now with holder := some id }.withCall id
          (.changing ⟨revision, policy, policy.releasing scope, atMs⟩
            (some (scope, now.state.stopGeneration))))
  -- `commit_policy`
  | withdraw (id : Nat) (change : PolicyChange dec.Decimal)
      (releases : Option (KillScope × Nat)) (stage : now.calls id = .changing change releases) :
      KillStep now (.withdraw id)
        ({ now with state := now.state.withdraw false }.withCall id (.withdrawn change releases))
  | exchange (id : Nat) (publish : Bool) (change : PolicyChange dec.Decimal)
      (releases : Option (KillScope × Nat)) (stage : now.calls id = .withdrawn change releases)
      (version : PolicyVersion dec.Decimal) (store : Store)
      (replaced : replacePolicy journal publish change.revision change.next change.atMs none
        now.store = (.ok version, store)) :
      KillStep now (.exchange id publish)
        ({ now with store }.withCall id (.exchanged change releases version))
  -- a conflict, or a commit whose outcome is uncertain
  | conflict (id : Nat) (publish : Bool) (change : PolicyChange dec.Decimal)
      (releases : Option (KillScope × Nat)) (stage : now.calls id = .withdrawn change releases)
      (error : PolicyError) (store : Store)
      (refused : replacePolicy journal publish change.revision change.next change.atMs none
        now.store = (.error error, store)) :
      KillStep now (.exchange id publish) ({ now with store }.withCall id .failing)
  | publish (id : Nat) (change : PolicyChange dec.Decimal)
      (releases : Option (KillScope × Nat)) (version : PolicyVersion dec.Decimal)
      (stage : now.calls id = .exchanged change releases version)
      (state : EngineState dec.Decimal) (published : now.state.publish dec version = .ok state) :
      KillStep now (.publish id) ({ now with state }.withCall id (.published change releases))
  | settle (id : Nat) (change : PolicyChange dec.Decimal)
      (stage : now.calls id = .published change none) :
      KillStep now (.settle id) ((now.unlocked id).withCall id .closed)
  -- `operator_release_kill`: no stop landed since its scope was captured
  | release (id : Nat) (scope : KillScope) (generation : Nat) (change : PolicyChange dec.Decimal)
      (stage : now.calls id = .published change (some (scope, generation)))
      (same : now.state.stopGeneration = generation) :
      KillStep now (.release id scope) (((now.lifting scope).unlocked id).withCall id .closed)
  -- any other `refresh_policy`
  | read (id : Nat) (idle : now.calls id = .idle) (version : PolicyVersion dec.Decimal)
      (loaded : currentPolicy journal now.store = .ok version) :
      KillStep now (.read id) (now.withCall id (.read version))
  | take (id : Nat) (version : PolicyVersion dec.Decimal) (stage : now.calls id = .read version)
      (state : EngineState dec.Decimal) (published : now.state.publish dec version = .ok state) :
      KillStep now (.refresh id) ({ now with state }.withCall id .closed)
  -- a read or an audit that failed, a signature that was refused
  | inhibit : KillStep now .inhibit { now with state := now.state.inhibit }
  -- what acknowledgments and activations do
  | enable (acknowledged : Option PolicyAcknowledgment) (scope : Option AuthorizedRoute) :
      KillStep now (.enable acknowledged scope)
        { now with state := { now.state with acknowledged, activationScope := scope } }
  -- any other writer of the ledger, in this process or another
  | write (store : Store) : KillStep now (.write store) { now with store }
  -- `review_kill_release`, on the testnet only
  | review (id : Nat) (scope : KillScope) (idle : now.calls id = .idle)
      (free : now.holder = none) (testnet : journal.handle.network = .testnet) :
      KillStep now (.review id scope)
        ({ now with state := now.state.inhibit, holder := some id }.withCall id
          (.reviewing scope))
  | observe (id : Nat) (scope : KillScope) (stage : now.calls id = .reviewing scope)
      (snapshot : ReleaseSnapshot dec.Decimal)
      (observed : observeRelease journal now.store scope = .ok snapshot) :
      KillStep now (.observe id) (now.withCall id (.observed scope snapshot))
  | show (id : Nat) (operationId : String) (nowMs : UInt64) (scope : KillScope)
      (snapshot : ReleaseSnapshot dec.Decimal) (stage : now.calls id = .observed scope snapshot)
      (state : EngineState dec.Decimal)
      (published : now.state.publish dec snapshot.policy = .ok state)
      (request : ReleaseRequest dec.Decimal)
      (reviewed : reviewRelease state snapshot journal.handle.network scope operationId nowMs =
        .ok request) :
      KillStep now (.show id operationId nowMs)
        (({ now with state }.unlocked id).withCall id (.reviewed request))
  -- `confirm_kill_release`
  | confirm (id : Nat) (request : ReleaseRequest dec.Decimal)
      (stage : now.calls id = .reviewed request) (free : now.holder = none) :
      KillStep now (.confirm id) ({ now with holder := some id }.withCall id (.confirming request))
  | overlay (id : Nat) (nowMs : UInt64) (request : ReleaseRequest dec.Decimal)
      (stage : now.calls id = .confirming request) (snapshot : ReleaseSnapshot dec.Decimal)
      (observed : observeRelease journal now.store request.display.scope = .ok snapshot)
      (unchanged : checkRelease snapshot request = .ok ())
      (here : checkReleaseLocal now.state request = .ok ())
      (timely : checkReleaseTime request nowMs = .ok ()) :
      KillStep now (.overlay id nowMs)
        ({ now with state := now.state.retain request }.withCall id (.overlaid request))
  -- the gate is asked inside the transaction, before its row is appended
  | commit (id : Nat) (nowMs : UInt64) (publish : Bool) (request : ReleaseRequest dec.Decimal)
      (stage : now.calls id = .overlaid request)
      (same : now.state.stopGeneration = request.display.stopGeneration.toNat)
      (timely : checkReleaseTime request nowMs = .ok ())
      (receipt : KillReleaseReceipt dec.Decimal) (version : PolicyVersion dec.Decimal)
      (store : Store)
      (removed : releaseKill journal publish request (.ok nowMs) now.store =
        (.ok (receipt, version), store)) :
      KillStep now (.commit id nowMs publish)
        ({ now with store }.withCall id (.removed request version))
  | uncertain (id : Nat) (nowMs : UInt64) (publish : Bool) (request : ReleaseRequest dec.Decimal)
      (stage : now.calls id = .overlaid request) (error : KillReleaseError) (store : Store)
      (refused : releaseKill journal publish request (.ok nowMs) now.store =
        (.error error, store)) :
      KillStep now (.commit id nowMs publish) ({ now with store }.withCall id .failing)
  | complete (id : Nat) (nowMs : UInt64) (request : ReleaseRequest dec.Decimal)
      (version : PolicyVersion dec.Decimal) (stage : now.calls id = .removed request version)
      (same : now.state.stopGeneration = request.display.stopGeneration.toNat)
      (timely : checkReleaseTime request nowMs = .ok ()) (state : EngineState dec.Decimal)
      (published : now.state.publish dec version = .ok state) :
      KillStep now (.complete id request.display.scope nowMs)
        ((({ now with state }.lifting request.display.scope).withState EngineState.inhibit).unlocked
          id |>.withCall id .closed)
  -- an error at any stage, with the inhibition some of them come with
  | fail (id : Nat) (inhibits : Bool) (isOpen : now.calls id ≠ .idle ∧ now.calls id ≠ .closed) :
      KillStep now (.fail id inhibits)
        (({ now with state := if inhibits then now.state.inhibit else now.state }.unlocked
          id).withCall id .closed)

end Steps

end Oppen.Guardrail
