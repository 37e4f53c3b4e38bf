import Oppen.Ledger.PolicyJournal

/-! # Kill releases

A reviewed release is one policy row, not a second journal. It is committed only on the
head, the state and the members it was reviewed at.
-/

namespace Oppen.Ledger

open Foundation Oppen.Json Oppen.Guardrail

/-! ## Comparing members

The derived equality compares amounts by value. -/

section Images

variable {Decimal Amount : Type} (image : Decimal → Amount)

def PilotStop.map : PilotStop Decimal → PilotStop Amount
  | .awaitingReconciliation => .awaitingReconciliation
  | .exhausted metric observedUsd limitUsd =>
      .exhausted metric (image observedUsd) (image limitUsd)
  | .unavailable detail => .unavailable detail

def PilotState.map (state : PilotState Decimal) : PilotState Amount where
  agent := state.agent
  account := state.account
  authorizedAtMs := state.authorizedAtMs
  baseline := state.baseline
  executedUsd := image state.executedUsd
  reservedUsd := image state.reservedUsd
  netRealizedPnlUsd := image state.netRealizedPnlUsd
  halt := state.halt.map (PilotStop.map image)

def KillReleaseMember.map (member : KillReleaseMember Decimal) : KillReleaseMember Amount :=
  ⟨member.route, member.pilot.map image⟩

end Images

deriving instance DecidableEq for PilotStop, PilotState, KillReleaseMember

/-! ## Releases -/

/-- What a caller learns of a release that did not return its receipt. -/
inductive KillReleaseError where
  | refused (error : PolicyError)
  | uncertain (operationId : String) (error : PolicyError)
  deriving DecidableEq

/-- What one snapshot says about a scope. -/
structure ReleaseSnapshot (Decimal : Type) where
  head : Anchor
  policy : PolicyVersion Decimal
  affected : List (KillReleaseMember Decimal)

structure KillReleaseReceipt (Decimal : Type) where
  operationId : String
  network : Network
  scope : KillScope
  reviewedStopGeneration : UInt64
  policyRevision : Nat
  recordedAtMs : UInt64
  seq : Nat
  hash : String
  remainingKill : KillSwitch Decimal

section Releasing

variable {dec : PolicyDecimals} (journal : PolicyJournal dec)

/-- The agents a scope covers, each with policy and a route. -/
def coveredAgents (version : PolicyVersion dec.Decimal) (routes : List AuthorizedRoute) :
    KillScope → Except PolicyError (List String)
  | .global => do
      let agents := version.state.guardrails.keys
      refuseIf (agents.isEmpty = true ∨
          sameMembers agents (routes.map fun route => route.binding.agent) = false)
        (.unavailable "global release membership is empty or unresolved")
      return agents
  | .agent agent => do
      refuseIf (agent ∉ version.state.guardrails.keys)
        (.unavailable "release agent has no authenticated policy")
      return [agent]

/-- The route and the pilot of one agent. -/
def releaseMember (store : Store) (routes : List AuthorizedRoute) (agent : String) :
    Except PolicyError (KillReleaseMember dec.Decimal) :=
  match routes.find? fun route => route.binding.agent = agent with
  | none => .error (.unavailable "release route missing or retired")
  | some route => do
      let pilot ← mapError .unavailable (journal.registry.releaseState store route)
      return ⟨route, pilot⟩

/-- `observe`. -/
def observeRelease (store : Store) (scope : KillScope) :
    Except PolicyError (ReleaseSnapshot dec.Decimal) := do
  let version ← currentPolicy journal store
  let routes ← mapError .unavailable (journal.registry.activeRoutes store)
  refuseIf ((∃ route ∈ routes, route.network ≠ .testnet) ∨
      ¬ (routes.map fun route => route.binding.container).Nodup ∨
      ¬ (routes.map fun route => route.binding.agent).Nodup)
    (.unavailable "ambiguous or non-testnet release membership")
  let agents ← coveredAgents version routes scope
  let affected ← agents.mapM (releaseMember journal store routes)
  let (seq, hash) ← mapError .ledger (head store.db)
  return ⟨⟨seq, hash⟩, version, affected⟩

/-- The members are those that were reviewed. -/
def SameAffected (left right : List (KillReleaseMember dec.Decimal)) : Prop :=
  left.map (KillReleaseMember.map dec.value) = right.map (KillReleaseMember.map dec.value)

instance (left right : List (KillReleaseMember dec.Decimal)) :
    Decidable (SameAffected left right) :=
  inferInstanceAs (Decidable (_ = _))

/-- `check`: nothing reviewed has changed. -/
def checkRelease (snapshot : ReleaseSnapshot dec.Decimal) (request : ReleaseRequest dec.Decimal) :
    Except PolicyError Unit :=
  refuseIf (snapshot.head ≠ request.head ∨ ¬ snapshot.policy.state.Same dec request.before ∨
      snapshot.policy.revision ≠ request.display.policyRevision ∨
      ¬ SameAffected snapshot.affected request.display.affected)
    (.unavailable "reviewed release checkpoint or authority changed")

/-- The transaction of `commit`; `gate` is what the final gate answers. -/
def releaseBody (request : ReleaseRequest dec.Decimal) (gate : Except KillReleaseError UInt64)
    (store : Store) :
    Except KillReleaseError (Committed (PolicyVersion dec.Decimal × Appended × UInt64)) := do
  let observed ← mapError .refused (observeRelease journal store request.display.scope)
  mapError .refused (checkRelease observed request)
  match ← mapError .refused (replayPolicy journal store) with
  | none => .error (.refused (.unavailable "policy missing at release"))
  | some previous => do
      let next := request.released
      let atMs ← gate
      mapError .refused (validateState next atMs)
      refuseIf (2 ^ 64 ≤ request.head.seq + 1)
        (.refused (.unavailable "release sequence exhausted"))
      let envelope := nextEnvelope journal request.head.seq request.head.hash (some previous.link)
        (.killReleased request) next atMs
      mapError .refused (validateTransition request previous.version envelope)
      let (version, appended, db) ← mapError .refused
        (appendPolicy journal store.db (some previous.link) (.killReleased request) next atMs)
      return ⟨(version, appended, atMs), db, some appended⟩

/-- What must still hold once the release is committed and published. -/
def confirmRelease (request : ReleaseRequest dec.Decimal) (version : PolicyVersion dec.Decimal)
    (appended : Appended) (store : Store) : Except PolicyError Unit := do
  let final ← observeRelease journal store request.display.scope
  refuseIf (final.head ≠ ⟨appended.seq, appended.hash⟩ ∨
      final.policy.revision ≠ version.revision ∨ ¬ final.policy.state.Same dec version.state ∨
      ¬ SameAffected final.affected request.display.affected)
    (.unavailable "release authority changed during publication")

/-- `receipt`. -/
def releaseReceipt (request : ReleaseRequest dec.Decimal) (appended : Appended) (atMs : UInt64)
    (state : PersistedState dec.Decimal) : KillReleaseReceipt dec.Decimal where
  operationId := request.display.operationId
  network := request.display.network
  scope := request.display.scope
  reviewedStopGeneration := request.display.stopGeneration
  policyRevision := appended.seq
  recordedAtMs := atMs
  seq := appended.seq
  hash := appended.hash
  remainingKill := state.kill

/-- `commit`. An error after the commit leaves the outcome uncertain to its caller. -/
def releaseKill (publish : Bool) (request : ReleaseRequest dec.Decimal)
    (gate : Except KillReleaseError UInt64) (store : Store) :
    Except KillReleaseError (KillReleaseReceipt dec.Decimal × PolicyVersion dec.Decimal) × Store :=
  let uncertain := KillReleaseError.uncertain request.display.operationId
  match transact journal.handle publish (fun error => uncertain (.ledger error)) store
      (releaseBody journal request gate store) with
  | (.error error, after) => (.error error, after)
  | (.ok (version, appended, atMs), after) =>
      match confirmRelease journal request version appended after with
      | .error error => (.error (uncertain error), after)
      | .ok () => (.ok (releaseReceipt request appended atMs version.state, version), after)

end Releasing

end Oppen.Ledger
