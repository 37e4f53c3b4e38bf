import Oppen.Ledger.PolicyJournal

/-! # The engine's policy state

What the engine of one process holds of the policy: the version it last saw, the stops made
here, and what an operator acknowledged of both.
-/

namespace Oppen.Guardrail

open Oppen.Json Oppen.Ledger

/-! ## Stops -/

/-- Whose trading a scope pauses. -/
def KillScope.Covers : KillScope → String → Prop
  | .global, _ => True
  | .agent named, trader => named = trader

namespace KillSwitch

variable {Decimal : Type}

/-- `KillSwitch::engage`: the first engagement of a scope stays. -/
def engage (kill : KillSwitch Decimal) (engagement : Engagement Decimal) :
    KillScope → KillSwitch Decimal
  | .global => { kill with global := some (kill.global.getD engagement) }
  | .agent agent =>
      if (kill.agents.get agent).isSome = true then kill
      else { kill with agents := .collect ((agent, engagement) :: kill.agents.entries) }

/-- `KillSwitch::blocking`: the engagement that blocks an agent, the global one first. -/
def blocking (kill : KillSwitch Decimal) (agent : String) :
    Option (KillScope × Engagement Decimal) :=
  match kill.global with
  | some engagement => some (.global, engagement)
  | none => (kill.agents.get agent).map fun engagement => (.agent agent, engagement)

/-- A scope is engaged. -/
def Engaged (kill : KillSwitch Decimal) (scope : KillScope) : Prop :=
  (kill.engagement scope).isSome = true

/-- The switch is engaged for an agent exactly if the agent is among its keys. -/
theorem engaged_agent_iff {kill : KillSwitch Decimal} {agent : String} :
    kill.Engaged (.agent agent) ↔ agent ∈ kill.agents.keys := by
  rw [Engaged, engagement, KeyMap.get, Option.isSome_map, List.find?_isSome, KeyMap.keys,
    List.mem_map]
  simp only [decide_eq_true_eq]

/-- An engaged scope blocks whom it covers. -/
theorem Engaged.blocks {kill : KillSwitch Decimal} {scope : KillScope} {agent : String}
    (engaged : kill.Engaged scope) (covers : scope.Covers agent) :
    (kill.blocking agent).isSome = true := by
  rw [blocking]
  cases scope with
  | global =>
      obtain ⟨engagement, held⟩ := Option.isSome_iff_exists.mp engaged
      rw [show kill.global = some engagement from held]
      rfl
  | agent named =>
      obtain rfl : named = agent := covers
      split
      · rfl
      · rw [Option.isSome_map]
        exact engaged

/-- What is engaged stays engaged. -/
theorem Engaged.engage {kill : KillSwitch Decimal} {scope : KillScope}
    (engaged : kill.Engaged scope) (more : Engagement Decimal) (other : KillScope) :
    (kill.engage more other).Engaged scope := by
  cases other with
  | global =>
      cases scope with
      | global => rfl
      | agent => exact engaged
  | agent named =>
      rw [KillSwitch.engage]
      split
      · exact engaged
      · cases scope with
        | global => exact engaged
        | agent agent =>
            rw [engaged_agent_iff] at engaged ⊢
            exact KeyMap.keys_collect.mpr (List.mem_cons_of_mem _ engaged)

/-- A switch that was engaged for a scope is engaged for it. -/
theorem engage_engaged (kill : KillSwitch Decimal) (more : Engagement Decimal)
    (scope : KillScope) : (kill.engage more scope).Engaged scope := by
  cases scope with
  | global => rfl
  | agent agent =>
      rw [KillSwitch.engage]
      split
      · rename_i held
        exact held
      · rw [engaged_agent_iff]
        exact KeyMap.keys_collect.mpr List.mem_cons_self

end KillSwitch

/-! ## Engine state -/

/-- The policy and the stops an operator reviewed. -/
structure PolicyAcknowledgment where
  revision : Nat
  stopGeneration : Nat
  deriving DecidableEq

/-- `u64::MAX`, where a counter stays for good. -/
def u64Max : Nat := 2 ^ 64 - 1

structure EngineState (Decimal : Type) where
  policyRevision : Nat
  policy : PersistedState Decimal
  emergency : List (KillScope × Engagement Decimal)
  acknowledged : Option PolicyAcknowledgment
  activationScope : Option AuthorizedRoute
  stopGeneration : Nat
  deriving DecidableEq

/-- An engine that has seen no policy; these empty values are no authority. -/
def EngineState.unread {Decimal : Type} : EngineState Decimal :=
  ⟨0, ⟨.empty, ⟨none, .empty⟩, ⟨none, none⟩⟩, [], none, none, 0⟩

namespace EngineState

section State

variable {Decimal : Type} (state : EngineState Decimal)

/-- `EngineState::inhibit`. -/
def inhibit : EngineState Decimal :=
  { state with
    acknowledged := none
    activationScope := none
    stopGeneration := min (state.stopGeneration + 1) u64Max }

/-- What precedes a durable mutation; a release gives the scope up as well. -/
def withdraw (released : Bool) : EngineState Decimal :=
  { state with
    acknowledged := none
    activationScope := if released then none else state.activationScope }

/-- `EngineState::effective_kill`. -/
def effectiveKill : KillSwitch Decimal :=
  state.emergency.foldl (fun kill entry => kill.engage entry.2 entry.1) state.policy.kill

/-- `EngineState::check_acknowledgment`. -/
def checkAcknowledgment : Except String Unit :=
  refuseIf (state.policyRevision = 0 ∨
      state.acknowledged ≠ some ⟨state.policyRevision, state.stopGeneration⟩)
    "operator reconciliation acknowledgment required"

/-- `EngineState::check_scoped_acknowledgment`. -/
def checkScopedAcknowledgment (route : AuthorizedRoute) (supervised : Bool) :
    Except String Unit := do
  state.checkAcknowledgment
  refuseIf ((supervised = true ∨ state.activationScope.isSome = true) ∧
      state.activationScope ≠ some route)
    "acknowledgment does not cover this route"

/-- `GuardrailEngine::cancellation_needed`. -/
def cancellationNeeded (agent : String) : Bool :=
  state.checkAcknowledgment.isOk = false || (state.effectiveKill.blocking agent).isSome

/-- `EngineState::stop`: the first engagement of a scope stays, and admission is inhibited. -/
def stop (scope : KillScope) (engagement : Engagement Decimal) : EngineState Decimal :=
  { state with
    emergency := if ∃ entry ∈ state.emergency, entry.1 = scope then state.emergency
      else state.emergency ++ [(scope, engagement)] }.inhibit

end State

/-- `EngineState::publish`: a version is never older than the one held, nor another state
under its number. -/
def publish (dec : PolicyDecimals) (state : EngineState dec.Decimal)
    (version : PolicyVersion dec.Decimal) : Except String (EngineState dec.Decimal) := do
  refuseIf (version.revision = 0 ∨ version.revision < state.policyRevision)
    "policy observation regressed"
  refuseIf (version.revision = state.policyRevision ∧ ¬ version.state.Same dec state.policy)
    "policy changed without a revision"
  return { state with policyRevision := version.revision, policy := version.state }

/-- A version that is published replaces the policy and its revision, and nothing else of the
state. -/
theorem publish_ok {dec : PolicyDecimals} {state published : EngineState dec.Decimal}
    {version : PolicyVersion dec.Decimal} (run : state.publish dec version = .ok published) :
    published = { state with policyRevision := version.revision, policy := version.state } := by
  obtain ⟨_, _, run⟩ := bind_eq_ok run
  obtain ⟨_, _, run⟩ := bind_eq_ok run
  cases run
  rfl

/-- What publishing a version leaves: a version that is refused inhibits. -/
def observe (dec : PolicyDecimals) (state : EngineState dec.Decimal)
    (version : PolicyVersion dec.Decimal) : EngineState dec.Decimal :=
  match state.publish dec version with
  | .ok state => state
  | .error _ => state.inhibit

section Facts

variable {Decimal : Type} {state : EngineState Decimal} {scope : KillScope} {agent : String}

/-- Engagements laid over a switch release nothing. -/
theorem engaged_overlay {kill : KillSwitch Decimal} (engaged : kill.Engaged scope) :
    ∀ overlay : List (KillScope × Engagement Decimal),
      (overlay.foldl (fun kill entry => kill.engage entry.2 entry.1) kill).Engaged scope
  | [] => engaged
  | entry :: rest => engaged_overlay (engaged.engage entry.2 entry.1) rest

/-- A switch of the policy is effective, whatever the overlay holds. -/
theorem effectiveKill_of_policy (engaged : state.policy.kill.Engaged scope) :
    state.effectiveKill.Engaged scope :=
  engaged_overlay engaged state.emergency

/-- A switch of the overlay is effective, whatever the policy holds. -/
theorem effectiveKill_of_emergency {engagement : Engagement Decimal}
    (member : (scope, engagement) ∈ state.emergency) : state.effectiveKill.Engaged scope := by
  obtain ⟨earlier, later, split⟩ := List.append_of_mem member
  rw [effectiveKill, split, List.foldl_append, List.foldl_cons]
  exact engaged_overlay (KillSwitch.engage_engaged _ engagement scope) later

/-- An agent that an effective switch covers needs its orders cancelled. -/
theorem cancellationNeeded_of_engaged (engaged : state.effectiveKill.Engaged scope)
    (covers : scope.Covers agent) : state.cancellationNeeded agent = true := by
  rw [cancellationNeeded, engaged.blocks covers, Bool.or_true]

/-- Without an acknowledgment every order is to be cancelled. -/
theorem cancellationNeeded_of_unacknowledged (none : state.acknowledged = none) :
    state.cancellationNeeded agent = true := by
  have refused : state.checkAcknowledgment =
      .error "operator reconciliation acknowledgment required" :=
    if_pos (.inr (by rw [none]; exact nofun))
  rw [cancellationNeeded, refused]
  rfl

end Facts

end EngineState

end Oppen.Guardrail
