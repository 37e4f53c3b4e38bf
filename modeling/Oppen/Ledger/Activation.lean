import Oppen.Guardrail.Evidence
import Oppen.Ledger.PolicyRelease

/-! # Activation authority

What activation reads of the journals under one coordination lease, and the row of a request
for it, appended only on the head that was reviewed.
-/

namespace Oppen.Ledger

open Oppen.Json Oppen.Guardrail

/-- What the journals of a ledger answer from one snapshot. Nothing is assumed of it. -/
structure ActivationReader (Decimal : Type) where
  /-- `RegistryJournal::route_in`. -/
  route : Store → String → Except String AuthorizedRoute
  /-- `PolicyJournal::current_in`. -/
  policy : Store → Except String (PolicyVersion Decimal)
  /-- `pilot::activation_state_in`. -/
  pilot : Store → AuthorizedRoute → Except String (PilotState Decimal)
  /-- Whether `SubmissionJournal::state_in` shows a pending submission. -/
  pending : Store → Address → Except String Bool

section Authority

variable {dec : EvidenceDecimals} (reader : ActivationReader dec.Decimal)

/-- `ActivationPermit::observe_in`. -/
def observeActivation (store : Store) (agent : String) (account : Address) :
    Except (ActivationRefusal dec.Decimal) (ActivationAuthority dec.Decimal) := do
  let route ← mapError .authority (reader.route store agent)
  refuseIf (route.network ≠ .testnet ∨ route.binding.container ≠ account)
    (.authority "activation requires the exact testnet route")
  let policy ← mapError .authority (reader.policy store)
  refuseIf (agent ∉ policy.state.guardrails.keys)
    (.authority "activation policy does not include this agent")
  match policy.state.kill.blocking agent with
  | some (scope, engagement) =>
      .error (.tradingPaused scope engagement.engagedAtMs engagement.reason)
  | none => do
      let pilot ← mapError .authority (reader.pilot store route)
      let pending ← mapError .authority (reader.pending store account)
      refuseIf (pending = true)
        (.authority "unresolved submission liability blocks activation")
      let (seq, hash) ← mapError .ledger (head store.db)
      return ⟨⟨seq, hash⟩, route, policy, pilot⟩

/-- The same route, policy and pilot; policies and pilots are compared by value. -/
structure SameAuthority (left right : ActivationAuthority dec.Decimal) : Prop where
  route : left.route = right.route
  revision : left.policy.revision = right.policy.revision
  policy : left.policy.state.Same dec.toPolicyDecimals right.policy.state
  pilot : left.pilot.map dec.value = right.pilot.map dec.value

instance (left right : ActivationAuthority dec.Decimal) : Decidable (SameAuthority left right) :=
  decidable_of_iff (left.route = right.route ∧ left.policy.revision = right.policy.revision ∧
      left.policy.state.Same dec.toPolicyDecimals right.policy.state ∧
        left.pilot.map dec.value = right.pilot.map dec.value)
    ⟨fun ⟨route, revision, policy, pilot⟩ => ⟨route, revision, policy, pilot⟩,
      fun same => ⟨same.route, same.revision, same.policy, same.pilot⟩⟩

/-- `check_history`. -/
def checkHistory (reviewed current : ActivationAuthority dec.Decimal) :
    Except (ActivationRefusal dec.Decimal) Unit :=
  refuseIf (reviewed.head ≠ current.head ∨ ¬ SameAuthority reviewed current)
    (.authority "reviewed authority or accounting history changed")

/-- `check_checkpoint`. -/
def checkCheckpoint (observed current : ActivationAuthority dec.Decimal) (expected : Anchor) :
    Except (ActivationRefusal dec.Decimal) Unit :=
  refuseIf (current.head ≠ expected ∨ ¬ SameAuthority current observed)
    (.authority "activation authority or checkpoint changed across transaction boundary")

/-- The audit row of a request. -/
def requestEvent (observed : ActivationAuthority dec.Decimal) (generation : Nat)
    (tsMs : Int64) : NewEvent where
  kind := .operatorAction
  tsMs := tsMs
  agentId := some observed.route.binding.agent
  payload := .ofFields [("action", .string "activation_acknowledgment_requested"),
    ("route", observed.route.toValue), ("policy_revision", .ofInt observed.policy.revision),
    ("stop_generation", .ofInt generation), ("reviewed_head", observed.head.toValue),
    ("pilot_baseline", observed.pilot.baseline.toValue),
    ("reason", .string "operator confirmation request, not continuing venue eligibility")]
  snapshot := none

/-- The transaction of `record_request`. -/
def requestActivation (lib : Libraries) (observed : ActivationAuthority dec.Decimal)
    (generation atMs : Nat) (store : Store) :
    Except (ActivationRefusal dec.Decimal) (Appended × Db) := do
  refuseIf (2 ^ 63 ≤ atMs) (.authority "out of range integral type conversion attempted")
  let current ← observeActivation reader store observed.route.binding.agent
    observed.route.binding.container
  checkCheckpoint observed current observed.head
  mapError .ledger
    (appendInTx lib store.db (requestEvent observed generation (Int64.ofNat atMs)))

/-- What `record_request` checks once the row is published. -/
def confirmRequest (observed : ActivationAuthority dec.Decimal) (appended : Appended)
    (store : Store) : Except (ActivationRefusal dec.Decimal) Unit := do
  let current ← observeActivation reader store observed.route.binding.agent
    observed.route.binding.container
  checkCheckpoint observed current ⟨appended.seq, appended.hash⟩

variable {reader} {lib : Libraries} {store : Store} {agent : String} {account : Address}
  {observed current : ActivationAuthority dec.Decimal}

/-- What is read is of the head it is read at. -/
theorem observeActivation_head
    (run : observeActivation reader store agent account = .ok observed) :
    head store.db = .ok (observed.head.seq, observed.head.hash) := by
  obtain ⟨route, _, run⟩ := bind_eq_ok run
  obtain ⟨_, _, run⟩ := bind_eq_ok run
  obtain ⟨policy, _, run⟩ := bind_eq_ok run
  obtain ⟨_, _, run⟩ := bind_eq_ok run
  split at run
  · cases run
  · obtain ⟨_, _, run⟩ := bind_eq_ok run
    obtain ⟨_, _, run⟩ := bind_eq_ok run
    obtain ⟨_, _, run⟩ := bind_eq_ok run
    obtain ⟨_, last, run⟩ := bind_eq_ok run
    cases run
    exact mapError_eq_ok last

/-- A history that passes has the head and the authority that were observed. -/
theorem checkHistory_ok (run : checkHistory observed current = .ok ()) :
    observed.head = current.head ∧ SameAuthority observed current := by
  have same := refuseIf_ok run
  push Not at same
  exact same

/-- A checkpoint that passes is at the expected head, under the authority that was observed. -/
theorem checkCheckpoint_ok {expected : Anchor}
    (run : checkCheckpoint observed current expected = .ok ()) :
    current.head = expected ∧ SameAuthority current observed := by
  have same := refuseIf_ok run
  push Not at same
  exact same

/-- Sameness of two authorities does not depend on which was observed first. -/
theorem SameAuthority.symm (same : SameAuthority observed current) :
    SameAuthority current observed :=
  ⟨same.route.symm, same.revision.symm, same.policy.symm, same.pilot.symm⟩

/-- Sameness of authorities composes. -/
theorem SameAuthority.trans {last : ActivationAuthority dec.Decimal}
    (first : SameAuthority observed current) (second : SameAuthority current last) :
    SameAuthority observed last :=
  ⟨first.route.trans second.route, first.revision.trans second.revision,
    first.policy.trans second.policy, first.pilot.trans second.pilot⟩

/-- The row of a request is the next after the head it names, where the route, the policy and
the pilot are the same. -/
structure RequestedOn (reader : ActivationReader dec.Decimal) (lib : Libraries)
    (observed : ActivationAuthority dec.Decimal) (before after : Store) (appended : Appended) :
    Prop where
  current : ∃ current, observeActivation reader before observed.route.binding.agent
    observed.route.binding.container = .ok current ∧ current.head = observed.head ∧
      SameAuthority current observed
  directly : ∃ row : Row, row.seq = observed.head.seq + 1 ∧ row.prevHash = observed.head.hash ∧
    after.db = before.db.push row ∧ appended = row.appended

/-- A request that was appended says what it was asked for, on the authority that was observed. -/
theorem requestActivation_ok {generation atMs : Nat} {appended : Appended}
    {db : Db} (run : requestActivation reader lib observed generation atMs store =
      .ok (appended, db)) :
    RequestedOn reader lib observed store { store with db } appended := by
  obtain ⟨_, _, run⟩ := bind_eq_ok run
  obtain ⟨current, read, run⟩ := bind_eq_ok run
  obtain ⟨_, checkpoint, run⟩ := bind_eq_ok run
  obtain ⟨same, authority⟩ := checkCheckpoint_ok checkpoint
  have last := observeActivation_head read
  refine ⟨⟨current, read, same, authority⟩, ?_⟩
  obtain ⟨row, chained, written⟩ := bind_eq_ok (mapError_eq_ok run)
  obtain ⟨_, _, written⟩ := bind_eq_ok written
  cases written
  rw [chainRow, last] at chained
  obtain ⟨_, read, chained⟩ := bind_eq_ok chained
  cases read
  obtain ⟨_, _, chained⟩ := bind_eq_ok chained
  obtain ⟨canonical, _, chained⟩ := bind_eq_ok chained
  cases chained
  refine ⟨_, ?_, ?_, rfl, rfl⟩
  · rw [← same]
    rfl
  · rw [← same]
    rfl

/-- A row on the head of some authority is on the head of the same authority. -/
theorem RequestedOn.same {reviewed : ActivationAuthority dec.Decimal} {before after : Store}
    {appended : Appended} (head : reviewed.head = observed.head)
    (same : SameAuthority reviewed observed)
    (on : RequestedOn reader lib observed before after appended) :
    RequestedOn reader lib reviewed before after appended := by
  obtain ⟨⟨read, reading, here, equal⟩, row, seq, hash, pushed, is⟩ := on
  rw [← same.route] at reading
  refine ⟨⟨read, reading, here.trans head.symm, equal.trans same.symm⟩, row, ?_, ?_, pushed, is⟩
  · rw [head]
    exact seq
  · rw [head]
    exact hash

end Authority

end Oppen.Ledger
