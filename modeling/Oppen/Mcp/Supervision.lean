import Oppen.Guardrail.Engine
import Oppen.Mcp.Auth
import Oppen.Mcp.Exchange

/-! # Pause supervision

The supervisor of a listener sweeps the pairings of the store again and again and cancels the
resting orders of every account that is stopped. Around it operators stop, release and
acknowledge, other processes change the policy, and executions take turns on an account.
-/

namespace Oppen.Mcp

open Foundation Oppen.Json Oppen.Guardrail Oppen.Ledger

/-- `TokenStore::bindings`: those of revoked pairings too. -/
def TokenStore.bindings (tokens : TokenStore) : List PairingBinding :=
  tokens.records.map TokenRecord.binding

/-! ## Cancellations -/

/-- What a cancellation reads of a resting order. -/
structure OpenOrder where
  coin : String
  oid : UInt64
  deriving DecidableEq

structure CancelWire where
  asset : Nat
  oid : UInt64
  deriving DecidableEq

/-- The index of an asset in the venue's universe. -/
abbrev Universe := List (String × Nat)

/-- The cancel of one resting order. -/
def cancelWire (assets : Universe) (order : OpenOrder) : Option CancelWire :=
  (assets.lookup order.coin).map fun asset => ⟨asset, order.oid⟩

/-- One cancel for every resting order. -/
def cancelWires (assets : Universe) (orders : List OpenOrder) : Option (List CancelWire) :=
  orders.mapM (cancelWire assets)

/-! ## The supervisor -/

/-- `SupervisionStatus`. -/
structure SupervisionStatus where
  startedSequence : Nat
  completedSequence : Nat
  inProgress : Bool
  lastCompletedMs : Option Nat
  lastError : Option String
  deriving DecidableEq

/-- How far the refresh at the head of a sweep is. Only a refresh that did not come to its
end is a failure; one that was refused inhibited the engine. -/
inductive Refresh (Decimal : Type) where
  | pending
  | read (version : PolicyVersion Decimal)
  | settled (failure : Option String)

/-- How far the cancellation for one pairing is; from `locked` on it holds the account. -/
inductive Stage where
  | due
  | queued
  | locked
  | routed
  | reading
  | clearing (orders : List OpenOrder) (wires : List CancelWire)
  | cleared (orders : List OpenOrder) (wires : List CancelWire)
  | posting (orders : List OpenOrder) (wires : List CancelWire)
  | posted (orders : List OpenOrder) (wires : List CancelWire)
  deriving DecidableEq

def Stage.holds : Stage → Bool
  | .due | .queued => false
  | _ => true

structure Work where
  bound : PairingBinding
  stage : Stage
  deriving DecidableEq

/-- One turn of the enforcement loop. -/
structure Sweep (Decimal : Type) where
  sequence : Nat
  bindings : List PairingBinding
  refresh : Refresh Decimal
  todo : List PairingBinding
  seen : List PairingBinding
  work : Option Work
  failure : Option String

/-- An operator's acknowledgment under way: the stop generation reviewed before it began, and
the revision it has read since. -/
structure Acknowledging where
  generation : Nat
  read : Option Nat
  deriving DecidableEq

/-- A runtime with its supervisor. `policies` are the states of the policy journal, the first
version first; `reads` the versions read by threads that have not published them yet; `held`
the accounts another execution has its turn on. -/
structure Supervision (Decimal : Type) where
  policies : List (PersistedState Decimal)
  engine : EngineState Decimal
  reads : List (PolicyVersion Decimal)
  acknowledging : List Acknowledging
  tokens : TokenStore
  held : List Address
  status : SupervisionStatus
  wake : Bool
  alive : Bool
  sweep : Option (Sweep Decimal)

/-- The version of the policy journal that is current. -/
def currentVersion {Decimal : Type} (policies : List (PersistedState Decimal)) :
    Option (PolicyVersion Decimal) :=
  policies.getLast?.map fun state => ⟨policies.length, state⟩

/-- A runtime whose supervisor has not run. -/
def Supervision.start {Decimal : Type} (policies : List (PersistedState Decimal))
    (tokens : TokenStore) : Supervision Decimal :=
  ⟨policies, .unread, [], [], tokens, [], ⟨0, 0, false, none, none⟩, false, true, none⟩

/-- `SupervisionControl::request_sweep`: the baseline, and the wake. -/
def Supervision.requestSweep {Decimal : Type} (now : Supervision Decimal) :
    Nat × Supervision Decimal :=
  (now.status.startedSequence, { now with wake := true })

/-- What happens around the supervisor: stops, releases and reads of the policy, pairings, and the
stages of a sweep. -/
inductive SupervisionAct (dec : PolicyDecimals) where
  | stop (scope : KillScope) (engagement : Engagement dec.Decimal)
  | inhibit
  | withdraw (released : Bool)
  | overlay (scope : KillScope) (engagement : Engagement dec.Decimal)
  | lift (scope : KillScope)
  | commit (state : PersistedState dec.Decimal) (own : Bool)
  | read
  | publish (version : PolicyVersion dec.Decimal)
  | review (generation : Nat)
  | reread (acknowledging : Acknowledging)
  | acknowledge (acknowledging : Acknowledging) (scope : Option AuthorizedRoute)
  | pair (tokens : TokenStore)
  | acquire (account : Address)
  | letGo (account : Address)
  | request
  | exhaust
  | begin (bindings : List PairingBinding)
  | unreadable (atMs : Option Nat)
  | sweepRead
  | sweepReadFails
  | sweepPublish
  | sweepRefreshLost (detail : String)
  | visit (bound : PairingBinding)
  | skip (bound : PairingBinding)
  | needed (bound : PairingBinding)
  | unneeded (bound : PairingBinding)
  | lock (bound : PairingBinding)
  | route (bound : PairingBinding)
  | readOrders (bound : PairingBinding) (orders : List OpenOrder)
  | clear (bound : PairingBinding)
  | post (bound : PairingBinding) (wires : List CancelWire)
  | answered (bound : PairingBinding) (response : ExchangeResponse dec.Decimal)
  | fail (bound : PairingBinding) (detail : String) (retained : Bool)
  | finish (atMs : Option Nat)
  | abandon

section Acting

variable {dec : PolicyDecimals}

/-- The sweep with the work of its binding replaced. -/
def Sweep.at (sweep : Sweep dec.Decimal) (bound : PairingBinding) (stage : Stage) :
    Sweep dec.Decimal :=
  { sweep with work := some ⟨bound, stage⟩ }

/-- The sweep at work on a binding. -/
def Supervision.Working (supervision : Supervision dec.Decimal) (sweep : Sweep dec.Decimal)
    (bound : PairingBinding) (stage : Stage) : Prop :=
  supervision.sweep = some sweep ∧ sweep.work = some ⟨bound, stage⟩

/-- The supervisor's own turn on an account. -/
def Supervision.SweepHolds (supervision : Supervision dec.Decimal) (account : Address) : Prop :=
  ∃ sweep ∈ supervision.sweep, ∃ work ∈ sweep.work,
    work.stage.holds = true ∧ work.bound.account = account

/-- The stage after the supervisor learnt that a cancellation is still needed. -/
def Stage.needed : Stage → Option Stage
  | .due => some .queued
  | .routed => some .reading
  | .cleared orders wires => some (.posting orders wires)
  | _ => none

/-- The receipt of a sweep. -/
def SupervisionStatus.finished (status : SupervisionStatus) (sequence : Nat) (atMs : Option Nat)
    (error : Option String) : SupervisionStatus :=
  { status with
    completedSequence := sequence, inProgress := false, lastCompletedMs := atMs
    lastError := error }

/-- One step of the supervisor, of a thread that stops or refreshes, or of another execution that
takes its turn on an account. -/
inductive SupervisionStep (now : Supervision dec.Decimal) :
    SupervisionAct dec → Supervision dec.Decimal → Prop
  -- `begin_operator_kill`, and a breaker that trips
  | stop (scope : KillScope) (engagement : Engagement dec.Decimal) :
      SupervisionStep now (.stop scope engagement)
        { now with engine := now.engine.stop scope engagement }
  -- a refused read, a review that begins, an activation that fails
  | inhibit : SupervisionStep now .inhibit { now with engine := now.engine.inhibit }
  -- before a mutation is durable
  | withdraw (released : Bool) :
      SupervisionStep now (.withdraw released) { now with engine := now.engine.withdraw released }
  | overlay (scope : KillScope) (engagement : Engagement dec.Decimal)
      (free : ∀ entry ∈ now.engine.emergency, entry.1 ≠ scope) :
      SupervisionStep now (.overlay scope engagement)
        { now with engine := { now.engine with
            emergency := now.engine.emergency ++ [(scope, engagement)] } }
  | lift (scope : KillScope) :
      SupervisionStep now (.lift scope)
        { now with engine := { now.engine with
            emergency := now.engine.emergency.filter fun entry => entry.1 ≠ scope } }
  -- `compare_exchange`, of this process or another
  | commit (state : PersistedState dec.Decimal) (own : Bool) :
      SupervisionStep now (.commit state own) { now with
        policies := now.policies ++ [state]
        reads := if own then ⟨now.policies.length + 1, state⟩ :: now.reads else now.reads }
  | read (version : PolicyVersion dec.Decimal)
      (current : currentVersion now.policies = some version) :
      SupervisionStep now .read { now with reads := version :: now.reads }
  | publish (version : PolicyVersion dec.Decimal) (held : version ∈ now.reads) :
      SupervisionStep now (.publish version) { now with engine := now.engine.observe dec version }
  -- `operator_acknowledge_policy` and `confirm_activation`
  | review (generation : Nat) (seen : generation ≤ now.engine.stopGeneration) :
      SupervisionStep now (.review generation)
        { now with acknowledging := ⟨generation, none⟩ :: now.acknowledging }
  | reread (acknowledging : Acknowledging) (held : acknowledging ∈ now.acknowledging)
      (version : PolicyVersion dec.Decimal)
      (current : currentVersion now.policies = some version) :
      SupervisionStep now (.reread acknowledging) { now with
        acknowledging := { acknowledging with read := some version.revision } ::
          now.acknowledging }
  | acknowledge (acknowledging : Acknowledging) (scope : Option AuthorizedRoute)
      (held : acknowledging ∈ now.acknowledging) (revision : Nat)
      (read : acknowledging.read = some revision) (near : revision ≤ now.engine.policyRevision)
      (same : acknowledging.generation = now.engine.stopGeneration)
      (counted : acknowledging.generation ≠ u64Max) :
      SupervisionStep now (.acknowledge acknowledging scope)
        { now with engine := { now.engine with
            acknowledged := some ⟨now.engine.policyRevision, acknowledging.generation⟩
            activationScope := scope } }
  -- pairings issued and revoked
  | pair (tokens : TokenStore) : SupervisionStep now (.pair tokens) { now with tokens }
  -- another execution on the account
  | acquire (account : Address) (free : account ∉ now.held) (idle : ¬ now.SweepHolds account) :
      SupervisionStep now (.acquire account) { now with held := account :: now.held }
  | letGo (account : Address) :
      SupervisionStep now (.letGo account) { now with held := now.held.erase account }
  | request : SupervisionStep now .request now.requestSweep.2
  -- `next_supervision`; the sequence never wraps
  | exhaust (alive : now.alive = true) (idle : now.sweep = none)
      (last : u64Max ≤ now.status.startedSequence) :
      SupervisionStep now .exhaust { now with alive := false }
  | begin (alive : now.alive = true) (idle : now.sweep = none)
      (counted : now.status.startedSequence < u64Max) :
      SupervisionStep now (.begin now.tokens.bindings) { now with
        wake := false
        status := { now.status with
          startedSequence := now.status.startedSequence + 1, inProgress := true }
        sweep := some ⟨now.status.startedSequence + 1, now.tokens.bindings, .pending,
          now.tokens.bindings, [], none, none⟩ }
  | unreadable (atMs : Option Nat) (alive : now.alive = true) (idle : now.sweep = none)
      (counted : now.status.startedSequence < u64Max) :
      SupervisionStep now (.unreadable atMs) { now with
        wake := false
        status := SupervisionStatus.finished
          { now.status with startedSequence := now.status.startedSequence + 1 }
          (now.status.startedSequence + 1) atMs
          (some "pairing authority unavailable; pause sweep will retry") }
  -- `enforce_pauses`: the policy first
  | sweepRead (sweep : Sweep dec.Decimal) (running : now.sweep = some sweep)
      (pending : sweep.refresh = .pending) (version : PolicyVersion dec.Decimal)
      (current : currentVersion now.policies = some version) :
      SupervisionStep now .sweepRead
        { now with sweep := some { sweep with refresh := .read version } }
  | sweepReadFails (sweep : Sweep dec.Decimal) (running : now.sweep = some sweep)
      (pending : sweep.refresh = .pending) :
      SupervisionStep now .sweepReadFails { now with
        engine := now.engine.inhibit
        sweep := some { sweep with refresh := .settled none } }
  | sweepPublish (sweep : Sweep dec.Decimal) (running : now.sweep = some sweep)
      (version : PolicyVersion dec.Decimal) (read : sweep.refresh = .read version) :
      SupervisionStep now .sweepPublish { now with
        engine := now.engine.observe dec version
        sweep := some { sweep with refresh := .settled none } }
  | sweepRefreshLost (detail : String) (sweep : Sweep dec.Decimal)
      (running : now.sweep = some sweep) (unsettled : ∀ failure, sweep.refresh ≠ .settled failure) :
      SupervisionStep now (.sweepRefreshLost detail) { now with
        reads := match sweep.refresh with
          | .read version => version :: now.reads
          | _ => now.reads
        sweep := some { sweep with refresh := .settled (some detail) } }
  -- `enforce_pauses_with`: one binding after the other, each once
  | visit (sweep : Sweep dec.Decimal) (running : now.sweep = some sweep) (failure : Option String)
      (refreshed : sweep.refresh = .settled failure) (idle : sweep.work = none)
      (bound : PairingBinding) (todo : List PairingBinding) (next : sweep.todo = bound :: todo)
      (new : bound ∉ sweep.seen) :
      SupervisionStep now (.visit bound)
        { now with sweep := some { sweep with
            todo, seen := bound :: sweep.seen, work := some ⟨bound, .due⟩ } }
  | skip (sweep : Sweep dec.Decimal) (running : now.sweep = some sweep) (failure : Option String)
      (refreshed : sweep.refresh = .settled failure) (idle : sweep.work = none)
      (bound : PairingBinding) (todo : List PairingBinding) (next : sweep.todo = bound :: todo)
      (old : bound ∈ sweep.seen) :
      SupervisionStep now (.skip bound) { now with sweep := some { sweep with todo } }
  -- `runtime_cancellation_needed`: the engine says so, or the pilot's status does
  | needed (sweep : Sweep dec.Decimal) (bound : PairingBinding) (stage next : Stage)
      (working : now.Working sweep bound stage) (asks : stage.needed = some next) (pilot : Bool)
      (stopped : now.engine.cancellationNeeded bound.agent = true ∨ pilot = true) :
      SupervisionStep now (.needed bound) { now with sweep := some (sweep.at bound next) }
  | unneeded (sweep : Sweep dec.Decimal) (bound : PairingBinding) (stage next : Stage)
      (working : now.Working sweep bound stage) (asks : stage.needed = some next)
      (released : now.engine.cancellationNeeded bound.agent = false) :
      SupervisionStep now (.unneeded bound)
        { now with sweep := some { sweep with work := none } }
  -- `cancel_all_with`
  | lock (sweep : Sweep dec.Decimal) (bound : PairingBinding)
      (working : now.Working sweep bound .queued) (free : bound.account ∉ now.held) :
      SupervisionStep now (.lock bound) { now with sweep := some (sweep.at bound .locked) }
  | route (sweep : Sweep dec.Decimal) (bound : PairingBinding)
      (working : now.Working sweep bound .locked) :
      SupervisionStep now (.route bound) { now with sweep := some (sweep.at bound .routed) }
  | readNone (sweep : Sweep dec.Decimal) (bound : PairingBinding)
      (working : now.Working sweep bound .reading) :
      SupervisionStep now (.readOrders bound [])
        { now with sweep := some { sweep with work := none } }
  | readOrders (sweep : Sweep dec.Decimal) (bound : PairingBinding)
      (working : now.Working sweep bound .reading) (orders : List OpenOrder) (assets : Universe)
      (resting : orders ≠ []) (wires : List CancelWire)
      (listed : cancelWires assets orders = some wires) :
      SupervisionStep now (.readOrders bound orders)
        { now with sweep := some (sweep.at bound (.clearing orders wires)) }
  | clear (sweep : Sweep dec.Decimal) (bound : PairingBinding) (orders : List OpenOrder)
      (wires : List CancelWire) (working : now.Working sweep bound (.clearing orders wires)) :
      SupervisionStep now (.clear bound)
        { now with sweep := some (sweep.at bound (.cleared orders wires)) }
  | post (sweep : Sweep dec.Decimal) (bound : PairingBinding) (orders : List OpenOrder)
      (wires : List CancelWire) (working : now.Working sweep bound (.posting orders wires)) :
      SupervisionStep now (.post bound wires)
        { now with sweep := some (sweep.at bound (.posted orders wires)) }
  | answered (sweep : Sweep dec.Decimal) (bound : PairingBinding) (orders : List OpenOrder)
      (wires : List CancelWire) (working : now.Working sweep bound (.posted orders wires))
      (response : ExchangeResponse dec.Decimal) (complete : response.complete orders.length) :
      SupervisionStep now (.answered bound response)
        { now with sweep := some { sweep with work := none } }
  -- an error on the way, an incomplete cancellation, or the timeout of the binding; a worker
  -- left behind keeps the account until it ends
  | fail (sweep : Sweep dec.Decimal) (bound : PairingBinding) (stage : Stage)
      (working : now.Working sweep bound stage) (detail : String) (retained : Bool) :
      SupervisionStep now (.fail bound detail retained) { now with
        held := if retained && stage.holds then bound.account :: now.held else now.held
        sweep := some { sweep with
          work := none, failure := some (sweep.failure.getD detail) } }
  -- `finish_supervision`
  | finish (sweep : Sweep dec.Decimal) (running : now.sweep = some sweep) (failure : Option String)
      (refreshed : sweep.refresh = .settled failure) (idle : sweep.work = none)
      (done : sweep.todo = []) (atMs : Option Nat) :
      SupervisionStep now (.finish atMs) { now with
        status := now.status.finished sweep.sequence atMs (sweep.failure.or failure)
        sweep := none }
  -- the shutdown drops the sweep with the loop
  | abandon : SupervisionStep now .abandon { now with alive := false, sweep := none }

end Acting

end Oppen.Mcp
