import Oppen.Mcp.Tokens

/-! # A listener

Whatever a listener admits holds a receiver of its execution channel. Work asks again before
it signs, and serving ends when the server and the supervisor have ended and no receiver is
left.
-/

namespace Oppen.Mcp

open Foundation Oppen.Json Oppen.Guardrail Oppen.Ledger

/-! ## Registrations -/

/-- `ExecutionOwner`. A session's owner also holds the cancellation token of its tool call. -/
inductive ExecutionOwner where
  | session (authority : SessionAuthority) (call : Nat)
  | native (authority : SessionAuthority)
  | supervision
  deriving DecidableEq

def ExecutionOwner.authority : ExecutionOwner → Option SessionAuthority
  | .session authority _ => some authority
  | .native authority => some authority
  | .supervision => none

/-- The flags `OperatorControl::admit` has read so far, in its order. -/
inductive AdmitStage where
  | subscribed
  | started
  | unclosed
  | live
  deriving DecidableEq

/-- What holds a receiver: the handler of a session, a tool call, an admission under way, or
an execution tracker. -/
inductive Holder where
  | handler
  | call (authority : SessionAuthority)
  | admitting (binding : PairingBinding) (pinned : Option SessionAuthority) (stage : AdmitStage)
  | tracker (owner : ExecutionOwner)
  deriving DecidableEq

/-- A receiver of the execution channel. A tool call goes by the id of its first one. -/
structure Registration where
  id : Nat
  holder : Holder
  deriving DecidableEq

/-! ## Signing admissions -/

/-- How far a `signing_admission` is: the pairing is checked under its lock, then one flag is
read, then the other. -/
inductive SigningStage where
  | authorised
  | running
  | granted
  deriving DecidableEq

/-- A `signing_admission` of a tracker; it holds the read lock of the pairings until it is
dropped. `final` is the later admission that passed after the waits of the signer. -/
structure SigningAdmission where
  id : Nat
  tracker : Nat
  owner : ExecutionOwner
  stage : SigningStage
  final : Option Nat
  deriving DecidableEq

/-- What a granted admission is held through. -/
inductive Use where
  | signature
  | dispatch
  | acknowledgment
  deriving DecidableEq

/-! ## The listener -/

/-- The lock of the pairings, the readers apart. -/
inductive PairingLock where
  | free
  | writing
  | poisoned
  deriving DecidableEq

/-- Where `BoundServer::serve` is: `ending` once `supervise_and_drain` saw one of its two
tasks end, `drained` past `execution.closed()`, `left` once the future is gone. -/
inductive ServePhase where
  | bound
  | serving
  | ending
  | drained
  | left
  deriving DecidableEq

/-- The bound server with what it counts: its receivers, the signing admissions under way, and the
calls that entered a tool. -/
structure Listener where
  gateway : Gateway
  lock : PairingLock
  phase : ServePhase
  started : Bool
  closed : Bool
  shutdown : Bool
  server : Bool
  supervisor : Bool
  registrations : List Registration
  admissions : List SigningAdmission
  entered : List Nat
  cancelled : List Nat
  next : Nat

/-- `BoundServer::bind`. -/
def Listener.bind (gateway : Gateway) : Listener :=
  ⟨gateway, .free, .bound, false, false, false, true, true, [], [], [], [], 0⟩

/-- What happens at the listener: its shutdown in stages, the calls and the native work on it, and
the pairings in the journal. -/
inductive ListenerAct (dec : Decimals) where
  | serve
  | interrupt
  | serverEnds
  | supervisorEnds
  | notice
  | drain
  | leave
  | close
  | lock
  | unlock (poisoned : Bool)
  | issue (binding : PairingBinding) (met : Circumstances)
  | revoke (id : PairingId) (met : Circumstances)
  | authenticate (presented : String)
  | other (request : Request dec)
  | handler
  | call (authority : SessionAuthority)
  | track (call : Nat)
  | enter (call : Nat)
  | cancel (call : Nat)
  | admitted (binding : PairingBinding) (pinned : Option SessionAuthority)
  | look (admission : Nat)
  | work (admission : Nat)
  | sweep
  | clone (tracker : Nat)
  | release (registration : Nat)
  | ask (tracker : Nat) (binding : PairingBinding)
  | check (admission : Nat)
  | confirm (held last : Nat)
  | letGo (admission : Nat)
  | use (admission : Nat) (what : Use)
  | cleanup (tracker : Nat) (what : Use)

namespace Listener

variable (listener : Listener)

/-- A receiver more. -/
def register (holder : Holder) : Listener :=
  { listener with
    registrations := listener.registrations ++ [⟨listener.next, holder⟩]
    next := listener.next + 1 }

/-- What a registration holds from now on. -/
def hold (id : Nat) (holder : Holder) : Listener :=
  { listener with registrations := listener.registrations.map fun registration =>
      if registration.id = id then ⟨id, holder⟩ else registration }

/-- Drop a receiver. The drop guard of a tool call cancels its token. -/
def dropped (registration : Registration) : Listener :=
  { listener with
    registrations := listener.registrations.erase registration
    cancelled := match registration.holder with
      | .call _ => registration.id :: listener.cancelled
      | _ => listener.cancelled }

/-- What a signing admission becomes. -/
def advance (admission next : SigningAdmission) : Listener :=
  { listener with admissions := listener.admissions.map fun other =>
      if other.id = admission.id then next else other }

/-- The store of the pairings accepts an authority. -/
def Accepts (authority : SessionAuthority) : Prop :=
  ∃ tokens ∈ listener.gateway.tokens, tokens.checkAuthority authority = .ok ()

/-- `SessionAuthority::closed` would return: the signal is set, or nobody can set it. -/
def Ended (authority : SessionAuthority) : Prop :=
  ∀ tokens ∈ listener.gateway.tokens, ∀ record ∈ tokens.get authority.id, record.revoked = true

/-- The first flag a `signing_admission` reads: closure for native work, the shutdown for a
session. The supervisor's tracker is refused before any. -/
def firstFlag : ExecutionOwner → Bool
  | .session _ _ => listener.shutdown
  | .native _ => listener.closed
  | .supervision => true

def secondFlag : ExecutionOwner → Bool
  | .session _ call => listener.cancelled.contains call
  | .native _ => listener.shutdown
  | .supervision => true

/-- The owner may ask for the binding: a session for its own, once its call has entered. -/
def MayAsk (binding : PairingBinding) : ExecutionOwner → Prop
  | .session authority call => authority.binding = binding ∧ call ∈ listener.entered
  | .native _ => True
  | .supervision => False

end Listener

section Acting

variable {dec : Decimals} (journal : PairingJournal) (digestOf : String → TokenDigest)

/-- One step of the listener, of the process around it or of another process on its ledger. -/
inductive ListenerStep (listener : Listener) : ListenerAct dec → Listener → Prop
  -- `OperatorControl::start`, and what it refuses
  | serve (bound : listener.phase = .bound) (unclosed : listener.closed = false)
      (first : listener.started = false) :
      ListenerStep listener .serve { listener with phase := .serving, started := true }
  | refused (bound : listener.phase = .bound) :
      ListenerStep listener .serve { listener with phase := .left }
  -- the token `serve` was given
  | interrupt (running : listener.phase = .serving ∨ listener.phase = .ending) :
      ListenerStep listener .interrupt { listener with closed := true, shutdown := true }
  | serverEnds (running : listener.phase = .serving ∨ listener.phase = .ending)
      (alive : listener.server = true) :
      ListenerStep listener .serverEnds { listener with server := false, shutdown := true }
  | supervisorEnds (running : listener.phase = .serving ∨ listener.phase = .ending)
      (alive : listener.supervisor = true) :
      ListenerStep listener .supervisorEnds { listener with supervisor := false }
  | notice (running : listener.phase = .serving)
      (ended : listener.server = false ∨ listener.supervisor = false) :
      ListenerStep listener .notice { listener with phase := .ending, shutdown := true }
  -- `execution.closed()`
  | drain (ending : listener.phase = .ending) (server : listener.server = false)
      (supervisor : listener.supervisor = false) (empty : listener.registrations = []) :
      ListenerStep listener .drain { listener with phase := .drained }
  -- the future returns or is dropped, and with it the guards
  | leave (begun : listener.phase = .serving ∨ listener.phase = .ending ∨
        listener.phase = .drained) :
      ListenerStep listener .leave
        { listener with phase := .left, closed := true, shutdown := true }
  | close : ListenerStep listener .close { listener with closed := true }
  | lock (free : listener.lock = .free) (unread : listener.admissions = []) :
      ListenerStep listener .lock { listener with lock := .writing }
  | unlock (poisoned : Bool) (writing : listener.lock = .writing) :
      ListenerStep listener (.unlock poisoned)
        { listener with lock := if poisoned then .poisoned else .free }
  | issue (binding : PairingBinding) (met : Circumstances) (writing : listener.lock = .writing) :
      ListenerStep listener (.issue binding met) { listener with
        gateway := listener.gateway.perform journal digestOf
          (.issue binding met : TokenAct dec) }
  | revoke (id : PairingId) (met : Circumstances) (writing : listener.lock = .writing) :
      ListenerStep listener (.revoke id met) { listener with
        gateway := listener.gateway.perform journal digestOf (.revoke id met : TokenAct dec) }
  | authenticate (presented : String) (free : listener.lock = .free) :
      ListenerStep listener (.authenticate presented) { listener with
        gateway := listener.gateway.perform journal digestOf
          (.authenticate presented : TokenAct dec) }
  | other (request : Request dec)
      (spares : request.call.sparesRows pairingFormat listener.gateway.ledger.db = true) :
      ListenerStep listener (.other request) { listener with
        gateway := listener.gateway.perform journal digestOf (.other request) }
  | handler : ListenerStep listener .handler (listener.register .handler)
  -- `ShutdownHandler::call_tool`
  | call (authority : SessionAuthority) (known : authority ∈ listener.gateway.sessions) :
      ListenerStep listener (.call authority) (listener.register (.call authority))
  | track (authority : SessionAuthority) (call : Nat)
      (registered : ⟨call, .call authority⟩ ∈ listener.registrations) :
      ListenerStep listener (.track call)
        (listener.register (.tracker (.session authority call)))
  | enter (authority : SessionAuthority) (call : Nat)
      (registered : ⟨call, .call authority⟩ ∈ listener.registrations)
      (unrevoked : ¬ listener.Ended authority) (running : listener.shutdown = false)
      (wanted : call ∉ listener.cancelled) :
      ListenerStep listener (.enter call) { listener with entered := call :: listener.entered }
  | cancel (call : Nat) :
      ListenerStep listener (.cancel call)
        { listener with cancelled := call :: listener.cancelled }
  -- `OperatorControl::admit`
  | admitted (binding : PairingBinding) (pinned : Option SessionAuthority) :
      ListenerStep listener (.admitted binding pinned)
        (listener.register (.admitting binding pinned .subscribed))
  | lookStarted (id : Nat) (binding : PairingBinding) (pinned : Option SessionAuthority)
      (here : ⟨id, .admitting binding pinned .subscribed⟩ ∈ listener.registrations)
      (passes : listener.started = true) :
      ListenerStep listener (.look id) (listener.hold id (.admitting binding pinned .started))
  | lookClosed (id : Nat) (binding : PairingBinding) (pinned : Option SessionAuthority)
      (here : ⟨id, .admitting binding pinned .started⟩ ∈ listener.registrations)
      (passes : listener.closed = false) :
      ListenerStep listener (.look id) (listener.hold id (.admitting binding pinned .unclosed))
  | lookShutdown (id : Nat) (binding : PairingBinding) (pinned : Option SessionAuthority)
      (here : ⟨id, .admitting binding pinned .unclosed⟩ ∈ listener.registrations)
      (passes : listener.shutdown = false) :
      ListenerStep listener (.look id) (listener.hold id (.admitting binding pinned .live))
  | workPinned (id : Nat) (authority : SessionAuthority)
      (here : ⟨id, .admitting authority.binding (some authority) .live⟩ ∈ listener.registrations)
      (free : listener.lock = .free) (accepted : listener.Accepts authority) :
      ListenerStep listener (.work id) (listener.hold id (.tracker (.native authority)))
  | workFresh (id : Nat) (binding : PairingBinding) (tokens : TokenStore)
      (authority : SessionAuthority)
      (here : ⟨id, .admitting binding none .live⟩ ∈ listener.registrations)
      (free : listener.lock = .free) (live : tokens ∈ listener.gateway.tokens)
      (found : tokens.operatorAuthority binding = .ok authority) :
      ListenerStep listener (.work id) (listener.hold id (.tracker (.native authority)))
  -- the supervisor's sweep
  | sweep (alive : listener.supervisor = true) (free : listener.lock = .free) :
      ListenerStep listener .sweep (listener.register (.tracker .supervision))
  | clone (id : Nat) (owner : ExecutionOwner)
      (here : ⟨id, .tracker owner⟩ ∈ listener.registrations) :
      ListenerStep listener (.clone id) (listener.register (.tracker owner))
  -- an admission borrows its tracker
  | release (registration : Registration) (here : registration ∈ listener.registrations)
      (unborrowed : ∀ admission ∈ listener.admissions, admission.tracker ≠ registration.id) :
      ListenerStep listener (.release registration.id) (listener.dropped registration)
  -- `signing_admission`
  | ask (id : Nat) (binding : PairingBinding) (owner : ExecutionOwner)
      (authority : SessionAuthority) (here : ⟨id, .tracker owner⟩ ∈ listener.registrations)
      (free : listener.lock = .free) (owned : owner.authority = some authority)
      (may : listener.MayAsk binding owner) (accepted : listener.Accepts authority) :
      ListenerStep listener (.ask id binding) { listener with
        admissions := listener.admissions ++ [⟨listener.next, id, owner, .authorised, none⟩]
        next := listener.next + 1 }
  | checkFirst (admission : SigningAdmission) (here : admission ∈ listener.admissions)
      (stage : admission.stage = .authorised)
      (passes : listener.firstFlag admission.owner = false) :
      ListenerStep listener (.check admission.id)
        (listener.advance admission { admission with stage := .running })
  | checkSecond (admission : SigningAdmission) (here : admission ∈ listener.admissions)
      (stage : admission.stage = .running)
      (passes : listener.secondFlag admission.owner = false) :
      ListenerStep listener (.check admission.id)
        (listener.advance admission { admission with stage := .granted })
  | letGo (admission : SigningAdmission) (here : admission ∈ listener.admissions) :
      ListenerStep listener (.letGo admission.id)
        { listener with admissions := listener.admissions.erase admission }
  -- the signer's last check, after its waits; only the first admission is kept
  | confirm (held last : SigningAdmission) (here : held ∈ listener.admissions)
      (there : last ∈ listener.admissions) (granted : held.stage = .granted)
      (passed : last.stage = .granted) (same : last.tracker = held.tracker)
      (later : held.id < last.id) :
      ListenerStep listener (.confirm held.id last.id)
        (({ listener with admissions := listener.admissions.erase last } : Listener).advance held
          { held with final := some last.id })
  | use (held : SigningAdmission) (what : Use) (here : held ∈ listener.admissions)
      (granted : held.stage = .granted)
      (final : what = .acknowledgment ∨ held.final.isSome = true) :
      ListenerStep listener (.use held.id what)
        (listener.advance held { held with final := none })
  -- the supervisor's own cancels are signed without an admission
  | cleanup (id : Nat) (what : Use)
      (here : ⟨id, .tracker .supervision⟩ ∈ listener.registrations) :
      ListenerStep listener (.cleanup id what) listener

end Acting

end Oppen.Mcp
