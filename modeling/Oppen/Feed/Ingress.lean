import Oppen.Foundation.Run
import Oppen.Feed.Event

/-! # Ingress between receipt and consumption

The monitor counts the envelopes that are not settled, and admits a signer only when no
account envelope is among them. Its lock makes every call one step; a call that waits for
admitted work is a step that is enabled only once no admission is held.
-/

namespace Oppen.Feed

open Foundation Oppen.Reconcile

inductive IngressError where
  | failed
  | pending
  | changed
  | closed
  deriving DecidableEq, Repr

/-- The state under the monitor's lock, and whether a holder of the lock panicked. An
observation is the identity of the last account send. -/
structure Monitor where
  epoch : Nat
  pending : Nat
  outstanding : Nat
  failed : Bool
  completed : Bool
  admitted : Nat
  poisoned : Bool
  deriving DecidableEq, Repr

def Monitor.new : Monitor := ⟨0, 0, 0, false, false, 0, false⟩

/-- `status().failure.is_some()`. -/
def Monitor.hasFailed (monitor : Monitor) : Bool := monitor.failed || monitor.poisoned

/-- `admit`. -/
def Monitor.admission (monitor : Monitor) (observation : Nat) : Except IngressError Monitor :=
  if monitor.poisoned = true then .error .failed
  else if monitor.failed = true then .error .failed
  else if monitor.completed = true then .error .closed
  else if monitor.pending ≠ 0 then .error .pending
  else if monitor.epoch ≠ observation then .error .changed
  else .ok { monitor with admitted := monitor.admitted + 1 }

/-- The drop of an admission guard. -/
def Monitor.release (monitor : Monitor) (panicking : Bool) : Monitor :=
  { monitor with
    admitted := monitor.admitted - 1, failed := monitor.failed || panicking }

/-- The registration of a send, before it waits for admitted work. -/
def Monitor.register (monitor : Monitor) (account : Bool) : Monitor :=
  if account then
    { monitor with
      outstanding := monitor.outstanding + 1, pending := monitor.pending + 1
      epoch := monitor.epoch + 1 }
  else { monitor with outstanding := monitor.outstanding + 1 }

/-- The drop of an obligation. -/
def Monitor.settle (monitor : Monitor) (account acknowledged : Bool) : Monitor :=
  { monitor with
    failed := monitor.failed || !acknowledged, outstanding := monitor.outstanding - 1
    pending := if account then monitor.pending - 1 else monitor.pending }

/-- The decision of `EventReceiver::complete`. -/
def Monitor.complete (monitor : Monitor) (eof : Bool) (senders : Nat) :
    Except IngressError Monitor :=
  if monitor.hasFailed = true then .error .failed
  else if eof = false ∨ monitor.outstanding ≠ 0 ∨ senders ≠ 0 then .error .closed
  else .ok { monitor with completed := true }

/-- `replacement_eligible`. -/
def Monitor.replacementEligible (monitor : Monitor) : Bool :=
  !monitor.poisoned && monitor.completed && !monitor.failed && monitor.outstanding = 0

/-- Where an envelope is: its send waits for admitted work, a future holds it, it is in
the channel, the consumer holds it, its obligation is being dropped, or was. -/
inductive Place where
  | waiting
  | sending
  | queued
  | received
  | settling (acknowledged : Bool)
  | settled (acknowledged : Bool)
  deriving DecidableEq, Repr

def Place.isSettled : Place → Bool
  | .settled _ => true
  | _ => false

/-- An envelope from the moment its send registered. -/
structure Envelope (dec : Quotients) where
  event : WsEvent dec
  receivedAtMs : Nat
  place : Place

/-- What became of the receiver. -/
inductive Receiver where
  | live
  /-- `complete` refused it and it is being dropped. -/
  | dropping
  | dropped
  | completed
  deriving DecidableEq, Repr

/-- The channel with everything that uses it: the envelopes in the order their sends
began, the admission guards held, and the ends of the channel. -/
structure Ingress (dec : Quotients) where
  monitor : Monitor
  envelopes : List (Envelope dec)
  guards : Nat
  senders : Nat
  receiver : Receiver
  closed : Bool
  eof : Bool

/-- `event_channel`. -/
def Ingress.new (dec : Quotients) : Ingress dec := ⟨.new, [], 0, 1, .live, false, false⟩

/-- What happens at the channel. A send is split where its future may be dropped. -/
inductive Act (dec : Quotients) where
  | send (event : WsEvent dec) (receivedAtMs : Nat)
  /-- A send on a completed monitor. -/
  | refuse (event : WsEvent dec)
  | proceed (index : Nat)
  | poll (index : Nat)
  | discard (index : Nat)
  | recv (index : Nat)
  | recvEnd
  | acknowledge (index : Nat)
  | settle (index : Nat) (acknowledged : Bool)
  | admission (observation : Nat)
  | release (panicking : Bool)
  | close
  | complete
  | completeRefused
  | dropReceiver
  | cloneSender
  | dropSender
  | poison

/-- An envelope left unacknowledged, a send nobody will receive, or a panic. -/
def Act.abandons {dec : Quotients} : Act dec → Bool
  | .settle _ false | .refuse _ | .release true | .dropReceiver | .poison => true
  | _ => false

section Ingress

variable {dec : Quotients}

/-- The envelope at an index, at this place. -/
def Ingress.HasAt (state : Ingress dec) (index : Nat) (envelope : Envelope dec) (place : Place) :
    Prop :=
  state.envelopes[index]? = some envelope ∧ envelope.place = place

/-- The envelope at an index moved to a place. -/
def Ingress.move (state : Ingress dec) (index : Nat) (envelope : Envelope dec) (place : Place) :
    Ingress dec :=
  { state with envelopes := state.envelopes.set index { envelope with place := place } }

/-- Who may let go of an envelope: a future that is dropped or whose send fails, the
consumer, and the channel once its receiver is gone. -/
def Ingress.MayDiscard (state : Ingress dec) : Place → Prop
  | .sending | .received => True
  | .queued => state.receiver = .dropped ∨ state.receiver = .completed
  | _ => False

/-- One step. Which of the queued envelopes comes first is left open. Senders, the receiver and
whoever holds a guard interleave as they like. -/
inductive IngressStep : Ingress dec → Act dec → Ingress dec → Prop
  | send {state : Ingress dec} {event : WsEvent dec} {receivedAtMs : Nat}
      (sender : 0 < state.senders) (isOpen : state.monitor.completed = false) :
      IngressStep state (.send event receivedAtMs)
        { state with
          monitor := state.monitor.register event.isAccount
          envelopes := state.envelopes ++ [⟨event, receivedAtMs, .waiting⟩] }
  | refuse {state : Ingress dec} {event : WsEvent dec} (sender : 0 < state.senders)
      (done : state.monitor.completed = true) :
      IngressStep state (.refuse event)
        { state with monitor := { state.monitor with failed := true } }
  | proceed {state : Ingress dec} {index : Nat} {envelope : Envelope dec}
      (held : state.HasAt index envelope .waiting) (idle : state.monitor.admitted = 0) :
      IngressStep state (.proceed index) (state.move index envelope .sending)
  | poll {state : Ingress dec} {index : Nat} {envelope : Envelope dec}
      (held : state.HasAt index envelope .sending) (receiving : state.receiver = .live)
      (isOpen : state.closed = false) :
      IngressStep state (.poll index) (state.move index envelope .queued)
  | discard {state : Ingress dec} {index : Nat} {envelope : Envelope dec} {place : Place}
      (held : state.HasAt index envelope place) (permitted : state.MayDiscard place) :
      IngressStep state (.discard index) (state.move index envelope (.settling false))
  | recv {state : Ingress dec} {index : Nat} {envelope : Envelope dec}
      (held : state.HasAt index envelope .queued) (receiving : state.receiver = .live) :
      IngressStep state (.recv index) (state.move index envelope .received)
  | recvEnd {state : Ingress dec} (receiving : state.receiver = .live)
      (empty : ∀ envelope ∈ state.envelopes, envelope.place ≠ .queued)
      (ended : state.closed = true ∨ state.senders = 0) :
      IngressStep state .recvEnd { state with eof := true }
  | acknowledge {state : Ingress dec} {index : Nat} {envelope : Envelope dec}
      (held : state.HasAt index envelope .received) :
      IngressStep state (.acknowledge index) (state.move index envelope (.settling true))
  | settle {state : Ingress dec} {index : Nat} {envelope : Envelope dec} {acknowledged : Bool}
      (held : state.HasAt index envelope (.settling acknowledged))
      (idle : state.monitor.admitted = 0) :
      IngressStep state (.settle index acknowledged)
        { state.move index envelope (.settled acknowledged) with
          monitor := state.monitor.settle envelope.event.isAccount acknowledged }
  | admission {state : Ingress dec} {observation : Nat} {monitor : Monitor}
      (admitted : state.monitor.admission observation = .ok monitor) :
      IngressStep state (.admission observation)
        { state with monitor := monitor, guards := state.guards + 1 }
  | release {state : Ingress dec} {panicking : Bool} (held : 0 < state.guards) :
      IngressStep state (.release panicking)
        { state with monitor := state.monitor.release panicking, guards := state.guards - 1 }
  | close {state : Ingress dec} (receiving : state.receiver = .live) :
      IngressStep state .close { state with closed := true }
  | complete {state : Ingress dec} {monitor : Monitor} (receiving : state.receiver = .live)
      (idle : state.monitor.admitted = 0)
      (done : state.monitor.complete state.eof state.senders = .ok monitor) :
      IngressStep state .complete
        { state with monitor := monitor, receiver := .completed, closed := true }
  | completeRefused {state : Ingress dec} {error : IngressError}
      (receiving : state.receiver = .live) (idle : state.monitor.admitted = 0)
      (refused : state.monitor.complete state.eof state.senders = .error error) :
      IngressStep state .completeRefused { state with receiver := .dropping }
  | dropReceiver {state : Ingress dec}
      (receiving : state.receiver = .live ∨ state.receiver = .dropping)
      (idle : state.monitor.admitted = 0) :
      IngressStep state .dropReceiver
        { state with
          monitor := { state.monitor with failed := true }
          receiver := .dropped, closed := true }
  | cloneSender {state : Ingress dec} (sender : 0 < state.senders) :
      IngressStep state .cloneSender { state with senders := state.senders + 1 }
  | dropSender {state : Ingress dec} (sender : 0 < state.senders) :
      IngressStep state .dropSender { state with senders := state.senders - 1 }
  | poison {state : Ingress dec} :
      IngressStep state .poison
        { state with monitor := { state.monitor with poisoned := true } }

/-! ## The books -/

/-- An envelope whose obligation was not dropped yet. -/
def Envelope.isLive (envelope : Envelope dec) : Bool := !envelope.place.isSettled

/-- A live envelope an admission waits for. -/
def Envelope.isPending (envelope : Envelope dec) : Bool :=
  envelope.event.isAccount && envelope.isLive

/-- The counters are the numbers of live envelopes, of those an admission waits for and
of guards, and while a guard is held no account envelope has left its send. -/
structure Booked (state : Ingress dec) : Prop where
  outstanding : state.monitor.outstanding = state.envelopes.countP Envelope.isLive
  pending : state.monitor.pending = state.envelopes.countP Envelope.isPending
  guards : state.monitor.admitted = state.guards
  guarded : 0 < state.guards → ∀ envelope ∈ state.envelopes, envelope.isPending = true →
    envelope.place = .waiting
  lost : ∀ envelope ∈ state.envelopes, envelope.place = .settled false →
    state.monitor.failed = true

/-- A new channel is booked: nothing was sent on it. -/
theorem Booked.start : Booked (Ingress.new dec) :=
  ⟨rfl, rfl, rfl, nofun, nofun⟩

variable {state after : Ingress dec} {index : Nat} {envelope : Envelope dec}
  {place place' : Place}

theorem Ingress.HasAt.mem (held : state.HasAt index envelope place) :
    envelope ∈ state.envelopes :=
  List.mem_of_getElem? held.1

/-- What a count gains and loses when an envelope moves. -/
theorem countP_move (counted : Envelope dec → Bool) (held : state.HasAt index envelope place)
    (place' : Place) :
    (state.move index envelope place').envelopes.countP counted =
      state.envelopes.countP counted - (if counted envelope then 1 else 0) +
        (if counted { envelope with place := place' } then 1 else 0) := by
  obtain ⟨bound, here⟩ := List.getElem?_eq_some_iff.mp held.1
  rw [Ingress.move, List.countP_set bound, here]

/-- Moving an envelope to another place adds no envelope. -/
theorem mem_move {moved : Envelope dec}
    (member : moved ∈ (state.move index envelope place').envelopes) :
    moved ∈ state.envelopes ∨ moved = { envelope with place := place' } :=
  List.mem_or_eq_of_mem_set member

/-- An envelope that counts is counted. -/
theorem countP_pos_of_held {counted : Envelope dec → Bool}
    (held : state.HasAt index envelope place) (counts : counted envelope = true) :
    0 < state.envelopes.countP counted :=
  List.countP_pos_iff.mpr ⟨envelope, held.mem, counts⟩

/-- Moving a live envelope keeps the books; it leaves its send only while no guard is held. -/
theorem Booked.move (booked : Booked state) (held : state.HasAt index envelope place)
    (live : place.isSettled = false) (live' : place'.isSettled = false)
    (free : place = .waiting → state.guards = 0) : Booked (state.move index envelope place') where
  outstanding := by
    have counted : envelope.isLive = true := by
      rw [Envelope.isLive, held.2, live]
      rfl
    have counted' : ({ envelope with place := place' } : Envelope dec).isLive = true := by
      rw [Envelope.isLive, live']
      rfl
    have nonempty := countP_pos_of_held held counted
    rw [countP_move _ held, counted, counted', if_pos rfl, ← booked.outstanding]
    have := booked.outstanding
    change state.monitor.outstanding = _
    omega
  pending := by
    have same : ({ envelope with place := place' } : Envelope dec).isPending =
        envelope.isPending := by
      simp only [Envelope.isPending, Envelope.isLive, held.2, live, live']
    rw [countP_move _ held, same, ← booked.pending]
    change state.monitor.pending = _
    by_cases counts : envelope.isPending = true
    · have nonempty := countP_pos_of_held held counts
      rw [← booked.pending] at nonempty
      rw [if_pos counts]
      omega
    · rw [if_neg counts]
      rfl
  guards := booked.guards
  guarded guarded moved member counts := by
    rcases mem_move member with older | rfl
    · exact booked.guarded guarded moved older counts
    · have before : envelope.isPending = true := by
        simpa only [Envelope.isPending, Envelope.isLive, held.2, live, live'] using counts
      have waiting := booked.guarded guarded envelope held.mem before
      change 0 < state.guards at guarded
      rw [free (held.2.symm.trans waiting)] at guarded
      exact absurd guarded (Nat.lt_irrefl 0)
  lost moved member settled := by
    rcases mem_move member with older | rfl
    · exact booked.lost moved older settled
    · change place' = _ at settled
      rw [settled] at live'
      cases live'

/-- What the books say of a monitor that only failed. -/
theorem Booked.failed (booked : Booked state) {monitor : Monitor}
    (same : monitor.outstanding = state.monitor.outstanding ∧
      monitor.pending = state.monitor.pending ∧ monitor.admitted = state.monitor.admitted)
    (sticky : state.monitor.failed = true → monitor.failed = true) :
    Booked { state with monitor := monitor } where
  outstanding := same.1.trans booked.outstanding
  pending := same.2.1.trans booked.pending
  guards := same.2.2.trans booked.guards
  guarded := booked.guarded
  lost envelope member settled := sticky (booked.lost envelope member settled)

/-- An admission is given by a sound monitor without pending envelopes, at the epoch that was
observed. -/
theorem admit_ok {monitor next : Monitor} {observation : Nat}
    (admitted : monitor.admission observation = .ok next) :
    monitor.hasFailed = false ∧ monitor.completed = false ∧ monitor.pending = 0 ∧
      monitor.epoch = observation ∧ next = { monitor with admitted := monitor.admitted + 1 } := by
  unfold Monitor.admission at admitted
  split at admitted
  · cases admitted
  · split at admitted
    · cases admitted
    · split at admitted
      · cases admitted
      · split at admitted
        · cases admitted
        · split at admitted
          · cases admitted
          · rename_i whole sound isOpen drained current
            cases admitted
            simp only [Bool.not_eq_true] at whole sound isOpen
            exact ⟨by rw [Monitor.hasFailed, sound, whole]; rfl, isOpen, not_not.mp drained,
              not_not.mp current, rfl⟩

/-- Completion needs the end of the channel, no sender, no open obligation and no failure. -/
theorem complete_ok {monitor next : Monitor} {eof : Bool} {senders : Nat}
    (done : monitor.complete eof senders = .ok next) :
    monitor.hasFailed = false ∧ eof = true ∧ monitor.outstanding = 0 ∧ senders = 0 ∧
      next = { monitor with completed := true } := by
  unfold Monitor.complete at done
  split at done
  · cases done
  · split at done
    · cases done
    · rename_i sound drained
      cases done
      simp only [not_or, Bool.not_eq_false, not_not] at drained
      exact ⟨Bool.not_eq_true _ ▸ sound, drained.1, drained.2.1, drained.2.2, rfl⟩

/-- Registering a send books its envelope. -/
theorem Booked.send (booked : Booked state) (event : WsEvent dec) (receivedAtMs : Nat) :
    Booked { state with
      monitor := state.monitor.register event.isAccount
      envelopes := state.envelopes ++ [⟨event, receivedAtMs, .waiting⟩] } where
  outstanding := by
    have one : (state.monitor.register event.isAccount).outstanding =
        state.monitor.outstanding + 1 := by
      unfold Monitor.register
      split <;> rfl
    rw [one, booked.outstanding, List.countP_append]
    rfl
  pending := by
    rw [List.countP_append, ← booked.pending]
    cases account : event.isAccount with
    | false =>
        have none : (⟨event, receivedAtMs, .waiting⟩ : Envelope dec).isPending = false := by
          rw [Envelope.isPending, account, Bool.false_and]
        rw [List.countP_singleton, none]
        rfl
    | true =>
        have one : (⟨event, receivedAtMs, .waiting⟩ : Envelope dec).isPending = true := by
          rw [Envelope.isPending, account]
          rfl
        rw [List.countP_singleton, one]
        rfl
  guards := by
    have same : (state.monitor.register event.isAccount).admitted = state.monitor.admitted := by
      unfold Monitor.register
      split <;> rfl
    exact same.trans booked.guards
  guarded guarded envelope member counts := by
    rcases List.mem_append.mp member with older | last
    · exact booked.guarded guarded envelope older counts
    · rw [List.mem_singleton.mp last]
  lost envelope member settled := by
    have same : (state.monitor.register event.isAccount).failed = state.monitor.failed := by
      unfold Monitor.register
      split <;> rfl
    rcases List.mem_append.mp member with older | last
    · exact same.trans (booked.lost envelope older settled)
    · rw [List.mem_singleton.mp last] at settled
      cases settled

/-- Dropping an obligation takes it off the books. -/
theorem Booked.settle (booked : Booked state) {acknowledged : Bool}
    (held : state.HasAt index envelope (.settling acknowledged)) (idle : state.guards = 0) :
    Booked { state.move index envelope (.settled acknowledged) with
      monitor := state.monitor.settle envelope.event.isAccount acknowledged } where
  outstanding := by
    have counted : envelope.isLive = true := by
      rw [Envelope.isLive, held.2]
      rfl
    have gone :
        ({ envelope with place := .settled acknowledged } : Envelope dec).isLive = false := rfl
    have count := countP_move Envelope.isLive held (.settled acknowledged)
    rw [counted, gone, if_pos rfl, ← booked.outstanding] at count
    exact count.symm
  pending := by
    have gone : ({ envelope with place := .settled acknowledged } : Envelope dec).isPending =
        false := Bool.and_false _
    have counted : envelope.isPending = envelope.event.isAccount := by
      rw [Envelope.isPending, Envelope.isLive, held.2]
      exact Bool.and_true _
    have count := countP_move Envelope.isPending held (.settled acknowledged)
    rw [counted, gone, ← booked.pending] at count
    refine Eq.trans ?_ count.symm
    cases account : envelope.event.isAccount <;> rfl
  guards := booked.guards
  guarded guarded := by
    change 0 < state.guards at guarded
    omega
  lost moved member settled := by
    rcases mem_move member with older | rfl
    · exact (Bool.or_eq_true _ _).mpr (.inl (booked.lost moved older settled))
    · cases settled
      exact Bool.or_true _

/-- **Every step keeps the books.** -/
theorem Booked.step (booked : Booked state) {act : Act dec}
    (step : IngressStep state act after) : Booked after := by
  cases step with
  | send => exact booked.send _ _
  | refuse => exact booked.failed ⟨rfl, rfl, rfl⟩ fun _ => rfl
  | proceed held idle =>
      exact booked.move held rfl rfl fun _ => booked.guards.symm.trans idle
  | poll held => exact booked.move held rfl rfl nofun
  | @discard index envelope place held permitted =>
      cases place with
      | sending => exact booked.move held rfl rfl nofun
      | received => exact booked.move held rfl rfl nofun
      | queued => exact booked.move held rfl rfl nofun
      | waiting => cases permitted
      | settling => cases permitted
      | settled => cases permitted
  | recv held => exact booked.move held rfl rfl nofun
  | recvEnd => exact ⟨booked.1, booked.2, booked.3, booked.4, booked.5⟩
  | acknowledge held => exact booked.move held rfl rfl nofun
  | settle held idle => exact booked.settle held (booked.guards.symm.trans idle)
  | admission admitted =>
      obtain ⟨_, _, drained, _, rfl⟩ := admit_ok admitted
      refine ⟨booked.outstanding, booked.pending, congrArg (· + 1) booked.guards, ?_, booked.lost⟩
      intro _ envelope member counts
      have none := booked.pending
      rw [drained] at none
      exact absurd counts (List.countP_eq_zero.mp none.symm envelope member)
  | @release panicking held =>
      refine ⟨booked.outstanding, booked.pending, congrArg (· - 1) booked.guards, ?_, ?_⟩
      · intro guarded
        exact booked.guarded held
      · intro envelope member settled
        exact (Bool.or_eq_true _ _).mpr (.inl (booked.lost envelope member settled))
  | close => exact ⟨booked.1, booked.2, booked.3, booked.4, booked.5⟩
  | complete receiving idle done =>
      obtain ⟨_, _, _, _, rfl⟩ := complete_ok done
      exact ⟨booked.1, booked.2, booked.3, booked.4, booked.5⟩
  | completeRefused => exact ⟨booked.1, booked.2, booked.3, booked.4, booked.5⟩
  | dropReceiver =>
      exact ⟨booked.1, booked.2, booked.3, booked.4, fun _ _ _ => rfl⟩
  | cloneSender => exact ⟨booked.1, booked.2, booked.3, booked.4, booked.5⟩
  | dropSender => exact ⟨booked.1, booked.2, booked.3, booked.4, booked.5⟩
  | poison => exact booked.failed ⟨rfl, rfl, rfl⟩ id

/-- In every run of a new channel the monitor's books agree with the envelopes. -/
theorem Booked.run {acts : List (Act dec)}
    (run : Run IngressStep (Ingress.new dec) acts after) : Booked after :=
  run.invariant Booked (fun _ _ _ booked step => booked.step step) .start

/-! ## Runs -/

/-- The event of a send that registered. -/
def Act.sent : Act dec → Option (WsEvent dec)
  | .send event _ => some event
  | _ => none

/-- Moving an envelope changes no event. -/
theorem map_event_move (held : state.HasAt index envelope place) :
    (state.move index envelope place').envelopes.map Envelope.event =
      state.envelopes.map Envelope.event := by
  obtain ⟨bound, here⟩ := List.getElem?_eq_some_iff.mp held.1
  rw [Ingress.move, List.map_set]
  refine List.ext_getElem? fun other => ?_
  by_cases same : index = other
  · subst same
    rw [List.getElem?_set_self (by rwa [List.length_map]), List.getElem?_map, held.1]
    rfl
  · rw [List.getElem?_set_ne same]

/-- A step adds the event of the send it is, if it is one. -/
theorem IngressStep.events {act : Act dec} (step : IngressStep state act after) :
    after.envelopes.map Envelope.event = state.envelopes.map Envelope.event ++ act.sent.toList := by
  cases step with
  | send => exact List.map_append
  | proceed held => exact (map_event_move held).trans (List.append_nil _).symm
  | poll held => exact (map_event_move held).trans (List.append_nil _).symm
  | discard held => exact (map_event_move held).trans (List.append_nil _).symm
  | recv held => exact (map_event_move held).trans (List.append_nil _).symm
  | acknowledge held => exact (map_event_move held).trans (List.append_nil _).symm
  | settle held => exact (map_event_move held).trans (List.append_nil _).symm
  | _ => exact (List.append_nil _).symm

/-- The envelopes of a run are those its sends registered, in order. -/
theorem sent_of_run {acts : List (Act dec)} (run : Run IngressStep (Ingress.new dec) acts after) :
    after.envelopes.map Envelope.event = acts.filterMap Act.sent := by
  refine run.history (fun acts state => state.envelopes.map Envelope.event =
    acts.filterMap Act.sent) rfl ?_
  intro seen before act after _ same step
  rw [List.filterMap_append, ← same, step.events]
  cases act with
  | send => rfl
  | _ => rfl

/-- What a step does to the monitor: failure and completion stay, the epoch only grows,
and an account send makes it grow. -/
structure Advances (before : Monitor) (act : Act dec) (after : Monitor) : Prop where
  failed : before.hasFailed = true → after.hasFailed = true
  completed : before.completed = true → after.completed = true
  epoch : before.epoch ≤ after.epoch
  fresh : ∀ event receivedAtMs, act = .send event receivedAtMs → event.isAccount = true →
    before.epoch < after.epoch
  abandons : act.abandons = true → after.hasFailed = true
  completes : act = .complete → after.completed = true

/-- A step that leaves failure, completion and epoch alone, and neither abandons, sends nor
completes. -/
theorem Advances.quiet {before after : Monitor} {act : Act dec}
    (same : after.hasFailed = before.hasFailed ∧ after.completed = before.completed ∧
      after.epoch = before.epoch)
    (quiet : act.abandons = false ∧ act.sent = none ∧ act ≠ .complete) :
    Advances before act after where
  failed failed := same.1.trans failed
  completed completed := same.2.1.trans completed
  epoch := same.2.2.symm.le
  fresh := by
    rintro event receivedAtMs rfl
    cases quiet.2.1
  abandons abandons := by
    rw [quiet.1] at abandons
    cases abandons
  completes done := absurd done quiet.2.2

/-- A step of the channel advances the monitor by what the step may do. -/
theorem IngressStep.advances {act : Act dec} (step : IngressStep state act after) :
    Advances state.monitor act after.monitor := by
  cases step with
  | @send event receivedAtMs =>
      cases account : event.isAccount with
      | false =>
          refine ⟨id, id, le_rfl, ?_, nofun, nofun⟩
          rintro _ _ ⟨⟩ counted
          rw [account] at counted
          cases counted
      | true => exact ⟨id, id, Nat.le_succ _, fun _ _ _ _ => Nat.lt_succ_self _, nofun, nofun⟩
  | refuse => exact ⟨fun _ => rfl, id, le_rfl, nofun, fun _ => rfl, nofun⟩
  | @settle index envelope acknowledged =>
      cases acknowledged with
      | false =>
          have failed : (state.monitor.settle envelope.event.isAccount false).hasFailed = true := by
            simp only [Monitor.settle, Monitor.hasFailed, Bool.not_false,
              Bool.or_true, Bool.true_or]
          exact ⟨fun _ => failed, id, le_rfl, nofun, fun _ => failed, nofun⟩
      | true =>
          refine .quiet ⟨?_, rfl, rfl⟩ ⟨rfl, rfl, nofun⟩
          simp only [Monitor.settle, Monitor.hasFailed, Bool.not_true, Bool.or_false]
  | admission admitted =>
      obtain ⟨_, _, _, _, rfl⟩ := admit_ok admitted
      exact .quiet ⟨rfl, rfl, rfl⟩ ⟨rfl, rfl, nofun⟩
  | @release panicking =>
      cases panicking with
      | false =>
          refine .quiet ⟨?_, rfl, rfl⟩ ⟨rfl, rfl, nofun⟩
          simp only [Monitor.release, Monitor.hasFailed, Bool.or_false]
      | true =>
          have failed : (state.monitor.release true).hasFailed = true := by
            simp only [Monitor.release, Monitor.hasFailed, Bool.or_true, Bool.true_or]
          exact ⟨fun _ => failed, id, le_rfl, nofun, fun _ => failed, nofun⟩
  | complete _ _ done =>
      obtain ⟨_, _, _, _, rfl⟩ := complete_ok done
      exact ⟨id, fun _ => rfl, le_rfl, nofun, nofun, fun _ => rfl⟩
  | dropReceiver => exact ⟨fun _ => rfl, id, le_rfl, nofun, fun _ => rfl, nofun⟩
  | poison =>
      have failed : ({ state.monitor with poisoned := true } : Monitor).hasFailed = true :=
        Bool.or_true _
      exact ⟨fun _ => failed, id, le_rfl, nofun, fun _ => failed, nofun⟩
  | _ => exact .quiet ⟨rfl, rfl, rfl⟩ ⟨rfl, rfl, nofun⟩

/-- What a run from any state does to the monitor. -/
theorem advances_of_run {acts : List (Act dec)} (run : Run IngressStep state acts after) :
    (state.monitor.hasFailed = true → after.monitor.hasFailed = true) ∧
      state.monitor.epoch ≤ after.monitor.epoch ∧
      (∀ event receivedAtMs, .send event receivedAtMs ∈ acts → event.isAccount = true →
        state.monitor.epoch < after.monitor.epoch) ∧
      (∀ act ∈ acts, act.abandons = true → after.monitor.hasFailed = true) ∧
      (.complete ∈ acts → after.monitor.completed = true) := by
  induction run with
  | nil => exact ⟨id, le_rfl, nofun, nofun, nofun⟩
  | @snoc acts middle last act _ step ih =>
      obtain ⟨failed, epoch, fresh, abandons, completes⟩ := ih
      have advances := step.advances
      refine ⟨fun before => advances.failed (failed before), epoch.trans advances.epoch, ?_, ?_, ?_⟩
      · intro event receivedAtMs member account
        rcases List.mem_append.mp member with older | here
        · exact (fresh event receivedAtMs older account).trans_le advances.epoch
        · exact epoch.trans_lt
            (advances.fresh event receivedAtMs (List.mem_singleton.mp here).symm account)
      · intro other member abandoned
        rcases List.mem_append.mp member with older | here
        · exact advances.failed (abandons other older abandoned)
        · rw [List.mem_singleton.mp here] at abandoned
          exact advances.abandons abandoned
      · intro member
        rcases List.mem_append.mp member with older | here
        · exact advances.completed (completes older)
        · exact advances.completes (List.mem_singleton.mp here).symm

/-- What an admission rests on, with an observation taken before the later acts: all account
events that began are acknowledged and none began since, nothing was abandoned and the
consumer is not completed. -/
structure Admitted (acts later : List (Act dec)) (state : Ingress dec) : Prop where
  acknowledged : ∀ envelope ∈ state.envelopes, envelope.event.isAccount = true →
    envelope.place = .settled true
  unchanged : ∀ event receivedAtMs, .send event receivedAtMs ∈ later → event.isAccount = false
  kept : ∀ act ∈ acts, act.abandons = false
  consuming : .complete ∉ acts

/-- While a guard is held no account envelope is at the consumer or on its way, and no
obligation is dropped. -/
structure Held (state : Ingress dec) : Prop where
  withheld : ∀ envelope ∈ state.envelopes, envelope.event.isAccount = true →
    envelope.place = .waiting ∨ ∃ acknowledged, envelope.place = .settled acknowledged
  unsettled : ∀ index acknowledged after, ¬ IngressStep state (.settle index acknowledged) after

/-- No counter is taken below zero. -/
structure Covered (state : Ingress dec) : Prop where
  admitted : ∀ panicking after, IngressStep state (.release panicking) after →
    0 < state.monitor.admitted
  outstanding : ∀ index acknowledged after, IngressStep state (.settle index acknowledged) after →
    0 < state.monitor.outstanding
  pending : ∀ index acknowledged envelope, state.HasAt index envelope (.settling acknowledged) →
    envelope.event.isAccount = true → 0 < state.monitor.pending

/-- While a guard is held, what it rests on stays. -/
theorem Booked.held (booked : Booked state) (guarded : 0 < state.guards) : Held state where
  withheld envelope member account := by
    cases settled : envelope.place with
    | settled acknowledged => exact .inr ⟨acknowledged, rfl⟩
    | waiting => exact .inl rfl
    | _ =>
        left
        rw [← settled]
        apply booked.guarded guarded envelope member
        simp only [Envelope.isPending, Envelope.isLive, account, settled, Place.isSettled,
          Bool.not_false, Bool.and_true]
  unsettled index acknowledged after step := by
    cases step with
    | settle held idle =>
        have guards := booked.guards
        omega

/-- In a booked channel every obligation is covered by an envelope. -/
theorem Booked.covered (booked : Booked state) : Covered state where
  admitted panicking after step := by
    cases step with
    | release held => exact booked.guards.symm ▸ held
  outstanding index acknowledged after step := by
    cases step with
    | @settle _ envelope _ held =>
        rw [booked.outstanding]
        refine countP_pos_of_held held ?_
        rw [Envelope.isLive, held.2]
        rfl
  pending index acknowledged envelope held account := by
    rw [booked.pending]
    refine countP_pos_of_held held ?_
    rw [Envelope.isPending, Envelope.isLive, held.2, account]
    rfl

/-- No live envelope is pending, so every account envelope was settled, and acknowledged
unless the monitor failed. -/
theorem Booked.acknowledged (booked : Booked state) (sound : state.monitor.hasFailed = false)
    {envelope : Envelope dec} (member : envelope ∈ state.envelopes)
    (gone : envelope.isLive = false) : envelope.place = .settled true := by
  cases place : envelope.place with
  | settled acknowledged =>
      cases acknowledged with
      | true => rfl
      | false =>
          have failed := booked.lost envelope member place
          rw [Monitor.hasFailed, failed, Bool.true_or] at sound
          cases sound
  | _ =>
      rw [Envelope.isLive, place] at gone
      cases gone

/-- **Ingress admission.** Whatever the order of sends, receipts, acknowledgments, drops,
admissions and completion: an admission with an observation taken earlier rests on what
`Admitted` says; while a guard is held no account envelope is receivable and no obligation
is dropped; no counter underflows; failure stays; and completion finds every envelope
acknowledged. -/
theorem ingress_admission {earlier later : List (Act dec)} {observed state : Ingress dec}
    (before : Run IngressStep (Ingress.new dec) earlier observed)
    (since : Run IngressStep observed later state) :
    (state.envelopes.map Envelope.event = (earlier ++ later).filterMap Act.sent) ∧
    (∀ after, IngressStep state (.admission observed.monitor.epoch) after →
      Admitted (earlier ++ later) later state) ∧
    (0 < state.guards → Held state) ∧ Covered state ∧
    (observed.monitor.hasFailed = true → state.monitor.hasFailed = true) ∧
    (∀ after, IngressStep state .complete after →
      ∀ envelope ∈ state.envelopes, envelope.place = .settled true) := by
  have whole := before.append since
  have booked := Booked.run whole
  obtain ⟨failed, _, fresh, _, _⟩ := advances_of_run since
  obtain ⟨_, _, _, abandons, completes⟩ := advances_of_run whole
  refine ⟨sent_of_run whole, fun after step => ?_, booked.held, booked.covered, failed,
    fun after step => ?_⟩
  · cases step with
    | admission admitted =>
        obtain ⟨sound, isOpen, drained, current, _⟩ := admit_ok admitted
        refine ⟨fun envelope member account => ?_, fun event receivedAtMs member => ?_,
          fun act member => ?_, fun done => ?_⟩
        · refine booked.acknowledged sound member ?_
          have none := booked.pending
          rw [drained] at none
          have settled := List.countP_eq_zero.mp none.symm envelope member
          rw [Envelope.isPending, account, Bool.true_and, Bool.not_eq_true] at settled
          exact settled
        · cases account : event.isAccount with
          | false => rfl
          | true =>
              have newer := fresh event receivedAtMs member account
              omega
        · cases abandoned : act.abandons with
          | false => rfl
          | true =>
              rw [abandons act member abandoned] at sound
              cases sound
        · rw [completes done] at isOpen
          cases isOpen
  · cases step with
    | complete _ _ done =>
        obtain ⟨sound, _, drained, _, _⟩ := complete_ok done
        intro envelope member
        refine booked.acknowledged sound member ?_
        have none := booked.outstanding
        rw [drained] at none
        exact Bool.not_eq_true _ ▸ List.countP_eq_zero.mp none.symm envelope member

end Ingress

namespace OneEvent

/-- An account event with nothing in it. -/
def event : WsEvent Quotients.reference := .orderUpdates .zero

/-- The channel once the event was sent, received and acknowledged. -/
def drained : Ingress Quotients.reference where
  monitor := ⟨1, 0, 0, false, false, 0, false⟩
  envelopes := [⟨event, 5, .settled true⟩]
  guards := 0
  senders := 1
  receiver := .live
  closed := false
  eof := false

/-- The run that sends one event and settles it. -/
theorem drained_run : Run IngressStep (Ingress.new Quotients.reference)
    [.send event 5, .proceed 0, .poll 0, .recv 0, .acknowledge 0, .settle 0 true] drained :=
  .snoc (.snoc (.snoc (.snoc (.snoc (.snoc .nil
    (.send Nat.one_pos rfl)) (.proceed ⟨rfl, rfl⟩ rfl)) (.poll ⟨rfl, rfl⟩ rfl rfl))
    (.recv ⟨rfl, rfl⟩ rfl)) (.acknowledge ⟨rfl, rfl⟩))
    (@IngressStep.settle _ _ 0 ⟨event, 5, .settling true⟩ true ⟨rfl, rfl⟩ rfl)

/-- An admission then finds the event acknowledged. -/
theorem drained_admits : ∃ after, IngressStep drained (.admission 1) after ∧ Admitted
    [.send event 5, .proceed 0, .poll 0, .recv 0, .acknowledge 0, .settle 0 true] [] drained :=
  have step : IngressStep drained (.admission 1)
      { drained with monitor := { drained.monitor with admitted := 1 }, guards := 1 } :=
        .admission rfl
  ⟨_, step, (ingress_admission drained_run .nil).2.1 _ step⟩

end OneEvent

end Oppen.Feed
