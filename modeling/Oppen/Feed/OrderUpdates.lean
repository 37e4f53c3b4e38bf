import Oppen.Feed.Carried

/-! # Whose order updates these are

Frames of order updates name no user, so a frame is attributed to the address whose order updates
the connection owns when it arrives. The registry forgets an address at once, while the venue still
has its subscription, or frames of it are still on their way. An address placed on such a
connection is given the frames of the other.
-/

namespace Oppen.Feed

open Foundation Oppen.Ledger Oppen.Reconcile

/-! ## The wire -/

/-- The frames between a connection and the venue: those the venue has not processed, the
addresses whose order updates it sends, and the frames of order updates on their way, by the
address they are about. -/
structure Wire where
  outbound : List ConnCommand
  active : List Address
  inbound : List Address
  deriving DecidableEq

/-- The venue carries out one frame. -/
def Wire.process (wire : Wire) : ConnCommand → Wire
  | .subscribe (.orderUpdates user) => { wire with active := user :: wire.active }
  | .unsubscribe (.orderUpdates user) =>
      { wire with active := wire.active.filter fun other => other ≠ user }
  | _ => wire

/-- `order_updates_user`. -/
def ConnectionSlot.orderUpdatesUser (slot : ConnectionSlot) : Option Address :=
  slot.subs.findSome? fun entry =>
    match entry.sub with
    | .orderUpdates user => some user
    | _ => none

section Wired

variable {dec : Quotients}

/-- What `handle_text` makes of a frame of order updates, given what is wrong with its payload. -/
def Connection.orderUpdatesEvent (conn : Connection dec) (malformed : Option String) :
    WsEvent dec :=
  match conn.slot.orderUpdatesUser, malformed with
  | none, _ => .messageDropped conn.id "orderUpdates"
      "orderUpdates arrived on a connection that owns no orderUpdates subscription"
  | some _, some detail =>
      .messageDropped conn.id "orderUpdates" ("malformed `orderUpdates` payload: " ++ detail)
  | some user, none => .orderUpdates user

/-- The frames an act of the task sends on a live socket. -/
def Connection.frames (cfg : ConnectionConfig) (conn : Connection dec) :
    ConnAct → List ConnCommand
  | .deliver none => conn.commands.take 1
  | .ping nowMs sent _ =>
      let revived := (conn.slot.takeExpiredQuarantines nowMs).1
      if conn.idle cfg nowMs ∨ sent < revived.length then [] else revived.map .subscribe
  | _ => []

/-- The wire after an act of the task: a connect starts a new one with its burst. -/
def Wire.after (cfg : ConnectionConfig) (conn : Connection dec) (wire : Wire) : ConnAct → Wire
  | .connect nowMs =>
      ⟨((conn.slot.setConnected true nowMs).resubscribeSet nowMs).map .subscribe, [], []⟩
  | act => { wire with outbound := wire.outbound ++ conn.frames cfg act }

/-- The pool, the wire of each connection, and the events made of frames of order updates, with
the address each frame was about. -/
structure Wired (dec : Quotients) where
  pool : Pool dec
  wires : Nat → Wire
  delivered : List (Address × WsEvent dec)

def Wired.new : Wired dec := ⟨.new, fun _ => ⟨[], [], []⟩, []⟩

/-- The wires after an act of the pool. -/
def Wired.wiresAfter (cfg : ConnectionConfig) (wired : Wired dec) : PoolAct → Nat → Wire
  | .task id act, other =>
      match wired.pool.conns[id]? with
      | some conn => if id = other then (wired.wires id).after cfg conn act else wired.wires other
      | none => wired.wires other
  | _, other => wired.wires other

/-- What happens: an act of the pool, the venue processes the oldest frame of a connection or sends
an update, or a session reads one. -/
inductive WiredAct where
  | pool (act : PoolAct)
  | process (id : Nat)
  | update (id : Nat) (user : Address)
  | read (id nowMs : Nat) (malformed : Option String)

/-- One step of the pool with what is on its lines: a call or a task, a command the venue carries
out, an update it sends, or a frame that is read. -/
inductive WiredStep (cfg : PoolConfig) : Wired dec → WiredAct → Wired dec → Prop
  | pool {wired : Wired dec} {act : PoolAct} {after : Pool dec}
      (step : PoolStep cfg wired.pool act after) :
      WiredStep cfg wired (.pool act)
        { wired with pool := after, wires := wired.wiresAfter cfg.connection act }
  | process {wired : Wired dec} {id : Nat} {command : ConnCommand} {rest : List ConnCommand}
      (next : (wired.wires id).outbound = command :: rest) :
      WiredStep cfg wired (.process id)
        { wired with
          wires := Function.update wired.wires id
            { (wired.wires id).process command with outbound := rest } }
  | update {wired : Wired dec} {id : Nat} {user : Address}
      (active : user ∈ (wired.wires id).active) :
      WiredStep cfg wired (.update id user)
        { wired with
          wires := Function.update wired.wires id
            { wired.wires id with inbound := (wired.wires id).inbound ++ [user] } }
  | read {wired : Wired dec} {id nowMs : Nat} {conn after : Connection dec} {user : Address}
      {rest : List Address} {malformed : Option String}
      (here : wired.pool.conns[id]? = some conn)
      (step : ConnStep cfg.connection conn (.frame nowMs none) after)
      (next : (wired.wires id).inbound = user :: rest) :
      WiredStep cfg wired (.read id nowMs malformed)
        { pool := { wired.pool with conns := wired.pool.conns.set id after }
          wires := Function.update wired.wires id { wired.wires id with inbound := rest }
          delivered := wired.delivered ++ [(user, conn.orderUpdatesEvent malformed)] }

/-! ## What is promised -/

/-- Each event of order updates is of the address its frame was about. -/
def Wired.Attributed (wired : Wired dec) : Prop :=
  ∀ owner user, (owner, WsEvent.orderUpdates user) ∈ wired.delivered → user = owner

/-- Whether frames of an address can still arrive on a connection: its task has a queued command
that subscribes it, or on the socket there is a frame that does, the venue still sends its
updates, or one of them is on its way. -/
def Connection.Carries (conn : Connection dec) (wire : Wire) (user : Address) : Prop :=
  conn.phase ≠ .ended ∧ .subscribe (.orderUpdates user) ∈ conn.commands ∨
    conn.phase.socket.isSome = true ∧
      (.subscribe (.orderUpdates user) ∈ wire.outbound ∨ user ∈ wire.active ∨ user ∈ wire.inbound)

/-- A subscribe call puts order updates on no connection on which those of another address can
still arrive. -/
def Wired.ClearsPlace (cfg : PoolConfig) (wired : Wired dec) : WiredAct → Prop
  | .pool (.subscribe (.orderUpdates user) _) =>
      wired.pool.shutdown = false → ∀ id conn,
        wired.pool.place cfg (.orderUpdates user) = .ok (.existing id) →
          wired.pool.conns[id]? = some conn →
            ∀ other, conn.Carries (wired.wires id) other → other = user
  | _ => True

/-- A step that keeps to it. -/
def ClearStep (cfg : PoolConfig) (before : Wired dec) (act : WiredAct) (after : Wired dec) : Prop :=
  WiredStep cfg before act after ∧ before.ClearsPlace cfg act

end Wired

/-! ## One owner a connection -/

/-- A key of order updates names its address. -/
theorem orderUpdates_of_key {sub : Subscription} {user : Address}
    (same : sub.key = (Subscription.orderUpdates user).key) : sub = .orderUpdates user := by
  have codes := congrArg String.toList same
  cases sub with
  | orderUpdates other =>
      simp only [Subscription.key, String.toList_append, List.append_cancel_left_eq] at codes
      rw [Address.display_injective (String.toList_injective codes)]
  | _ => simp [Subscription.key] at codes

/-- A list with one of a kind holds no second of it. -/
theorem eq_of_countP_le_one {α : Type} {test : α → Bool} {items : List α}
    (one : items.countP test ≤ 1) {first second : α} (here : first ∈ items)
    (there : second ∈ items) (passes : test first = true) (passes' : test second = true) :
    first = second := by
  rw [List.countP_eq_length_filter] at one
  have first' := List.mem_filter.mpr ⟨here, passes⟩
  have second' := List.mem_filter.mpr ⟨there, passes'⟩
  rcases filtered : items.filter test with _ | ⟨item, rest⟩
  · rw [filtered] at first'
    exact absurd first' List.not_mem_nil
  · rw [filtered, List.length_cons] at one
    obtain rfl := List.length_eq_zero_iff.mp (Nat.le_zero.mp (Nat.le_of_succ_le_succ one))
    rw [filtered] at first' second'
    exact (List.mem_singleton.mp first').trans (List.mem_singleton.mp second').symm

section Owned

variable {dec : Quotients} {config : ConnectionConfig} {cfg : PoolConfig}

/-- A connection owns the order updates of one address. -/
theorem Connection.Within.one_owner {conn : Connection dec} (fits : conn.Within cfg)
    {first second : Address} (here : .orderUpdates first ∈ conn.slot.subscriptions)
    (there : .orderUpdates second ∈ conn.slot.subscriptions) : first = second := by
  have same := eq_of_countP_le_one fits.exclusive here there rfl rfl
  exact Subscription.orderUpdates.inj same

/-- A frame is attributed to an address the slot holds. -/
theorem mem_of_orderUpdatesUser {slot : ConnectionSlot} {user : Address}
    (owner : slot.orderUpdatesUser = some user) : .orderUpdates user ∈ slot.subscriptions := by
  obtain ⟨entry, member, named⟩ := List.exists_of_findSome?_eq_some owner
  cases sub : entry.sub with
  | orderUpdates other =>
      rw [sub] at named
      obtain rfl := Option.some.inj named
      exact List.mem_map.mpr ⟨entry, member, sub⟩
  | _ =>
      rw [sub] at named
      cases named

/-- Order updates are named after the account whose feed the slot holds. -/
theorem orderUpdatesEvent_eq {conn : Connection dec} {malformed : Option String} {user : Address}
    (event : conn.orderUpdatesEvent malformed = .orderUpdates user) :
    conn.slot.orderUpdatesUser = some user := by
  unfold Connection.orderUpdatesEvent at event
  split at event
  · cases event
  · cases event
  · rename_i owner
    rw [owner]
    exact congrArg some (WsEvent.orderUpdates.inj event)

/-- An act that sends nothing leaves the wire as it is. -/
theorem Wire.after_quiet {conn : Connection dec} {wire : Wire} {act : ConnAct}
    (still : ∀ nowMs, act ≠ .connect nowMs) (quiet : conn.frames config act = []) :
    wire.after config conn act = wire := by
  have same : wire.after config conn act =
      { wire with outbound := wire.outbound ++ conn.frames config act } := by
    cases act with
    | connect nowMs => exact absurd rfl (still nowMs)
    | _ => rfl
  rw [same, quiet, List.append_nil]

/-- The queue and the socket of a step that sends nothing. -/
theorem Connection.Carries.quiet {conn after : Connection dec} {wire : Wire} {user : Address}
    (carries : after.Carries wire user) (running : conn.phase ≠ .ended)
    (queue : ∀ command ∈ after.commands, command ∈ conn.commands)
    (socket : after.phase.socket.isSome = true → conn.phase.socket.isSome = true) :
    conn.Carries wire user := by
  rcases carries with ⟨_, queued⟩ | ⟨up, sent⟩
  · exact .inl ⟨running, queue _ queued⟩
  · exact .inr ⟨socket up, sent⟩

/-- **What a connection carries after a step it carried before, or its slot holds.** -/
theorem Connection.Carries.before {conn after : Connection dec} {act : ConnAct} {wire : Wire}
    {user : Address} (carries : after.Carries (wire.after config conn act) user)
    (step : ConnStep config conn act after) (fixed : act.adds = false) :
    conn.Carries wire user ∨ .orderUpdates user ∈ conn.slot.subscriptions := by
  have tail : ∀ {command rest}, conn.commands = command :: rest →
      ∀ other ∈ rest, other ∈ conn.commands :=
    fun next other member => next ▸ List.mem_cons_of_mem _ member
  cases step with
  | connect here =>
      rcases carries with ⟨_, queued⟩ | ⟨_, sent | active | inbound⟩
      · exact .inl (.inl ⟨by rw [here]; exact nofun, queued⟩)
      · obtain ⟨sub, member, same⟩ := List.mem_map.mp sent
        cases same
        refine .inr ?_
        rw [← ConnectionSlot.setConnected_subscriptions true]
        exact (ConnectionSlot.resubscribeSet_sublist _).subset member
      · cases active
      · cases inbound
  | connectFailed here | resubscribeFailed here | drop here =>
      rw [Wire.after_quiet (fun _ same => by cases same) rfl] at carries
      refine .inl (carries.quiet (by rw [here]; exact nofun) ?_ fun up => ?_)
      · rw [(turn_keeps _ _ _ conn).2]
        exact fun _ member => member
      · cases up
  | subscribed here =>
      rw [Wire.after_quiet (fun _ same => by cases same) rfl] at carries
      refine .inl (carries.quiet (by rw [here]; exact nofun) ?_ fun up => ?_)
      · rw [(turn_keeps _ _ _ conn).2]
        exact fun _ member => member
      · rw [here]
        rfl
  | @deliver socket command rest here next =>
      have up : conn.phase.socket.isSome = true := by rw [here]; rfl
      have running : conn.phase ≠ .ended := by rw [here]; exact nofun
      rcases carries with ⟨_, queued⟩ | ⟨_, sent | flying⟩
      · exact .inl (.inl ⟨running, tail next _ queued⟩)
      · rcases List.mem_append.mp sent with older | new
        · exact .inl (.inr ⟨up, .inl older⟩)
        · exact .inl (.inl ⟨running, List.mem_of_mem_take new⟩)
      · exact .inl (.inr ⟨up, .inr flying⟩)
  | deliverFailed here next | wakeByCommand here next =>
      rw [Wire.after_quiet (fun _ same => by cases same) rfl] at carries
      refine .inl (carries.quiet (by rw [here]; exact nofun) (tail next) fun up => ?_)
      cases up
  | late here | fail here | wake here =>
      rw [Wire.after_quiet (fun _ same => by cases same) rfl] at carries
      refine .inl (carries.quiet (by rw [here]; exact nofun) (fun _ member => member) fun up => ?_)
      cases up
  | frame here =>
      rw [Wire.after_quiet (fun _ same => by cases same) rfl] at carries
      exact .inl (carries.quiet (by rw [here]; exact nofun) (fun _ member => member)
        fun up => up)
  | @ping socket nowMs sent reason here =>
      have up : conn.phase.socket.isSome = true := by rw [here]; rfl
      have running : conn.phase ≠ .ended := by rw [here]; exact nofun
      rcases carries with ⟨_, queued⟩ | ⟨_, written | flying⟩
      · exact .inl (.inl ⟨running, queued⟩)
      · rcases List.mem_append.mp written with older | new
        · exact .inl (.inr ⟨up, .inl older⟩)
        · simp only [Connection.frames] at new
          split_ifs at new
          · cases new
          · obtain ⟨sub, member, same⟩ := List.mem_map.mp new
            cases same
            exact .inr ((ConnectionSlot.revived_sublist nowMs).subset member)
      · exact .inl (.inr ⟨up, .inr flying⟩)
  | subscribe => cases fixed
  | @unsubscribe sub present =>
      rw [Wire.after_quiet (fun _ same => by cases same) rfl] at carries
      rcases carries with ⟨running, queued⟩ | flying
      · rcases List.mem_append.mp queued with older | new
        · exact .inl (.inl ⟨running, older⟩)
        · cases List.mem_singleton.mp new
      · exact .inl (.inr flying)
  | @clearQuarantine sub present =>
      rw [Wire.after_quiet (fun _ same => by cases same) rfl] at carries
      rcases carries with ⟨running, queued⟩ | flying
      · rcases List.mem_append.mp queued with older | new
        · exact .inl (.inl ⟨running, older⟩)
        · cases List.mem_singleton.mp new
          obtain ⟨held, member, same⟩ := ConnectionSlot.holds_iff.mp present
          exact .inr (orderUpdates_of_key same ▸ member)
      · exact .inl (.inr flying)
  | stop =>
      rcases carries with ⟨running, _⟩ | ⟨up, _⟩
      · exact absurd rfl running
      · cases up

/-- Whatever a connection still carries is of the address its slot owns. -/
structure Wired.Sound (cfg : PoolConfig) (wired : Wired dec) : Prop where
  placed : wired.pool.Placed cfg
  owned : ∀ (id : Nat) (conn : Connection dec), wired.pool.conns[id]? = some conn →
    ∀ other, conn.Carries (wired.wires id) other →
      ∀ user, .orderUpdates user ∈ conn.slot.subscriptions → other = user
  attributed : wired.Attributed

/-- A call of the pool moves no wire. -/
theorem wiresAfter_of_isCall {wired : Wired dec} {act : PoolAct} (call : act.isCall = true) :
    wired.wiresAfter config act = wired.wires := by
  cases act with
  | task => cases call
  | _ => rfl

/-- The wires after a step of one connection. -/
theorem wiresAfter_of_origin {wired : Wired dec} {act : PoolAct} {id : Nat}
    {conn : Connection dec} {own : ConnAct} (here : wired.pool.conns[id]? = some conn)
    (origin : act = .task id own ∨ own.isTask = false ∧ act.isCall = true) (other : Nat) :
    wired.wiresAfter config act other =
      if id = other then (wired.wires id).after config conn own else wired.wires other := by
  rcases origin with rfl | ⟨outside, call⟩
  · simp only [Wired.wiresAfter, here]
  · have still : (wired.wires id).after config conn own = wired.wires id := by
      refine Wire.after_quiet (fun nowMs same => ?_) ?_
      · rw [same] at outside
        cases outside
      · cases own with
        | deliver | ping => cases outside
        | _ => rfl
    rw [wiresAfter_of_isCall call, still]
    split_ifs with same
    · rw [same]
    · rfl

/-- A step of a connection adds no owner and carries nothing of another. -/
theorem Wired.Sound.stepped {wired : Wired dec} (sound : wired.Sound cfg) {id : Nat}
    {conn moved : Connection dec} {own : ConnAct} (here : wired.pool.conns[id]? = some conn)
    (step : ConnStep cfg.connection conn own moved) (fixed : own.adds = false) {other : Address}
    (carries : moved.Carries ((wired.wires id).after cfg.connection conn own) other)
    {user : Address} (owner : .orderUpdates user ∈ moved.slot.subscriptions) : other = user := by
  have owner' := (step.shrinks fixed).subset owner
  rcases carries.before step fixed with before | held
  · exact sound.owned id conn here other before user owner'
  · exact (sound.placed.fits (List.mem_of_getElem? here)).one_owner held owner'

/-- A connection that takes order updates where nothing else is left owns all it carries. -/
theorem Wired.Sound.subscribed {wired : Wired dec} (sound : wired.Sound cfg) {id : Nat}
    {conn : Connection dec} {sub : Subscription} (here : wired.pool.conns[id]? = some conn)
    (absent : conn.slot.holds sub.key = false) (room : conn.slot.hasRoom cfg sub = true)
    (clear : ∀ user, sub = .orderUpdates user → ∀ other, conn.Carries (wired.wires id) other →
      other = user)
    {other : Address} (carries : (conn.subscribe sub).Carries (wired.wires id) other)
    {user : Address} (owner : .orderUpdates user ∈ (conn.subscribe sub).slot.subscriptions) :
    other = user := by
  have fits := (sound.placed.fits (List.mem_of_getElem? here)).subscribe absent room
  have perm := conn.slot.place_subscriptions sub
  have old : conn.Carries (wired.wires id) other ∨ sub = .orderUpdates other := by
    rcases carries with ⟨running, queued⟩ | flying
    · rcases List.mem_append.mp queued with older | new
      · exact .inl (.inl ⟨running, older⟩)
      · exact .inr (ConnCommand.subscribe.inj (List.mem_singleton.mp new)).symm
    · exact .inl (.inr flying)
  rcases old with before | rfl
  · rcases List.mem_cons.mp (perm.mem_iff.mp owner) with same | held
    · exact clear user same.symm other before
    · exact sound.owned id conn here other before user held
  · exact fits.one_owner (perm.mem_iff.mpr List.mem_cons_self) owner

/-- A step of the pool keeps the wires sound, as long as what is placed finds its socket clear. -/
theorem Wired.Sound.pool {wired : Wired dec} {act : PoolAct} {after : Pool dec}
    (sound : wired.Sound cfg) (step : PoolStep cfg wired.pool act after)
    (clear : wired.ClearsPlace cfg (.pool act)) :
    Wired.Sound cfg
      { wired with pool := after, wires := wired.wiresAfter cfg.connection act } := by
  have moves := step.moves
  refine ⟨sound.placed.moves moves, ?_, sound.attributed⟩
  obtain ⟨conns, shutdown⟩ := after
  intro index found there other carries user owner
  change found.Carries (wired.wiresAfter cfg.connection act index) other at carries
  cases moves with
  | still call =>
      rw [wiresAfter_of_isCall call] at carries
      exact sound.owned index found there other carries user owner
  | @placed id conn sub nowMs called here absent room running chosen =>
      subst called
      rcases getElem?_set_cases there with ⟨rfl, rfl⟩ | ⟨_, there⟩
      · refine sound.subscribed here (absent conn (List.mem_of_getElem? here)) room ?_ carries owner
        rintro target rfl
        exact clear running _ conn chosen here
      · exact sound.owned index found there other carries user owner
  | @opened sub nowMs called absent =>
      subst called
      rcases getElem?_concat_cases there with ⟨_, rfl⟩ | there
      · rcases carries with ⟨_, queued⟩ | ⟨up, _⟩
        · exact absurd queued List.not_mem_nil
        · cases up
      · exact sound.owned index found there other carries user owner
  | @stepped id conn moved own here move fixed origin =>
      rw [wiresAfter_of_origin here origin] at carries
      rcases getElem?_set_cases there with ⟨rfl, rfl⟩ | ⟨apart, there⟩
      · rw [if_pos rfl] at carries
        exact sound.stepped here move fixed carries owner
      · rw [if_neg apart] at carries
        exact sound.owned index found there other carries user owner

/-- What the venue does to one wire adds nothing that was not carried. -/
theorem Wired.Sound.rewired {wired : Wired dec} (sound : wired.Sound cfg) (id : Nat) (wire : Wire)
    (less : ∀ (conn : Connection dec) (other : Address), conn.Carries wire other →
      conn.Carries (wired.wires id) other) :
    Wired.Sound cfg { wired with wires := Function.update wired.wires id wire } := by
  refine ⟨sound.placed, fun index conn here other carries => ?_, sound.attributed⟩
  refine sound.owned index conn here other ?_
  by_cases same : index = id
  · subst same
    exact less conn other (Function.update_self index wire wired.wires ▸ carries)
  · exact Function.update_of_ne same wire wired.wires ▸ carries

/-- What the venue has active after a command is the command's own, or was active before. -/
theorem Wire.process_active {wire : Wire} {command : ConnCommand} {other : Address}
    (active : other ∈ (wire.process command).active) :
    command = .subscribe (.orderUpdates other) ∨ other ∈ wire.active := by
  unfold Wire.process at active
  split at active
  · rcases List.mem_cons.mp active with rfl | older
    · exact .inl rfl
    · exact .inr older
  · exact .inr (List.mem_filter.mp active).1
  · exact .inr active

/-- Carrying out a command sends nothing by itself. -/
theorem Wire.process_inbound (wire : Wire) (command : ConnCommand) :
    (wire.process command).inbound = wire.inbound := by
  unfold Wire.process
  split
  · rfl
  · rfl
  · rfl

/-- A frame that is read was about the address its event names. -/
theorem Wired.Sound.read {wired : Wired dec} (sound : wired.Sound cfg) {id : Nat}
    {conn : Connection dec} {socket : List Subscription} {user : Address} {rest : List Address}
    {malformed : Option String} (here : wired.pool.conns[id]? = some conn)
    (live : conn.phase = .live socket) (next : (wired.wires id).inbound = user :: rest)
    {named : Address} (event : conn.orderUpdatesEvent malformed = .orderUpdates named) :
    named = user := by
  have owner := mem_of_orderUpdatesUser (orderUpdatesEvent_eq event)
  have carries : conn.Carries (wired.wires id) user :=
    .inr ⟨by rw [live]; rfl, .inr (.inr (by rw [next]; exact List.mem_cons_self))⟩
  exact (sound.owned id conn here user carries named owner).symm

/-- **A step that clears its place keeps every connection to one address.** -/
theorem Wired.Sound.step {before after : Wired dec} {act : WiredAct} (sound : before.Sound cfg)
    (step : ClearStep cfg before act after) : after.Sound cfg := by
  obtain ⟨step, clear⟩ := step
  cases step with
  | pool step => exact sound.pool step clear
  | @process id command rest next =>
      refine sound.rewired _ _ fun conn other carries => ?_
      rcases carries with queued | ⟨up, sent | active | inbound⟩
      · exact .inl queued
      · exact .inr ⟨up, .inl (by rw [next]; exact List.mem_cons_of_mem _ sent)⟩
      · rcases Wire.process_active active with rfl | older
        · exact .inr ⟨up, .inl (by rw [next]; exact List.mem_cons_self)⟩
        · exact .inr ⟨up, .inr (.inl older)⟩
      · exact .inr ⟨up, .inr (.inr (Wire.process_inbound _ command ▸ inbound))⟩
  | @update id user active =>
      refine sound.rewired _ _ fun conn other carries => ?_
      rcases carries with queued | ⟨up, sent | active' | inbound⟩
      · exact .inl queued
      · exact .inr ⟨up, .inl sent⟩
      · exact .inr ⟨up, .inr (.inl active')⟩
      · rcases List.mem_append.mp inbound with older | new
        · exact .inr ⟨up, .inr (.inr older)⟩
        · exact .inr ⟨up, .inr (.inl (List.mem_singleton.mp new ▸ active))⟩
  | @read id nowMs conn after user rest malformed here step next =>
      have still : before.wiresAfter cfg.connection (.task id (.frame nowMs none)) =
          before.wires := by
        funext other
        rw [wiresAfter_of_origin here (.inl rfl),
          Wire.after_quiet (fun _ same => by cases same) rfl]
        split_ifs with same
        · rw [same]
        · rfl
      have pooled := sound.pool (.task here rfl step) trivial
      rw [still] at pooled
      have emptied := pooled.rewired id { before.wires id with inbound := rest } ?_
      swap
      · rintro found other (queued | ⟨up, sent | active | inbound⟩)
        · exact .inl queued
        · exact .inr ⟨up, .inl sent⟩
        · exact .inr ⟨up, .inr (.inl active)⟩
        · exact .inr ⟨up, .inr (.inr (by rw [next]; exact List.mem_cons_of_mem _ inbound))⟩
      refine ⟨emptied.placed, emptied.owned, fun owner named member => ?_⟩
      rcases List.mem_append.mp member with older | new
      · exact sound.attributed owner named older
      · obtain ⟨rfl, event⟩ := Prod.mk.inj (List.mem_singleton.mp new)
        cases step with
        | frame live => exact sound.read here live next event.symm

/-- **Order updates keep their owner.** In every run in which no order updates are put on a
connection where those of another address can still arrive, each event of order updates is of the
address its frame was about. A frame of order updates does not name its address, so the connection
is all that tells whose it is. -/
theorem orderUpdates_attributed {acts : List WiredAct} {wired : Wired dec}
    (run : Run (ClearStep cfg) (Wired.new : Wired dec) acts wired) : wired.Attributed := by
  have sound : wired.Sound cfg := by
    refine run.invariant (Wired.Sound cfg) (fun _ _ _ sound step => sound.step step) ?_
    refine ⟨.new, ?_, ?_⟩
    · rintro id conn ⟨⟩
    · exact fun _ _ none => absurd none List.not_mem_nil
  exact sound.attributed

end Owned

namespace ReusedSocket

/-- A pool that may open one connection. -/
def cfg : PoolConfig := ⟨1, 1000, ⟨75000, 3, 5000⟩⟩

def first : Address := .filled 0

def second : Address := .filled 1

/-- The pool with its one connection. -/
def alone (conn : Connection Quotients.reference) (wire : Wire)
    (delivered : List (Address × WsEvent Quotients.reference)) : Wired Quotients.reference where
  pool := ⟨[conn], false⟩
  wires id := if id = 0 then wire else ⟨[], [], []⟩
  delivered := delivered

/-- The connection on a socket, with these order updates in its slot and on the socket. -/
def live (owned : List SubEntry) (socket : List Subscription) (commands : List ConnCommand)
    (lastMs : Nat) : Connection Quotients.reference where
  id := 0
  slot := ⟨owned, true, some lastMs⟩
  state := .new 0
  phase := .live socket
  commands := commands
  events := []

/-- Where there is one connection, one wire changes. -/
theorem wires_alone (wire after : Wire) :
    Function.update (fun id => if id = 0 then wire else ⟨[], [], []⟩) 0 after =
      fun id => if id = 0 then after else ⟨[], [], []⟩ := by
  funext id
  by_cases same : id = 0
  · rw [same, Function.update_self, if_pos rfl]
  · rw [Function.update_of_ne same, if_neg same, if_neg same]

section Steps

variable {conn after : Connection Quotients.reference} {wire : Wire}
  {delivered : List (Address × WsEvent Quotients.reference)}

/-- A step of the one connection is a step of the wired pool, and a clear one. -/
theorem task_step {act : ConnAct} (own : act.isTask = true)
    (step : ConnStep cfg.connection conn act after) :
    ClearStep cfg (alone conn wire delivered) (.pool (.task 0 act))
      (alone after (wire.after cfg.connection conn act) delivered) := by
  have pooled : PoolStep cfg (alone conn wire delivered).pool (.task 0 act) ⟨[after], false⟩ :=
    @PoolStep.task _ cfg ⟨[conn], false⟩ 0 conn after act rfl own step
  have wires : (alone conn wire delivered).wiresAfter cfg.connection (.task 0 act) =
      (alone after (wire.after cfg.connection conn act) delivered).wires := by
    funext id
    rw [wiresAfter_of_origin (show (alone conn wire delivered).pool.conns[0]? = some conn from rfl)
      (.inl rfl)]
    by_cases same : 0 = id
    · rw [if_pos same, ← same]
      rfl
    · rw [if_neg same]
      exact (if_neg (Ne.symm same)).trans (if_neg (Ne.symm same)).symm
  have stepped := WiredStep.pool pooled
  rw [wires] at stepped
  exact ⟨stepped, trivial⟩

/-- A call of the pool leaves the wire of the one connection alone. -/
theorem call_step {act : PoolAct} (call : act.isCall = true)
    (step : PoolStep cfg ⟨[conn], false⟩ act ⟨[after], false⟩) :
    WiredStep cfg (alone conn wire delivered) (.pool act) (alone after wire delivered) := by
  have stepped := @WiredStep.pool _ cfg (alone conn wire delivered) _ _ step
  rw [wiresAfter_of_isCall call] at stepped
  exact stepped

/-- The venue carries out the oldest command of the one connection. -/
theorem process_step {command : ConnCommand} {rest : List ConnCommand}
    (next : wire.outbound = command :: rest) :
    ClearStep cfg (alone conn wire delivered) (.process 0)
      (alone conn { wire.process command with outbound := rest } delivered) := by
  have stepped := @WiredStep.process _ cfg (alone conn wire delivered) 0 command rest next
  simp only [alone, wires_alone] at stepped
  exact ⟨stepped, trivial⟩

/-- The venue sends the updates of an address it has active. -/
theorem update_step {user : Address} (active : user ∈ wire.active) :
    ClearStep cfg (alone conn wire delivered) (.update 0 user)
      (alone conn { wire with inbound := wire.inbound ++ [user] } delivered) := by
  have stepped := @WiredStep.update _ cfg (alone conn wire delivered) 0 user active
  simp only [alone, wires_alone] at stepped
  exact ⟨stepped, trivial⟩

/-- A frame on the wire is read and delivered. -/
theorem read_step {nowMs : Nat} {user : Address} {rest : List Address}
    (step : ConnStep cfg.connection conn (.frame nowMs none) after)
    (next : wire.inbound = user :: rest) :
    ClearStep cfg (alone conn wire delivered) (.read 0 nowMs none)
      (alone after { wire with inbound := rest }
        (delivered ++ [(user, conn.orderUpdatesEvent none)])) := by
  have stepped := @WiredStep.read _ cfg
    (alone conn wire delivered) 0 nowMs conn after user rest none
    rfl step next
  simp only [alone, wires_alone] at stepped
  exact ⟨stepped, trivial⟩

end Steps

/-- The first address is subscribed, and a frame of it is on its way. -/
def opening : List WiredAct :=
  [.pool (.subscribe (.orderUpdates first) 0), .pool (.task 0 (.connect 1)),
    .pool (.task 0 (.subscribed 1)), .process 0, .update 0 first]

/-- The connection that owns the first address, on its socket. -/
def owning : Connection Quotients.reference :=
  live [.new (.orderUpdates first)] [.orderUpdates first] [] 1

/-- The first address is subscribed and active. -/
theorem opening_run : Run (ClearStep cfg) (Wired.new : Wired Quotients.reference) opening
    (alone owning ⟨[], [first], [first]⟩ []) := by
  have opened : ClearStep cfg (Wired.new : Wired Quotients.reference)
      (.pool (.subscribe (.orderUpdates first) 0))
      (alone (.new _ 0 (.orderUpdates first) 0) ⟨[], [], []⟩ []) := by
    have stepped : WiredStep cfg (Wired.new : Wired Quotients.reference)
        (.pool (.subscribe (.orderUpdates first) 0))
        ⟨⟨[.new _ 0 (.orderUpdates first) 0], false⟩, fun _ => ⟨[], [], []⟩, []⟩ :=
      .pool .subscribe
    refine ⟨?_, fun _ id conn placed => by cases placed⟩
    simpa only [alone, ite_self] using stepped
  have connected : ClearStep cfg (alone (.new _ 0 (.orderUpdates first) 0) ⟨[], [], []⟩ [])
      (.pool (.task 0 (.connect 1)))
      (alone { owning with phase := .resubscribing [.orderUpdates first] }
        ⟨[.subscribe (.orderUpdates first)], [], []⟩ []) :=
    task_step rfl (.connect rfl)
  have subscribed : ClearStep cfg _ (.pool (.task 0 (.subscribed 1)))
      (alone owning ⟨[.subscribe (.orderUpdates first)], [], []⟩ []) :=
    @task_step { owning with phase := .resubscribing [.orderUpdates first] } owning
      ⟨[.subscribe (.orderUpdates first)], [], []⟩ _ (.subscribed 1) rfl (.subscribed rfl)
  have processed : ClearStep cfg _ (.process 0) (alone owning ⟨[], [first], []⟩ []) :=
    @process_step _ ⟨[.subscribe (.orderUpdates first)], [], []⟩ _ _ _ rfl
  have updated : ClearStep cfg _ (.update 0 first) (alone owning ⟨[], [first], [first]⟩ []) :=
    @update_step _ ⟨[], [first], []⟩ _ first (List.mem_singleton_self first)
  exact .snoc (.snoc (.snoc (.snoc (.snoc .nil opened) connected) subscribed) processed) updated

/-- A queued command is put on the wire. -/
theorem deliver_step (owned : List SubEntry) (socket : List Subscription) (command : ConnCommand)
    (rest : List ConnCommand) (lastMs : Nat) (wire : Wire)
    (delivered : List (Address × WsEvent Quotients.reference)) :
    ClearStep cfg (alone (live owned socket (command :: rest) lastMs) wire delivered)
      (.pool (.task 0 (.deliver none)))
      (alone (live owned (command.sent socket) rest lastMs)
        { wire with outbound := wire.outbound ++ [command] } delivered) :=
  task_step rfl (.deliver rfl rfl)

/-- The first address leaves its connection, and the command for it waits. -/
theorem first_leaves (lastMs : Nat) :
    PoolStep cfg ⟨[live [.new (.orderUpdates first)] [.orderUpdates first] [] lastMs], false⟩
      (.unsubscribe (.orderUpdates first))
      ⟨[live [] [.orderUpdates first] [.unsubscribe (.orderUpdates first)] lastMs], false⟩ :=
  .unsubscribe

/-- The second address is put on the connection that has just been left. -/
theorem second_placed (socket : List Subscription) (commands : List ConnCommand) (lastMs : Nat) :
    PoolStep cfg ⟨[live [] socket commands lastMs], false⟩ (.subscribe (.orderUpdates second) 2)
      ⟨[live [.new (.orderUpdates second)] socket
        (commands ++ [.subscribe (.orderUpdates second)]) lastMs], false⟩ :=
  .subscribe

/-- The second address takes the place of the first, whose frame is read last. -/
def reuse : List WiredAct :=
  [.pool (.unsubscribe (.orderUpdates first)), .pool (.subscribe (.orderUpdates second) 2),
    .pool (.task 0 (.deliver none)), .pool (.task 0 (.deliver none)), .read 0 3 none]

/-- The socket is used again while a frame of the first address is on its way. -/
theorem reuse_run : Run (WiredStep cfg)
    (alone owning ⟨[], [first], [first]⟩ []) reuse
    (alone (live [.new (.orderUpdates second)] [.orderUpdates second] [] 3)
      ⟨[.unsubscribe (.orderUpdates first), .subscribe (.orderUpdates second)], [first], []⟩
      [(first, .orderUpdates second)]) := by
  have placed := second_placed [.orderUpdates first] [.unsubscribe (.orderUpdates first)] 1
  have told := deliver_step [.new (.orderUpdates second)] [.orderUpdates first]
    (.unsubscribe (.orderUpdates first)) [.subscribe (.orderUpdates second)] 1
    ⟨[], [first], [first]⟩ []
  have told' := deliver_step [.new (.orderUpdates second)] []
    (.subscribe (.orderUpdates second)) [] 1
    ⟨[.unsubscribe (.orderUpdates first)], [first], [first]⟩ []
  have read : ClearStep cfg _ (.read 0 3 none) _ :=
    @read_step (live [.new (.orderUpdates second)] [.orderUpdates second] [] 1)
      (live [.new (.orderUpdates second)] [.orderUpdates second] [] 3)
      ⟨[.unsubscribe (.orderUpdates first), .subscribe (.orderUpdates second)], [first], [first]⟩
      [] 3 first [] (.frame rfl rfl) rfl
  exact .snoc (.snoc (.snoc (.snoc (.snoc .nil (call_step rfl (first_leaves 1)))
    (call_step rfl placed)) told.1) told'.1) read.1

/-- An address put where frames of another are on their way is given them. -/
theorem reused_socket_misattributes : ¬ ∀ (acts : List WiredAct)
    (wired : Wired Quotients.reference),
    Run (WiredStep cfg) .new acts wired → wired.Attributed := by
  intro attributed
  have run := (opening_run.mono fun _ _ _ step => step.1).append reuse_run
  have same := attributed _ _ run first second (List.mem_singleton_self _)
  exact absurd same (by decide)

/-- The second address waits until nothing of the first is left. -/
def handover : List WiredAct :=
  [.read 0 1 none, .pool (.unsubscribe (.orderUpdates first)), .pool (.task 0 (.deliver none)),
    .process 0, .pool (.subscribe (.orderUpdates second) 2), .pool (.task 0 (.deliver none)),
    .process 0, .update 0 second, .read 0 3 none]

theorem handover_run : Run (ClearStep cfg)
    (alone owning ⟨[], [first], [first]⟩ []) handover
    (alone (live [.new (.orderUpdates second)] [.orderUpdates second] [] 3) ⟨[], [second], []⟩
      [(first, .orderUpdates first), (second, .orderUpdates second)]) := by
  have read : ClearStep cfg _ (.read 0 1 none) _ :=
    @read_step owning owning ⟨[], [first], [first]⟩ [] 1 first [] (.frame rfl rfl) rfl
  have left : ClearStep cfg (alone owning ⟨[], [first], []⟩ [(first, .orderUpdates first)]) _ _ :=
    ⟨call_step rfl (first_leaves 1), trivial⟩
  have told := deliver_step [] [.orderUpdates first] (.unsubscribe (.orderUpdates first)) [] 1
    ⟨[], [first], []⟩ [(first, .orderUpdates first)]
  have processed : ClearStep cfg _ (.process 0)
      (alone (live [] [] [] 1) ⟨[], [], []⟩ [(first, .orderUpdates first)]) :=
    @process_step (live [] [] [] 1) ⟨[.unsubscribe (.orderUpdates first)], [first], []⟩ _ _ _ rfl
  have placed : ClearStep cfg
      (alone (live [] [] [] 1) ⟨[], [], []⟩ [(first, .orderUpdates first)])
      (.pool (.subscribe (.orderUpdates second) 2))
      (alone (live [.new (.orderUpdates second)] [] [.subscribe (.orderUpdates second)] 1)
        ⟨[], [], []⟩ [(first, .orderUpdates first)]) := by
    refine ⟨call_step rfl (second_placed [] [] 1), ?_⟩
    rintro _ id conn _ here other (⟨_, queued⟩ | ⟨_, flying⟩)
    · rcases List.mem_singleton.mp (List.mem_of_getElem? here) with rfl
      cases queued
    · simp only [alone, ite_self] at flying
      rcases flying with sent | active | inbound
      · cases sent
      · cases active
      · cases inbound
  have told' := deliver_step [.new (.orderUpdates second)] []
    (.subscribe (.orderUpdates second)) [] 1 ⟨[], [], []⟩ [(first, .orderUpdates first)]
  have processed' : ClearStep cfg _ (.process 0) _ :=
    @process_step (live [.new (.orderUpdates second)] [.orderUpdates second] [] 1)
      ⟨[.subscribe (.orderUpdates second)], [], []⟩ [(first, .orderUpdates first)] _ _ rfl
  have updated : ClearStep cfg _ (.update 0 second) _ :=
    @update_step (live [.new (.orderUpdates second)] [.orderUpdates second] [] 1)
      ⟨[], [second], []⟩ [(first, .orderUpdates first)] second (List.mem_singleton_self second)
  have read' : ClearStep cfg _ (.read 0 3 none) _ :=
    @read_step (live [.new (.orderUpdates second)] [.orderUpdates second] [] 1)
      (live [.new (.orderUpdates second)] [.orderUpdates second] [] 3)
      ⟨[], [second], [second]⟩ [(first, .orderUpdates first)] 3 second [] (.frame rfl rfl) rfl
  exact .snoc (.snoc (.snoc (.snoc (.snoc (.snoc (.snoc (.snoc (.snoc .nil read) left) told)
    processed) placed) told') processed') updated) read'

/-- Both addresses get their own frames. -/
theorem handover_attributed : (alone (live [.new (.orderUpdates second)]
    [.orderUpdates second] [] 3) ⟨[], [second], []⟩
      [(first, .orderUpdates first), (second, .orderUpdates second)]).Attributed :=
  orderUpdates_attributed (opening_run.append handover_run)

end ReusedSocket

end Oppen.Feed
