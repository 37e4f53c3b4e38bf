import Oppen.Feed.Pool

/-! # What the sockets carry

A key whose last queued command is a subscribe is held by the slot, and one whose last queued
command is an unsubscribe is not. A key nothing is queued for is on the socket exactly as it is in
the slot. Each step of a connection keeps this, wherever a reconnect cuts the queue.
-/

namespace Oppen.Feed

open Foundation Oppen.Reconcile

/-! ## The slot's operations -/

namespace ConnectionSlot

variable {slot : ConnectionSlot}

/-- A slot holds a key exactly if it owns a subscription of that key. -/
theorem holds_iff {key : String} :
    slot.holds key = true ↔ ∃ sub ∈ slot.subscriptions, sub.key = key := by
  simp only [holds, subscriptions, List.any_eq_true, decide_eq_true_eq, List.mem_map]
  constructor
  · rintro ⟨entry, member, same⟩
    exact ⟨entry.sub, ⟨entry, member, rfl⟩, same⟩
  · rintro ⟨_, ⟨entry, member, rfl⟩, same⟩
    exact ⟨entry, member, same⟩

/-- A slot holds the key of each of its entries. -/
theorem holds_of_mem {entry : SubEntry} (member : entry ∈ slot.subs) :
    slot.holds entry.sub.key = true :=
  holds_iff.mpr ⟨entry.sub, List.mem_map_of_mem member, rfl⟩

/-- Slots with the same subscriptions hold the same keys. -/
theorem holds_congr {other : ConnectionSlot} (same : other.subscriptions = slot.subscriptions)
    (key : String) : other.holds key = slot.holds key := by
  rw [Bool.eq_iff_iff, holds_iff, holds_iff, same]

/-- Placing adds one new entry and keeps the others, up to their order. -/
theorem place_perm (sub : Subscription) :
    (slot.place sub).subs.Perm (.new sub :: slot.subs) := by
  refine List.perm_middle.trans (List.Perm.cons _ ?_)
  rw [List.takeWhile_append_dropWhile]

/-- The entries after placing are the new one and those before. -/
theorem mem_place {sub : Subscription} {entry : SubEntry} :
    entry ∈ (slot.place sub).subs ↔ entry = .new sub ∨ entry ∈ slot.subs := by
  rw [(place_perm sub).mem_iff, List.mem_cons]

/-- Removing takes the entries of one key and no others. -/
theorem mem_remove {sub : Subscription} {entry : SubEntry} :
    entry ∈ (slot.remove sub).subs ↔ entry ∈ slot.subs ∧ entry.sub.key ≠ sub.key := by
  simp only [remove, List.mem_filter, decide_eq_true_eq]

/-- After placing, the slot holds the new key and those before. -/
theorem holds_place {sub : Subscription} {key : String} :
    (slot.place sub).holds key = true ↔ sub.key = key ∨ slot.holds key = true := by
  simp only [holds, List.any_eq_true, decide_eq_true_eq, mem_place]
  constructor
  · rintro ⟨entry, rfl | older, same⟩
    · exact .inl same
    · exact .inr ⟨entry, older, same⟩
  · rintro (same | ⟨entry, older, same⟩)
    · exact ⟨.new sub, .inl rfl, same⟩
    · exact ⟨entry, .inr older, same⟩

/-- After removing, the slot holds every key but the removed one. -/
theorem holds_remove {sub : Subscription} {key : String} :
    (slot.remove sub).holds key = true ↔ slot.holds key = true ∧ sub.key ≠ key := by
  simp only [holds, List.any_eq_true, decide_eq_true_eq, mem_remove]
  constructor
  · rintro ⟨entry, ⟨member, other⟩, rfl⟩
    exact ⟨⟨entry, member, rfl⟩, other.symm⟩
  · rintro ⟨⟨entry, member, rfl⟩, other⟩
    exact ⟨entry, ⟨member, other.symm⟩, rfl⟩

/-- Placing adds its subscription to those that are owned. -/
theorem place_subscriptions (sub : Subscription) :
    (slot.place sub).subscriptions.Perm (sub :: slot.subscriptions) :=
  (place_perm sub).map SubEntry.sub

/-- Removing adds nothing to what is owned. -/
theorem remove_subscriptions (sub : Subscription) :
    (slot.remove sub).subscriptions.Sublist slot.subscriptions :=
  List.filter_sublist.map SubEntry.sub

/-- A change of each entry that keeps its subscription. -/
theorem map_subscriptions {change : SubEntry → SubEntry} {entries : List SubEntry}
    (kept : ∀ entry, (change entry).sub = entry.sub) :
    (entries.map change).map SubEntry.sub = entries.map SubEntry.sub := by
  rw [List.map_map]
  exact List.map_congr_left fun entry _ => kept entry

/-- A change of an entry that keeps its subscription keeps what is owned. -/
theorem update_subscriptions (key : String) {change : SubEntry → SubEntry}
    (kept : ∀ entry, (change entry).sub = entry.sub) :
    (slot.update key change).subscriptions = slot.subscriptions := by
  refine map_subscriptions fun entry => ?_
  split_ifs
  · exact kept entry
  · rfl

/-- An acknowledgment keeps what is owned. -/
theorem ack_subscriptions (key : String) : (slot.ack key).subscriptions = slot.subscriptions :=
  update_subscriptions key fun _ => rfl

/-- Lifting a quarantine keeps what is owned. -/
theorem clearQuarantine_subscriptions (sub : Subscription) :
    (slot.clearQuarantine sub).subscriptions = slot.subscriptions :=
  update_subscriptions sub.key fun _ => rfl

/-- Connecting and disconnecting keep what is owned. -/
theorem setConnected_subscriptions (connected : Bool) (nowMs : Nat) :
    (slot.setConnected connected nowMs).subscriptions = slot.subscriptions :=
  map_subscriptions fun _ => rfl

/-- A quarantine that lapses keeps what is owned. -/
theorem takeExpired_subscriptions (nowMs : Nat) :
    (slot.takeExpiredQuarantines nowMs).2.subscriptions = slot.subscriptions := by
  refine map_subscriptions fun entry => ?_
  split_ifs
  · rfl
  · rfl

/-- A failed session takes a subscription from nobody: it charges one entry at most. -/
theorem recordFailedSession_subscriptions (quarantineAfter nowMs : Nat) (entries : List SubEntry) :
    (recordFailedSession quarantineAfter nowMs entries).2.map SubEntry.sub =
      entries.map SubEntry.sub := by
  induction entries with
  | nil => rfl
  | cons entry rest ih =>
      rw [recordFailedSession]
      split
      · rw [List.map_cons, List.map_cons]
        congr 1
        simp only [strike]
        split
        · rfl
        · rfl
      · rw [List.map_cons, List.map_cons, ih]

/-- What a reconnect subscribes is held. -/
theorem resubscribeSet_sublist (nowMs : Nat) :
    (slot.resubscribeSet nowMs).Sublist slot.subscriptions :=
  List.filter_sublist.map SubEntry.sub

/-- An entry that is in no quarantine is subscribed by a reconnect. -/
theorem mem_resubscribeSet {entry : SubEntry} (member : entry ∈ slot.subs) {nowMs : Nat}
    (free : entry.quarantinedAt nowMs = false) : entry.sub ∈ slot.resubscribeSet nowMs := by
  refine List.mem_map_of_mem (List.mem_filter.mpr ⟨member, ?_⟩)
  rw [free, Bool.not_false]

/-- What a ping revives is held. -/
theorem revived_sublist (nowMs : Nat) :
    (slot.takeExpiredQuarantines nowMs).1.Sublist slot.subscriptions :=
  List.filter_sublist.map SubEntry.sub

end ConnectionSlot

/-! ## The queue -/

/-- The subscription a command is about. -/
def ConnCommand.sub : ConnCommand → Subscription
  | .subscribe sub | .unsubscribe sub => sub

def ConnCommand.subscribes : ConnCommand → Bool
  | .subscribe _ => true
  | .unsubscribe _ => false

/-- Whether the last command about a key subscribes it, when there is one. -/
def lastWord (key : String) : List ConnCommand → Option Bool
  | [] => none
  | command :: rest =>
      (lastWord key rest).or (if command.sub.key = key then some command.subscribes else none)

/-- The last word on a key is the last command that names it. -/
theorem lastWord_concat (key : String) (queue : List ConnCommand) (command : ConnCommand) :
    lastWord key (queue ++ [command]) =
      if command.sub.key = key then some command.subscribes else lastWord key queue := by
  induction queue with
  | nil => rfl
  | cons first rest ih =>
      rw [List.cons_append, lastWord, lastWord, ih]
      by_cases named : command.sub.key = key
      · rw [if_pos named, if_pos named, Option.some_or]
      · rw [if_neg named, if_neg named]

/-- A key that is not named by the first command is told about by the others only. -/
theorem lastWord_tail {key : String} {command : ConnCommand} {rest : List ConnCommand}
    {word : Bool} (told : lastWord key rest = some word) :
    lastWord key (command :: rest) = some word := by
  rw [lastWord, told, Option.some_or]

/-- Where the later commands are silent on a key the first one has the last word. -/
theorem lastWord_head {key : String} {command : ConnCommand} {rest : List ConnCommand}
    (quiet : lastWord key rest = none) :
    lastWord key (command :: rest) =
      if command.sub.key = key then some command.subscribes else none := by
  rw [lastWord, quiet, Option.none_or]

/-- The subscriptions sent on the socket, while there is one. -/
def Phase.socket : Phase → Option (List Subscription)
  | .resubscribing socket | .live socket => some socket
  | _ => none

/-! ## The agreement -/

section Agreement

variable {dec : Quotients} {cfg : ConnectionConfig} {since : Nat}

/-- The slot agrees with the queue, and with the socket, opened at this time, where nothing is
queued. -/
structure Connection.Agrees (since : Nat) (conn : Connection dec) : Prop where
  queued : ∀ key word, lastWord key conn.commands = some word → conn.slot.holds key = word
  carried : ∀ socket ∈ conn.phase.socket, ∀ entry ∈ conn.slot.subs,
    entry.quarantinedAt since = false → lastWord entry.sub.key conn.commands = none →
      ∃ sub ∈ socket, sub.key = entry.sub.key
  held : ∀ socket ∈ conn.phase.socket, ∀ sub ∈ socket,
    lastWord sub.key conn.commands = none → conn.slot.holds sub.key = true

/-- Without a socket only the queue has to agree. -/
theorem Connection.Agrees.of_down {conn : Connection dec} (down : conn.phase.socket = none)
    (queued : ∀ key word, lastWord key conn.commands = some word → conn.slot.holds key = word) :
    conn.Agrees since where
  queued := queued
  carried socket up := by rw [down] at up; cases up
  held socket up := by rw [down] at up; cases up

/-- A call changes the slot for one key and queues the command that says so. -/
theorem Connection.Agrees.told {conn moved : Connection dec} (agrees : conn.Agrees since)
    {command : ConnCommand} (phase : moved.phase = conn.phase)
    (queue : moved.commands = conn.commands ++ [command])
    (named : moved.slot.holds command.sub.key = command.subscribes)
    (others : ∀ key, command.sub.key ≠ key → moved.slot.holds key = conn.slot.holds key)
    (entries : ∀ entry ∈ moved.slot.subs, command.sub.key ≠ entry.sub.key →
      entry ∈ conn.slot.subs) : moved.Agrees since where
  queued key word last := by
    rw [queue, lastWord_concat] at last
    by_cases same : command.sub.key = key
    · rw [if_pos same] at last
      rw [← same, named, Option.some.inj last]
    · rw [if_neg same] at last
      rw [others key same]
      exact agrees.queued key word last
  carried socket up entry member free quiet := by
    rw [queue, lastWord_concat] at quiet
    by_cases same : command.sub.key = entry.sub.key
    · rw [if_pos same] at quiet
      cases quiet
    · rw [if_neg same] at quiet
      exact agrees.carried socket (phase ▸ up) entry (entries entry member same) free quiet
  held socket up sub member quiet := by
    rw [queue, lastWord_concat] at quiet
    by_cases same : command.sub.key = sub.key
    · rw [if_pos same] at quiet
      cases quiet
    · rw [if_neg same] at quiet
      rw [others sub.key same]
      exact agrees.held socket (phase ▸ up) sub member quiet

/-- A step of the task that keeps the queue and the socket, and lifts no quarantine. -/
theorem Connection.Agrees.kept {conn moved : Connection dec} (agrees : conn.Agrees since)
    (phase : moved.phase.socket = conn.phase.socket) (queue : moved.commands = conn.commands)
    (same : moved.slot.subscriptions = conn.slot.subscriptions)
    (entries : ∀ entry ∈ moved.slot.subs, ∃ old ∈ conn.slot.subs,
      old.sub = entry.sub ∧ old.quarantinedUntilMs = entry.quarantinedUntilMs) :
    moved.Agrees since where
  queued key word last := by
    rw [ConnectionSlot.holds_congr same]
    exact agrees.queued key word (queue ▸ last)
  carried socket up entry member free quiet := by
    obtain ⟨old, present, sub, until'⟩ := entries entry member
    rw [SubEntry.quarantinedAt, ← until'] at free
    rw [← sub] at quiet ⊢
    exact agrees.carried socket (phase ▸ up) old present free (queue ▸ quiet)
  held socket up sub member quiet := by
    rw [ConnectionSlot.holds_congr same]
    exact agrees.held socket (phase ▸ up) sub member (queue ▸ quiet)

/-- A reconnect subscribes what the slot holds, whatever is still queued. -/
theorem Connection.Agrees.connected {conn : Connection dec} (agrees : conn.Agrees since)
    (nowMs : Nat) :
    Connection.Agrees nowMs { conn with
      slot := conn.slot.setConnected true nowMs
      phase := .resubscribing ((conn.slot.setConnected true nowMs).resubscribeSet nowMs) } where
  queued key word last := by
    rw [ConnectionSlot.holds_congr (ConnectionSlot.setConnected_subscriptions true nowMs)]
    exact agrees.queued key word last
  carried := by
    rintro _ ⟨⟩ entry member free _
    exact ⟨entry.sub, ConnectionSlot.mem_resubscribeSet member free, rfl⟩
  held := by
    rintro _ ⟨⟩ sub member _
    exact ConnectionSlot.holds_iff.mpr
      ⟨sub, (ConnectionSlot.resubscribeSet_sublist nowMs).subset member, rfl⟩

/-- The frame of the first command leaves the socket as the slot has that key, when no later
command names it. -/
theorem Connection.Agrees.delivered {conn : Connection dec} (agrees : conn.Agrees since)
    {socket : List Subscription} {command : ConnCommand} {rest : List ConnCommand}
    (here : conn.phase = .live socket) (next : conn.commands = command :: rest) :
    Connection.Agrees since
      { conn with phase := .live (command.sent socket), commands := rest } where
  queued key word last := agrees.queued key word (by rw [next]; exact lastWord_tail last)
  carried := by
    rintro _ ⟨⟩ entry member free quiet
    have before := @lastWord_head _ command _ quiet
    rw [← next] at before
    by_cases named : command.sub.key = entry.sub.key
    · rw [if_pos named] at before
      have held := agrees.queued _ _ before
      rw [ConnectionSlot.holds_of_mem member] at held
      cases command with
      | subscribe sub => exact ⟨sub, List.mem_append_right _ (List.mem_singleton_self sub), named⟩
      | unsubscribe sub => cases held
    · rw [if_neg named] at before
      obtain ⟨sub, present, same⟩ :=
        agrees.carried socket (by rw [here]; rfl) entry member free before
      refine ⟨sub, ?_, same⟩
      cases command with
      | subscribe other => exact List.mem_append_left _ present
      | unsubscribe other =>
          refine List.mem_filter.mpr ⟨present, decide_eq_true fun equal => named ?_⟩
          exact equal.symm.trans same
  held := by
    rintro _ ⟨⟩ sub member quiet
    have before := @lastWord_head _ command _ quiet
    rw [← next] at before
    by_cases named : command.sub.key = sub.key
    · rw [if_pos named] at before
      rw [agrees.queued _ _ before]
      cases command with
      | subscribe other => rfl
      | unsubscribe other =>
          exact absurd named.symm (of_decide_eq_true (List.mem_filter.mp member).2)
    · rw [if_neg named] at before
      refine agrees.held socket (by rw [here]; rfl) sub ?_ before
      cases command with
      | subscribe other =>
          rcases List.mem_append.mp member with older | new
          · exact older
          · exact absurd (congrArg Subscription.key (List.mem_singleton.mp new)).symm named
      | unsubscribe other => exact (List.mem_filter.mp member).1

/-- A ping subscribes again what it takes out of quarantine. -/
theorem Connection.Agrees.pinged {conn : Connection dec} (agrees : conn.Agrees since)
    {socket : List Subscription} {nowMs sent : Nat} {reason : String}
    (here : conn.phase = .live socket) :
    Connection.Agrees since { conn with
      slot := (conn.slot.takeExpiredQuarantines nowMs).2
      phase := conn.pinged cfg nowMs sent reason socket
        (conn.slot.takeExpiredQuarantines nowMs).1 } := by
  have same := conn.slot.takeExpired_subscriptions nowMs
  have queued : ∀ key word, lastWord key conn.commands = some word →
      (conn.slot.takeExpiredQuarantines nowMs).2.holds key = word := by
    intro key word last
    rw [ConnectionSlot.holds_congr same]
    exact agrees.queued key word last
  rw [Connection.pinged]
  split_ifs
  · exact .of_down rfl queued
  refine ⟨queued, ?_, ?_⟩
  · rintro _ ⟨⟩ entry member free quiet
    obtain ⟨old, present, rfl⟩ := List.mem_map.mp member
    by_cases lapsed : ConnectionSlot.lapsed nowMs old = true
    · have revived : old.sub ∈ (conn.slot.takeExpiredQuarantines nowMs).1 :=
        List.mem_map_of_mem (List.mem_filter.mpr ⟨present, lapsed⟩)
      rw [if_pos lapsed]
      exact ⟨old.sub, List.mem_append_right _ revived, rfl⟩
    · rw [if_neg lapsed] at free quiet ⊢
      obtain ⟨sub, inside, key⟩ := agrees.carried socket (by rw [here]; rfl) old present free quiet
      exact ⟨sub, List.mem_append_left _ inside, key⟩
  · rintro _ ⟨⟩ sub member quiet
    rw [ConnectionSlot.holds_congr same]
    rcases List.mem_append.mp member with older | revived
    · exact agrees.held socket (by rw [here]; rfl) sub older quiet
    · exact ConnectionSlot.holds_iff.mpr
        ⟨sub, (ConnectionSlot.revived_sublist nowMs).subset revived, rfl⟩

/-! ## Every step -/

/-- Reporting a disconnect keeps what is owned. -/
theorem reportDisconnect_subscriptions (nowMs : Nat) (reason : String) (strike : Bool)
    (conn : Connection dec) :
    (conn.reportDisconnect cfg nowMs reason strike).slot.subscriptions =
      conn.slot.subscriptions := by
  refine (ConnectionSlot.setConnected_subscriptions false nowMs).trans ?_
  cases strike with
  | false => rfl
  | true => exact ConnectionSlot.recordFailedSession_subscriptions _ nowMs conn.slot.subs

/-- A turn keeps the subscriptions and the queue. -/
theorem turn_keeps (turn : Turn) (nowMs : Nat) (resubscribed : List Subscription)
    (conn : Connection dec) :
    (conn.turn cfg turn nowMs resubscribed).slot.subscriptions = conn.slot.subscriptions ∧
      (conn.turn cfg turn nowMs resubscribed).commands = conn.commands := by
  rw [Connection.turn]
  dsimp only
  split
  · exact ⟨rfl, rfl⟩
  · exact ⟨reportDisconnect_subscriptions nowMs _ _ _, rfl⟩
  · exact ⟨rfl, rfl⟩

/-- A turn after the burst went out leaves the slot as it was. -/
theorem turn_subscribed (atMs nowMs : Nat) (resubscribed : List Subscription)
    (conn : Connection dec) :
    (conn.turn cfg (.subscribed atMs) nowMs resubscribed).slot = conn.slot := by
  rw [Connection.turn, nextStep]
  split_ifs
  · rfl
  · rfl

/-- After a failure only the queue has to agree, and it does. -/
theorem Connection.Agrees.backedOff {conn : Connection dec} (agrees : conn.Agrees since)
    (turn : Turn) (nowMs : Nat) (resubscribed : List Subscription) :
    Connection.Agrees since { conn.turn cfg turn nowMs resubscribed with phase := .backoff } := by
  obtain ⟨same, queue⟩ := turn_keeps turn nowMs resubscribed conn
  refine .of_down rfl fun key word last => ?_
  rw [ConnectionSlot.holds_congr same]
  exact agrees.queued key word (queue ▸ last)

/-- **A step of a connection keeps the agreement.** -/
theorem Connection.Agrees.step {conn after : Connection dec} {act : ConnAct}
    (agrees : conn.Agrees since) (step : ConnStep cfg conn act after) :
    after.Agrees (act.openedMs since) := by
  cases step with
  | @connect nowMs here => exact agrees.connected nowMs
  | connectFailed here => exact agrees.backedOff _ _ _
  | resubscribeFailed here => exact agrees.backedOff _ _ _
  | @subscribed subs atMs here =>
      have slot := @turn_subscribed _ cfg atMs atMs subs conn
      refine agrees.kept (by rw [here]; rfl) (turn_keeps _ _ _ _).2 (turn_keeps _ _ _ _).1 ?_
      exact fun entry member => ⟨entry, slot ▸ member, rfl, rfl⟩
  | deliver here next => exact agrees.delivered here next
  | deliverFailed here next =>
      exact .of_down rfl fun key word last =>
        agrees.queued key word (by rw [next]; exact lastWord_tail last)
  | @frame socket nowMs acked here fresh =>
      cases acked with
      | none => exact agrees.kept rfl rfl rfl fun entry member => ⟨entry, member, rfl, rfl⟩
      | some key =>
          refine agrees.kept rfl rfl (ConnectionSlot.ack_subscriptions key) ?_
          intro entry member
          obtain ⟨old, present, rfl⟩ := List.mem_map.mp member
          refine ⟨old, present, ?_⟩
          split_ifs
          · exact ⟨rfl, rfl⟩
          · exact ⟨rfl, rfl⟩
  | late here | fail here => exact .of_down rfl agrees.queued
  | ping here => exact agrees.pinged here
  | drop here => exact agrees.backedOff _ _ _
  | wake here => exact .of_down rfl agrees.queued
  | wakeByCommand here next =>
      exact .of_down rfl fun key word last =>
        agrees.queued key word (by rw [next]; exact lastWord_tail last)
  | @subscribe sub absent =>
      refine agrees.told rfl rfl ?_ (fun key other => ?_) fun entry member other => ?_
      · exact ConnectionSlot.holds_place.mpr (.inl rfl)
      · rw [Bool.eq_iff_iff, Connection.slot_subscribe, ConnectionSlot.holds_place]
        exact or_iff_right other
      · rcases ConnectionSlot.mem_place.mp member with rfl | older
        · exact absurd rfl other
        · exact older
  | @unsubscribe sub present =>
      refine agrees.told rfl rfl ?_ (fun key other => ?_) fun entry member _ =>
        (ConnectionSlot.mem_remove.mp member).1
      · exact Bool.eq_false_iff.mpr fun held => (ConnectionSlot.holds_remove.mp held).2 rfl
      · rw [Bool.eq_iff_iff, Connection.slot_unsubscribe, ConnectionSlot.holds_remove]
        exact and_iff_left other
  | @clearQuarantine sub present =>
      have same := conn.slot.clearQuarantine_subscriptions sub
      refine agrees.told rfl rfl ?_ (fun key _ => ConnectionSlot.holds_congr same key) ?_
      · rw [Connection.slot_clearQuarantine, ConnectionSlot.holds_congr same]
        exact present
      · intro entry member other
        obtain ⟨old, older, rfl⟩ := List.mem_map.mp member
        split_ifs at other ⊢
        · rename_i equal
          exact absurd equal.symm other
        · exact older
  | @stop nowMs =>
      refine .of_down rfl fun key word last => ?_
      rw [ConnectionSlot.holds_congr (ConnectionSlot.setConnected_subscriptions false nowMs)]
      exact agrees.queued key word last

/-- A new connection agrees with its slot, as it has no socket yet. -/
theorem Connection.Agrees.new (id nowMs : Nat) (sub : Subscription) :
    (Connection.new dec id sub nowMs).Agrees since :=
  .of_down rfl nofun

/-- An empty queue leaves no key out. -/
theorem Connection.Agrees.carriedBy {conn : Connection dec} {socket : List Subscription}
    (agrees : conn.Agrees since) (here : conn.phase = .live socket) (sent : conn.commands = []) :
    conn.slot.CarriedBy since socket where
  carried entry member free := by
    refine agrees.carried socket (by rw [here]; rfl) entry member free ?_
    rw [sent]
    rfl
  held sub member := by
    refine agrees.held socket (by rw [here]; rfl) sub member ?_
    rw [sent]
    rfl

end Agreement

/-! ## The connections of the pool -/

section Pool

variable {dec : Quotients} {cfg : PoolConfig} {pool : Pool dec}

/-- The subscription an act of a connection names. -/
def ConnAct.names : ConnAct → Option Subscription
  | .subscribe sub | .unsubscribe sub | .clearQuarantine sub => some sub
  | _ => none

/-- Only a call of subscribe adds to the slot. -/
def ConnAct.adds : ConnAct → Bool
  | .subscribe _ => true
  | _ => false

/-- What the task of a connection does names no subscription. -/
theorem ConnAct.names_of_isTask {act : ConnAct} (own : act.isTask = true) : act.names = none := by
  cases act with
  | subscribe | unsubscribe | clearQuarantine => cases own
  | _ => rfl

/-- The acts of the pool that are no step of a task. -/
def PoolAct.isCall : PoolAct → Bool
  | .task .. => false
  | _ => true

/-- A call of the pool opens no connection anew. -/
theorem PoolAct.openedMs_of_isCall {act : PoolAct} (call : act.isCall = true) (id since : Nat) :
    act.openedMs id since = since := by
  cases act with
  | task => cases call
  | _ => rfl

/-- Only a task opens a socket. -/
theorem openedMs_of_origin {act : PoolAct} {id : Nat} {own : ConnAct}
    (origin : act = .task id own ∨ own.isTask = false ∧ act.isCall = true) (other since : Nat) :
    act.openedMs other since = if id = other then own.openedMs since else since := by
  rcases origin with rfl | ⟨outside, call⟩
  · rfl
  · have still : own.openedMs since = since := by
      cases own with
      | connect => cases outside
      | _ => rfl
    rw [act.openedMs_of_isCall call, still, ite_self]

/-- What an act of the pool does to its connections. -/
inductive Pool.Moves (cfg : PoolConfig) (pool : Pool dec) (act : PoolAct) :
    List (Connection dec) → Prop
  | still (call : act.isCall = true) : Moves cfg pool act pool.conns
  | placed {id : Nat} {conn : Connection dec} {sub : Subscription} {nowMs : Nat}
      (called : act = .subscribe sub nowMs) (here : pool.conns[id]? = some conn)
      (absent : ∀ other ∈ pool.conns, other.slot.holds sub.key = false)
      (room : conn.slot.hasRoom cfg sub = true)
      (running : pool.shutdown = false) (chosen : pool.place cfg sub = .ok (.existing id)) :
      Moves cfg pool act (pool.conns.set id (conn.subscribe sub))
  | opened {sub : Subscription} {nowMs : Nat} (called : act = .subscribe sub nowMs)
      (absent : ∀ other ∈ pool.conns, other.slot.holds sub.key = false) :
      Moves cfg pool act (pool.conns ++ [.new dec pool.conns.length sub nowMs])
  | stepped {id : Nat} {conn moved : Connection dec} {own : ConnAct}
      (here : pool.conns[id]? = some conn) (step : ConnStep cfg.connection conn own moved)
      (fixed : own.adds = false)
      (origin : act = .task id own ∨ own.isTask = false ∧ act.isCall = true)
      (named : ∀ sub ∈ own.names, sub ∈ act.names) :
      Moves cfg pool act (pool.conns.set id moved)

/-- Modifying an item that is there replaces it by its change. -/
theorem modify_eq_set {α : Type} {items : List α} {id : Nat} {item : α}
    (here : items[id]? = some item) (change : α → α) :
    items.modify id change = items.set id (change item) := by
  refine List.ext_getElem? fun index => ?_
  obtain ⟨inside, _⟩ := List.getElem?_eq_some_iff.mp here
  by_cases same : id = index
  · subst same
    rw [List.getElem?_modify_eq, List.getElem?_set_self inside, here]
    rfl
  · rw [List.getElem?_modify_ne _ _ same, List.getElem?_set_ne same]

/-- A search finds a connection that passes. -/
theorem find_conn {test : Connection dec → Bool} {id : Nat}
    (found : pool.conns.findIdx? test = some id) :
    ∃ conn, pool.conns[id]? = some conn ∧ test conn = true := by
  obtain ⟨inside, passes, _⟩ := List.findIdx?_eq_some_iff_getElem.mp found
  exact ⟨pool.conns[id], List.getElem?_eq_getElem inside, passes⟩

/-- What a placement says about the pool. -/
theorem place_spec {sub : Subscription} {placement : Placement}
    (placed : pool.place cfg sub = .ok placement) :
    match placement with
    | .alreadyPresent _ => True
    | .existing id => (∀ conn ∈ pool.conns, conn.slot.holds sub.key = false) ∧
        ∃ conn, pool.conns[id]? = some conn ∧ conn.slot.hasRoom cfg sub = true
    | .newConnection id => (∀ conn ∈ pool.conns, conn.slot.holds sub.key = false) ∧
        id = pool.conns.length := by
  rw [Pool.place] at placed
  cases holder : pool.conns.findIdx? fun conn => conn.slot.holds sub.key with
  | some id =>
      rw [holder] at placed
      cases placed
      trivial
  | none =>
      have absent := List.findIdx?_eq_none_iff.mp holder
      rw [holder] at placed
      dsimp only at placed
      by_cases full : cfg.capacity ≤ pool.len
      · rw [if_pos full] at placed
        cases placed
      rw [if_neg full] at placed
      cases room : pool.conns.findIdx? fun conn => conn.slot.hasRoom cfg sub with
      | some id =>
          rw [room] at placed
          cases placed
          exact ⟨absent, find_conn room⟩
      | none =>
          rw [room] at placed
          dsimp only at placed
          split_ifs at placed
          cases placed
          exact ⟨absent, rfl⟩

/-- The calls on the holder are a step of the connection that holds the key. -/
theorem onHolder_moves {act : PoolAct} {sub : Subscription}
    {change : Connection dec → Connection dec} {own : ConnAct} (outside : own.isTask = false)
    (fixed : own.adds = false) (call : act.isCall = true) (names : own.names = act.names)
    (step : ∀ conn, conn.slot.holds sub.key = true →
      ConnStep cfg.connection conn own (change conn)) :
    pool.Moves cfg act (pool.onHolder sub change).2.conns := by
  rw [Pool.onHolder]
  split_ifs
  · exact .still call
  cases found : pool.conns.findIdx? fun conn => conn.slot.holds sub.key with
  | none => exact .still call
  | some index =>
      obtain ⟨conn, here, holds⟩ := find_conn found
      dsimp only
      rw [modify_eq_set here]
      exact .stepped here (step conn holds) fixed (.inr ⟨outside, call⟩)
        fun sub named => names ▸ named

/-- **What one act does to the connections.** -/
theorem PoolStep.moves {after : Pool dec} {act : PoolAct} (step : PoolStep cfg pool act after) :
    pool.Moves cfg act after.conns := by
  cases step with
  | @subscribe sub nowMs =>
      rw [Pool.subscribe]
      split_ifs with stopped
      · exact .still rfl
      have running := Bool.eq_false_iff.mpr stopped
      cases placement : pool.place cfg sub with
      | error error => exact .still rfl
      | ok place =>
          have spec := place_spec placement
          cases place with
          | alreadyPresent id => exact .still rfl
          | existing id =>
              obtain ⟨absent, conn, here, room⟩ := spec
              dsimp only
              rw [modify_eq_set here]
              exact .placed rfl here absent room running placement
          | newConnection id =>
              obtain ⟨absent, rfl⟩ := spec
              exact .opened rfl absent
  | unsubscribe =>
      exact onHolder_moves rfl rfl rfl rfl fun conn holds => .unsubscribe holds
  | clearQuarantine =>
      exact onHolder_moves rfl rfl rfl rfl fun conn holds => .clearQuarantine holds
  | @task id conn moved own here task moves =>
      refine .stepped here moves ?_ (.inl rfl) fun sub named => ?_
      · cases own with
        | subscribe => cases task
        | _ => rfl
      · rw [ConnAct.names_of_isTask task] at named
        cases named
  | shutdown => exact .still rfl

/-! ## Placement over runs -/

/-- A step that adds nothing leaves no more subscriptions on a connection than it had. -/
theorem ConnStep.shrinks {config : ConnectionConfig} {conn after : Connection dec} {act : ConnAct}
    (step : ConnStep config conn act after) (fixed : act.adds = false) :
    after.slot.subscriptions.Sublist conn.slot.subscriptions := by
  cases step with
  | connect here =>
      exact (ConnectionSlot.setConnected_subscriptions _ _).symm ▸ List.Sublist.refl _
  | connectFailed here | resubscribeFailed here | subscribed here | drop here =>
      exact (turn_keeps _ _ _ conn).1.symm ▸ List.Sublist.refl _
  | deliver | deliverFailed | late | fail | wake | wakeByCommand => exact List.Sublist.refl _
  | @frame socket nowMs acked here fresh =>
      cases acked with
      | none => exact List.Sublist.refl _
      | some key =>
          have same := (conn.slot.touchConnection nowMs).ack_subscriptions key
          exact same.symm ▸ List.Sublist.refl _
  | @ping socket nowMs sent reason here =>
      exact (ConnectionSlot.takeExpired_subscriptions nowMs).symm ▸ List.Sublist.refl _
  | @subscribe sub absent => cases fixed
  | @unsubscribe sub present => exact ConnectionSlot.remove_subscriptions sub
  | @clearQuarantine sub present =>
      exact (conn.slot.clearQuarantine_subscriptions sub).symm ▸ List.Sublist.refl _
  | @stop nowMs =>
      exact (ConnectionSlot.setConnected_subscriptions _ _).symm ▸ List.Sublist.refl _

/-- What a connection may hold by itself. -/
structure Connection.Within (cfg : PoolConfig) (conn : Connection dec) : Prop where
  distinct : (conn.slot.subscriptions.map Subscription.key).Nodup
  within : conn.slot.subscriptions.length ≤ cfg.subs
  exclusive : conn.slot.subscriptions.countP Subscription.exclusivePerConnection ≤ 1

/-- A connection with fewer subscriptions is still within its bounds. -/
theorem Connection.Within.shrink {conn after : Connection dec} (fits : conn.Within cfg)
    (fewer : after.slot.subscriptions.Sublist conn.slot.subscriptions) : after.Within cfg where
  distinct := fits.distinct.sublist (fewer.map _)
  within := fewer.length_le.trans fits.within
  exclusive := fewer.countP_le.trans fits.exclusive

/-- A connection with room takes a subscription it does not hold. -/
theorem Connection.Within.subscribe {conn : Connection dec} {sub : Subscription}
    (fits : conn.Within cfg) (absent : conn.slot.holds sub.key = false)
    (room : conn.slot.hasRoom cfg sub = true) : (conn.subscribe sub).Within cfg := by
  have perm := conn.slot.place_subscriptions sub
  rw [ConnectionSlot.hasRoom, Bool.and_eq_true, decide_eq_true_eq] at room
  obtain ⟨free, alone⟩ := room
  refine ⟨(perm.map _).nodup_iff.mpr (List.nodup_cons.mpr ⟨?_, fits.distinct⟩), ?_, ?_⟩
  · intro member
    obtain ⟨held, present, same⟩ := List.mem_map.mp member
    exact absurd (ConnectionSlot.holds_iff.mpr ⟨held, present, same⟩)
      (Bool.eq_false_iff.mp absent)
  · refine perm.length_eq.trans_le ?_
    rw [List.length_cons, ConnectionSlot.subscriptions, List.length_map]
    exact free
  · refine (perm.countP_eq _).trans_le ?_
    rw [List.countP_cons]
    by_cases exclusive : sub.exclusivePerConnection = true
    · have none : conn.slot.subscriptions.countP Subscription.exclusivePerConnection = 0 := by
        refine List.countP_eq_zero.mpr fun held member other => ?_
        obtain ⟨entry, present, rfl⟩ := List.mem_map.mp member
        rw [exclusive, Bool.true_and, Bool.not_eq_true'] at alone
        exact List.any_eq_false.mp alone entry present other
      rw [none, if_pos exclusive]
    · rw [if_neg exclusive]
      exact fits.exclusive

/-- A new connection with its first subscription is within its bounds. -/
theorem Connection.Within.new (id nowMs : Nat) (sub : Subscription) :
    (Connection.new dec id sub nowMs).Within cfg := by
  refine ⟨List.nodup_singleton _, le_max_right _ _, ?_⟩
  exact List.countP_le_length

/-- The key of a subscription held nowhere is on the one connection that takes it. -/
theorem Pool.Placed.taken {after : Pool dec} (placed : pool.Placed cfg) (id : Nat)
    {sub : Subscription} (absent : ∀ conn ∈ pool.conns, conn.slot.holds sub.key = false)
    (same : ∀ (other : Nat) (conn : Connection dec) (key : String),
      after.conns[other]? = some conn → conn.slot.holds key = true → sub.key ≠ key →
        ∃ before, pool.conns[other]? = some before ∧ before.slot.holds key = true)
    (only : ∀ (other : Nat) (conn : Connection dec), after.conns[other]? = some conn →
      conn.slot.holds sub.key = true → other = id ∨ conn ∈ pool.conns)
    (fits : ∀ conn ∈ after.conns, conn.Within cfg) : after.Placed cfg where
  once key left right first second here there holds holds' := by
    by_cases named : sub.key = key
    · subst named
      have here' := (only left first here holds).resolve_right fun old =>
        absurd holds (Bool.eq_false_iff.mp (absent first old))
      have there' := (only right second there holds').resolve_right fun old =>
        absurd holds' (Bool.eq_false_iff.mp (absent second old))
      exact here'.trans there'.symm
    · obtain ⟨before, here', held⟩ := same left first key here holds named
      obtain ⟨before', there', held'⟩ := same right second key there holds' named
      exact placed.once key left right before before' here' there' held held'
  distinct conn member := (fits conn member).distinct
  within conn member := (fits conn member).within
  exclusive conn member := (fits conn member).exclusive

/-- Each connection of a well-placed pool is within its bounds. -/
theorem Pool.Placed.fits (placed : pool.Placed cfg) {conn : Connection dec}
    (member : conn ∈ pool.conns) : conn.Within cfg :=
  ⟨placed.distinct conn member, placed.within conn member, placed.exclusive conn member⟩

/-- An empty pool is well placed. -/
theorem Pool.Placed.new : (Pool.new : Pool dec).Placed cfg where
  once key id other left right := by rintro ⟨⟩
  distinct conn none := absurd none List.not_mem_nil
  within conn none := absurd none List.not_mem_nil
  exclusive conn none := absurd none List.not_mem_nil

/-- An item of a list in which one was replaced is the new one or an old one. -/
theorem getElem?_set_cases {α : Type} {items : List α} {id index : Nat} {item found : α}
    (here : (items.set id item)[index]? = some found) :
    id = index ∧ found = item ∨ id ≠ index ∧ items[index]? = some found := by
  rw [List.getElem?_set] at here
  split_ifs at here with same inside
  · exact .inl ⟨same, (Option.some.inj here).symm⟩
  · exact .inr ⟨same, here⟩

/-- An item of a list that one was added to is the new one or an old one. -/
theorem getElem?_concat_cases {α : Type} {items : List α} {index : Nat} {item found : α}
    (here : (items ++ [item])[index]? = some found) :
    index = items.length ∧ found = item ∨ items[index]? = some found := by
  rcases Nat.lt_trichotomy index items.length with before | last | beyond
  · rw [List.getElem?_append_left before] at here
    exact .inr here
  · rw [last, List.getElem?_concat_length] at here
    exact .inl ⟨last, (Option.some.inj here).symm⟩
  · rw [List.getElem?_eq_none (by simp only [List.length_append, List.length_singleton]; omega)]
      at here
    cases here

/-- **Placement is kept.** -/
theorem Pool.Placed.moves {after : Pool dec} {act : PoolAct} (placed : pool.Placed cfg)
    (moves : pool.Moves cfg act after.conns) : after.Placed cfg := by
  obtain ⟨conns, shutdown⟩ := after
  cases moves with
  | still => exact ⟨placed.once, placed.distinct, placed.within, placed.exclusive⟩
  | @placed id conn sub nowMs called here absent room =>
      have old : conn ∈ pool.conns := List.mem_of_getElem? here
      refine placed.taken id absent (fun other moved key there holds named => ?_)
        (fun other moved there holds => ?_) fun moved member => ?_
      · rcases getElem?_set_cases there with ⟨rfl, rfl⟩ | ⟨_, there⟩
        · exact ⟨conn, here, (ConnectionSlot.holds_place.mp holds).resolve_left named⟩
        · exact ⟨moved, there, holds⟩
      · rcases getElem?_set_cases there with ⟨rfl, _⟩ | ⟨_, there⟩
        · exact .inl rfl
        · exact .inr (List.mem_of_getElem? there)
      · rcases List.mem_or_eq_of_mem_set member with before | rfl
        · exact placed.fits before
        · exact (placed.fits old).subscribe (absent conn old) room
  | @opened sub nowMs called absent =>
      refine placed.taken pool.conns.length absent (fun other moved key there holds named => ?_)
        (fun other moved there holds => ?_) fun moved member => ?_
      · rcases getElem?_concat_cases there with ⟨_, rfl⟩ | there
        · obtain ⟨held, member, same⟩ := ConnectionSlot.holds_iff.mp holds
          rw [List.mem_singleton.mp member] at same
          exact absurd same named
        · exact ⟨moved, there, holds⟩
      · rcases getElem?_concat_cases there with ⟨rfl, _⟩ | there
        · exact .inl rfl
        · exact .inr (List.mem_of_getElem? there)
      · rcases List.mem_append.mp member with before | new
        · exact placed.fits before
        · rw [List.mem_singleton.mp new]
          exact .new _ nowMs sub
  | @stepped id conn moved own here step fixed =>
      have fewer := step.shrinks fixed
      have back : ∀ (other : Nat) (found : Connection dec) (key : String),
          (pool.conns.set id moved)[other]? = some found → found.slot.holds key = true →
            ∃ before, pool.conns[other]? = some before ∧ before.slot.holds key = true := by
        intro other found key there holds
        rcases getElem?_set_cases there with ⟨rfl, rfl⟩ | ⟨_, there⟩
        · obtain ⟨sub, member, same⟩ := ConnectionSlot.holds_iff.mp holds
          exact ⟨conn, here, ConnectionSlot.holds_iff.mpr ⟨sub, fewer.subset member, same⟩⟩
        · exact ⟨found, there, holds⟩
      have fits : ∀ found ∈ pool.conns.set id moved, found.Within cfg := by
        intro found member
        rcases List.mem_or_eq_of_mem_set member with before | rfl
        · exact placed.fits before
        · exact (placed.fits (List.mem_of_getElem? here)).shrink fewer
      refine ⟨fun key left right first second there there' holds holds' => ?_,
        fun found member => (fits found member).distinct,
        fun found member => (fits found member).within,
        fun found member => (fits found member).exclusive⟩
      obtain ⟨before, there, held⟩ := back left first key there holds
      obtain ⟨before', there', held'⟩ := back right second key there' holds'
      exact placed.once key left right before before' there there' held held'

/-! ## Agreement over runs -/

/-- Each connection agrees with the socket it opened last. -/
def Pool.Agrees (since : Nat → Nat) (pool : Pool dec) : Prop :=
  ∀ (id : Nat) (conn : Connection dec), pool.conns[id]? = some conn → conn.Agrees (since id)

/-- **Agreement is kept.** -/
theorem Pool.Agrees.moves {after : Pool dec} {act : PoolAct} {since : Nat → Nat}
    (agrees : pool.Agrees since) (moves : pool.Moves cfg act after.conns) :
    after.Agrees fun id => act.openedMs id (since id) := by
  obtain ⟨conns, shutdown⟩ := after
  intro id found there
  change found.Agrees (act.openedMs id (since id))
  cases moves with
  | still call =>
      rw [act.openedMs_of_isCall call]
      exact agrees id found there
  | @placed placedAt conn sub nowMs called here absent room =>
      subst called
      rcases getElem?_set_cases there with ⟨rfl, rfl⟩ | ⟨_, there⟩
      · have step : ConnStep cfg.connection conn (.subscribe sub) (conn.subscribe sub) :=
          .subscribe (absent conn (List.mem_of_getElem? here))
        exact (agrees _ conn here).step step
      · exact agrees id found there
  | @opened sub nowMs called absent =>
      subst called
      rcases getElem?_concat_cases there with ⟨_, rfl⟩ | there
      · exact .new _ nowMs sub
      · exact agrees id found there
  | @stepped moved' conn moved own here step fixed origin =>
      rw [openedMs_of_origin origin]
      rcases getElem?_set_cases there with ⟨rfl, rfl⟩ | ⟨other, there⟩
      · rw [if_pos rfl]
        exact (agrees _ conn here).step step
      · rw [if_neg other]
        exact agrees id found there

/-! ## What is named -/

/-- Everything a connection deals with was named by a call. -/
structure Connection.Named (named : Subscription → Prop) (conn : Connection dec) : Prop where
  held : ∀ sub ∈ conn.slot.subscriptions, named sub
  queued : ∀ command ∈ conn.commands, named command.sub
  sent : ∀ socket ∈ conn.phase.socket, ∀ sub ∈ socket, named sub

/-- After a command was sent, the socket carries its subscription at most beside what it carried. -/
theorem ConnCommand.sent_cases {command : ConnCommand} {socket : List Subscription}
    {sub : Subscription} (member : sub ∈ command.sent socket) :
    sub = command.sub ∨ sub ∈ socket := by
  cases command with
  | subscribe other =>
      rcases List.mem_append.mp member with older | new
      · exact .inr older
      · exact .inl (List.mem_singleton.mp new)
  | unsubscribe other => exact .inr (List.mem_filter.mp member).1

/-- A step keeps a connection to subscriptions that somebody named. -/
theorem Connection.Named.step {config : ConnectionConfig} {named : Subscription → Prop}
    {conn after : Connection dec} {act : ConnAct} (known : conn.Named named)
    (step : ConnStep config conn act after) (told : ∀ sub ∈ act.names, named sub) :
    after.Named named := by
  have fewer : act.adds = false → ∀ sub ∈ after.slot.subscriptions, named sub :=
    fun fixed sub member => known.held sub ((step.shrinks fixed).subset member)
  have down : ∀ socket ∈ (none : Option (List Subscription)), ∀ sub ∈ socket, named sub :=
    fun _ none => by cases none
  have queue : ∀ command, named command.sub →
      ∀ other ∈ conn.commands ++ [command], named other.sub := by
    intro command new other member
    rcases List.mem_append.mp member with older | last
    · exact known.queued other older
    · exact List.mem_singleton.mp last ▸ new
  cases step with
  | @connect nowMs here =>
      have held := fewer rfl
      refine ⟨held, known.queued, ?_⟩
      rintro _ ⟨⟩ sub member
      exact held sub ((ConnectionSlot.resubscribeSet_sublist nowMs).subset member)
  | connectFailed here | resubscribeFailed here | drop here =>
      refine ⟨fewer rfl, ?_, down⟩
      exact (turn_keeps _ _ _ conn).2 ▸ known.queued
  | subscribed here =>
      refine ⟨fewer rfl, (turn_keeps _ _ _ conn).2 ▸ known.queued, ?_⟩
      rintro _ ⟨⟩
      exact known.sent _ (by rw [here]; rfl)
  | @deliver socket command rest here next =>
      have first := known.queued command (by rw [next]; exact List.mem_cons_self)
      refine ⟨known.held, fun other member =>
        known.queued other (by rw [next]; exact List.mem_cons_of_mem _ member), ?_⟩
      rintro _ ⟨⟩ sub member
      rcases ConnCommand.sent_cases member with rfl | older
      · exact first
      · exact known.sent socket (by rw [here]; rfl) sub older
  | deliverFailed here next | wakeByCommand here next =>
      exact ⟨known.held, fun other member =>
        known.queued other (by rw [next]; exact List.mem_cons_of_mem _ member), down⟩
  | frame => exact ⟨fewer rfl, known.queued, known.sent⟩
  | late | fail | wake => exact ⟨known.held, known.queued, down⟩
  | @ping socket nowMs sent reason here =>
      refine ⟨fewer rfl, known.queued, ?_⟩
      rw [Connection.pinged]
      split_ifs
      · exact down
      · rintro _ ⟨⟩ sub member
        rcases List.mem_append.mp member with older | revived
        · exact known.sent socket (by rw [here]; rfl) sub older
        · exact known.held sub ((ConnectionSlot.revived_sublist nowMs).subset revived)
  | @subscribe sub absent =>
      refine ⟨fun other member => ?_, queue (.subscribe sub) (told sub rfl), known.sent⟩
      have perm := conn.slot.place_subscriptions sub
      rcases List.mem_cons.mp (perm.mem_iff.mp member) with rfl | older
      · exact told other rfl
      · exact known.held other older
  | @unsubscribe sub present =>
      exact ⟨fewer rfl, queue (.unsubscribe sub) (told sub rfl), known.sent⟩
  | @clearQuarantine sub present =>
      exact ⟨fewer rfl, queue (.subscribe sub) (told sub rfl), known.sent⟩
  | stop => exact ⟨fewer rfl, known.queued, down⟩

/-- Whatever the connections deal with was named. -/
def Pool.Named (named : Subscription → Prop) (pool : Pool dec) : Prop :=
  ∀ conn ∈ pool.conns, conn.Named named

/-- A move of the pool keeps every connection to subscriptions that somebody named. -/
theorem Pool.Named.moves {after : Pool dec} {act : PoolAct} {named : Subscription → Prop}
    (known : pool.Named named) (told : ∀ sub ∈ act.names, named sub)
    (moves : pool.Moves cfg act after.conns) : after.Named named := by
  obtain ⟨conns, shutdown⟩ := after
  intro found member
  cases moves with
  | still => exact known found member
  | @placed id conn sub nowMs called here absent room =>
      subst called
      rcases List.mem_or_eq_of_mem_set member with before | rfl
      · exact known found before
      · have step : ConnStep cfg.connection conn (.subscribe sub) (conn.subscribe sub) :=
          .subscribe (absent conn (List.mem_of_getElem? here))
        exact (known conn (List.mem_of_getElem? here)).step step told
  | @opened sub nowMs called absent =>
      subst called
      rcases List.mem_append.mp member with before | new
      · exact known found before
      · rw [List.mem_singleton.mp new]
        refine ⟨fun other member => ?_, fun _ none => absurd none List.not_mem_nil,
          fun _ none => by cases none⟩
        exact List.mem_singleton.mp member ▸ told sub rfl
  | @stepped id conn moved own here step fixed origin inside =>
      rcases List.mem_or_eq_of_mem_set member with before | rfl
      · exact known found before
      · exact (known conn (List.mem_of_getElem? here)).step step
          fun sub names => told sub (inside sub names)

/-! ## The sockets -/

/-- Different subscriptions that the acts name have different keys. -/
def KeysApart (acts : List PoolAct) : Prop :=
  ∀ left right : Subscription, (∃ act ∈ acts, left ∈ act.names) →
    (∃ act ∈ acts, right ∈ act.names) → left.key = right.key → left = right

/-- What every run of the pool has kept. The result about sockets is read off these, connection by
connection. -/
structure Pool.Kept (cfg : PoolConfig) (acts : List PoolAct) (pool : Pool dec) : Prop where
  placed : pool.Placed cfg
  agrees : pool.Agrees fun id => openedMs id acts
  named : pool.Named fun sub => ∃ act ∈ acts, sub ∈ act.names

/-- Along every run of a new pool the registry and the sockets keep in step. -/
theorem Pool.kept_of_run {acts : List PoolAct}
    (run : Run (PoolStep cfg) (Pool.new : Pool dec) acts pool) : pool.Kept cfg acts := by
  refine run.history (Pool.Kept cfg) ⟨.new, ?_, ?_⟩ ?_
  · rintro id conn ⟨⟩
  · exact fun conn none => absurd none List.not_mem_nil
  · intro seen before act after _ kept step
    have moves := step.moves
    refine ⟨kept.placed.moves moves, ?_, ?_⟩
    · have agrees := kept.agrees.moves moves
      simpa only [openedMs, List.foldl_append, List.foldl_cons, List.foldl_nil] using agrees
    · refine Pool.Named.moves (fun conn member => ?_) (fun sub told => ?_) moves
      · obtain ⟨held, queued, sent⟩ := kept.named conn member
        have wider : ∀ sub, (∃ act ∈ seen, sub ∈ act.names) →
            ∃ other ∈ seen ++ [act], sub ∈ other.names :=
          fun sub ⟨other, member, names⟩ => ⟨other, List.mem_append_left _ member, names⟩
        exact ⟨fun sub member => wider sub (held sub member),
          fun command member => wider _ (queued command member),
          fun socket up sub member => wider sub (sent socket up sub member)⟩
      · exact ⟨act, List.mem_append_right _ (List.mem_singleton_self act), told⟩

/-- **The sockets carry what the registry says.** In every run each key is on one connection and
no connection holds more than it may. A session that has sent every queued command has on its
socket the keys of its slot and no others, but for quarantines in force, and where different
subscriptions have different keys the very subscriptions. -/
theorem sockets_carry_registry {acts : List PoolAct}
    (run : Run (PoolStep cfg) (Pool.new : Pool dec) acts pool) :
    pool.Placed cfg ∧
      ∀ (id : Nat) (conn : Connection dec) (socket : List Subscription),
        pool.conns[id]? = some conn → conn.phase = .live socket → conn.commands = [] →
          conn.slot.CarriedBy (openedMs id acts) socket ∧
          (KeysApart acts → (∀ entry ∈ conn.slot.subs,
            entry.quarantinedAt (openedMs id acts) = false → entry.sub ∈ socket) ∧
            ∀ sub ∈ socket, sub ∈ conn.slot.subscriptions) := by
  have kept := Pool.kept_of_run run
  refine ⟨kept.placed, fun id conn socket here live sent => ?_⟩
  have carries := (kept.agrees id conn here).carriedBy live sent
  obtain ⟨held, _, known⟩ := kept.named conn (List.mem_of_getElem? here)
  have onSocket := known socket (by rw [live]; rfl)
  refine ⟨carries, fun apart => ⟨fun entry member free => ?_, fun sub member => ?_⟩⟩
  · obtain ⟨sub, inside, same⟩ := carries.carried entry member free
    have inSlot := held entry.sub (List.mem_map_of_mem member)
    exact apart sub entry.sub (onSocket sub inside) inSlot same ▸ inside
  · obtain ⟨other, inside, same⟩ := ConnectionSlot.holds_iff.mp (carries.held sub member)
    exact apart other sub (held other inside) (onSocket sub member) same ▸ inside

end Pool

namespace LostCommand

/-- Two connections, of the default limits. -/
def cfg : PoolConfig := ⟨2, 1000, ⟨75000, 3, 5000⟩⟩

def quotes : Subscription := .bbo "BTC"

def prints : Subscription := .trades "BTC"

/-- A failed connect, a command that only cuts the wait short, and the connect after it. -/
def acts : List PoolAct :=
  [.subscribe quotes 0, .task 0 (.connectFailed 1 1 "refused"), .subscribe prints 2,
    .task 0 .wakeByCommand, .task 0 (.connect 3), .task 0 (.subscribed 4)]

def down : WsEvent Quotients.reference :=
  .disconnected ⟨0, 1, none, [quotes], [quotes], "refused"⟩

def waiting : Connection Quotients.reference where
  id := 0
  slot := ⟨[.new quotes], false, none⟩
  state := ⟨1, true, none, 1⟩
  phase := .backoff
  commands := []
  events := [down]

/-- The connection with both feeds on its socket. -/
def joined : Connection Quotients.reference where
  id := 0
  slot := ⟨[.new quotes, .new prints], true, some 3⟩
  state := ⟨1, false, none, 1⟩
  phase := .live [quotes, prints]
  commands := []
  events := [down, .reconnected ⟨0, 4, ⟨1, 4⟩, [quotes, prints], 1⟩]

/-- A step of the one connection is a step of the pool. -/
theorem task {conn after : Connection Quotients.reference} {act : ConnAct}
    (own : act.isTask = true) (step : ConnStep cfg.connection conn act after) :
    PoolStep cfg ⟨[conn], false⟩ (.task 0 act) ⟨[after], false⟩ :=
  @PoolStep.task _ cfg ⟨[conn], false⟩ 0 conn after act rfl own step

/-- The second feed goes to the connection that waits. -/
theorem prints_subscribed : (Pool.subscribe cfg ⟨[waiting], false⟩ prints 2).2 =
    ⟨[waiting.subscribe prints], false⟩ :=
  rfl

/-- The run up to the two feeds on one connection. -/
theorem joined_run : Run (PoolStep cfg) (Pool.new : Pool Quotients.reference) acts
    ⟨[joined], false⟩ := by
  have opened : PoolStep cfg (Pool.new : Pool Quotients.reference) (.subscribe quotes 0)
      ⟨[.new _ 0 quotes 0], false⟩ := .subscribe
  have called : PoolStep cfg ⟨[waiting], false⟩ (.subscribe prints 2)
      ⟨[waiting.subscribe prints], false⟩ := prints_subscribed ▸ .subscribe
  refine .snoc (.snoc (.snoc (.snoc (.snoc (.snoc .nil opened) (task rfl (.connectFailed rfl)))
    called) (task rfl (.wakeByCommand rfl rfl))) (task rfl (.connect rfl))) ?_
  exact task rfl (.subscribed rfl)

/-- Only the quotes and the prints are named. -/
theorem named_cases {sub : Subscription} (named : ∃ act ∈ acts, sub ∈ act.names) :
    sub = quotes ∨ sub = prints := by
  obtain ⟨act, member, names⟩ := named
  rcases List.mem_cons.mp member with rfl | member
  · exact .inl (Option.some.inj names).symm
  rcases List.mem_cons.mp member with rfl | member
  · cases names
  rcases List.mem_cons.mp member with rfl | member
  · exact .inr (Option.some.inj names).symm
  have quiet : ∀ other ∈ acts.drop 3, other.names = none := by decide
  rw [quiet act member] at names
  cases names

/-- The quotes and the prints have different keys. -/
theorem keys_apart : KeysApart acts := by
  intro left right first second same
  rcases named_cases first with rfl | rfl <;> rcases named_cases second with rfl | rfl
  · rfl
  · exact absurd same (by decide +kernel)
  · exact absurd same (by decide +kernel)
  · rfl

/-- The feed whose command was lost is on the socket. -/
theorem lost_command_carried : joined.slot.CarriedBy 3 [quotes, prints] ∧
    ∀ entry ∈ joined.slot.subs, entry.quarantinedAt 3 = false → entry.sub ∈ [quotes, prints] :=
  have kept := (sockets_carry_registry joined_run).2 0 joined [quotes, prints] rfl rfl rfl
  ⟨kept.1, (kept.2 keys_apart).1⟩

end LostCommand

end Oppen.Feed
