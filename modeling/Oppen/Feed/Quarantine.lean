import Mathlib.Data.String.Basic
import Oppen.Feed.OrderUpdates

/-! # Whom a quarantine hits

The venue processes the frames of a socket in the order sent, acknowledges each subscription it
knows and closes the socket at the first it does not. A session that ends this soon charges the
first subscription in the order of the keys that is not acknowledged: the one the venue refused,
unless a good one that sorts before it is still under way, or the refused one is gone meanwhile.
-/

namespace Oppen.Feed

open Foundation Oppen.Reconcile

/-! ## The venue -/

/-- The socket of a connection as the venue serves it: the frames it has not processed, the keys
whose acknowledgments are on their way, and the subscription it closed the socket on. -/
structure Line where
  outbound : List ConnCommand
  inbound : List String
  refused : Option Subscription
  deriving DecidableEq

/-- The venue carries out one frame, by its verdicts on the keys. -/
def Line.process (good : String → Bool) (line : Line) : ConnCommand → Line
  | .subscribe sub =>
      if good sub.key then { line with inbound := line.inbound ++ [sub.key] }
      else { line with refused := some sub }
  | .unsubscribe _ => line

section Served

variable {dec : Quotients}

/-- The socket after an act of the connection: a connect opens a new one with its burst. -/
def Line.after (cfg : ConnectionConfig) (conn : Connection dec) (line : Line) : ConnAct → Line
  | .connect nowMs =>
      ⟨((conn.slot.setConnected true nowMs).resubscribeSet nowMs).map .subscribe, [], none⟩
  | .frame _ (some _) => { line with inbound := line.inbound.tail }
  | act => { line with outbound := line.outbound ++ conn.frames cfg act }

/-- Acknowledgments are read in order, and a socket that is lost within the grace period was closed
by the venue. -/
def Line.Allows (cfg : ConnectionConfig) (line : Line) : ConnAct → Prop
  | .frame _ (some key) => line.inbound.head? = some key
  | .drop _ _ lived => cfg.sessionGrace ≤ lived ∨ line.refused.isSome = true
  | _ => True

/-- A connection and its socket. -/
structure Served (dec : Quotients) where
  conn : Connection dec
  line : Line

/-- A connection opened for its first subscription. -/
def Served.new (dec : Quotients) (id : Nat) (sub : Subscription) (nowMs : Nat) : Served dec :=
  ⟨.new dec id sub nowMs, ⟨[], [], none⟩⟩

/-- What happens: an act of the connection, or the venue processes the oldest frame. -/
inductive ServedAct where
  | conn (act : ConnAct)
  | process

/-- One step of a connection with its line, on which the venue takes the frames in the order they
were sent until it refuses one. -/
inductive ServedStep (cfg : ConnectionConfig) (good : String → Bool) :
    Served dec → ServedAct → Served dec → Prop
  | conn {served : Served dec} {act : ConnAct} {after : Connection dec}
      (step : ConnStep cfg served.conn act after) (allowed : served.line.Allows cfg act) :
      ServedStep cfg good served (.conn act) ⟨after, served.line.after cfg served.conn act⟩
  | process {served : Served dec} {command : ConnCommand} {rest : List ConnCommand}
      (next : served.line.outbound = command :: rest) (up : served.line.refused = none) :
      ServedStep cfg good served .process
        ⟨served.conn, { served.line.process good command with outbound := rest }⟩

/-- At the end of a session within the grace period every good subscription that awaits its
acknowledgment sorts after the refused one, which is still held and not quarantined. -/
def Served.Blames (cfg : ConnectionConfig) (good : String → Bool) (served : Served dec) :
    ServedAct → Prop
  | .conn (.drop _ nowMs lived) => lived < cfg.sessionGrace →
      ∀ entry ∈ served.conn.slot.subs, good entry.sub.key = true → entry.acked = false →
        ∃ held ∈ served.conn.slot.subs, served.line.refused = some held.sub ∧
          held.quarantinedAt nowMs = false ∧ held.sub.key < entry.sub.key
  | _ => True

/-- A step that keeps to it. Only the ends of short sessions are restricted; everything else
interleaves freely. -/
def BlamedStep (cfg : ConnectionConfig) (good : String → Bool) (before : Served dec)
    (act : ServedAct) (after : Served dec) : Prop :=
  ServedStep cfg good before act after ∧ before.Blames cfg good act

/-- An act that lifts the strikes of a key. -/
def ServedAct.Lifts (key : String) : ServedAct → Prop
  | .conn (.unsubscribe sub) | .conn (.clearQuarantine sub) => sub.key = key
  | _ => False

end Served

/-! ## The suspect -/

/-- What `record_failed_session` looks for: neither acknowledged nor quarantined. -/
def SubEntry.Suspect (nowMs : Nat) (entry : SubEntry) : Prop :=
  entry.acked = false ∧ entry.quarantinedAt nowMs = false

namespace ConnectionSlot

/-- The first suspect of some entries. -/
structure FirstSuspect (nowMs : Nat) (entries early : List SubEntry) (suspect : SubEntry)
    (late : List SubEntry) : Prop where
  split : entries = early ++ suspect :: late
  clear : ∀ entry ∈ early, ¬ entry.Suspect nowMs
  suspected : suspect.Suspect nowMs

variable {nowMs : Nat} {entries early late : List SubEntry} {suspect : SubEntry}

/-- There is no suspect, or a first one. -/
theorem firstSuspect_or (nowMs : Nat) (entries : List SubEntry) :
    (∀ entry ∈ entries, ¬ entry.Suspect nowMs) ∨
      ∃ early suspect late, FirstSuspect nowMs entries early suspect late := by
  induction entries with
  | nil => exact .inl nofun
  | cons entry rest ih =>
      by_cases first : entry.Suspect nowMs
      · exact .inr ⟨[], entry, rest, rfl, nofun, first⟩
      rcases ih with none | ⟨early, suspect, late, split, clear, suspected⟩
      · exact .inl fun other member => (List.mem_cons.mp member).elim (fun same => same ▸ first)
          (none other)
      · refine .inr ⟨entry :: early, suspect, late, by rw [split]; rfl, fun other member => ?_,
          suspected⟩
        exact (List.mem_cons.mp member).elim (fun same => same ▸ first) (clear other)

/-- A strike changes what is known of a subscription, never which subscription it is. -/
theorem strike_sub (quarantineAfter nowMs : Nat) (entry : SubEntry) :
    (strike quarantineAfter nowMs entry).2.sub = entry.sub := by
  simp only [strike]
  split_ifs
  · rfl
  · rfl

/-- A strike counts one more failure, saturating, and quarantines exactly from the threshold on. -/
theorem strike_strikes (quarantineAfter nowMs : Nat) (entry : SubEntry) :
    (strike quarantineAfter nowMs entry).2.strikes = saturatingSucc entry.strikes ∧
      ((strike quarantineAfter nowMs entry).1 = true ↔
        max quarantineAfter 1 ≤ saturatingSucc entry.strikes) := by
  simp only [strike]
  split_ifs with out
  · exact ⟨rfl, iff_of_true rfl out⟩
  · exact ⟨rfl, iff_of_false not_false out⟩

/-- An entry that is no suspect is passed over. -/
theorem recordFailedSession_skip (quarantineAfter : Nat) {entry : SubEntry}
    (clear : ¬ entry.Suspect nowMs) (rest : List SubEntry) :
    recordFailedSession quarantineAfter nowMs (entry :: rest) =
      ((recordFailedSession quarantineAfter nowMs rest).1,
        entry :: (recordFailedSession quarantineAfter nowMs rest).2) := by
  rw [recordFailedSession]
  exact if_neg clear

/-- A failed session that finds no suspect blames no entry and leaves the slot as it is. -/
theorem recordFailedSession_none (quarantineAfter : Nat)
    (none : ∀ entry ∈ entries, ¬ entry.Suspect nowMs) :
    recordFailedSession quarantineAfter nowMs entries = (Option.none, entries) := by
  induction entries with
  | nil => rfl
  | cons entry rest ih =>
      rw [recordFailedSession_skip quarantineAfter (none entry List.mem_cons_self),
        ih fun other member => none other (List.mem_cons_of_mem _ member)]

/-- **The first suspect takes the strike.** -/
theorem FirstSuspect.record (first : FirstSuspect nowMs entries early suspect late)
    (quarantineAfter : Nat) :
    recordFailedSession quarantineAfter nowMs entries =
      (if (strike quarantineAfter nowMs suspect).1 = true then
        some (suspect.sub, (strike quarantineAfter nowMs suspect).2.strikes) else none,
        early ++ (strike quarantineAfter nowMs suspect).2 :: late) := by
  obtain ⟨rfl, clear, suspected⟩ := first
  induction early with
  | nil =>
      rw [List.nil_append, recordFailedSession, ← strike_sub quarantineAfter nowMs suspect]
      exact if_pos suspected
  | cons entry early ih =>
      have rest := ih fun other member => clear other (List.mem_cons_of_mem _ member)
      rw [List.cons_append, recordFailedSession_skip quarantineAfter
        (clear entry List.mem_cons_self), rest]
      rfl

end ConnectionSlot

/-! ## What an act does to the entries -/

section Edits

variable {dec : Quotients} {cfg : ConnectionConfig}

/-- `acked = false`. -/
def SubEntry.forgotten (entry : SubEntry) : SubEntry := { entry with acked := false }

/-- What an act does to an entry that stays and takes no strike: it ends a quarantine at most,
acknowledges the key a frame names, and lowers strikes only with that or when they are lifted. -/
structure Mends (act : ConnAct) (change : SubEntry → SubEntry) : Prop where
  sub : ∀ entry, (change entry).sub = entry.sub
  quarantined : ∀ entry, (change entry).quarantinedUntilMs = entry.quarantinedUntilMs ∨
    (change entry).quarantinedUntilMs = none
  acked : ∀ entry, (change entry).acked = true → entry.acked = true ∨
    ∃ nowMs, act = .frame nowMs (some entry.sub.key)
  strikes : ∀ entry, entry.strikes ≤ (change entry).strikes ∨
    (∃ nowMs, act = .frame nowMs (some entry.sub.key)) ∨
    ∃ sub, act = .clearQuarantine sub ∧ sub.key = entry.sub.key

/-- Leaving an entry as it is mends it, whatever the act was. -/
theorem mends_id (act : ConnAct) : Mends act id :=
  ⟨fun _ => rfl, fun _ => .inl rfl, fun _ => .inl, fun _ => .inl le_rfl⟩

/-- Forgetting the first data of the session mends an entry, whatever the act was. -/
theorem mends_forgotten (act : ConnAct) : Mends act SubEntry.forgotten :=
  ⟨fun _ => rfl, fun _ => .inl rfl, nofun, fun _ => .inl le_rfl⟩

/-- A change of the entry of one key. -/
theorem mends_key {act : ConnAct} {key : String} {change : SubEntry → SubEntry}
    (mends : ∀ entry : SubEntry, entry.sub.key = key → (change entry).sub = entry.sub ∧
      ((change entry).quarantinedUntilMs = entry.quarantinedUntilMs ∨
        (change entry).quarantinedUntilMs = none) ∧
      ((change entry).acked = true → entry.acked = true ∨ ∃ nowMs, act = .frame nowMs (some key)) ∧
      (entry.strikes ≤ (change entry).strikes ∨ (∃ nowMs, act = .frame nowMs (some key)) ∨
        ∃ sub, act = .clearQuarantine sub ∧ sub.key = key)) :
    Mends act fun entry => if entry.sub.key = key then change entry else entry := by
  refine ⟨fun entry => ?_, fun entry => ?_, fun entry => ?_, fun entry => ?_⟩
  · split_ifs with same
    · exact (mends entry same).1
    · rfl
  · split_ifs with same
    · exact (mends entry same).2.1
    · exact .inl rfl
  · split_ifs with same
    · exact same ▸ (mends entry same).2.2.1
    · exact .inl
  · split_ifs with same
    · exact same ▸ (mends entry same).2.2.2
    · exact .inl le_rfl

/-- What an act leaves of the entries of a connection, and the events it tells. -/
inductive Edit (cfg : ConnectionConfig) (conn : Connection dec) (act : ConnAct) :
    List SubEntry → List (WsEvent dec) → Prop
  | mend {change : SubEntry → SubEntry} {new : List (WsEvent dec)} (mends : Mends act change)
      (quiet : ∀ connection sub strikes,
        WsEvent.subscriptionQuarantined connection sub strikes ∉ new) :
      Edit cfg conn act (conn.slot.subs.map change) new
  | place {sub : Subscription} (is : act = .subscribe sub)
      (absent : conn.slot.holds sub.key = false) :
      Edit cfg conn act (conn.slot.place sub).subs []
  | remove {sub : Subscription} (is : act = .unsubscribe sub) :
      Edit cfg conn act (conn.slot.remove sub).subs []
  | strike {atMs nowMs lived : Nat} {early late : List SubEntry} {suspect : SubEntry}
      {dropped : Disconnected} (is : act = .drop atMs nowMs lived)
      (short : lived < cfg.sessionGrace)
      (first : ConnectionSlot.FirstSuspect nowMs conn.slot.subs early suspect late) :
      Edit cfg conn act
        ((early ++ (ConnectionSlot.strike cfg.quarantineAfter nowMs suspect).2 :: late).map
          SubEntry.forgotten)
        (.disconnected dropped ::
          if (ConnectionSlot.strike cfg.quarantineAfter nowMs suspect).1 = true then
            [.subscriptionQuarantined conn.id suspect.sub
              (ConnectionSlot.strike cfg.quarantineAfter nowMs suspect).2.strikes] else [])

/-- An act that tells nothing of the kind. -/
theorem edit_quiet {conn : Connection dec} {act : ConnAct} {change : SubEntry → SubEntry}
    (mends : Mends act change) : Edit cfg conn act (conn.slot.subs.map change) [] :=
  .mend mends fun _ _ _ => List.not_mem_nil

/-- An act that announces no quarantine and keeps every entry is an edit. -/
theorem edit_same {conn : Connection dec} {act : ConnAct} {new : List (WsEvent dec)}
    (quiet : ∀ connection sub strikes,
      WsEvent.subscriptionQuarantined connection sub strikes ∉ new) :
    Edit cfg conn act conn.slot.subs new := by
  have same : Edit cfg conn act (conn.slot.subs.map id) new := .mend (mends_id act) quiet
  rw [List.map_id] at same
  exact same

/-- A turn that charges nobody. -/
theorem edit_turn {conn : Connection dec} {act : ConnAct} {turn : Turn} (nowMs : Nat)
    (resubscribed : List Subscription)
    (spares : ∀ reason, (nextStep conn.state turn).2 ≠ .reportDown reason true) :
    ∃ new, (conn.turn cfg turn nowMs resubscribed).events = conn.events ++ new ∧
      Edit cfg conn act (conn.turn cfg turn nowMs resubscribed).slot.subs new := by
  rw [Connection.turn]
  rcases decided : nextStep conn.state turn with ⟨state, outcome⟩
  rw [decided] at spares
  cases outcome with
  | idle => exact ⟨[], (List.append_nil _).symm, edit_same fun _ _ _ => List.not_mem_nil⟩
  | reportUp gap attempts =>
      refine ⟨_, rfl, edit_same fun connection sub strikes told => ?_⟩
      cases List.mem_singleton.mp told
  | reportDown reason strike =>
      cases strike with
      | true => exact absurd rfl (spares reason)
      | false =>
          refine ⟨_, rfl, .mend (mends_forgotten act) fun connection sub strikes told => ?_⟩
          rcases List.mem_cons.mp told with same | none
          · cases same
          · exact absurd none List.not_mem_nil

/-- A session that ends within the grace period is reported with a strike. -/
theorem turn_short {conn : Connection dec} (nowMs atMs : Nat) {lived : Nat} (last : Option Nat)
    (reason : String) (resubscribed : List Subscription)
    (up : conn.state.announcedDown = false) (short : lived < cfg.sessionGrace) :
    ∃ state, conn.turn cfg (.sessionDropped atMs last reason lived cfg.sessionGrace) nowMs
      resubscribed = Connection.reportDisconnect cfg nowMs reason true { conn with state } := by
  have charged : (!decide (cfg.sessionGrace ≤ lived)) = true := by
    rw [decide_eq_false (not_le.mpr short)]
    rfl
  refine ⟨⟨if decide (cfg.sessionGrace ≤ lived) = true then 0 else
    ConnectionSlot.saturatingSucc conn.state.attempt, true, last, atMs⟩, ?_⟩
  rw [Connection.turn, nextStep, ConnState.announceDown]
  dsimp only
  rw [if_neg (by rw [up]; exact Bool.false_ne_true), charged]

/-- A drop that finds no suspect emits one disconnect and forgets the session's first data, and
quarantines nothing. -/
theorem report_clear {conn : Connection dec} {nowMs : Nat} (reason : String)
    (none : ∀ entry ∈ conn.slot.subs, ¬ entry.Suspect nowMs) :
    ∃ dropped, (conn.reportDisconnect cfg nowMs reason true).events =
        conn.events ++ [.disconnected dropped] ∧
      (conn.reportDisconnect cfg nowMs reason true).slot.subs =
        conn.slot.subs.map SubEntry.forgotten := by
  have recorded := ConnectionSlot.recordFailedSession_none cfg.quarantineAfter none
  rw [Connection.reportDisconnect]
  dsimp only
  rw [if_pos rfl, recorded]
  exact ⟨_, rfl, rfl⟩

/-- A drop that finds a suspect strikes the first one, and only that one. -/
theorem report_suspect {conn : Connection dec} {nowMs : Nat} (reason : String)
    {early late : List SubEntry} {suspect : SubEntry}
    (first : ConnectionSlot.FirstSuspect nowMs conn.slot.subs early suspect late) :
    let struck := ConnectionSlot.strike cfg.quarantineAfter nowMs suspect
    ∃ dropped, (conn.reportDisconnect cfg nowMs reason true).events =
        conn.events ++ .disconnected dropped :: (if struck.1 = true then
          [.subscriptionQuarantined conn.id suspect.sub struck.2.strikes] else []) ∧
      (conn.reportDisconnect cfg nowMs reason true).slot.subs =
        (early ++ struck.2 :: late).map SubEntry.forgotten := by
  have recorded := first.record cfg.quarantineAfter
  rw [Connection.reportDisconnect]
  dsimp only
  rw [if_pos rfl, recorded]
  refine ⟨⟨conn.id, nowMs, conn.slot.lastMessageMs, conn.slot.subscriptions, conn.slot.unacked,
    reason⟩, ?_, rfl⟩
  dsimp only
  split_ifs
  · rfl
  · rfl

/-- What a dropped session does to the entries is an edit: at most one is struck, and the others are
forgotten. -/
theorem edit_drop {conn : Connection dec} {nowMs atMs lived : Nat} (last : Option Nat)
    (reason : String) (resubscribed : List Subscription) :
    ∃ new, (conn.turn cfg (.sessionDropped atMs last reason lived cfg.sessionGrace) nowMs
        resubscribed).events = conn.events ++ new ∧
      Edit cfg conn (.drop atMs nowMs lived)
        (conn.turn cfg (.sessionDropped atMs last reason lived cfg.sessionGrace) nowMs
          resubscribed).slot.subs new := by
  by_cases up : conn.state.announcedDown = false
  · by_cases short : lived < cfg.sessionGrace
    · obtain ⟨state, turned⟩ := turn_short nowMs atMs last reason resubscribed up short
      rw [turned]
      rcases ConnectionSlot.firstSuspect_or nowMs conn.slot.subs with
        none | ⟨early, suspect, late, first⟩
      · obtain ⟨dropped, events, subs⟩ :=
          @report_clear _ cfg { conn with state } nowMs reason none
        refine ⟨_, events, ?_⟩
        rw [subs]
        refine .mend (mends_forgotten _) fun connection sub strikes told => ?_
        cases List.mem_singleton.mp told
      · obtain ⟨dropped, events, subs⟩ :=
          @report_suspect _ cfg { conn with state } nowMs reason _ _ _ first
        refine ⟨_, events, ?_⟩
        rw [subs]
        exact .strike rfl short first
    · refine edit_turn nowMs resubscribed fun other => ?_
      rw [nextStep, decide_eq_true (not_lt.mp short), ConnState.announceDown]
      dsimp only
      rw [if_neg (by rw [up]; exact Bool.false_ne_true)]
      exact fun same => by cases same
  · refine edit_turn nowMs resubscribed fun other => ?_
    rw [nextStep, ConnState.announceDown, if_pos (Bool.not_eq_false _ ▸ up)]
    exact fun same => by cases same

/-- **What one act of a connection does to its entries.** -/
theorem ConnStep.edit {conn after : Connection dec} {act : ConnAct}
    (step : ConnStep cfg conn act after) :
    ∃ new, after.events = conn.events ++ new ∧ Edit cfg conn act after.slot.subs new := by
  have quiet : conn.events = conn.events ++ [] := (List.append_nil _).symm
  cases step with
  | connect => exact ⟨[], quiet, edit_quiet (mends_forgotten _)⟩
  | connectFailed =>
      refine edit_turn _ _ fun reason => ?_
      rw [nextStep, ConnState.announceDown]
      split_ifs
      · exact fun same => by cases same
      · exact fun same => by cases same
  | resubscribeFailed =>
      refine edit_turn _ _ fun reason => ?_
      rw [nextStep, ConnState.announceDown]
      split_ifs
      · exact fun same => by cases same
      · exact fun same => by cases same
  | subscribed =>
      refine edit_turn _ _ fun reason => ?_
      rw [nextStep]
      split_ifs
      · exact fun same => by cases same
      · exact fun same => by cases same
  | deliver | deliverFailed | late | fail | wake | wakeByCommand =>
      exact ⟨[], quiet, edit_same fun _ _ _ => List.not_mem_nil⟩
  | @frame socket nowMs acked =>
      cases acked with
      | none => exact ⟨[], quiet, edit_same fun _ _ _ => List.not_mem_nil⟩
      | some key =>
          refine ⟨[], quiet, edit_quiet (mends_key fun entry same => ?_)⟩
          exact ⟨rfl, .inl rfl, fun _ => .inr ⟨nowMs, rfl⟩, .inr (.inl ⟨nowMs, rfl⟩)⟩
  | @ping socket nowMs sent reason =>
      refine ⟨[], quiet, edit_quiet ⟨fun entry => ?_, fun entry => ?_, fun entry => ?_,
        fun entry => ?_⟩⟩
      all_goals split_ifs
      · rfl
      · rfl
      · exact .inr rfl
      · exact .inl rfl
      · exact .inl
      · exact .inl
      · exact .inl le_rfl
      · exact .inl le_rfl
  | drop => exact edit_drop _ _ _
  | subscribe absent => exact ⟨[], quiet, .place rfl absent⟩
  | unsubscribe => exact ⟨[], quiet, .remove rfl⟩
  | @clearQuarantine sub =>
      refine ⟨[], quiet, edit_quiet (mends_key fun entry same => ?_)⟩
      exact ⟨rfl, .inr rfl, .inl, .inr (.inr ⟨sub, rfl, rfl⟩)⟩
  | stop => exact ⟨[], quiet, edit_quiet (mends_forgotten _)⟩

end Edits

/-! ## What every run keeps -/

section Runs

variable {dec : Quotients} {cfg : ConnectionConfig} {good : String → Bool}

/-- The entries stand in the order of their keys. -/
def Ascending (entries : List SubEntry) : Prop :=
  entries.Pairwise fun left right => left.sub.key < right.sub.key

/-- The order of the entries depends only on the subscriptions they hold. -/
theorem ascending_congr {entries others : List SubEntry}
    (same : entries.map SubEntry.sub = others.map SubEntry.sub) (ascending : Ascending entries) :
    Ascending others := by
  have keys : (entries.map SubEntry.sub).Pairwise fun left right => left.key < right.key :=
    List.pairwise_map.mpr ascending
  rw [same, List.pairwise_map] at keys
  exact keys

/-- Past the place where a key belongs no entry has a smaller one, since the entries ascend. -/
theorem not_lt_of_mem_dropWhile {entries : List SubEntry} {key : String}
    (ascending : Ascending entries) {entry : SubEntry}
    (member : entry ∈ entries.dropWhile fun other => other.sub.key < key) :
    ¬ entry.sub.key < key := by
  induction entries with
  | nil => cases member
  | cons first rest ih =>
      obtain ⟨after, rest'⟩ := List.pairwise_cons.mp ascending
      rw [List.dropWhile_cons] at member
      split_ifs at member with less
      · exact ih rest' member
      · have above : ¬ first.sub.key < key := fun below => less (decide_eq_true below)
        rcases List.mem_cons.mp member with rfl | later
        · exact above
        · exact fun below => above ((after entry later).trans below)

/-- A subscription that is placed by its key keeps the entries in ascending order. -/
theorem ascending_place {slot : ConnectionSlot} {sub : Subscription}
    (ascending : Ascending slot.subs) (absent : slot.holds sub.key = false) :
    Ascending (slot.place sub).subs := by
  have apart : ∀ entry ∈ slot.subs, entry.sub.key ≠ sub.key := by
    intro entry member same
    have held : slot.holds sub.key = true :=
      List.any_eq_true.mpr ⟨entry, member, decide_eq_true same⟩
    exact absurd (held.symm.trans absent) (by exact nofun)
  have above : ∀ entry ∈ slot.subs.dropWhile fun other => other.sub.key < sub.key,
      sub.key < entry.sub.key := by
    intro entry member
    have inside := (List.dropWhile_sublist _).subset member
    exact lt_of_le_of_ne (not_lt.mp (not_lt_of_mem_dropWhile ascending member))
      (apart entry inside).symm
  have below : ∀ entry ∈ slot.subs.takeWhile fun other => other.sub.key < sub.key,
      entry.sub.key < sub.key := fun entry member =>
    of_decide_eq_true (List.all_eq_true.mp List.all_takeWhile entry member)
  refine List.pairwise_append.mpr ⟨ascending.sublist (List.takeWhile_sublist _),
    List.pairwise_cons.mpr ⟨above, ascending.sublist (List.dropWhile_sublist _)⟩, ?_⟩
  intro left here right there
  rcases List.mem_cons.mp there with rfl | there
  · exact below left here
  · exact (below left here).trans (above right there)

/-- Striking one entry keeps the order, since the struck entry holds the same subscription. -/
theorem ascending_struck {nowMs : Nat} {entries early late : List SubEntry}
    {suspect struck : SubEntry} (ascending : Ascending entries)
    (first : ConnectionSlot.FirstSuspect nowMs entries early suspect late)
    (same : struck.sub = suspect.sub) :
    Ascending ((early ++ struck :: late).map SubEntry.forgotten) := by
  refine ascending_congr ?_ ascending
  have forgets : SubEntry.sub ∘ SubEntry.forgotten = SubEntry.sub := rfl
  rw [first.split, List.map_map, forgets, List.map_append, List.map_append, List.map_cons,
    List.map_cons, same]

variable {conn : Connection dec} {act : ConnAct} {subs : List SubEntry} {new : List (WsEvent dec)}

/-- Every edit keeps the entries in ascending order of their keys. -/
theorem Edit.ascending (edit : Edit cfg conn act subs new) (ascending : Ascending conn.slot.subs) :
    Ascending subs := by
  cases edit with
  | @mend change _ mends =>
      refine ascending_congr ?_ ascending
      rw [List.map_map]
      exact List.map_congr_left fun entry _ => (mends.sub entry).symm
  | place _ absent => exact ascending_place ascending absent
  | remove => exact ascending.filter _
  | strike _ _ first => exact ascending_struck ascending first (ConnectionSlot.strike_sub _ _ _)

/-- What is acknowledged was, or a frame says so. -/
theorem Edit.acked (edit : Edit cfg conn act subs new) {entry : SubEntry} (member : entry ∈ subs)
    (acked : entry.acked = true) :
    (∃ held ∈ conn.slot.subs, held.sub = entry.sub ∧ held.acked = true) ∨
      ∃ nowMs, act = .frame nowMs (some entry.sub.key) := by
  cases edit with
  | mend mends =>
      obtain ⟨held, inside, rfl⟩ := List.mem_map.mp member
      rcases mends.acked held acked with older | ⟨nowMs, told⟩
      · exact .inl ⟨held, inside, (mends.sub held).symm, older⟩
      · exact .inr ⟨nowMs, by rw [mends.sub]; exact told⟩
  | place =>
      rcases ConnectionSlot.mem_place.mp member with rfl | inside
      · cases acked
      · exact .inl ⟨entry, inside, rfl, acked⟩
  | remove => exact .inl ⟨entry, List.mem_of_mem_filter member, rfl, acked⟩
  | strike =>
      obtain ⟨held, _, rfl⟩ := List.mem_map.mp member
      cases acked

/-- Between a burst and the report of its end no outage is announced. -/
def Connection.InSession (conn : Connection dec) : Prop :=
  match conn.phase with
  | .live _ | .dropping _ => True
  | _ => False

/-- What every run keeps, whatever it does. -/
structure Served.Sane (good : String → Bool) (served : Served dec) : Prop where
  ascending : Ascending served.conn.slot.subs
  acked : ∀ entry ∈ served.conn.slot.subs, entry.acked = true → good entry.sub.key = true
  inbound : ∀ key ∈ served.line.inbound, good key = true
  refused : ∀ sub, served.line.refused = some sub → good sub.key = false
  answered : served.conn.InSession → served.conn.state.announcedDown = false

/-- In a session the connection has announced no outage that it has not ended, and every step keeps
it so. -/
theorem ConnStep.answered {after : Connection dec} (step : ConnStep cfg conn act after)
    (answered : conn.InSession → conn.state.announcedDown = false) :
    after.InSession → after.state.announcedDown = false := by
  have live {socket : List Subscription} (here : conn.phase = .live socket) : conn.InSession := by
    rw [Connection.InSession, here]
    trivial
  cases step with
  | connect | connectFailed | resubscribeFailed | drop | wake | wakeByCommand | stop =>
      exact fun up => False.elim up
  | subscribed =>
      intro _
      change (conn.turn cfg (.subscribed _) _ _).state.announcedDown = false
      rw [Connection.turn, nextStep]
      split_ifs with down
      · exact down
      · rfl
  | deliver here | deliverFailed here | late here | ping here | fail here =>
      exact fun _ => answered (live here)
  | frame | subscribe | unsubscribe | clearQuarantine => exact answered

/-- What an act leaves of the line. -/
theorem Line.after_spec (cfg : ConnectionConfig) (conn : Connection dec) (line : Line)
    (act : ConnAct) :
    (line.after cfg conn act).inbound ⊆ line.inbound ∧
      ((line.after cfg conn act).refused = line.refused ∨
        (line.after cfg conn act).refused = none) := by
  cases act with
  | connect => exact ⟨List.nil_subset _, .inr rfl⟩
  | frame nowMs acked =>
      cases acked with
      | none => exact ⟨List.Subset.refl _, .inl rfl⟩
      | some key => exact ⟨fun _ => List.mem_of_mem_tail, .inl rfl⟩
  | _ => exact ⟨List.Subset.refl _, .inl rfl⟩

/-- What a frame leaves of the line. -/
theorem Line.process_spec (good : String → Bool) (line : Line) (command : ConnCommand) :
    (∀ key ∈ (line.process good command).inbound, key ∈ line.inbound ∨ good key = true) ∧
      ∀ sub, (line.process good command).refused = some sub →
        line.refused = some sub ∨ good sub.key = false := by
  cases command with
  | unsubscribe sub => exact ⟨fun _ => .inl, fun _ => .inl⟩
  | subscribe sub =>
      rw [Line.process]
      split_ifs with known
      · refine ⟨fun key member => ?_, fun _ => .inl⟩
        rcases List.mem_append.mp member with older | new
        · exact .inl older
        · exact .inr (List.mem_singleton.mp new ▸ known)
      · exact ⟨fun _ => .inl, fun other closed => .inr
          (Option.some.inj closed ▸ Bool.not_eq_true _ ▸ known)⟩

/-- A frame of a key can arrive only where the line still carries one for it. -/
theorem mem_inbound_of_allows {line : Line} {nowMs : Nat} {key : String}
    (allowed : line.Allows cfg (.frame nowMs (some key))) : key ∈ line.inbound :=
  List.mem_of_mem_head? allowed

variable {served next : Served dec} {event : ServedAct}

/-- Every step of the server, the venue and the line keeps them in agreement. -/
theorem ServedStep.sane (step : ServedStep cfg good served event next)
    (sane : served.Sane good) : next.Sane good := by
  cases step with
  | @conn act after step allowed =>
      obtain ⟨new, _, edit⟩ := step.edit
      obtain ⟨inbound, refused⟩ := Line.after_spec cfg served.conn served.line act
      refine ⟨edit.ascending sane.ascending, fun entry member acked => ?_,
        fun key member => sane.inbound key (inbound member), fun sub closed => ?_,
        step.answered sane.answered⟩
      · rcases edit.acked member acked with ⟨held, inside, same, older⟩ | ⟨nowMs, rfl⟩
        · exact same ▸ sane.acked held inside older
        · exact sane.inbound _ (mem_inbound_of_allows allowed)
      · rcases refused with same | none
        · exact sane.refused sub (same.symm.trans closed)
        · rw [none] at closed
          cases closed
  | @process command rest upcoming up =>
      obtain ⟨inbound, refused⟩ := Line.process_spec good served.line command
      refine ⟨sane.ascending, sane.acked, fun key member => ?_, fun sub closed => ?_,
        sane.answered⟩
      · exact (inbound key member).elim (sane.inbound key) id
      · exact (refused sub closed).elim (sane.refused sub) id

/-! ## No good subscription is charged -/

/-- **The first suspect is a bad one,** where every good one sorts after the refused. -/
theorem Served.Sane.suspect_bad (sane : served.Sane good) {atMs nowMs lived : Nat}
    (blames : served.Blames cfg good (.conn (.drop atMs nowMs lived)))
    (short : lived < cfg.sessionGrace) {early late : List SubEntry} {suspect : SubEntry}
    (first : ConnectionSlot.FirstSuspect nowMs served.conn.slot.subs early suspect late) :
    good suspect.sub.key = false := by
  by_contra known
  rw [Bool.not_eq_false] at known
  have member : suspect ∈ served.conn.slot.subs :=
    first.split ▸ List.mem_append_right _ List.mem_cons_self
  obtain ⟨held, inside, refused, free, before⟩ :=
    blames short suspect member known first.suspected.1
  have waiting : held.acked = false := by
    by_contra acked
    have accepted := sane.acked held inside (Bool.not_eq_false _ ▸ acked)
    rw [sane.refused held.sub refused] at accepted
    cases accepted
  have ascending := sane.ascending
  rw [Ascending, first.split] at ascending
  rw [first.split] at inside
  rcases List.mem_append.mp inside with earlier | rest
  · exact first.clear held earlier ⟨waiting, free⟩
  rcases List.mem_cons.mp rest with rfl | later
  · exact lt_irrefl _ before
  · have after := (List.pairwise_cons.mp (List.pairwise_append.mp ascending).2.1).1 held later
    exact lt_irrefl _ (after.trans before)

/-- What a run keeps whose short sessions blame the refused. -/
structure Served.Calm (good : String → Bool) (served : Served dec) : Prop where
  calm : ∀ entry ∈ served.conn.slot.subs, good entry.sub.key = true →
    entry.quarantinedUntilMs = none
  told : ∀ connection sub strikes,
    WsEvent.subscriptionQuarantined connection sub strikes ∈ served.conn.events →
      good sub.key = false

/-- An edit quarantines no good subscription, when the entry a drop blames is not a good one. -/
theorem Edit.calm (edit : Edit cfg conn act subs new)
    (calm : ∀ entry ∈ conn.slot.subs, good entry.sub.key = true → entry.quarantinedUntilMs = none)
    (blamed : ∀ atMs nowMs lived early suspect late, act = .drop atMs nowMs lived →
      lived < cfg.sessionGrace →
        ConnectionSlot.FirstSuspect nowMs conn.slot.subs early suspect late →
          good suspect.sub.key = false) :
    (∀ entry ∈ subs, good entry.sub.key = true → entry.quarantinedUntilMs = none) ∧
      ∀ connection sub strikes, WsEvent.subscriptionQuarantined connection sub strikes ∈ new →
        good sub.key = false := by
  cases edit with
  | mend mends quiet =>
      refine ⟨fun entry member known => ?_, fun _ _ _ told => absurd told (quiet _ _ _)⟩
      obtain ⟨held, inside, rfl⟩ := List.mem_map.mp member
      rcases mends.quarantined held with same | none
      · rw [same]
        exact calm held inside (mends.sub held ▸ known)
      · exact none
  | place =>
      refine ⟨fun entry member known => ?_, fun _ _ _ => (absurd · List.not_mem_nil)⟩
      rcases ConnectionSlot.mem_place.mp member with rfl | inside
      · rfl
      · exact calm entry inside known
  | remove =>
      exact ⟨fun entry member => calm entry (List.mem_of_mem_filter member),
        fun _ _ _ => (absurd · List.not_mem_nil)⟩
  | @strike atMs nowMs lived early late suspect dropped is short first =>
      have bad := blamed atMs nowMs lived early suspect late is short first
      refine ⟨fun entry member known => ?_, fun connection sub strikes told => ?_⟩
      · obtain ⟨held, inside, rfl⟩ := List.mem_map.mp member
        have older : held ∈ conn.slot.subs ∨
            held = (ConnectionSlot.strike cfg.quarantineAfter nowMs suspect).2 := by
          rw [first.split]
          rcases List.mem_append.mp inside with earlier | rest
          · exact .inl (List.mem_append_left _ earlier)
          · rcases List.mem_cons.mp rest with same | later
            · exact .inr same
            · exact .inl (List.mem_append_right _ (List.mem_cons_of_mem _ later))
        rcases older with inside | rfl
        · exact calm held inside known
        · change good (ConnectionSlot.strike cfg.quarantineAfter nowMs suspect).2.sub.key =
            true at known
          rw [ConnectionSlot.strike_sub, bad] at known
          cases known
      · rcases List.mem_cons.mp told with same | charged
        · cases same
        · split_ifs at charged
          · cases List.mem_singleton.mp charged
            exact bad
          · exact absurd charged List.not_mem_nil

/-- No step that blames rightly quarantines a good subscription. -/
theorem BlamedStep.calm (step : BlamedStep cfg good served event next) (sane : served.Sane good)
    (calm : served.Calm good) : next.Calm good := by
  obtain ⟨step, blames⟩ := step
  cases step with
  | process => exact ⟨calm.calm, calm.told⟩
  | @conn act after step allowed =>
      obtain ⟨new, events, edit⟩ := step.edit
      have blamed : ∀ atMs nowMs lived early suspect late, act = .drop atMs nowMs lived →
          lived < cfg.sessionGrace →
            ConnectionSlot.FirstSuspect nowMs served.conn.slot.subs early suspect late →
              good suspect.sub.key = false := by
        rintro atMs nowMs lived early suspect late rfl short first
        exact sane.suspect_bad blames short first
      obtain ⟨kept, told⟩ := edit.calm calm.calm blamed
      refine ⟨kept, fun connection sub strikes member => ?_⟩
      change _ ∈ after.events at member
      rw [events] at member
      exact (List.mem_append.mp member).elim (calm.told connection sub strikes)
        (told connection sub strikes)

/-! ## Good subscriptions are acknowledged -/

/-- A command, a frame or an acknowledgment of a key is under way. -/
def Served.UnderWay (served : Served dec) (key : String) : Prop :=
  (∃ sub, sub.key = key ∧
    (.subscribe sub ∈ served.conn.commands ∨ .subscribe sub ∈ served.line.outbound)) ∨
  key ∈ served.line.inbound

/-- On a socket every good subscription is acknowledged, or is going to be. -/
def Served.Awaits (good : String → Bool) (served : Served dec) : Prop :=
  served.conn.phase.socket.isSome = true → ∀ entry ∈ served.conn.slot.subs,
    good entry.sub.key = true → entry.acked = false → served.UnderWay entry.sub.key

/-- What a command becomes when the venue carries it out. -/
theorem Served.UnderWay.processed {key : String} (way : served.UnderWay key)
    (known : good key = true) {command : ConnCommand} {rest : List ConnCommand}
    (upcoming : served.line.outbound = command :: rest) :
    Served.UnderWay
      ⟨served.conn, { served.line.process good command with outbound := rest }⟩ key := by
  have later : ∀ key ∈ served.line.inbound, key ∈ (served.line.process good command).inbound := by
    intro key member
    cases command with
    | unsubscribe sub => exact member
    | subscribe sub =>
        rw [Line.process]
        split_ifs
        · exact List.mem_append_left _ member
        · exact member
  rcases way with ⟨sub, rfl, queued | sent⟩ | told
  · exact .inl ⟨sub, rfl, .inl queued⟩
  · rw [upcoming] at sent
    rcases List.mem_cons.mp sent with rfl | sent
    · refine .inr ?_
      change _ ∈ (Line.process good served.line (.subscribe sub)).inbound
      rw [Line.process, if_pos known]
      exact List.mem_append_right _ (List.mem_singleton_self _)
    · exact .inl ⟨sub, rfl, .inr sent⟩
  · exact .inr (later key told)

/-- What is under way stays so while commands are sent and frames are written. -/
theorem Served.UnderWay.moved {key : String} (way : served.UnderWay key)
    (commands : ∀ command ∈ served.conn.commands,
      command ∈ next.conn.commands ∨ command ∈ next.line.outbound)
    (outbound : ∀ command ∈ served.line.outbound, command ∈ next.line.outbound)
    (inbound : key ∈ served.line.inbound → key ∈ next.line.inbound) : next.UnderWay key := by
  rcases way with ⟨sub, rfl, queued | sent⟩ | told
  · exact .inl ⟨sub, rfl, commands _ queued⟩
  · exact .inl ⟨sub, rfl, .inr (outbound _ sent)⟩
  · exact .inr (inbound told)

/-- Every step keeps that a good subscription which is not acknowledged has its answer under way. -/
theorem ServedStep.awaits (step : ServedStep cfg good served event next) (calm : served.Calm good)
    (awaits : served.Awaits good) : next.Awaits good := by
  cases step with
  | @process command rest upcoming up =>
      exact fun socket entry member known waiting =>
        Served.UnderWay.processed (awaits socket entry member known waiting) known upcoming
  | @conn act after step allowed =>
      intro socket entry member known waiting
      have older {held : SubEntry} (up : served.conn.phase.socket.isSome = true)
          (inside : held ∈ served.conn.slot.subs) (same : held.sub = entry.sub)
          (unheard : held.acked = false) : served.UnderWay entry.sub.key :=
        same ▸ awaits up held inside (same ▸ known) unheard
      have appended {frames : List ConnCommand} : ∀ command ∈ served.line.outbound,
          command ∈ served.line.outbound ++ frames := fun _ => List.mem_append_left _
      cases step with
      | connectFailed | resubscribeFailed | deliverFailed | late | fail | drop | wake
      | wakeByCommand | stop => cases socket
      | @connect nowMs here =>
          obtain ⟨held, inside, rfl⟩ := List.mem_map.mp member
          have free : held.forgotten.quarantinedAt nowMs = false := by
            have none := calm.calm held inside known
            change held.quarantinedUntilMs.any _ = false
            rw [none]
            rfl
          have burst : held.sub ∈ (served.conn.slot.setConnected true nowMs).resubscribeSet nowMs :=
            ConnectionSlot.mem_resubscribeSet member free
          exact .inl ⟨held.sub, rfl, .inr (List.mem_map_of_mem burst)⟩
      | subscribed here =>
          change entry ∈ (served.conn.turn cfg _ _ _).slot.subs at member
          rw [turn_subscribed] at member
          refine (older (by rw [here]; rfl) member rfl waiting).moved (fun command queued => ?_)
            appended id
          refine .inl ?_
          change command ∈ (served.conn.turn cfg _ _ _).commands
          rw [(turn_keeps _ _ _ served.conn).2]
          exact queued
      | @deliver socket command rest here upcoming =>
          refine (older (by rw [here]; rfl) member rfl waiting).moved (fun other queued => ?_)
            appended id
          rw [upcoming] at queued
          rcases List.mem_cons.mp queued with rfl | later
          · refine .inr (List.mem_append_right _ ?_)
            change other ∈ served.conn.commands.take 1
            rw [upcoming]
            exact List.mem_singleton_self _
          · exact .inl later
      | @frame socket nowMs acked here fresh =>
          have up : served.conn.phase.socket.isSome = true := by rw [here]; rfl
          cases acked with
          | none => exact (older up member rfl waiting).moved (fun _ => .inl) appended id
          | some key =>
              obtain ⟨held, inside, same⟩ := List.mem_map.mp member
              split_ifs at same with named
              · subst same
                cases waiting
              · subst same
                refine (older up inside rfl waiting).moved (fun _ => .inl) (fun _ => id)
                  fun told => ?_
                have first : served.line.inbound.head? = some key := allowed
                change held.sub.key ∈ served.line.inbound.tail
                rw [List.eq_cons_of_mem_head? first] at told
                exact (List.mem_cons.mp told).resolve_left named
      | @ping socket nowMs sent reason here =>
          have up : served.conn.phase.socket.isSome = true := by rw [here]; rfl
          obtain ⟨held, inside, same⟩ := List.mem_map.mp member
          have kept : held.sub = entry.sub ∧ held.acked = entry.acked := by
            rw [← same]
            split_ifs
            · exact ⟨rfl, rfl⟩
            · exact ⟨rfl, rfl⟩
          exact (older up inside kept.1 (kept.2.trans waiting)).moved (fun _ => .inl) appended id
      | @subscribe sub absent =>
          rcases ConnectionSlot.mem_place.mp member with rfl | inside
          · exact .inl ⟨sub, rfl, .inl (List.mem_append_right _ (List.mem_singleton_self _))⟩
          · exact (older socket inside rfl waiting).moved
              (fun _ queued => .inl (List.mem_append_left _ queued)) appended id
      | unsubscribe =>
          exact (older socket (List.mem_of_mem_filter member) rfl waiting).moved
            (fun _ queued => .inl (List.mem_append_left _ queued)) appended id
      | @clearQuarantine sub present =>
          obtain ⟨held, inside, same⟩ := List.mem_map.mp member
          have kept : held.sub = entry.sub ∧ held.acked = entry.acked := by
            rw [← same]
            split_ifs
            · exact ⟨rfl, rfl⟩
            · exact ⟨rfl, rfl⟩
          exact (older socket inside kept.1 (kept.2.trans waiting)).moved
            (fun _ queued => .inl (List.mem_append_left _ queued)) appended id

/-! ## Bad subscriptions run out of strikes -/

/-- A subscription is the first suspect. -/
def Connection.Heads (nowMs : Nat) (sub : Subscription) (conn : Connection dec) : Prop :=
  ∃ early suspect late,
    ConnectionSlot.FirstSuspect nowMs conn.slot.subs early suspect late ∧ suspect.sub = sub

/-- A run in which nothing lifts the strikes of a subscription, and how many of its sessions ended
within the grace period while the subscription was the first suspect. -/
inductive Streak (cfg : ConnectionConfig) (good : String → Bool) (sub : Subscription)
    (start : Served dec) : Nat → Served dec → Prop
  | start : Streak cfg good sub start 0 start
  | other {count : Nat} {middle last : Served dec} {event : ServedAct}
      (streak : Streak cfg good sub start count middle)
      (step : ServedStep cfg good middle event last) (kept : ¬ event.Lifts sub.key) :
      Streak cfg good sub start count last
  | headed {count atMs nowMs lived : Nat} {middle last : Served dec}
      (streak : Streak cfg good sub start count middle)
      (step : ServedStep cfg good middle (.conn (.drop atMs nowMs lived)) last)
      (short : lived < cfg.sessionGrace) (heads : middle.conn.Heads nowMs sub) :
      Streak cfg good sub start (count + 1) last

/-- An entry of a subscription has taken so many strikes. -/
def Struck (sub : Subscription) (count : Nat) (entries : List SubEntry) : Prop :=
  ∃ entry ∈ entries, entry.sub = sub ∧ count ≤ entry.strikes

/-- A subscription that was struck and of which nothing arrived keeps at least that many strikes. -/
theorem Edit.struck (edit : Edit cfg conn act subs new) {sub : Subscription} {count : Nat}
    (few : count ≤ 2 ^ 32 - 1) (unheard : ∀ nowMs, act ≠ .frame nowMs (some sub.key))
    (kept : ¬ (ServedAct.conn act).Lifts sub.key) (struck : Struck sub count conn.slot.subs) :
    Struck sub count subs := by
  obtain ⟨entry, member, rfl, strikes⟩ := struck
  cases edit with
  | @mend change _ mends =>
      refine ⟨change entry, List.mem_map_of_mem member, mends.sub entry, ?_⟩
      rcases mends.strikes entry with more | ⟨nowMs, told⟩ | ⟨other, rfl, same⟩
      · exact strikes.trans more
      · exact absurd told (unheard nowMs)
      · exact absurd same kept
  | place => exact ⟨entry, ConnectionSlot.mem_place.mpr (.inr member), rfl, strikes⟩
  | @remove other is =>
      subst is
      refine ⟨entry, List.mem_filter.mpr ⟨member, decide_eq_true fun same => ?_⟩, rfl, strikes⟩
      exact kept same.symm
  | @strike atMs nowMs lived early late suspect dropped is short first =>
      rw [first.split] at member
      rcases List.mem_append.mp member with earlier | rest
      · exact ⟨entry.forgotten, List.mem_map_of_mem (List.mem_append_left _ earlier), rfl, strikes⟩
      rcases List.mem_cons.mp rest with rfl | later
      · refine ⟨_, List.mem_map_of_mem (List.mem_append_right _ List.mem_cons_self),
          ConnectionSlot.strike_sub _ _ _, ?_⟩
        change count ≤ (ConnectionSlot.strike cfg.quarantineAfter nowMs entry).2.strikes
        rw [(ConnectionSlot.strike_strikes _ _ _).1, ConnectionSlot.saturatingSucc]
        exact le_min (strikes.trans (Nat.le_succ _)) few
      · exact ⟨entry.forgotten,
          List.mem_map_of_mem (List.mem_append_right _ (List.mem_cons_of_mem _ later)), rfl,
          strikes⟩

/-- The keys tell the entries apart. -/
theorem eq_of_ascending {entries : List SubEntry} (ascending : Ascending entries)
    {left right : SubEntry} (here : left ∈ entries) (there : right ∈ entries)
    (same : left.sub = right.sub) : left = right := by
  have nodup : (entries.map fun entry => entry.sub.key).Nodup :=
    List.pairwise_map.mpr (ascending.imp fun less => less.ne)
  exact List.inj_on_of_nodup_map nodup here there (congrArg Subscription.key same)

/-- The first suspect of a short session is quarantined, or has one strike more. -/
theorem ServedStep.headed {atMs nowMs lived : Nat} {sub : Subscription}
    (step : ServedStep cfg good served (.conn (.drop atMs nowMs lived)) next)
    (sane : served.Sane good) (short : lived < cfg.sessionGrace)
    (heads : served.conn.Heads nowMs sub) (counter : cfg.quarantineAfter < 2 ^ 32) {count : Nat}
    (struck : 0 < count → Struck sub count served.conn.slot.subs) :
    ∃ new, next.conn.events = served.conn.events ++ new ∧
      ((∃ connection strikes, .subscriptionQuarantined connection sub strikes ∈ new) ∨
        count + 1 < max cfg.quarantineAfter 1 ∧ Struck sub (count + 1) next.conn.slot.subs) := by
  obtain ⟨early, suspect, late, first, rfl⟩ := heads
  have member : suspect ∈ served.conn.slot.subs :=
    first.split ▸ List.mem_append_right _ List.mem_cons_self
  have before : count ≤ suspect.strikes := by
    rcases Nat.eq_zero_or_pos count with rfl | positive
    · exact Nat.zero_le _
    · obtain ⟨entry, inside, same, strikes⟩ := struck positive
      exact eq_of_ascending sane.ascending inside member same ▸ strikes
  cases step with
  | conn step allowed =>
      cases step with
      | @drop reason _ _ _ here =>
          have up : served.conn.state.announcedDown = false :=
            sane.answered (by rw [Connection.InSession, here]; trivial)
          obtain ⟨state, turned⟩ := turn_short nowMs atMs served.conn.slot.lastMessageMs reason []
            up short
          obtain ⟨dropped, events, entries⟩ :=
            @report_suspect _ cfg { served.conn with state } nowMs reason _ _ _ first
          obtain ⟨strikes, out⟩ := ConnectionSlot.strike_strikes cfg.quarantineAfter nowMs suspect
          refine ⟨_, (congrArg Connection.events turned).trans events, ?_⟩
          by_cases gone : (ConnectionSlot.strike cfg.quarantineAfter nowMs suspect).1 = true
          · rw [if_pos gone]
            exact .inl ⟨_, _, List.mem_cons_of_mem _ (List.mem_singleton_self _)⟩
          · refine .inr ?_
            rw [out, not_le] at gone
            have grown : count + 1 ≤ ConnectionSlot.saturatingSucc suspect.strikes := by
              rw [ConnectionSlot.saturatingSucc] at gone ⊢
              omega
            have charged : (ConnectionSlot.strike cfg.quarantineAfter nowMs suspect).2.forgotten ∈
                (served.conn.turn cfg (.sessionDropped atMs served.conn.slot.lastMessageMs reason
                  lived cfg.sessionGrace) nowMs []).slot.subs := by
              rw [turned, entries]
              exact List.mem_map_of_mem (List.mem_append_right _ List.mem_cons_self)
            exact ⟨grown.trans_lt gone, _, charged, ConnectionSlot.strike_sub _ _ _,
              grown.trans strikes.ge⟩

/-- **A bad subscription is quarantined once it headed enough short sessions.** -/
theorem Streak.quarantined {sub : Subscription} (bad : good sub.key = false)
    (counter : cfg.quarantineAfter < 2 ^ 32) {start last : Served dec} (sane : start.Sane good)
    {count : Nat} (streak : Streak cfg good sub start count last) :
    last.Sane good ∧ ∃ new, last.conn.events = start.conn.events ++ new ∧
      ((∃ connection strikes, .subscriptionQuarantined connection sub strikes ∈ new) ∨
        count < max cfg.quarantineAfter 1 ∧
          (0 < count → Struck sub count last.conn.slot.subs)) := by
  induction streak with
  | start =>
      exact ⟨sane, [], (List.append_nil _).symm, .inr ⟨lt_max_of_lt_right Nat.zero_lt_one, nofun⟩⟩
  | @other count middle last event _ step kept ih =>
      obtain ⟨sane, new, events, outcome⟩ := ih
      refine ⟨step.sane sane, ?_⟩
      cases step with
      | process => exact ⟨new, events, outcome⟩
      | @conn act after step allowed =>
          obtain ⟨more, told, edit⟩ := step.edit
          refine ⟨new ++ more, told.trans (by rw [events, List.append_assoc]), ?_⟩
          rcases outcome with ⟨connection, strikes, member⟩ | ⟨few, struck⟩
          · exact .inl ⟨connection, strikes, List.mem_append_left _ member⟩
          · refine .inr ⟨few, fun positive => edit.struck (by omega) ?_ kept (struck positive)⟩
            rintro nowMs rfl
            have known := sane.inbound sub.key (mem_inbound_of_allows allowed)
            rw [bad] at known
            cases known
  | headed _ step short heads ih =>
      obtain ⟨sane, new, events, outcome⟩ := ih
      refine ⟨step.sane sane, ?_⟩
      rcases outcome with ⟨connection, strikes, member⟩ | ⟨few, struck⟩
      · cases step with
        | conn step allowed =>
            obtain ⟨more, told, _⟩ := step.edit
            exact ⟨new ++ more, told.trans (by rw [events, List.append_assoc]),
              .inl ⟨connection, strikes, List.mem_append_left _ member⟩⟩
      · obtain ⟨more, told, outcome⟩ := step.headed sane short heads counter struck
        refine ⟨new ++ more, told.trans (by rw [events, List.append_assoc]), ?_⟩
        rcases outcome with ⟨connection, strikes, member⟩ | ⟨few, struck⟩
        · exact .inl ⟨connection, strikes, List.mem_append_right _ member⟩
        · exact .inr ⟨few, fun _ => struck⟩

/-! ## Runs -/

/-- The venue and the line agree at the start, where nothing has been sent. -/
theorem Served.sane_new (id : Nat) (first : Subscription) (nowMs : Nat) :
    (Served.new dec id first nowMs).Sane good where
  ascending := List.pairwise_singleton _ _
  acked entry member acked := by
    rw [List.mem_singleton.mp member] at acked
    cases acked
  inbound key member := absurd member List.not_mem_nil
  refused sub closed := by cases closed
  answered up := False.elim up

/-- What a run keeps in all. The venue and the line are part of it, since who is blamed depends on
what is still under way. -/
structure Served.Kept (good : String → Bool) (served : Served dec) : Prop where
  sane : served.Sane good
  calm : served.Calm good
  awaits : served.Awaits good

/-- Over a run whose drops are blamed rightly the good subscriptions are kept: none is quarantined,
and each that is not acknowledged has its answer under way. -/
theorem Served.kept_of_run {id nowMs : Nat} {first : Subscription} {acts : List ServedAct}
    (run : Run (BlamedStep cfg good) (Served.new dec id first nowMs) acts served) :
    served.Kept good := by
  refine run.invariant (Served.Kept good) (fun before act after kept step => ?_) ?_
  · exact ⟨step.1.sane kept.sane, step.calm kept.sane kept.calm,
      step.1.awaits kept.calm kept.awaits⟩
  · refine ⟨Served.sane_new id first nowMs, ⟨fun entry member _ => ?_, fun _ _ _ member => ?_⟩,
      fun up => by cases up⟩
    · rw [List.mem_singleton.mp member]
      rfl
    · exact absurd member List.not_mem_nil

/-- **Quarantine hits only the poison,** in every run whose sessions within the grace period end
with each good subscription that awaits its acknowledgment behind the refused one. Then no good
one is quarantined, and a bad one is once it headed as many short sessions as it may. Whatever
happens, the good ones of a socket are acknowledged once nothing is under way. -/
theorem quarantine_hits_poison {id nowMs : Nat} {first : Subscription} {acts : List ServedAct}
    (run : Run (BlamedStep cfg good) (Served.new dec id first nowMs) acts served) :
    (∀ entry ∈ served.conn.slot.subs, good entry.sub.key = true →
      entry.quarantinedUntilMs = none) ∧
    (∀ connection sub strikes,
      WsEvent.subscriptionQuarantined connection sub strikes ∈ served.conn.events →
        good sub.key = false) ∧
    (∀ sub count last, good sub.key = false → cfg.quarantineAfter < 2 ^ 32 →
      Streak cfg good sub served count last → max cfg.quarantineAfter 1 ≤ count →
        ∃ new connection strikes, last.conn.events = served.conn.events ++ new ∧
          .subscriptionQuarantined connection sub strikes ∈ new) ∧
    (served.conn.phase.socket.isSome = true → served.conn.commands = [] →
      served.line.outbound = [] → served.line.inbound = [] →
        ∀ entry ∈ served.conn.slot.subs, good entry.sub.key = true → entry.acked = true) := by
  have kept := Served.kept_of_run run
  refine ⟨kept.calm.calm, kept.calm.told, fun sub count last bad counter streak enough => ?_,
    fun up queue outbound inbound entry member known => ?_⟩
  · obtain ⟨_, new, events, ⟨connection, strikes, told⟩ | ⟨few, _⟩⟩ :=
      streak.quarantined bad counter kept.sane
    · exact ⟨new, connection, strikes, events, told⟩
    · exact absurd few (not_lt.mpr enough)
  · by_contra waiting
    rcases kept.awaits up entry member known (Bool.not_eq_true _ ▸ waiting) with
      ⟨sub, _, queued | sent⟩ | told
    · rw [queue] at queued
      cases queued
    · rw [outbound] at sent
      cases sent
    · rw [inbound] at told
      cases told

/-- A connection of a pool is reached by its own steps from where it was opened. -/
def Connection.Ran (cfg : ConnectionConfig) (conn : Connection dec) : Prop :=
  ∃ id first nowMs acts, Run (ConnStep cfg) (Connection.new dec id first nowMs) acts conn

/-- Every step of a connection keeps what is known of its retries and its session. -/
theorem Connection.Ran.step {conn after : Connection dec} {act : ConnAct} (ran : conn.Ran cfg)
    (moved : ConnStep cfg conn act after) : after.Ran cfg := by
  obtain ⟨id, first, nowMs, acts, run⟩ := ran
  exact ⟨id, first, nowMs, acts ++ [act], run.snoc moved⟩

/-- **What holds along the runs of one connection holds of every connection of a pool.** -/
theorem Pool.ran_of_run {config : PoolConfig} {pool : Pool dec} {acts : List PoolAct}
    (run : Run (PoolStep config) Pool.new acts pool) :
    ∀ (id : Nat) (conn : Connection dec), pool.conns[id]? = some conn →
      conn.Ran config.connection := by
  refine run.invariant (fun pool => ∀ (id : Nat) (conn : Connection dec),
    pool.conns[id]? = some conn → conn.Ran config.connection) ?_ ?_
  · intro before act after ran called id found there
    obtain ⟨conns, shutdown⟩ := after
    have moves := called.moves
    change conns[id]? = some found at there
    cases moves with
    | still => exact ran id found there
    | @placed placedAt conn sub nowMs called here absent room =>
        rcases getElem?_set_cases there with ⟨rfl, rfl⟩ | ⟨_, there⟩
        · exact (ran _ conn here).step (.subscribe (absent conn (List.mem_of_getElem? here)))
        · exact ran id found there
    | @opened sub nowMs called absent =>
        rcases getElem?_concat_cases there with ⟨_, rfl⟩ | there
        · exact ⟨_, sub, nowMs, [], .nil⟩
        · exact ran id found there
    | @stepped movedAt conn moved own here step fixed origin =>
        rcases getElem?_set_cases there with ⟨rfl, rfl⟩ | ⟨_, there⟩
        · exact (ran _ conn here).step step
        · exact ran id found there
  · rintro id conn ⟨⟩

end Runs

/-! ## Collateral -/

namespace Collateral

def cfg (quarantineAfter : Nat) : ConnectionConfig := ⟨75000, quarantineAfter, 5000⟩

def prints : Subscription := .trades "BTC"

def typo : Subscription := .bbo "BAD"

def good (key : String) : Bool := key ≠ typo.key

/-- The typo sorts before the prints. -/
theorem place_typo (entry : SubEntry) (is : entry.sub = prints) (connected : Bool)
    (last : Option Nat) :
    (⟨[entry], connected, last⟩ : ConnectionSlot).place typo =
      ⟨[.new typo, entry], connected, last⟩ := by
  have later : ¬ prints.key < typo.key := by decide +kernel
  rw [ConnectionSlot.place, List.takeWhile_cons_of_neg (by simpa [is] using later),
    List.dropWhile_cons_of_neg (by simpa [is] using later)]
  rfl

/-- The prints with their strikes, about to be subscribed again. -/
structure Waiting (strikes : Nat) (served : Served Quotients.reference) : Prop where
  phase : served.conn.phase = .connecting
  commands : served.conn.commands = []
  subs : served.conn.slot.subs = [⟨prints, false, strikes, none, 0⟩]

/-- Both are subscribed on a new socket. -/
structure Both (strikes : Nat) (served : Served Quotients.reference) : Prop where
  phase : served.conn.phase = .live [typo, prints]
  commands : served.conn.commands = [.subscribe typo]
  subs : served.conn.slot.subs = [.new typo, ⟨prints, false, strikes, none, 0⟩]
  up : served.conn.state.announcedDown = false
  line : served.line = ⟨[.subscribe typo, .subscribe prints], [], none⟩

variable {step : Served Quotients.reference → ServedAct → Served Quotients.reference → Prop}
  {quarantineAfter strikes : Nat} {served : Served Quotients.reference}

/-- A step before a run. -/
theorem after_step {before middle last : Served Quotients.reference} {act : ServedAct}
    {acts : List ServedAct} (first : step before act middle) (run : Run step middle acts last) :
    Run step before (act :: acts) last :=
  (Run.single first).append run

/-- From a waiting connection the mistyped subscription is added and both are sent in the next
session. -/
theorem both_run (waiting : Waiting strikes served) :
    ∃ next, Run (BlamedStep (cfg quarantineAfter) good) served
      [.conn (.subscribe typo), .conn (.connect 0), .conn (.subscribed 0)] next ∧
        Both strikes next := by
  obtain ⟨⟨id, ⟨subs, connected, last⟩, ⟨attempt, down, seen, atMs⟩, phase, commands, events⟩,
    line⟩ := served
  obtain ⟨rfl, rfl, rfl⟩ := waiting
  have typed : ServedStep (cfg quarantineAfter) good
      ⟨⟨id, ⟨[⟨prints, false, strikes, none, 0⟩], connected, last⟩, ⟨attempt, down, seen, atMs⟩,
        .connecting, [], events⟩, line⟩ (.conn (.subscribe typo))
      ⟨⟨id, ⟨[.new typo, ⟨prints, false, strikes, none, 0⟩], connected, last⟩,
        ⟨attempt, down, seen, atMs⟩, .connecting, [.subscribe typo], events⟩,
        { line with outbound := line.outbound ++ [] }⟩ := by
    rw [← place_typo _ rfl]
    exact .conn (.subscribe rfl) trivial
  cases down
  · exact ⟨_, after_step ⟨typed, trivial⟩ (after_step ⟨.conn (.connect rfl) trivial, trivial⟩
      (.single ⟨.conn (.subscribed rfl) trivial, trivial⟩)), rfl, rfl, rfl, rfl, rfl⟩
  · exact ⟨_, after_step ⟨typed, trivial⟩ (after_step ⟨.conn (.connect rfl) trivial, trivial⟩
      (.single ⟨.conn (.subscribed rfl) trivial, trivial⟩)), rfl, rfl, rfl, rfl, rfl⟩

/-- The typo is taken back while the venue closes the socket on it: the prints are charged. -/
theorem charged_run (both : Both strikes served) :
    ∃ acts next, Run (ServedStep (cfg 3) good) served acts next ∧
      next.conn.phase = .connecting ∧ next.conn.commands = [] ∧ next.conn.slot.subs =
        [(ConnectionSlot.strike 3 0 ⟨prints, false, strikes, none, 0⟩).2.forgotten] := by
  obtain ⟨⟨id, ⟨subs, connected, last⟩, ⟨attempt, down, seen, atMs⟩, phase, commands, events⟩,
    line⟩ := served
  obtain ⟨rfl, rfl, rfl, rfl, rfl⟩ := both
  exact ⟨[.conn (.deliver none), .conn (.unsubscribe typo), .process, .conn (.deliver none),
    .conn (.fail "server closed"), .conn (.drop 0 0 0), .conn .wake], _,
    after_step (.conn (.deliver rfl rfl) trivial) (after_step
    (.conn (.unsubscribe rfl) trivial) (after_step (.process rfl rfl) (after_step
    (.conn (.deliver rfl rfl) trivial) (after_step (.conn (.fail rfl) trivial) (after_step
    (.conn (.drop rfl) (.inr rfl)) (.single (.conn (.wake rfl) trivial))))))), rfl, rfl, rfl⟩

/-- One session of the kind. -/
theorem round_run (waiting : Waiting strikes served) :
    ∃ acts next, Run (ServedStep (cfg 3) good) served acts next ∧
      next.conn.phase = .connecting ∧ next.conn.commands = [] ∧ next.conn.slot.subs =
        [(ConnectionSlot.strike 3 0 ⟨prints, false, strikes, none, 0⟩).2.forgotten] := by
  obtain ⟨middle, start, both⟩ := @both_run 3 strikes served waiting
  obtain ⟨acts, next, charged, ends⟩ := charged_run both
  exact ⟨_, next, (start.mono fun _ _ _ blamed => blamed.1).append charged, ends⟩

/-- A good subscription is quarantined by a mistyped one that is taken back in time. -/
theorem prints_quarantined :
    ¬ ∀ acts served, Run (ServedStep (cfg 3) good)
        (Served.new Quotients.reference 0 prints 0) acts served →
      ∀ entry ∈ served.conn.slot.subs, good entry.sub.key = true →
        entry.quarantinedUntilMs = none := by
  intro spares
  obtain ⟨_, one, first, phase, commands, subs⟩ :=
    @round_run 0 (Served.new Quotients.reference 0 prints 0) ⟨rfl, rfl, rfl⟩
  obtain ⟨_, two, second, phase, commands, subs⟩ := @round_run 1 one ⟨phase, commands, subs⟩
  obtain ⟨_, three, third, _, _, subs⟩ := @round_run 2 two ⟨phase, commands, subs⟩
  have spared := spares _ three ((first.append second).append third) _
    (subs ▸ List.mem_singleton_self _) (by decide +kernel)
  cases spared

/-- The typo with its strikes before the prints, about to be subscribed again. -/
structure Typed (strikes : Nat) (served : Served Quotients.reference) : Prop where
  phase : served.conn.phase = .connecting
  subs : served.conn.slot.subs = [⟨typo, false, strikes, none, 0⟩, .new prints]

/-- A socket on which the venue refuses the typo. -/
def refusal : List ServedAct :=
  [.conn (.connect 0), .conn (.subscribed 0), .process, .conn (.fail "server closed")]

/-- A session that the typo ends charges the typo alone. -/
theorem session_run (typed : Typed strikes served) :
    ∃ middle last, Run (BlamedStep (cfg 3) good) served refusal middle ∧
      BlamedStep (cfg 3) good middle (.conn (.drop 0 0 0)) last ∧ middle.conn.Heads 0 typo ∧
      last.conn.phase = .backoff ∧ last.conn.slot.subs =
        [(ConnectionSlot.strike 3 0 ⟨typo, false, strikes, none, 0⟩).2.forgotten, .new prints] := by
  obtain ⟨⟨id, ⟨subs, connected, last⟩, ⟨attempt, down, seen, atMs⟩, phase, commands, events⟩,
    line⟩ := served
  obtain ⟨rfl, rfl⟩ := typed
  have bad : ¬ good typo.key = true := by decide +kernel
  have sorted : typo.key < prints.key := by decide +kernel
  have blames (conn : Connection Quotients.reference) (line : Line)
      (subs : conn.slot.subs = [⟨typo, false, strikes, none, 0⟩, .new prints])
      (refused : line.refused = some typo) :
      (⟨conn, line⟩ : Served _).Blames (cfg 3) good (.conn (.drop 0 0 0)) := by
    intro _ entry member known _
    rw [subs] at member ⊢
    rcases List.mem_cons.mp member with rfl | member
    · exact absurd known bad
    · rw [List.mem_singleton.mp member]
      exact ⟨_, List.mem_cons_self, refused, rfl, sorted⟩
  cases down
  · exact ⟨_, _, after_step ⟨.conn (.connect rfl) trivial, trivial⟩ (after_step
      ⟨.conn (.subscribed rfl) trivial, trivial⟩ (after_step ⟨.process rfl rfl, trivial⟩ (.single
      ⟨.conn (.fail rfl) trivial, trivial⟩))), ⟨.conn (.drop rfl) (.inr rfl), blames _ _ rfl rfl⟩,
      ⟨[], ⟨typo, false, strikes, none, 0⟩, _, ⟨rfl, nofun, rfl, rfl⟩, rfl⟩, rfl, rfl⟩
  · exact ⟨_, _, after_step ⟨.conn (.connect rfl) trivial, trivial⟩ (after_step
      ⟨.conn (.subscribed rfl) trivial, trivial⟩ (after_step ⟨.process rfl rfl, trivial⟩ (.single
      ⟨.conn (.fail rfl) trivial, trivial⟩))), ⟨.conn (.drop rfl) (.inr rfl), blames _ _ rfl rfl⟩,
      ⟨[], ⟨typo, false, strikes, none, 0⟩, _, ⟨rfl, nofun, rfl, rfl⟩, rfl⟩, rfl, rfl⟩

/-- A connection in backoff wakes, and the entries are as they were. -/
theorem wake_step (phase : served.conn.phase = .backoff) :
    BlamedStep (cfg 3) good served (.conn .wake)
      ⟨{ served.conn with phase := .connecting }, served.line.after (cfg 3) served.conn .wake⟩ :=
  ⟨.conn (.wake phase) trivial, trivial⟩

/-- The user lifts the quarantine by hand, and the strikes of the mistyped subscription start again
from zero. -/
theorem clear_step (typed : Typed strikes served) : ∃ next,
    BlamedStep (cfg 3) good served (.conn (.clearQuarantine typo)) next ∧ Typed 0 next := by
  obtain ⟨⟨id, ⟨subs, connected, last⟩, state, phase, commands, events⟩, line⟩ := served
  obtain ⟨rfl, rfl⟩ := typed
  have other : ¬ prints.key = typo.key := by decide +kernel
  refine ⟨_, ⟨.conn (.clearQuarantine rfl) trivial, trivial⟩, rfl, ?_⟩
  rw [Connection.slot_clearQuarantine]
  simp [ConnectionSlot.clearQuarantine, ConnectionSlot.update, SubEntry.new, other]

/-- The typo is added to the prints. -/
def added : Served Quotients.reference :=
  ⟨(Connection.new Quotients.reference 0 prints 0).subscribe typo, ⟨[], [], none⟩⟩

/-- The typo is charged once, and its strike is lifted. -/
theorem lifted_run : ∃ acts served,
    Run (BlamedStep (cfg 3) good) (Served.new Quotients.reference 0 prints 0) acts served ∧
      .conn (.drop 0 0 0) ∈ acts ∧ Typed 0 served := by
  have typed : BlamedStep (cfg 3) good (Served.new Quotients.reference 0 prints 0)
      (.conn (.subscribe typo)) added := ⟨.conn (.subscribe rfl) trivial, trivial⟩
  have placed : added.conn.slot.subs = [.new typo, .new prints] :=
    congrArg ConnectionSlot.subs (place_typo (.new prints) rfl false none)
  obtain ⟨middle, dropped, refused, drop, _, phase, subs⟩ := @session_run 0 added ⟨rfl, placed⟩
  have woken := (((Run.single typed).append refused).snoc drop).snoc (wake_step phase)
  have charged : Typed 1 ⟨{ dropped.conn with phase := .connecting },
    dropped.line.after (cfg 3) dropped.conn .wake⟩ := ⟨rfl, subs⟩
  obtain ⟨served, cleared, typed⟩ := clear_step charged
  exact ⟨_, served, woken.snoc cleared, by simp, typed⟩

section Streaks

variable {start : Served Quotients.reference} {count : Nat}

/-- A run that does not lift the quarantine keeps the streak of failures that began it. -/
theorem streak_run {last : Served Quotients.reference} {acts : List ServedAct}
    (streak : Streak (cfg 3) good typo start count served)
    (run : Run (ServedStep (cfg 3) good) served acts last)
    (kept : ∀ act ∈ acts, ¬ act.Lifts typo.key) : Streak (cfg 3) good typo start count last := by
  induction run with
  | nil => exact streak
  | @snoc acts before after act _ step ih =>
      exact (ih fun other member => kept other (List.mem_append_left _ member)).other step
        (kept act (List.mem_append_right _ (List.mem_singleton_self act)))

/-- One more session that the typo ends. -/
theorem session_streak (typed : Typed strikes served)
    (streak : Streak (cfg 3) good typo start count served) :
    ∃ last, Streak (cfg 3) good typo start (count + 1) last ∧
      last.conn.phase = .connecting ∧ last.conn.slot.subs =
        [(ConnectionSlot.strike 3 0 ⟨typo, false, strikes, none, 0⟩).2.forgotten, .new prints] := by
  obtain ⟨middle, dropped, refused, drop, heads, phase, subs⟩ := session_run typed
  have before := streak_run streak (refused.mono fun _ _ _ blamed => blamed.1) (by
    simp [refusal, ServedAct.Lifts])
  have headed := before.headed drop.1 (by decide) heads
  exact ⟨_, headed.other (wake_step phase).1 id, rfl, subs⟩

end Streaks

/-- A typo that stays is charged alone, and quarantined at its third short session in a row. -/
theorem typo_quarantined : ∃ acts served last,
    Run (BlamedStep (cfg 3) good) (Served.new Quotients.reference 0 prints 0) acts served ∧
      .conn (.drop 0 0 0) ∈ acts ∧ Streak (cfg 3) good typo served 3 last ∧
      ∃ new connection strikes, last.conn.events = served.conn.events ++ new ∧
        .subscriptionQuarantined connection typo strikes ∈ new := by
  obtain ⟨acts, served, run, charged, typed⟩ := lifted_run
  obtain ⟨one, streak, phase, subs⟩ := session_streak typed .start
  obtain ⟨two, streak, phase, subs⟩ := @session_streak 1 one _ _ ⟨phase, subs⟩ streak
  obtain ⟨last, streak, _⟩ := @session_streak 2 two _ _ ⟨phase, subs⟩ streak
  exact ⟨acts, served, last, run, charged, streak,
    (quarantine_hits_poison run).2.2.1 typo 3 last (by decide +kernel) (by decide) streak le_rfl⟩

end Collateral

end Oppen.Feed
