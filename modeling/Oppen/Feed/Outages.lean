import Oppen.Feed.Connection
import Oppen.Feed.Session

/-! # Outages and their answers

The outage events of a connection alternate, each return carries the anchor of the outage
it answers, and whatever is subscribed on a live socket was answered, unless it was
subscribed outside a reconnect while an answer was still owed.
-/

namespace Oppen.Feed

open Foundation Oppen.Ledger Oppen.Reconcile

section Outages

variable {dec : Quotients} {cfg : ConnectionConfig}

/-! ## What the events say -/

/-- A return answers an outage: it ends when the connection is back and starts at the last
message before the drop or, when there was none, when the drop was noticed. -/
structure Answers (dropped : Disconnected) (back : Reconnected) : Prop where
  connection : back.connection = dropped.connection
  ends : back.gap.endMs = back.atMs
  anchor : ∃ noticedMs, back.gap.startMs = min (dropped.lastMessageMs.getD noticedMs) back.atMs

/-- Outages and returns alternate, and the outage not answered yet. -/
inductive Alternates : Option Disconnected → List (WsEvent dec) → Prop
  | nil : Alternates none []
  | down {events : List (WsEvent dec)} {dropped : Disconnected} (before : Alternates none events) :
      Alternates (some dropped) (events ++ [.disconnected dropped])
  | quarantined {events : List (WsEvent dec)} {dropped : Disconnected} {connection strikes : Nat}
      {subscription : Subscription} (before : Alternates (some dropped) events) :
      Alternates (some dropped)
        (events ++ [.subscriptionQuarantined connection subscription strikes])
  | up {events : List (WsEvent dec)} {dropped : Disconnected} {back : Reconnected}
      (before : Alternates (some dropped) events) (answers : Answers dropped back) :
      Alternates none (events ++ [.reconnected back])

/-- The feeds still owed an answer after an event. -/
def owedAfter (owed : List String) : WsEvent dec → List String
  | .disconnected dropped => owed ++ dropped.subscriptions.map Subscription.key
  | .reconnected back => owed.filter fun key => key ∉ back.resubscribed.map Subscription.key
  | _ => owed

/-- The feeds listed in an outage that no later return listed. -/
def owed (events : List (WsEvent dec)) : List String := events.foldl owedAfter []

/-- The keys owed after one more event are the keys owed before it, with that event accounted
for. -/
@[simp] theorem owed_concat (events : List (WsEvent dec)) (event : WsEvent dec) :
    owed (events ++ [event]) = owedAfter (owed events) event := by
  rw [owed, List.foldl_append]
  rfl

/-- An event lists a feed as lost. -/
def Loses (event : WsEvent dec) (key : String) : Prop :=
  ∃ dropped, event = .disconnected dropped ∧ key ∈ dropped.subscriptions.map Subscription.key

/-- An event lists a feed as resumed. -/
def Resumes (event : WsEvent dec) (key : String) : Prop :=
  ∃ back, event = .reconnected back ∧ key ∈ back.resubscribed.map Subscription.key

/-- A key is owed after an event exactly if the event takes its data away, or it was owed and the
event does not resume it. -/
theorem mem_owedAfter_iff {before : List String} {event : WsEvent dec} {key : String} :
    key ∈ owedAfter before event ↔ Loses event key ∨ key ∈ before ∧ ¬ Resumes event key := by
  cases event with
  | disconnected dropped =>
      rw [owedAfter, List.mem_append]
      constructor
      · rintro (older | listed)
        · exact .inr ⟨older, by rintro ⟨_, ⟨⟩, _⟩⟩
        · exact .inl ⟨dropped, rfl, listed⟩
      · rintro (⟨_, ⟨⟩, listed⟩ | ⟨older, _⟩)
        · exact .inr listed
        · exact .inl older
  | reconnected back =>
      rw [owedAfter, List.mem_filter, decide_eq_true_eq]
      constructor
      · rintro ⟨older, left⟩
        exact .inr ⟨older, by rintro ⟨_, ⟨⟩, listed⟩; exact left listed⟩
      · rintro (⟨_, ⟨⟩, _⟩ | ⟨older, left⟩)
        exact ⟨older, fun listed => left ⟨back, rfl, listed⟩⟩
  | _ =>
      constructor
      · exact fun older => .inr ⟨older, by rintro ⟨_, ⟨⟩, _⟩⟩
      · rintro (⟨_, ⟨⟩, _⟩ | ⟨older, _⟩)
        exact older

/-- **A feed is owed an answer exactly when some outage listed it and no later return did.** -/
theorem mem_owed_iff {events : List (WsEvent dec)} {key : String} :
    key ∈ owed events ↔ ∃ before event later, events = before ++ event :: later ∧
      Loses event key ∧ ∀ other ∈ later, ¬ Resumes other key := by
  induction events using List.reverseRecOn with
  | nil =>
      refine ⟨nofun, ?_⟩
      rintro ⟨before, event, later, same, _⟩
      simp only [List.nil_eq, List.append_eq_nil_iff, reduceCtorEq, and_false] at same
  | append_singleton events event ih =>
      rw [owed_concat, mem_owedAfter_iff, ih]
      constructor
      · rintro (lost | ⟨⟨before, listed, later, rfl, lost, unanswered⟩, left⟩)
        · exact ⟨events, event, [], rfl, lost, nofun⟩
        · refine ⟨before, listed, later ++ [event], ?_, lost, fun other member => ?_⟩
          · rw [List.append_assoc, List.cons_append]
          · rcases List.mem_append.mp member with older | last
            · exact unanswered other older
            · exact List.mem_singleton.mp last ▸ left
      · rintro ⟨before, listed, later, same, lost, unanswered⟩
        rcases List.eq_nil_or_concat later with rfl | ⟨middle, last, rfl⟩
        · obtain ⟨rfl, final⟩ := List.append_inj' same rfl
          obtain rfl := (List.cons.inj final).1
          exact .inl lost
        · rw [List.concat_eq_append, ← List.cons_append, ← List.append_assoc] at same
          obtain ⟨rfl, final⟩ := List.append_inj' same rfl
          obtain rfl := (List.cons.inj final).1
          rw [List.concat_eq_append] at unanswered
          refine .inr ⟨⟨before, listed, middle, rfl, lost, fun other member => ?_⟩, ?_⟩
          · exact unanswered other (List.mem_append_left _ member)
          · exact unanswered event (List.mem_append_right _ (List.mem_singleton_self _))

/-! ## Where the task stands -/

/-- What the phase says about the outage not answered yet. -/
def Connection.Expects (conn : Connection dec) (outage : Option Disconnected) : Prop :=
  match conn.phase with
  | .connecting => outage = none → conn.events = [] ∧ conn.slot.lastMessageMs = none
  | .resubscribing _ => outage = none → conn.events = []
  | .live _ | .dropping _ => outage = none
  | .backoff => outage.isSome = true
  | .ended => True

/-- The reconnect state agrees with the events sent. -/
structure Announced (conn : Connection dec) (outage : Option Disconnected) : Prop where
  events : Alternates outage conn.events
  down : conn.state.announcedDown = outage.isSome
  here : ∀ dropped ∈ outage, dropped.connection = conn.id ∧
    conn.state.lastSeenMs = dropped.lastMessageMs
  expects : conn.Expects outage

/-- The outage a connection reports. -/
def Connection.outage (conn : Connection dec) (nowMs : Nat) (reason : String) : Disconnected where
  connection := conn.id
  atMs := nowMs
  lastMessageMs := conn.slot.lastMessageMs
  subscriptions := conn.slot.subscriptions
  unacked := conn.slot.unacked
  reason := reason

/-- A report adds the outage and perhaps the quarantine of a suspect. -/
theorem reportDisconnect_events (cfg : ConnectionConfig) (nowMs : Nat) (reason : String)
    (strike : Bool) (conn : Connection dec) : ∃ suspects : Option (Subscription × Nat),
      (conn.reportDisconnect cfg nowMs reason strike).events = conn.events ++
        .disconnected (conn.outage nowMs reason) :: suspects.toList.map fun suspect =>
          .subscriptionQuarantined conn.id suspect.1 suspect.2 := by
  cases strike with
  | false => exact ⟨none, rfl⟩
  | true => exact ⟨_, rfl⟩

/-- A disconnect, and the quarantine it may bring with it, continue a history in which the
connection was up. -/
theorem alternates_report {events : List (WsEvent dec)} (before : Alternates none events)
    (dropped : Disconnected) (connection : Nat) (suspects : Option (Subscription × Nat)) :
    Alternates (some dropped) (events ++ .disconnected dropped ::
      suspects.toList.map fun suspect =>
        .subscriptionQuarantined connection suspect.1 suspect.2) := by
  cases suspects with
  | none => exact .down before
  | some suspect =>
      rw [← List.singleton_append, ← List.append_assoc]
      exact .quarantined (.down before)

/-- A failure announces its outage, unless one is announced already. -/
theorem Announced.lost {conn : Connection dec} {outage : Option Disconnected} {turn : Turn}
    {attempt atMs nowMs : Nat} {lastSeenMs : Option Nat} {reason : String} {strike : Bool}
    {subs : List Subscription} (announced : Announced conn outage)
    (fails : nextStep conn.state turn =
      { conn.state with attempt := attempt }.announceDown atMs lastSeenMs reason strike)
    (seen : outage = none → lastSeenMs = conn.slot.lastMessageMs) :
    ∃ outage', Announced { conn.turn cfg turn nowMs subs with phase := .backoff } outage' := by
  have down := announced.down
  cases outage with
  | some dropped =>
      have idle : nextStep conn.state turn = ({ conn.state with attempt := attempt }, .idle) := by
        rw [fails, ConnState.announceDown]
        exact if_pos down
      refine ⟨some dropped, ?_, ?_, ?_, rfl⟩
      all_goals simp only [Connection.turn, idle]
      · exact announced.events
      · exact down
      · exact announced.here
  | none =>
      have report : nextStep conn.state turn =
          (⟨attempt, true, lastSeenMs, atMs⟩, .reportDown reason strike) := by
        rw [fails, ConnState.announceDown]
        exact if_neg (ne_true_of_eq_false down)
      obtain ⟨suspects, events⟩ := reportDisconnect_events cfg nowMs reason strike
        { conn with state := ⟨attempt, true, lastSeenMs, atMs⟩ }
      refine ⟨some (conn.outage nowMs reason), ?_, ?_, ?_, rfl⟩
      all_goals simp only [Connection.turn, report]
      · rw [events]
        exact alternates_report announced.events _ conn.id suspects
      · rfl
      · rintro _ ⟨⟩
        exact ⟨rfl, seen rfl⟩

/-- The phase changes nothing the events say. -/
theorem Announced.moved {conn moved : Connection dec} {outage : Option Disconnected}
    (announced : Announced conn outage) (id : moved.id = conn.id)
    (events : moved.events = conn.events) (state : moved.state = conn.state)
    (expects : moved.Expects outage) : Announced moved outage where
  events := events ▸ announced.events
  down := state ▸ announced.down
  here dropped member := by
    rw [id, state]
    exact announced.here dropped member
  expects := expects

/-- One step of a connection keeps its reconnect state in agreement with the events it has sent. -/
theorem Announced.step {conn after : Connection dec} {act : ConnAct} {outage : Option Disconnected}
    (announced : Announced conn outage) (step : ConnStep cfg conn act after) :
    ∃ outage', Announced after outage' := by
  have expects := announced.expects
  cases step with
  | connect here =>
      rw [Connection.Expects, here] at expects
      exact ⟨outage, announced.moved rfl rfl rfl fun none => (expects none).1⟩
  | connectFailed here =>
      rw [Connection.Expects, here] at expects
      exact announced.lost rfl fun none => (expects none).2.symm
  | resubscribeFailed here => exact announced.lost rfl fun _ => rfl
  | @subscribed subs atMs here =>
      have down := announced.down
      cases outage with
      | none =>
          have idle : nextStep conn.state (.subscribed atMs) = (conn.state, .idle) := if_pos down
          refine ⟨none, announced.moved ?_ ?_ ?_ rfl⟩
          all_goals simp only [Connection.turn, idle]
      | some dropped =>
          have report : nextStep conn.state (.subscribed atMs) =
              ({ conn.state with announcedDown := false }, .reportUp
                ⟨min (conn.state.lastSeenMs.getD conn.state.disconnectedAtMs) atMs, atMs⟩
                conn.state.attempt) :=
            if_neg (by rw [down]; exact nofun)
          obtain ⟨same, seen⟩ := announced.here dropped rfl
          refine ⟨none, ?_, ?_, nofun, rfl⟩
          all_goals simp only [Connection.turn, report]
          · exact .up announced.events ⟨same.symm, rfl, conn.state.disconnectedAtMs, by rw [← seen]⟩
          · rfl
  | deliver here | deliverFailed here | late here | fail here =>
      rw [Connection.Expects, here] at expects
      exact ⟨outage, announced.moved rfl rfl rfl expects⟩
  | frame here =>
      rw [Connection.Expects, here] at expects
      refine ⟨outage, announced.moved rfl rfl rfl ?_⟩
      simp only [Connection.Expects, here]
      exact expects
  | @ping socket nowMs sent reason here =>
      rw [Connection.Expects, here] at expects
      refine ⟨outage, announced.moved rfl rfl rfl ?_⟩
      simp only [Connection.Expects, Connection.pinged]
      split_ifs
      · exact expects
      · exact expects
  | drop here => exact announced.lost rfl fun _ => rfl
  | wake here | wakeByCommand here =>
      rw [Connection.Expects, here] at expects
      refine ⟨outage, announced.moved rfl rfl rfl fun none => ?_⟩
      rw [none] at expects
      cases expects
  | subscribe | unsubscribe | clearQuarantine => exact ⟨outage, announced.moved rfl rfl rfl expects⟩
  | stop => exact ⟨outage, announced.moved rfl rfl rfl trivial⟩

/-- A new connection has announced no outage, since it has emitted nothing. -/
theorem Announced.new (id : Nat) (sub : Subscription) (nowMs : Nat) :
    Announced (Connection.new dec id sub nowMs) none :=
  ⟨.nil, rfl, nofun, fun _ => ⟨rfl, rfl⟩⟩

/-! ## What is subscribed on a live socket -/

/-- The feeds a step subscribes on a socket that is live already: those of a command, and
those whose quarantine lapsed. -/
def Connection.resumes (cfg : ConnectionConfig) (conn : Connection dec) :
    ConnAct → List Subscription
  | .deliver none =>
      match conn.commands with
      | .subscribe sub :: _ => [sub]
      | _ => []
  | .ping nowMs sent _ =>
      let revived := (conn.slot.takeExpiredQuarantines nowMs).1
      if conn.idle cfg nowMs ∨ sent < revived.length then [] else revived
  | _ => []

/-- A step that resumes no feed that is owed an answer outside a reconnect. -/
def TameStep (cfg : ConnectionConfig) (before : Connection dec) (act : ConnAct)
    (after : Connection dec) : Prop :=
  ConnStep cfg before act after ∧ ∀ sub ∈ before.resumes cfg act, sub.key ∉ owed before.events

/-- Nothing on a live socket is owed an answer. -/
def Connection.Answered (conn : Connection dec) : Prop :=
  ∀ socket, conn.phase = .live socket → ∀ sub ∈ socket, sub.key ∉ owed conn.events

/-- A reconnect answers what it subscribes; elsewhere a tame step keeps what was answered. -/
theorem Connection.Answered.step {conn after : Connection dec} {act : ConnAct}
    {outage : Option Disconnected} (announced : Announced conn outage)
    (answered : conn.Answered) (tame : TameStep cfg conn act after) : after.Answered := by
  obtain ⟨step, calm⟩ := tame
  cases step with
  | connect | connectFailed | resubscribeFailed | deliverFailed | late | fail | drop | wake
  | wakeByCommand | stop => exact nofun
  | @subscribed subs atMs here =>
      have down := announced.down
      rintro _ ⟨⟩ sub member
      cases outage with
      | none =>
          have idle : nextStep conn.state (.subscribed atMs) = (conn.state, .idle) := if_pos down
          have expects := announced.expects
          rw [Connection.Expects, here] at expects
          simp only [Connection.turn, idle]
          rw [expects rfl]
          exact List.not_mem_nil
      | some dropped =>
          have report : nextStep conn.state (.subscribed atMs) =
              ({ conn.state with announcedDown := false }, .reportUp
                ⟨min (conn.state.lastSeenMs.getD conn.state.disconnectedAtMs) atMs, atMs⟩
                conn.state.attempt) :=
            if_neg (by rw [down]; exact nofun)
          simp only [Connection.turn, report]
          rw [owed_concat, mem_owedAfter_iff]
          rintro (⟨_, ⟨⟩, _⟩ | ⟨_, left⟩)
          exact left ⟨_, rfl, List.mem_map_of_mem member⟩
  | @deliver socket command rest here next =>
      rintro _ ⟨⟩ sub member
      cases command with
      | subscribe new =>
          rcases List.mem_append.mp member with older | last
          · exact answered socket here sub older
          · obtain rfl := List.mem_singleton.mp last
            refine calm sub ?_
            rw [Connection.resumes, next]
            exact List.mem_singleton_self _
      | unsubscribe gone => exact answered socket here sub (List.mem_of_mem_filter member)
  | @ping socket nowMs sent reason here =>
      intro socket' live sub member
      simp only [Connection.pinged] at live
      split_ifs at live with ended
      obtain rfl := Phase.live.inj live
      rcases List.mem_append.mp member with older | revived
      · exact answered socket here sub older
      · refine calm sub ?_
        simp only [Connection.resumes, if_neg ended]
        exact revived
  | frame | subscribe | unsubscribe | clearQuarantine => exact answered

/-! ## The gap rows -/

/-- One event folded into the session and its ledger. -/
def FoldStep (lib : Libraries) (handle : Handle) (before : FeedSession × Store)
    (event : WsEvent dec) (after : FeedSession × Store) : Prop :=
  ∃ publish account nowMs action,
    apply lib dec handle publish account event nowMs before.1 before.2 = (.ok action, after)

/-- Every gap that is open is that of a feed owed an answer, and was not reconciled. -/
def OpenOnly (owed : List String) (store : Store) : Prop :=
  ∀ row ∈ store.db.feedGaps, row.closedTsMs = none →
    row.reconciledTsMs = none ∧ row.scope ∈ owed

/-- The gaps that are open stay among the keys allowed to be when more keys are allowed. -/
theorem OpenOnly.mono {before after : List String} {store : Store} (only : OpenOnly before store)
    (within : ∀ key ∈ before, key ∈ after) : OpenOnly after store :=
  fun row member closed => ⟨(only row member closed).1, within _ (only row member closed).2⟩

section Folding

variable {lib : Libraries} {handle : Handle}

/-- Writes that keep a property keep it all together. -/
theorem writeEach_keeps {α : Type} (write : Bool → α → Store → Result Unit × Store)
    (predicate : Store → Prop) (items : List α)
    (keeps : ∀ publish, ∀ item ∈ items, ∀ store, predicate store →
      predicate (write publish item store).2)
    (publish : Nat → Bool) {store : Store} (initial : predicate store) :
    predicate (writeEach write items publish store).2 := by
  induction items generalizing publish store with
  | nil => exact initial
  | cons item rest ih =>
      have kept := keeps (publish 0) item List.mem_cons_self store initial
      rw [writeEach]
      split
      · rename_i failed
        rwa [failed] at kept
      · rename_i written
        rw [written] at kept
        exact ih (fun publish held inside => keeps publish held (List.mem_cons_of_mem _ inside))
          _ kept

/-- Opening a gap of a feed keeps every open gap accounted for. -/
theorem OpenOnly.opened {owed : List String} {store : Store} (only : OpenOnly owed store)
    {openedAt : Int64} {reason : String} {publish : Bool} {sub : Subscription}
    (listed : sub.key ∈ owed) :
    OpenOnly owed (openDropped lib handle openedAt reason publish sub store).2 := by
  cases opening : openGap lib handle publish sub.key openedAt (some reason) store with
  | mk result reached =>
      rw [openDropped, opening]
      change OpenOnly owed reached
      rcases openGap_gaps opening with ⟨same, _⟩ | ⟨openSeq, same⟩
      · rw [OpenOnly, same]
        exact only
      · intro row member closed
        rw [same] at member
        rcases List.mem_append.mp member with older | new
        · exact only row older closed
        · obtain rfl := List.mem_singleton.mp new
          exact ⟨rfl, listed⟩

/-- Where a row of a closed table comes from. -/
theorem closedRow_open {gapId : Int} {tsMs : Int64} {closeSeq : Nat} {row : GapRow}
    (still : (closedRow gapId tsMs closeSeq row).closedTsMs = none) :
    closedRow gapId tsMs closeSeq row = row ∧ row.gapId ≠ gapId := by
  unfold closedRow at still ⊢
  split
  · rename_i same
    rw [if_pos same] at still
    cases still
  · rename_i other
    exact ⟨rfl, other⟩

/-- What is open after gaps were closed was open before, and is none of them. -/
theorem closeEach_open {closedAt : Int64} (gaps : List Gap) (publish : Nat → Bool)
    {store after : Store}
    (run : writeEach (closeResumed lib handle closedAt) gaps publish store = (.ok (), after))
    {row : GapRow} (member : row ∈ after.db.feedGaps) (still : row.closedTsMs = none) :
    row ∈ store.db.feedGaps ∧ ∀ gap ∈ gaps, row.gapId ≠ gap.gapId := by
  induction gaps generalizing publish store with
  | nil =>
      cases run
      exact ⟨member, nofun⟩
  | cons gap rest ih =>
      rw [writeEach] at run
      split at run
      · cases run
      · rename_i middle closed
        obtain ⟨inside, others⟩ := ih _ run
        cases closing : closeGap lib handle (publish 0) gap.gapId closedAt store with
        | mk result reached =>
            rw [closeResumed, closing] at closed
            have same : reached = middle := congrArg Prod.snd closed
            rcases closeGap_gaps closing with ⟨_, error, failed⟩ | ⟨closeSeq, rows⟩
            · rw [failed] at closed
              cases congrArg Prod.fst closed
            · rw [← same, rows] at inside
              obtain ⟨held, here, rfl⟩ := List.mem_map.mp inside
              obtain ⟨unchanged, other⟩ := closedRow_open still
              rw [unchanged] at others ⊢
              refine ⟨here, fun candidate listed => ?_⟩
              rcases List.mem_cons.mp listed with rfl | later
              · exact other
              · exact others candidate later

/-- Folding an event that was applied keeps every open gap accounted for. -/
theorem OpenOnly.fold {owed : List String} {before after : FeedSession × Store}
    {event : WsEvent dec} (only : OpenOnly owed before.2)
    (quiet : ∀ user isSnapshot fills, event ≠ .userFills user isSnapshot fills)
    (step : FoldStep lib handle before event after) : OpenOnly (owedAfter owed event) after.2 := by
  obtain ⟨publish, account, nowMs, action, run⟩ := step
  obtain ⟨session, store⟩ := before
  cases event with
  | disconnected dropped =>
      have kept := writeEach_keeps
        (openDropped lib handle (ms (dropped.lastMessageMs.getD dropped.atMs)) dropped.reason)
        (OpenOnly (owed ++ dropped.subscriptions.map Subscription.key)) dropped.subscriptions
        (fun _ sub listed _ only => only.opened
          (List.mem_append_right _ (List.mem_map_of_mem listed)))
        publish (only.mono fun _ => List.mem_append_left _)
      rw [show after.2 = _ from (congrArg (fun applied => applied.2.2) run).symm]
      exact kept
  | reconnected back =>
      rw [apply] at run
      dsimp only at run
      split at run
      · cases congrArg Prod.fst run
      · rename_i gaps listed
        cases writes : writeEach (closeResumed lib handle (ms back.atMs))
          (resumedGaps back.resubscribed gaps) publish store with
        | mk result reached =>
            rw [writes] at run
            have same : reached = after.2 := congrArg (fun applied => applied.2.2) run
            cases result with
            | error error => cases congrArg Prod.fst run
            | ok done =>
                intro row member still
                rw [← same] at member
                obtain ⟨held, none⟩ := closeEach_open _ _ writes member still
                obtain ⟨unreconciled, inside⟩ := only row held still
                refine ⟨unreconciled, ?_⟩
                rw [owedAfter, List.mem_filter, decide_eq_true_eq]
                refine ⟨inside, fun resumed => ?_⟩
                obtain ⟨gap, found, read⟩ := forall₂_left_of_right (mapM_ok_iff.mp listed).flip
                  (List.mem_filter.mpr ⟨held, decide_eq_true unreconciled⟩)
                obtain ⟨_, _, read⟩ := bind_eq_ok read
                obtain ⟨_, _, read⟩ := bind_eq_ok read
                cases read
                refine none _ (List.mem_filter.mpr ⟨found, ?_⟩) rfl
                obtain ⟨sub, back', key⟩ := List.mem_map.mp resumed
                simp only [still, decide_true, Bool.true_and, List.any_eq_true, decide_eq_true_eq]
                exact ⟨sub, back', key⟩
  | userFills user isSnapshot fills => exact absurd rfl (quiet user isSnapshot fills)
  | _ =>
      rw [show after.2 = store from (congrArg (fun applied => applied.2.2) run).symm]
      exact only

end Folding

/-- A connection sends no fills among its outages. -/
theorem Alternates.quiet {outage : Option Disconnected} {events : List (WsEvent dec)}
    (alternates : Alternates outage events) :
    ∀ event ∈ events, ∀ user isSnapshot fills, event ≠ .userFills user isSnapshot fills := by
  induction alternates with
  | nil => exact nofun
  | down _ ih | quarantined _ ih | up _ _ ih =>
      intro event member
      rcases List.mem_append.mp member with older | last
      · exact ih event older
      · rw [List.mem_singleton.mp last]
        exact nofun

/-- The gaps that are open after a whole run of the fold are those of keys the events still owe. The
run begins with no gap open and carries no fills, since a batch of fills opens gaps of its own. -/
theorem OpenOnly.run {lib : Libraries} {handle : Handle} {before after : FeedSession × Store}
    {events : List (WsEvent dec)} (only : OpenOnly [] before.2)
    (quiet : ∀ event ∈ events, ∀ user isSnapshot fills, event ≠ .userFills user isSnapshot fills)
    (run : Run (FoldStep lib handle) before events after) : OpenOnly (owed events) after.2 := by
  induction run with
  | nil => exact only
  | @snoc events middle last event _ step ih =>
      rw [owed_concat]
      exact (ih fun other member => quiet other (List.mem_append_left _ member)).fold
        (quiet event (List.mem_append_right _ (List.mem_singleton_self _))) step

/-- Tame runs keep what is on a live socket answered. -/
theorem Connection.answered_of_run {id nowMs : Nat} {first : Subscription} {acts : List ConnAct}
    {conn : Connection dec} (run : Run (TameStep cfg) (.new dec id first nowMs) acts conn) :
    conn.Answered := by
  suffices both : (∃ outage, Announced conn outage) ∧ conn.Answered from both.2
  refine run.invariant (fun conn => (∃ outage, Announced conn outage) ∧ conn.Answered) ?_
    ⟨⟨none, .new id first nowMs⟩, nofun⟩
  rintro before act after ⟨⟨outage, announced⟩, answered⟩ tame
  exact ⟨announced.step tame.1, answered.step announced tame⟩

end Outages

/-- **Outages are answered.** In every run of a connection, outages and returns alternate and
each return carries the anchor of the outage it answers. In a run in which no feed that is
owed an answer is subscribed on a live socket outside a reconnect, every feed that is
subscribed on a live socket was listed by a return after each outage that listed it, and the
gap its outage opened is closed once the events are folded into a ledger. -/
theorem outages_answered {dec : Quotients} {cfg : ConnectionConfig} {id nowMs : Nat}
    {first : Subscription} {acts : List ConnAct} {conn : Connection dec}
    (run : Run (ConnStep cfg) (.new dec id first nowMs) acts conn) :
    (∃ outage, Alternates outage conn.events) ∧
    (Run (TameStep cfg) (.new dec id first nowMs) acts conn →
      ∀ socket, conn.phase = .live socket → ∀ sub ∈ socket,
        (∀ before event later, conn.events = before ++ event :: later → Loses event sub.key →
          ∃ other ∈ later, Resumes other sub.key) ∧
        ∀ (lib : Libraries) (handle : Handle) (session : FeedSession) (store : Store)
          (after : FeedSession × Store),
          (∀ row ∈ store.db.feedGaps, row.closedTsMs ≠ none) →
          Run (FoldStep lib handle) (session, store) conn.events after →
          ∀ row ∈ after.2.db.feedGaps, row.scope = sub.key → row.closedTsMs ≠ none) := by
  obtain ⟨outage, announced⟩ : ∃ outage, Announced conn outage := by
    refine run.invariant (fun conn => ∃ outage, Announced conn outage) ?_
      ⟨none, .new id first nowMs⟩
    rintro before act after ⟨outage, announced⟩ step
    exact announced.step step
  refine ⟨⟨outage, announced.events⟩, fun tame socket live sub member => ?_⟩
  have answered := Connection.answered_of_run tame socket live sub member
  refine ⟨fun before event later same lost => ?_, fun lib handle session store after closed folded
    row inside scope still => ?_⟩
  · by_contra unanswered
    push Not at unanswered
    exact answered (mem_owed_iff.mpr ⟨before, event, later, same, lost, unanswered⟩)
  · have only := OpenOnly.run (fun row member still => absurd still (closed row member))
      announced.events.quiet folded
    exact answered (scope ▸ (only row inside still).2)

namespace LapsedQuarantine

/-- The configuration of the pool by default. -/
def cfg : ConnectionConfig := ⟨75000, 3, 5000⟩

def feed : Subscription := .userFills (.filled 0)

/-- A session the venue closes at once. -/
def refused (atMs : Nat) : List ConnAct :=
  [.connect atMs, .subscribed atMs, .fail "server closed", .drop (atMs + 1) (atMs + 1) 0, .wake]

/-- A reconnect without the quarantined feed, and a ping once its quarantine lapsed. -/
def revived : List ConnAct :=
  [.connect 6, .subscribed 6, .ping 60006 1 "", .frame 60007 (some feed.key)]

/-- An outage that lists the feed. -/
def outage (atMs lastMs : Nat) : WsEvent Quotients.reference :=
  .disconnected ⟨0, atMs, some lastMs, [feed], [feed], "server closed"⟩

def back (atMs startMs attempts : Nat) (resubscribed : List Subscription) :
    WsEvent Quotients.reference :=
  .reconnected ⟨0, atMs, ⟨startMs, atMs⟩, resubscribed, attempts⟩

/-- The connection about to connect again. -/
def waiting (strikes : Nat) (untilMs : Option Nat) (quarantines lastMs : Nat)
    (events : List (WsEvent Quotients.reference)) : Connection Quotients.reference where
  id := 0
  slot := ⟨[⟨feed, false, strikes, untilMs, quarantines⟩], false, some lastMs⟩
  state := ⟨strikes, true, some lastMs, lastMs + 1⟩
  phase := .connecting
  commands := []
  events := events

def told : List (WsEvent Quotients.reference) :=
  [outage 1 0, back 2 0 1 [feed], outage 3 2, back 4 2 2 [feed], outage 5 4,
    .subscriptionQuarantined 0 feed 3]

/-- The feed runs again, and no return listed it. -/
def resumed : Connection Quotients.reference where
  id := 0
  slot := ⟨[⟨feed, true, 0, none, 1⟩], true, some 60007⟩
  state := ⟨3, false, some 4, 5⟩
  phase := .live [feed]
  commands := []
  events := told ++ [back 6 4 3 []]

/-- A step that sends no subscription on a live socket is tame. -/
theorem tame {before after : Connection Quotients.reference} {act : ConnAct}
    (step : ConnStep cfg before act after) (none : before.resumes cfg act = []) :
    TameStep cfg before act after :=
  ⟨step, fun _ member => absurd (none ▸ member) List.not_mem_nil⟩

/-- The first attempt is refused by the venue, and one outage is told. -/
theorem first_refused : Run (TameStep cfg) (.new Quotients.reference 0 feed 0) (refused 0)
    (waiting 1 none 0 0 (told.take 1)) :=
  .snoc (.snoc (.snoc (.snoc (.snoc .nil (tame (.connect rfl) rfl)) (tame (.subscribed rfl) rfl))
    (tame (.fail rfl) rfl)) (tame (.drop rfl) rfl)) (tame (.wake rfl) rfl)

/-- The second refusal is the retry of the same outage and tells the same keys again. -/
theorem second_refused : Run (ConnStep cfg) (waiting 1 none 0 0 (told.take 1)) (refused 2)
    (waiting 2 none 0 2 (told.take 3)) :=
  .snoc (.snoc (.snoc (.snoc (.snoc .nil (.connect rfl)) (.subscribed rfl)) (.fail rfl))
    (.drop rfl)) (.wake rfl)

/-- The third refusal reaches the quarantine threshold, and the suspect subscription is put
aside. -/
theorem third_refused : Run (ConnStep cfg) (waiting 2 none 0 2 (told.take 3)) (refused 4)
    (waiting 3 (some 60005) 1 4 told) :=
  .snoc (.snoc (.snoc (.snoc (.snoc .nil (.connect rfl)) (.subscribed rfl)) (.fail rfl))
    (.drop rfl)) (.wake rfl)

/-- Once the quarantine expires the connection comes back and resumes what it owed. -/
theorem revived_run : Run (ConnStep cfg) (waiting 3 (some 60005) 1 4 told) revived resumed :=
  .snoc (.snoc (.snoc (.snoc .nil (.connect rfl)) (.subscribed rfl)) (.ping rfl)) (.frame rfl rfl)

/-- The connection back after its first outage. -/
def recovered : Connection Quotients.reference where
  id := 0
  slot := ⟨[⟨feed, false, 1, none, 0⟩], true, some 2⟩
  state := ⟨1, false, some 0, 1⟩
  phase := .live [feed]
  commands := []
  events := [outage 1 0] ++ [back 2 0 1 [feed]]

/-- The shortest recovery: one refused attempt, then a session whose subscriptions are answered. -/
theorem recovered_run : Run (TameStep cfg) (.new Quotients.reference 0 feed 0)
    (refused 0 ++ [.connect 2, .subscribed 2]) recovered :=
  first_refused.append
    (.snoc (.snoc .nil (tame (.connect rfl) rfl)) (tame (.subscribed rfl) rfl))

/-- The return after the first outage lists the feed. -/
theorem recovered_answers : (∃ outage, Alternates outage recovered.events) ∧
    ∃ other ∈ [back 2 0 1 [feed]], Resumes other feed.key :=
  have answered := outages_answered (recovered_run.mono fun _ _ _ tame => tame.1)
  ⟨answered.1, (answered.2 recovered_run [feed] rfl feed (List.mem_singleton_self _)).1 [] _ _ rfl
    ⟨_, rfl, List.mem_singleton_self _⟩⟩

/-- A feed whose quarantine lapses on a live socket runs again with no return that lists it. -/
theorem not_answered : ¬ ∀ (acts : List ConnAct) (conn : Connection Quotients.reference),
    Run (ConnStep cfg) (.new Quotients.reference 0 feed 0) acts conn →
    ∀ socket, conn.phase = .live socket → ∀ entry ∈ conn.slot.subs, entry.acked = true →
      entry.sub ∈ socket → ∀ before event later, conn.events = before ++ event :: later →
        Loses event entry.sub.key → ∃ other ∈ later, Resumes other entry.sub.key := by
  intro answered
  have run := (((first_refused.mono fun _ _ _ tame => tame.1).append second_refused).append
    third_refused).append revived_run
  obtain ⟨other, member, _, same, listed⟩ := answered _ resumed run [feed] rfl
    ⟨feed, true, 0, none, 1⟩ (List.mem_singleton_self _) rfl (List.mem_singleton_self _)
    (told.take 4) (outage 5 4) [.subscriptionQuarantined 0 feed 3, back 6 4 3 []] rfl
    ⟨_, rfl, List.mem_singleton_self _⟩
  rcases List.mem_cons.mp member with rfl | last
  · cases same
  · obtain rfl := List.mem_singleton.mp last
    cases same
    cases listed

end LapsedQuarantine

end Oppen.Feed
