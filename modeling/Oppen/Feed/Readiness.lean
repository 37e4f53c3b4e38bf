import Oppen.Feed.Pump

/-! # Readiness

A session is ready only on the strength of a walk that nothing has disturbed since it
began, and only while every frame of its account is in the ledger. The one way around it is
a frame that could not be decoded.
-/

namespace Oppen.Feed

open Foundation Oppen.Ledger Oppen.Reconcile

section Readiness

variable {dec : Quotients} {VenueError : Type} {source : ReconcileSource dec VenueError}

/-! ## What is asked of a ready session -/

/-- What an event carried is in the ledger; what an undecoded frame carried is not known. -/
def Holds (db : Db) : WsEvent dec → Prop
  | .userFills user _ fills => ∀ fill ∈ fills, Recorded db user.display fill.tid
  | event => event.isUndecoded = false

/-- A frame that was consumed and whose content is in the ledger. Being consumed alone says nothing
of the ledger, since a frame that could not be decoded is consumed as well. -/
structure DurablyApplied (db : Db) (envelope : Envelope dec) : Prop where
  consumed : envelope.place = .settled true
  holds : Holds db envelope.event

/-- The scope of a feed of some account, or one that does not read. -/
def AccountScope (VenueError : Type) (scope : String) : Prop :=
  ∀ other, (GapScope.parse scope : Except (ReconcileError VenueError) GapScope) ≠ .ok (.other other)

/-- Every gap of an account feed was reconciled. -/
def Pump.GapsReconciled (pump : Pump source) : Prop :=
  ∀ row ∈ pump.store.db.feedGaps, AccountScope VenueError row.scope → row.reconciledTsMs ≠ none

/-- A disconnect, a failure or a rebinding, or another call that withdraws readiness. -/
def Disturbs (pump : Pump source) : PumpAct dec → Prop
  | .apply (.disconnected _) _ _ | .recordFailure _ | .fail _ | .unreconciled | .startWalk
  | .stop => True
  | .bind .. => pump.session.scope = none
  | .bindIngress channel | .begin channel => pump.session.ingress ≠ some channel
  | .bindLedger ledger => (pump.session.ledgerIdentity.any fun identity => identity ≠ ledger) = true
  | _ => False

/-- The frames of a channel received since an earlier state. -/
def Pump.receivedSince (pump begun : Pump source) (channel : Nat) : List (Envelope dec) :=
  (pump.channels channel).envelopes.drop (begun.channels channel).envelopes.length

section Steps

variable (reconciler : Reconciler) (account : Address)

/-- A step that disturbs nothing. -/
def QuietStep (before : Pump source) (act : PumpAct dec) (after : Pump source) : Prop :=
  PumpStep reconciler account before act after ∧ ¬ Disturbs before act

/-- The walk that began here set readiness: it finished with every gap of an account feed
reconciled, and nothing disturbed it or what came after it. -/
structure SetBy (start : Pump source) (acts : List (PumpAct dec)) (begun pump : Pump source) :
    Prop where
  intro ::
  walk : ∃ earlier walked later before finishing finished atMs,
    acts = earlier ++ .startWalk :: (walked ++ .finish atMs :: later) ∧
    Run (PumpStep reconciler account) start earlier before ∧
    PumpStep reconciler account before .startWalk begun ∧
    Run (QuietStep reconciler account) begun walked finishing ∧ finishing.GapsReconciled ∧
    PumpStep reconciler account finishing (.finish atMs) finished ∧
    Run (QuietStep reconciler account) finished later pump

end Steps

/-! ## Sessions -/

/-- What a call on the session does that does not report a walk: readiness is at most kept,
with its epoch, and a failure stays. -/
structure SessionMove (before after : FeedSession) : Prop where
  epoch : before.epoch ≤ after.epoch
  kept : after.reconciled = true → before.reconciled = true ∧ after.epoch = before.epoch ∧
    after.failure = before.failure
  failure : before.failure ≠ none → after.failure ≠ none

theorem SessionMove.refl (session : FeedSession) : SessionMove session session :=
  ⟨le_rfl, fun ready => ⟨ready, rfl, rfl⟩, id⟩

theorem SessionMove.invalidate (session : FeedSession) : SessionMove session session.invalidate :=
  ⟨Nat.le_succ _, nofun, id⟩

theorem SessionMove.tick (session : FeedSession) (atMs : Nat) :
    SessionMove session (session.tick atMs) :=
  ⟨le_rfl, fun ready => ⟨ready, rfl, rfl⟩, id⟩

theorem SessionMove.recordFailure (session : FeedSession) (detail : String) :
    SessionMove session (session.recordFailure detail) := by
  refine ⟨Nat.le_succ _, nofun, fun failed => ?_⟩
  cases held : session.failure with
  | none => exact absurd held failed
  | some first =>
      rw [FeedSession.recordFailure, held]
      exact nofun

/-- Binding the account the session already has is a move; binding a first one begins a new
epoch. -/
theorem SessionMove.bind (session : FeedSession) (network : Network) (account : Address) :
    SessionMove session (@FeedSession.bind VenueError network account session).2 ∧
      (session.scope = none →
        session.epoch < (@FeedSession.bind VenueError network account session).2.epoch) := by
  unfold FeedSession.bind
  split
  · rename_i scope bound
    refine ⟨?_, fun none => by rw [none] at bound; cases bound⟩
    split
    · exact .refl session
    · exact .refl session
  · exact ⟨⟨Nat.le_succ _, nofun, id⟩, fun _ => Nat.lt_succ_self _⟩

/-- Binding the ingress the session already has is a move; binding another one begins a new
epoch. -/
theorem SessionMove.bindIngress (session : FeedSession) (monitors : Nat → Monitor) (channel : Nat) :
    SessionMove session (@FeedSession.bindIngress VenueError monitors channel session).2 ∧
      (session.ingress ≠ some channel →
        session.epoch <
          (@FeedSession.bindIngress VenueError monitors channel session).2.epoch) := by
  unfold FeedSession.bindIngress
  split
  · rename_i same
    exact ⟨.refl session, fun other => absurd same other⟩
  · split
    · exact ⟨.invalidate session, fun _ => Nat.lt_succ_self _⟩
    · exact ⟨⟨Nat.le_succ _, nofun, id⟩, fun _ => Nat.lt_succ_self _⟩

/-- Binding the ledger the session already has is a move; binding another one begins a new epoch. -/
theorem SessionMove.bindLedger (session : FeedSession) (ledger : Nat) :
    SessionMove session (@FeedSession.bindLedger VenueError ledger session).2 ∧
      ((session.ledgerIdentity.any fun identity => identity ≠ ledger) = true →
        session.epoch < (@FeedSession.bindLedger VenueError ledger session).2.epoch) := by
  unfold FeedSession.bindLedger
  split
  · exact ⟨.invalidate session, fun _ => Nat.lt_succ_self _⟩
  · rename_i same
    exact ⟨⟨le_rfl, fun ready => ⟨ready, rfl, rfl⟩, id⟩, fun other => absurd other same⟩

/-- Moves of a session compose: the epoch never falls, and within one epoch the readiness comes from
its own walk. -/
theorem SessionMove.trans {first second third : FeedSession} (earlier : SessionMove first second)
    (later : SessionMove second third) : SessionMove first third where
  epoch := earlier.epoch.trans later.epoch
  kept ready := by
    obtain ⟨ready', epoch, failure⟩ := later.kept ready
    obtain ⟨ready'', epoch', failure'⟩ := earlier.kept ready'
    exact ⟨ready'', epoch.trans epoch', failure.trans failure'⟩
  failure := later.failure ∘ earlier.failure

/-- What folding an event does to the session. -/
theorem apply_session {lib : Libraries} {handle : Handle} {publish : Nat → Bool} {named : String}
    {event : WsEvent dec} {nowMs : Nat} {session after : FeedSession} {store reached : Store}
    {result : Result Action}
    (folded : apply lib dec handle publish named event nowMs session store =
      (result, after, reached)) :
    SessionMove session after ∧
      (∀ dropped, event = .disconnected dropped → session.epoch < after.epoch) := by
  cases event with
  | disconnected dropped =>
      cases folded
      exact ⟨.invalidate session, fun _ _ => Nat.lt_succ_self _⟩
  | reconnected back =>
      rw [apply] at folded
      dsimp only at folded
      split at folded
      · cases folded
        exact ⟨.tick session _, fun _ other => by cases other⟩
      · cases folded
        exact ⟨.tick session _, fun _ other => by cases other⟩
  | userFills | activeAssetCtx | bbo | trades | candle | l2Book | orderUpdates =>
      cases folded
      exact ⟨.tick session _, fun _ other => by cases other⟩
  | subscriptionQuarantined | venueError | messageDropped =>
      cases folded
      exact ⟨.refl session, fun _ other => by cases other⟩

/-- The report of a walk is a move of the session, current or not, since a stale one is dropped. -/
theorem reportWalk_move (pump : Pump source) (stamp : FeedStamp) (outcome : GapOutcome VenueError) :
    SessionMove pump.session (pump.reportWalk stamp outcome) := by
  unfold Pump.reportWalk
  split
  · unfold FeedSession.recordFillWalk
    split
    · exact ⟨le_rfl, fun ready => ⟨ready, rfl, rfl⟩, id⟩
    · exact .refl _
  · exact .refl _

variable {reconciler : Reconciler} {account : Address} {before after : Pump source}
  {act : PumpAct dec}

/-- A step that does not finish a walk moves the session as its calls do, to a new epoch if it
disturbs. -/
theorem PumpStep.session (step : PumpStep reconciler account before act after)
    (other : ∀ atMs, act ≠ .finish atMs) : SessionMove before.session after.session ∧
      (Disturbs before act → before.session.epoch < after.session.epoch) := by
  cases step with
  | bind => exact SessionMove.bind _ _ _
  | bindIngress | begin => exact SessionMove.bindIngress _ _ _
  | bindLedger => exact SessionMove.bindLedger _ _
  | recordFailure | fail => exact ⟨.recordFailure _ _, fun _ => Nat.lt_succ_self _⟩
  | unreconciled | startWalk | stop => exact ⟨.invalidate _, fun _ => Nat.lt_succ_self _⟩
  | @build bound built here scope ledger =>
      have bindMove := (@SessionMove.bind VenueError before.session
        reconciler.handle.network account).1
      have ledgerMove := (@SessionMove.bindLedger VenueError bound
        reconciler.ledgerIdentity).1
      rw [scope] at bindMove
      rw [ledger] at ledgerMove
      exact ⟨bindMove.trans ledgerMove, nofun⟩
  | report => exact ⟨reportWalk_move _ _ _, nofun⟩
  | finish => exact absurd rfl (other _)
  | @apply index envelope publish draining result session store here held folded =>
      obtain ⟨move, disconnected⟩ := apply_session folded
      refine ⟨move, fun disturbs => ?_⟩
      cases event : envelope.event with
      | disconnected dropped => exact disconnected dropped event
      | _ =>
          rw [event] at disturbs
          cases disturbs
  | _ => exact ⟨.refl _, nofun⟩

/-- What finishing a walk does to the session. -/
theorem finished_session (pump : Pump source) (stamp : FeedStamp) (outstanding atMs : Nat) :
    (pump.finished stamp outstanding atMs).epoch = pump.session.epoch ∧
      (pump.finished stamp outstanding atMs).failure = pump.session.failure ∧
      ((pump.finished stamp outstanding atMs).reconciled = true → pump.session.reconciled = true ∨
        outstanding = 0 ∧ stamp = pump.session.stamp pump.monitors ∧
          pump.session.failure = none) := by
  unfold Pump.finished
  split
  · unfold FeedSession.markReconciled
    split
    · exact ⟨rfl, rfl, .inl⟩
    · rename_i none same
      refine ⟨rfl, rfl, fun ready => .inr ⟨none, not_not.mp same, ?_⟩⟩
      exact Option.isNone_iff_eq_none.mp ready
  · exact ⟨rfl, rfl, .inl⟩

/-! ## Channels -/

/-- An envelope whose obligation is settled, or about to be, as acknowledged. -/
def Envelope.IsAcknowledged (envelope : Envelope dec) : Prop :=
  envelope.place = .settling true ∨ envelope.place = .settled true

section Channels

variable {channel moved : Ingress dec} {act' : Act dec} {index : Nat} {envelope : Envelope dec}

/-- A step keeps what each envelope carries. -/
theorem IngressStep.event_at (step : IngressStep channel act' moved)
    (held : channel.envelopes[index]? = some envelope) :
    ∃ later, moved.envelopes[index]? = some later ∧ later.event = envelope.event := by
  obtain ⟨bound, here⟩ := List.getElem?_eq_some_iff.mp held
  have kept {other : Nat} {shifted : Envelope dec} {place place' : Place}
      (standsAt : channel.HasAt other shifted place) :
      ∃ later, (channel.move other shifted place').envelopes[index]? = some later ∧
        later.event = envelope.event := by
    by_cases same : other = index
    · subst same
      obtain rfl := Option.some.inj (standsAt.1.symm.trans held)
      exact ⟨_, List.getElem?_set_self bound, rfl⟩
    · exact ⟨envelope, (List.getElem?_set_ne same).trans held, rfl⟩
  cases step with
  | send =>
      exact ⟨envelope, (List.getElem?_append_left bound).trans held, rfl⟩
  | proceed standsAt | poll standsAt | discard standsAt | recv standsAt | acknowledge standsAt =>
      exact kept standsAt
  | settle standsAt => exact kept standsAt
  | _ => exact ⟨envelope, held, rfl⟩

/-- A step acknowledges at most the envelope it names. -/
theorem IngressStep.acknowledged (step : IngressStep channel act' moved)
    (member : envelope ∈ moved.envelopes) (acked : envelope.IsAcknowledged) :
    (∃ older ∈ channel.envelopes, older.event = envelope.event ∧ older.IsAcknowledged) ∨
      ∃ index older, act' = .acknowledge index ∧ channel.envelopes[index]? = some older ∧
        older.event = envelope.event := by
  have unmoved {other : Nat} {shifted : Envelope dec} {place place' : Place}
      (standsAt : channel.HasAt other shifted place)
      (inside : envelope ∈ (channel.move other shifted place').envelopes)
      (new : place' ≠ .settling true)
      (origin : place' = .settled true → place = .settling true) :
      ∃ older ∈ channel.envelopes, older.event = envelope.event ∧ older.IsAcknowledged := by
    rcases mem_move inside with older | rfl
    · exact ⟨envelope, older, rfl, acked⟩
    · rcases acked with settling | settled
      · exact absurd settling new
      · exact ⟨shifted, standsAt.mem, rfl, .inl (standsAt.2.trans (origin settled))⟩
  cases step with
  | send =>
      rcases List.mem_append.mp member with older | last
      · exact .inl ⟨envelope, older, rfl, acked⟩
      · obtain rfl := List.mem_singleton.mp last
        rcases acked with settling | settled
        · cases settling
        · cases settled
  | proceed standsAt | poll standsAt | recv standsAt =>
      exact .inl (unmoved standsAt member nofun nofun)
  | discard standsAt => exact .inl (unmoved standsAt member nofun nofun)
  | acknowledge standsAt =>
      rcases mem_move member with older | rfl
      · exact .inl ⟨envelope, older, rfl, acked⟩
      · exact .inr ⟨_, _, rfl, standsAt.1, rfl⟩
  | settle standsAt =>
      refine .inl (unmoved standsAt member nofun ?_)
      rintro ⟨⟩
      rfl
  | _ => exact .inl ⟨envelope, member, rfl, acked⟩

end Channels

/-- What a step does to a channel: nothing, or one step of it, and only the settlement of the
held envelope acknowledges. -/
theorem PumpStep.channel_cases (step : PumpStep reconciler account before act after)
    (channel : Nat) : after.channels channel = before.channels channel ∨
      ∃ act', IngressStep (before.channels channel) act' (after.channels channel) ∧
        ∀ index, act' = .acknowledge index → before.channel = channel ∧
          before.task = .settling index ∧
          (before.session.state before.monitors).failure = none := by
  have moving {pump : Pump source} {other : Nat} {moved : Ingress dec} {act' : Act dec}
      (step : IngressStep (pump.channels other) act' moved)
      (acks : ∀ index, act' = .acknowledge index → pump.channel = other ∧
        pump.task = .settling index ∧ (pump.session.state pump.monitors).failure = none) :
      (pump.moveChannel other moved).channels channel = pump.channels channel ∨
        ∃ act', IngressStep (pump.channels channel) act'
          ((pump.moveChannel other moved).channels channel) ∧
          ∀ index, act' = .acknowledge index → pump.channel = channel ∧
            pump.task = .settling index ∧ (pump.session.state pump.monitors).failure = none := by
    by_cases same : channel = other
    · subst same
      refine .inr ⟨act', ?_, acks⟩
      rwa [Pump.channels_moveChannel_self]
    · exact .inl (pump.channels_moveChannel_of_ne moved same)
  cases step with
  | ingress producer moved =>
      refine moving moved fun index same => ?_
      rw [same] at producer
      cases producer
  | receive here moved => exact moving moved nofun
  | acknowledge here sound moved =>
      refine moving moved fun index same => ?_
      cases same
      exact ⟨rfl, here, sound⟩
  | abandon here failed moved => exact moving moved nofun
  | _ => exact .inl rfl

/-- The event an act sends on a channel. -/
def PumpAct.sentOn (channel : Nat) : PumpAct dec → Option (WsEvent dec)
  | .ingress other act => if other = channel then act.sent else none
  | _ => none

/-- A step adds the event it sends to the channel it sends it on. -/
theorem PumpStep.events (step : PumpStep reconciler account before act after) (channel : Nat) :
    (after.channels channel).envelopes.map Envelope.event =
      (before.channels channel).envelopes.map Envelope.event ++ (act.sentOn channel).toList := by
  have quiet {pump : Pump source} {other : Nat} {moved : Ingress dec} {act' : Act dec}
      (step : IngressStep (pump.channels other) act' moved) (sends : act'.sent = none) :
      ((pump.moveChannel other moved).channels channel).envelopes.map Envelope.event =
        (pump.channels channel).envelopes.map Envelope.event ++ [] := by
    by_cases same : channel = other
    · subst same
      rw [Pump.channels_moveChannel_self, step.events, sends]
      rfl
    · rw [pump.channels_moveChannel_of_ne moved same, List.append_nil]
  cases step with
  | @ingress other act' moved producer step =>
      rw [PumpAct.sentOn]
      by_cases same : other = channel
      · subst same
        rw [Pump.channels_moveChannel_self, if_pos rfl, step.events]
      · rw [before.channels_moveChannel_of_ne moved fun equal => same equal.symm, if_neg same]
        exact (List.append_nil _).symm
  | receive here moved => exact quiet moved rfl
  | acknowledge here sound moved => exact quiet moved rfl
  | abandon here failed moved => exact quiet moved rfl
  | _ => exact (List.append_nil _).symm

/-- The envelopes of a channel are what was sent on it, in order. -/
theorem sentOn_of_run {store : Store} {venue : source.State} {pump : Pump source}
    {acts : List (PumpAct dec)}
    (run : Run (PumpStep reconciler account) (.start source store venue) acts pump)
    (channel : Nat) : (pump.channels channel).envelopes.map Envelope.event =
      acts.filterMap (PumpAct.sentOn channel) := by
  refine run.history (fun acts pump => (pump.channels channel).envelopes.map Envelope.event =
    acts.filterMap (PumpAct.sentOn channel)) rfl ?_
  intro seen before act after _ same step
  rw [List.filterMap_append, ← same, step.events, List.filterMap_cons, List.filterMap_nil]
  cases act.sentOn channel with
  | none => rfl
  | some => rfl

/-! ## The ledger -/

/-- Every step moves the ledger by its own steps. -/
theorem PumpStep.ledger (step : PumpStep reconciler account before act after) :
    ∃ acts, Run (LedgerStep reconciler.lib dec.toDecimals reconciler.handle) before.store acts
      after.store := by
  cases step with
  | call opens step => exact ⟨[.call _], .single step⟩
  | @startUp scope scopes publish atMs here =>
      change ∃ acts, Run _ _ acts
        (startWindow reconciler.lib reconciler.handle publish scope atMs before.store).2
      unfold startWindow
      cases opening : openGap reconciler.lib reconciler.handle publish.1 scope atMs
          (some startupNote) before.store with
      | mk result middle =>
          have opened : LedgerStep reconciler.lib dec.toDecimals reconciler.handle before.store
              (.call ⟨.openGap scope atMs (some startupNote), publish.1⟩) middle :=
            congrArg Prod.snd opening
          cases result with
          | error error => exact ⟨_, .single opened⟩
          | ok gap =>
              exact ⟨_, .snoc (.single opened)
                (show LedgerStep _ _ _ _ (.call ⟨.closeGap gap.gapId atMs, publish.2⟩) _ from rfl)⟩
  | workGap here worked =>
      obtain ⟨acts, run, _⟩ := (workGap_worked [] worked).opensNone
      exact ⟨acts, run⟩
  | @apply index envelope publish draining result session store here held folded =>
      obtain ⟨requests, run, _⟩ := @apply_run reconciler.lib _ reconciler.handle
        publish account.display envelope.event envelope.receivedAtMs before.session before.store
      rw [folded] at run
      exact ⟨_, ledgerRun_of_run run⟩
  | _ => exact ⟨[], .nil⟩

/-- An event that the journal holds is still held after the journal has grown. -/
theorem Holds.evolves {event : WsEvent dec} {db grown : Db} (holds : Holds db event)
    (evolves : Evolves db grown) : Holds grown event := by
  cases event with
  | userFills user isSnapshot fills => exact fun fill member => (holds fill member).evolves evolves
  | _ => exact holds

/-- Fills written without an error are all in the ledger. -/
theorem recordEach_holds {lib : Libraries} {handle : Handle} {named : String}
    (fills : List (Fill dec)) (publish : Nat → Bool) {store reached : Store}
    (upheld : Upheld lib handle store)
    (run : writeEach (record lib dec handle named) fills publish store = (.ok (), reached)) :
    ∀ fill ∈ fills, Recorded reached.db named fill.tid := by
  induction fills generalizing publish store with
  | nil => exact fun _ member => absurd member List.not_mem_nil
  | cons fill rest ih =>
      rw [writeEach] at run
      cases recording : recordFill lib dec.toDecimals handle (publish 0) (liveFill named fill)
          store with
      | mk result middle =>
          rw [record, recording] at run
          have step : LedgerStep lib dec.toDecimals handle store
              (.call ⟨.recordFill (liveFill named fill), publish 0⟩) middle :=
            congrArg Prod.snd recording
          cases result with
          | error error => cases run
          | ok appended =>
              have upheld' := (upheld.step step).1
              obtain ⟨requests, later, _⟩ := writeEach_run (record lib dec handle named)
                (fun fill => Call.recordFill (liveFill named fill)) (fun _ _ _ => rfl) rest
                (fun call => publish (call + 1)) middle
              change writeEach _ rest _ middle = _ at run
              rw [run] at later
              intro other member
              rcases List.mem_cons.mp member with rfl | inside
              · exact (upheld.recordFill recording).evolves
                  (upheld'.run (ledgerRun_of_run later)).2
              · exact ih _ upheld' run other inside

/-- An event folded without an error is in the ledger, unless it could not be decoded. -/
theorem apply_holds {lib : Libraries} {handle : Handle} {publish : Nat → Bool}
    {account : Address} {event : WsEvent dec} {nowMs : Nat} {session reached : FeedSession}
    {store after : Store} {action : Action} (upheld : Upheld lib handle store)
    (folded : apply lib dec handle publish account.display event nowMs session store =
      (.ok action, reached, after)) (decoded : event.isUndecoded = false) :
    Holds after.db event := by
  cases event with
  | userFills user isSnapshot fills =>
      have named : (if user.display = "" then account.display else user.display) = user.display :=
        if_neg user.display_ne_empty
      rw [apply] at folded
      dsimp only at folded
      rw [named] at folded
      cases writes : writeEach (record lib dec handle user.display) fills publish store with
      | mk result middle =>
          rw [writes] at folded
          cases result with
          | error error => cases folded
          | ok done =>
              cases folded
              exact recordEach_holds fills publish upheld writes
  | _ => exact decoded

/-! ## What every state keeps -/

/-- The envelope a task will settle once its event was applied. -/
def Task.serves : Task VenueError → Option Nat
  | .settling index => some index
  | .reconciling held | .reading _ held | .walking _ _ _ held | .reporting _ _ _ held => held
  | _ => none

/-- The stamp of the walk a task is at. -/
def Task.stamp : Task VenueError → Option FeedStamp
  | .reading stamp _ | .walking stamp .. | .reporting stamp .. => some stamp
  | .failing next => next.stamp
  | _ => none

/-- Every gap of an account that is not reconciled is still to be worked or reported, or
counts as outstanding. -/
def Task.Covers (gaps : List GapRow) : Task VenueError → Prop
  | .walking _ todo outcomes _ => ∀ row ∈ gaps, row.reconciledTsMs = none →
      AccountScope VenueError row.scope →
        (∃ gap ∈ todo, gap.gapId = row.gapId ∧ gap.scope = row.scope) ∨
          ∃ outcome ∈ outcomes, outcome.isOutstanding = true
  | .reporting _ outcomes outstanding _ => ∀ row ∈ gaps, row.reconciledTsMs = none →
      AccountScope VenueError row.scope →
        0 < outstanding ∨ ∃ outcome ∈ outcomes, outcome.isOutstanding = true
  | .failing next => next.Covers gaps
  | _ => True

/-- A task covers the rows that are left of the ones it covered. -/
theorem Task.Covers.mono {gaps kept : List GapRow} {task : Task VenueError}
    (rows : ∀ row ∈ kept, ∃ older ∈ gaps, GapRow.Kept older row) (covers : task.Covers gaps) :
    task.Covers kept := by
  induction task with
  | walking stamp todo outcomes held =>
      intro row member unreconciled scope
      obtain ⟨older, inside, same⟩ := rows row member
      rw [same.gapId, same.scope]
      refine covers older inside ?_ (same.scope ▸ scope)
      by_contra reconciled
      exact same.reconciled reconciled unreconciled
  | reporting stamp outcomes outstanding held =>
      intro row member unreconciled scope
      obtain ⟨older, inside, same⟩ := rows row member
      refine covers older inside ?_ (same.scope ▸ scope)
      by_contra reconciled
      exact same.reconciled reconciled unreconciled
  | failing next ih => exact ih covers
  | _ => trivial

/-- A walk that has worked one gap covers what it covered before, the outcome of that gap
included. -/
theorem Task.covers_worked {gaps : List GapRow} {stamp : FeedStamp} {todo : List Gap}
    {outcomes : List (GapOutcome VenueError)} {held : Option Nat}
    (covers : (Task.walking stamp todo outcomes held).Covers gaps) :
    (Task.worked stamp outcomes held todo).Covers gaps := by
  cases todo with
  | nil =>
      intro row member unreconciled scope
      rcases covers row member unreconciled scope with ⟨_, inside, _⟩ | outstanding
      · cases inside
      · exact .inr outstanding
  | cons gap rest => exact covers

/-- Working a gap changes neither the walk's stamp nor the frame it was started for. -/
theorem Task.serves_worked (stamp : FeedStamp) (todo : List Gap)
    (outcomes : List (GapOutcome VenueError)) (held : Option Nat) :
    (Task.worked stamp outcomes held todo).serves = held := by
  cases todo with
  | nil => rfl
  | cons => rfl

/-- A resumed pump serves the frame it was holding. -/
theorem Task.serves_resume (held : Option Nat) :
    (Task.resume held : Task VenueError).serves = held := by
  cases held with
  | none => rfl
  | some => rfl

/-- The walk at startup serves no frame. -/
theorem Task.serves_startup (scopes : List String) :
    (Task.startup scopes : Task VenueError).serves = none := by
  cases scopes with
  | nil => rfl
  | cons => rfl

/-- What every state keeps: a sound ledger and channels that keep their books; readiness never
with a failure; what was acknowledged, and what the task is about to acknowledge, is in the
ledger; and no gap is overlooked. -/
structure Sane (reconciler : Reconciler) (pump : Pump source) : Prop where
  upheld : Upheld reconciler.lib reconciler.handle pump.store
  booked : ∀ channel, Booked (pump.channels channel)
  sound : pump.session.reconciled = true → pump.session.failure = none
  consumed : ∀ channel, ∀ envelope ∈ (pump.channels channel).envelopes,
    envelope.IsAcknowledged → envelope.event.isUndecoded = false →
      Holds pump.store.db envelope.event
  served : pump.session.failure = none → ∀ index ∈ pump.task.serves,
    ∃ envelope, (pump.channels pump.channel).envelopes[index]? = some envelope ∧
      (envelope.event.isUndecoded = false → Holds pump.store.db envelope.event)
  covers : pump.task.Covers pump.store.db.feedGaps

/-- The pump as it is built agrees with an upheld store: it has taken nothing and walks nothing. -/
theorem Sane.start {store : Store} (upheld : Upheld reconciler.lib reconciler.handle store)
    (venue : source.State) : Sane reconciler (Pump.start source store venue) where
  upheld := upheld
  booked _ := .start
  sound := nofun
  consumed _ _ member := absurd member List.not_mem_nil
  served _ := nofun
  covers := trivial

/-- The work list covers every gap that is not reconciled. -/
theorem covers_workList {db : Db} {gaps : List Gap} (listed : unreconciledGaps db = .ok gaps)
    (stamp : FeedStamp) (held : Option Nat) :
    (Task.walking stamp gaps ([] : List (GapOutcome VenueError)) held).Covers db.feedGaps := by
  intro row member unreconciled _
  obtain ⟨gap, found, read⟩ := forall₂_left_of_right (mapM_ok_iff.mp listed).flip
    (List.mem_filter.mpr ⟨member, decide_eq_true unreconciled⟩)
  obtain ⟨_, _, read⟩ := bind_eq_ok read
  obtain ⟨_, _, read⟩ := bind_eq_ok read
  cases read
  exact .inl ⟨_, found, rfl, rfl⟩

/-- Working a gap leaves the others covered, and itself unless it is outstanding. -/
theorem covers_workGap {gap : Gap} {todo : List Gap} {outcomes : List (GapOutcome VenueError)}
    {outcome : GapOutcome VenueError} {stamp : FeedStamp} {held : Option Nat}
    {store reached : Store}
    (upheld : Upheld reconciler.lib reconciler.handle store)
    (worked : Worked reconciler dec gap store reached outcome)
    (covers : (Task.walking stamp (gap :: todo) outcomes held).Covers store.db.feedGaps) :
    (Task.walking stamp todo (outcomes ++ [outcome]) held).Covers reached.db.feedGaps := by
  obtain ⟨acts, run, opens⟩ := worked.opensNone
  have kept := covers.mono (upheld.rows_kept run opens)
  intro row member unreconciled scope
  cases outstanding : outcome.isOutstanding with
  | true => exact .inr ⟨outcome, List.mem_append_right _ (List.mem_singleton_self _), outstanding⟩
  | false =>
      rcases kept row member unreconciled scope with
        ⟨listed, inside, same⟩ | ⟨other, inside, isOpen⟩
      · rcases List.mem_cons.mp inside with rfl | later
        · rcases worked.closed outstanding with ⟨other, parsed⟩ | marked
          · rw [same.2] at parsed
            exact absurd parsed (scope other)
          · exact absurd unreconciled (marked row member same.1.symm)
        · exact .inl ⟨listed, later, same⟩
      · exact .inr ⟨other, List.mem_append_left _ inside, isOpen⟩

/-- Reporting an outcome counts it if it is outstanding. -/
theorem covers_reported {gaps : List GapRow} {stamp : FeedStamp} {outcome : GapOutcome VenueError}
    {rest : List (GapOutcome VenueError)} {outstanding : Nat} {held : Option Nat}
    (covers : (Task.reporting stamp (outcome :: rest) outstanding held).Covers gaps) :
    (Pump.reported stamp outcome rest outstanding held).Covers gaps := by
  have next : (Task.reporting stamp rest
      (if outcome.isOutstanding then outstanding + 1 else outstanding) held).Covers gaps := by
    intro row member unreconciled scope
    rcases covers row member unreconciled scope with nonempty | ⟨other, inside, isOpen⟩
    · left
      split
      · exact Nat.succ_pos _
      · exact nonempty
    · rcases List.mem_cons.mp inside with rfl | later
      · left
        rw [if_pos isOpen]
        exact Nat.succ_pos _
      · exact .inr ⟨other, later, isOpen⟩
  unfold Pump.reported
  dsimp only
  split
  · exact next
  · exact next

/-- A step keeps every gap covered. -/
theorem Sane.covers_step (sane : Sane reconciler before)
    (step : PumpStep reconciler account before act after) :
    after.task.Covers after.store.db.feedGaps := by
  have covers := sane.covers
  cases step with
  | ingress | bind | bindIngress | bindLedger | recordFailure | unreconciled | venue =>
      exact covers
  | call opens step =>
      refine covers.mono (sane.upheld.rows_kept (.single
        (show LedgerStep _ _ _ _ (.call _) _ from step)) fun act member => ?_)
      rw [List.mem_singleton.mp member]
      exact opens
  | begin =>
      dsimp only
      split
      · trivial
      · trivial
  | catchUp => exact trivial
  | @startUp scope scopes publish atMs here =>
      have startup : (Task.startup scopes : Task VenueError).Covers
          (startWindow reconciler.lib reconciler.handle publish scope atMs
            before.store).2.db.feedGaps := by
        cases scopes with
        | nil => trivial
        | cons => trivial
      dsimp only
      unfold Task.after
      split
      · exact startup
      · exact startup
  | readGaps here =>
      dsimp only
      split
      · rename_i held _ _ _
        cases held with
        | none => trivial
        | some => trivial
      · rename_i gaps listed
        exact Task.covers_worked (covers_workList listed _ _)
  | workGap here worked =>
      rw [here] at covers
      exact Task.covers_worked (covers_workGap sane.upheld (workGap_worked [] worked) covers)
  | report here =>
      rw [here] at covers
      exact covers_reported covers
  | @finish stamp outstanding atMs held here =>
      cases held with
      | none => trivial
      | some => trivial
  | @apply index envelope publish draining result session store here held folded =>
      dsimp only
      unfold Pump.applied
      split
      · trivial
      · trivial
      · split
        · trivial
        · trivial
  | fail here =>
      rw [here] at covers
      exact covers
  | _ => trivial

/-- A failure stays. -/
theorem PumpStep.failure (step : PumpStep reconciler account before act after)
    (failed : before.session.failure ≠ none) : after.session.failure ≠ none := by
  by_cases finishes : ∃ atMs, act = .finish atMs
  · obtain ⟨atMs, rfl⟩ := finishes
    cases step with
    | finish => exact fun none => failed ((finished_session before _ _ _).2.1.symm.trans none)
  · push Not at finishes
    exact (step.session finishes).1.failure failed

/-- What the task serves was served before, or it was applied just now. -/
theorem PumpStep.serves (sane : Sane reconciler before)
    (step : PumpStep reconciler account before act after) {index : Nat}
    (serves : after.task.serves = some index) (sound : after.session.failure = none) :
    (before.task.serves = some index ∧ after.channel = before.channel) ∨
      ∃ envelope, (after.channels after.channel).envelopes[index]? = some envelope ∧
        (envelope.event.isUndecoded = false → Holds after.store.db envelope.event) := by
  cases step with
  | ingress | bind | bindIngress | bindLedger | recordFailure | unreconciled | venue | call =>
      exact .inl ⟨serves, rfl⟩
  | begin =>
      dsimp only at serves
      split at serves
      · cases serves
      · cases serves
  | catchUp => cases serves
  | @startUp scope scopes =>
      have none := @Task.serves_startup VenueError scopes
      dsimp only at serves
      unfold Task.after at serves
      split at serves
      · rw [none] at serves
        cases serves
      · cases serves
  | startWalk here => exact .inl ⟨(congrArg Task.serves here).trans serves, rfl⟩
  | readGaps here =>
      dsimp only at serves
      split at serves
      · cases serves
      · rw [Task.serves_worked] at serves
        exact .inl ⟨(congrArg Task.serves here).trans serves, rfl⟩
  | workGap here worked =>
      rw [Task.serves_worked] at serves
      exact .inl ⟨(congrArg Task.serves here).trans serves, rfl⟩
  | report here =>
      dsimp only at serves
      unfold Pump.reported at serves
      dsimp only at serves
      split at serves
      · cases serves
      · exact .inl ⟨(congrArg Task.serves here).trans serves, rfl⟩
  | finish here =>
      rw [Task.serves_resume] at serves
      exact .inl ⟨(congrArg Task.serves here).trans serves, rfl⟩
  | @apply index' envelope publish draining result session store here held folded =>
      cases result with
      | error error => cases serves
      | ok action =>
          have same : index' = index := by
            cases action with
            | none => exact Option.some.inj serves
            | reconcile =>
                cases draining with
                | true => exact Option.some.inj serves
                | false => exact Option.some.inj serves
          subst same
          exact .inr ⟨envelope, held, apply_holds sane.upheld folded⟩
  | @fail next detail here =>
      rw [FeedSession.recordFailure] at sound
      cases held : before.session.failure with
      | none =>
          rw [held] at sound
          cases sound
      | some first =>
          rw [held] at sound
          cases sound
  | _ => cases serves

/-- **Every step keeps it.** -/
theorem Sane.step (sane : Sane reconciler before)
    (step : PumpStep reconciler account before act after) : Sane reconciler after := by
  obtain ⟨acts, ran⟩ := step.ledger
  obtain ⟨upheld, evolves⟩ := sane.upheld.run ran
  have unfailed (sound : after.session.failure = none) : before.session.failure = none := by
    by_contra failed
    exact step.failure failed sound
  refine ⟨upheld, fun channel => ?_, fun ready => ?_,
    fun channel envelope member acked decoded => ?_,
    fun sound index serves => ?_, sane.covers_step step⟩
  · rcases step.channel_cases channel with same | ⟨_, moved, _⟩
    · rw [same]
      exact sane.booked channel
    · exact (sane.booked channel).step moved
  · by_cases finishes : ∃ atMs, act = .finish atMs
    · obtain ⟨atMs, rfl⟩ := finishes
      cases step with
      | @finish stamp outstanding _ _ here =>
          obtain ⟨_, failure, finished⟩ := finished_session before stamp outstanding atMs
          rcases finished ready with earlier | ⟨_, _, none⟩
          · exact failure.trans (sane.sound earlier)
          · exact failure.trans none
    · push Not at finishes
      obtain ⟨earlier, _, failure⟩ := (step.session finishes).1.kept ready
      exact failure.trans (sane.sound earlier)
  · rcases step.channel_cases channel with same | ⟨act', moved, acks⟩
    · rw [same] at member
      exact (sane.consumed channel envelope member acked decoded).evolves evolves
    · rcases moved.acknowledged member acked with
        ⟨older, inside, same, acked'⟩ | ⟨index, older, rfl, held, same⟩
      · rw [← same] at decoded ⊢
        exact (sane.consumed channel older inside acked' decoded).evolves evolves
      · obtain ⟨rfl, here, sound⟩ := acks index rfl
        have unfailed : before.session.failure = none := (Option.or_eq_none_iff.mp sound).1
        obtain ⟨envelope', held', holds⟩ := sane.served unfailed index
          (by rw [here]; rfl)
        obtain rfl := Option.some.inj (held.symm.trans held')
        rw [← same] at decoded ⊢
        exact (holds decoded).evolves evolves
  · rcases step.serves sane serves sound with ⟨served, same⟩ | applied
    · obtain ⟨envelope, held, holds⟩ := sane.served (unfailed sound) index served
      rw [same]
      rcases step.channel_cases before.channel with kept | ⟨_, moved, _⟩
      · rw [kept]
        exact ⟨envelope, held, fun decoded => (holds decoded).evolves evolves⟩
      · obtain ⟨later, held', event⟩ := moved.event_at held
        refine ⟨later, held', fun decoded => ?_⟩
        rw [event] at decoded ⊢
        exact (holds decoded).evolves evolves
    · exact applied

/-! ## Runs -/

/-- The epoch of the session never falls over a run of the pump. -/
theorem epoch_of_run {acts : List (PumpAct dec)}
    (run : Run (PumpStep reconciler account) before acts after) :
    before.session.epoch ≤ after.session.epoch := by
  refine run.relates (fun before after => before.session.epoch ≤ after.session.epoch)
    (fun _ => le_rfl) (fun _ _ _ => le_trans) fun before act after step => ?_
  by_cases finishes : ∃ atMs, act = .finish atMs
  · obtain ⟨atMs, rfl⟩ := finishes
    cases step with
    | finish => exact (finished_session _ _ _ _).1.symm.le
  · push Not at finishes
    exact (step.session finishes).1.epoch

/-- A run that ends in the epoch it began in disturbed nothing. -/
theorem quiet_of_epoch {acts : List (PumpAct dec)}
    (run : Run (PumpStep reconciler account) before acts after)
    (same : after.session.epoch = before.session.epoch) :
    Run (QuietStep reconciler account) before acts after := by
  induction run with
  | nil => exact .nil
  | @snoc acts middle last act prior step ih =>
      have earlier := epoch_of_run prior
      have later := epoch_of_run (.single step)
      refine .snoc (ih (by omega)) ⟨step, fun disturbs => ?_⟩
      have advanced : middle.session.epoch < last.session.epoch := by
        refine (step.session ?_).2 disturbs
        rintro atMs rfl
        exact disturbs
      omega

/-- The walk a task is at began in this run. -/
structure Walking (reconciler : Reconciler) (account : Address) (first : Pump source)
    (acts : List (PumpAct dec)) (stamp : FeedStamp) (pump : Pump source) : Prop where
  intro ::
  walk : ∃ earlier walked before begun, acts = earlier ++ .startWalk :: walked ∧
    Run (PumpStep reconciler account) first earlier before ∧
    PumpStep reconciler account before .startWalk begun ∧
    Run (PumpStep reconciler account) begun walked pump ∧
    stamp = begun.session.stamp begun.monitors

/-- The walk that set readiness is of the epoch the run ends in. -/
structure Ready (reconciler : Reconciler) (account : Address) (first : Pump source)
    (acts : List (PumpAct dec)) (pump : Pump source) : Prop where
  intro ::
  walk : ∃ earlier walked later before begun finishing finished atMs,
    acts = earlier ++ .startWalk :: (walked ++ .finish atMs :: later) ∧
    Run (PumpStep reconciler account) first earlier before ∧
    PumpStep reconciler account before .startWalk begun ∧
    Run (PumpStep reconciler account) begun walked finishing ∧ finishing.GapsReconciled ∧
    PumpStep reconciler account finishing (.finish atMs) finished ∧
    Run (PumpStep reconciler account) finished later pump ∧
    pump.session.epoch = begun.session.epoch

/-- A task that is at a walk after a step was at it before, or began it now. -/
theorem PumpStep.stamp (step : PumpStep reconciler account before act after) {stamp : FeedStamp}
    (walking : after.task.stamp = some stamp) :
    before.task.stamp = some stamp ∨
      act = .startWalk ∧ stamp = after.session.stamp after.monitors := by
  cases step with
  | ingress | bind | bindIngress | bindLedger | recordFailure | unreconciled | venue | call =>
      exact .inl walking
  | begin =>
      dsimp only at walking
      split at walking
      · cases walking
      · cases walking
  | catchUp => cases walking
  | @startUp scope scopes =>
      have none : (Task.startup scopes : Task VenueError).stamp = none := by
        cases scopes with
        | nil => rfl
        | cons => rfl
      dsimp only at walking
      unfold Task.after at walking
      split at walking
      · rw [none] at walking
        cases walking
      · rw [Task.stamp, none] at walking
        cases walking
  | startWalk here =>
      cases walking
      exact .inr ⟨rfl, rfl⟩
  | @readGaps stamp held here =>
      have resumed : (Task.resume held : Task VenueError).stamp = none := by
        cases held with
        | none => rfl
        | some => rfl
      dsimp only at walking
      split at walking
      · rw [Task.stamp, resumed] at walking
        cases walking
      · rename_i gaps _
        rw [here]
        cases gaps with
        | nil => exact .inl walking
        | cons => exact .inl walking
  | @workGap stamp gap todo outcomes held around outcome venue store here worked =>
      rw [here]
      cases todo with
      | nil => exact .inl walking
      | cons => exact .inl walking
  | report here =>
      rw [here]
      dsimp only at walking
      unfold Pump.reported at walking
      dsimp only at walking
      split at walking
      · exact .inl walking
      · exact .inl walking
  | @finish stamp outstanding atMs held here =>
      cases held with
      | none => cases walking
      | some => cases walking
  | @apply index envelope publish draining result session store here held folded =>
      dsimp only at walking
      unfold Pump.applied at walking
      split at walking
      · cases walking
      · cases walking
      · split at walking
        · cases walking
        · cases walking
  | fail here =>
      rw [here]
      exact .inl walking
  | _ => cases walking

/-- **What led to every state**: the walk its task is at, and the walk that set readiness. -/
theorem history_of_run {first pump : Pump source} {acts : List (PumpAct dec)}
    (sane : Sane reconciler first) (idle : first.task.stamp = none)
    (unready : first.session.reconciled = false)
    (run : Run (PumpStep reconciler account) first acts pump) : Sane reconciler pump ∧
      (∀ stamp, pump.task.stamp = some stamp → Walking reconciler account first acts stamp pump) ∧
      (pump.session.reconciled = true → Ready reconciler account first acts pump) := by
  refine run.history (fun acts pump => Sane reconciler pump ∧
      (∀ stamp, pump.task.stamp = some stamp → Walking reconciler account first acts stamp pump) ∧
      (pump.session.reconciled = true → Ready reconciler account first acts pump)) ?_ ?_
  · refine ⟨sane, fun stamp walking => ?_, fun ready => ?_⟩
    · rw [idle] at walking
      cases walking
    · rw [unready] at ready
      cases ready
  · rintro acts before act after prior ⟨sane, walking, ready⟩ step
    refine ⟨sane.step step, fun stamp walks => ?_, fun set => ?_⟩
    · rcases step.stamp walks with earlier | ⟨rfl, same⟩
      · obtain ⟨before', walked, started, begun, rfl, run, start, since, same⟩ :=
          walking stamp earlier
        refine ⟨before', walked ++ [act], started, begun, ?_, run, start, .snoc since step, same⟩
        rw [List.append_assoc, List.cons_append]
      · exact ⟨acts, [], before, after, rfl, prior, step, .nil, same⟩
    · by_cases kept : before.session.reconciled = true ∧
        after.session.epoch = before.session.epoch
      · obtain ⟨earlier, walked, later, started, begun, finishing, finished, atMs, rfl, run, start,
          walk, closed, finish, since, epoch⟩ := ready kept.1
        refine ⟨earlier, walked, later ++ [act], started, begun, finishing, finished, atMs, ?_, run,
          start, walk, closed, finish, .snoc since step, kept.2.trans epoch⟩
        simp only [List.append_assoc, List.cons_append]
      · by_cases finishes : ∃ atMs, act = .finish atMs
        · obtain ⟨atMs, rfl⟩ := finishes
          have here := step
          cases here with
          | @finish stamp outstanding _ held here =>
              obtain ⟨epoch, _, finished⟩ := finished_session before stamp outstanding atMs
              rcases finished set with earlier | ⟨none, current, _⟩
              · exact absurd ⟨earlier, epoch⟩ kept
              · subst none
                have covers := sane.covers
                rw [here] at covers
                obtain ⟨earlier, walked, started, begun, rfl, run, start, since, same⟩ :=
                  walking stamp (by rw [here]; rfl)
                have begins : before.session.epoch = begun.session.epoch :=
                  congrArg FeedStamp.epoch (current.symm.trans same)
                refine ⟨earlier, walked, [], started, begun, before, _, atMs, ?_, run, start, since,
                  fun row member scope unreconciled => ?_, step, .nil, epoch.trans begins⟩
                · simp only [List.append_assoc, List.cons_append]
                · rcases covers row member unreconciled scope with nonempty | ⟨_, inside, _⟩
                  · exact absurd nonempty (lt_irrefl 0)
                  · cases inside
        · push Not at finishes
          obtain ⟨earlier, epoch, _⟩ := (step.session finishes).1.kept set
          exact absurd ⟨earlier, epoch⟩ kept

/-- A session that is ready was set so by one walk of the run, whose gaps and whose stamp are those
of the ready state. -/
theorem Ready.setBy {first pump : Pump source} {acts : List (PumpAct dec)}
    (ready : Ready reconciler account first acts pump) :
    ∃ begun, SetBy reconciler account first acts begun pump := by
  obtain ⟨earlier, walked, later, started, begun, finishing, finished, atMs, same, run, start, walk,
    closed, finish, since, epoch⟩ := ready.walk
  have initial := epoch_of_run walk
  have second := epoch_of_run (.single finish)
  have third := epoch_of_run since
  exact ⟨begun, earlier, walked, later, started, finishing, finished, atMs, same, run, start,
    quiet_of_epoch walk (by omega), closed, finish, quiet_of_epoch since (by omega)⟩

/-- What a ready session says of its channel: every account envelope was consumed. -/
theorem Sane.consumed_of_ready {pump : Pump source} (sane : Sane reconciler pump)
    (ready : pump.ready = true) : ∃ channel, pump.session.ingress = some channel ∧
      ∀ envelope ∈ (pump.channels channel).envelopes, envelope.event.isAccount = true →
        envelope.place = .settled true := by
  obtain ⟨_, drained⟩ := (Bool.and_eq_true _ _).mp ready
  unfold FeedSession.drained at drained
  cases bound : pump.session.ingress with
  | none =>
      rw [bound] at drained
      cases drained
  | some channel =>
      rw [bound, Option.any_some, Bool.and_eq_true, Bool.and_eq_true, decide_eq_true_eq] at drained
      obtain ⟨⟨pending, sound⟩, _⟩ := drained
      refine ⟨channel, rfl, fun envelope member account => ?_⟩
      refine (sane.booked channel).acknowledged ?_ member ?_
      · exact (Bool.not_eq_true' _).mp sound
      · have counted : (pump.channels channel).envelopes.countP Envelope.isPending = 0 :=
          (sane.booked channel).pending.symm.trans pending
        have settled := List.countP_eq_zero.mp counted envelope member
        rwa [Envelope.isPending, account, Bool.true_and, Bool.not_eq_true] at settled

/-- A frame of the account is an event of the account. -/
theorem isAccount_of_isAccountFrame {event : WsEvent dec} (frame : event.isAccountFrame = true) :
    event.isAccount = true := by
  cases event with
  | userFills | orderUpdates | messageDropped => rfl
  | _ => cases frame

end Readiness

namespace UndecodedFill

def lib : Libraries := .reference checksum

def account : Address := .filled 0

def reconciler : Reconciler := ⟨lib, ⟨.testnet, false⟩, 0, .default⟩

/-- A venue without fills. -/
def source : ReconcileSource Quotients.reference Empty :=
  FakeVenue.source ⟨.testnet, fun _ => [], [], fun _ => none, 2000⟩ Empty

/-- A pump over a new file. -/
def first : Pump source := .start source (Ledger.opened lib reconciler.handle) []

/-- A pump that begins, finds no gap and is ready. -/
def toReady : List (PumpAct Quotients.reference) :=
  [.build, .begin 0, .skipStartup, .retry] ++ .startWalk :: ([.readGaps] ++ .finish 5 :: [])

def session : FeedSession where
  epoch := 3
  ingress := some 0
  scope := some (.testnet, account)
  lastTickMs := some 5
  reconciled := true
  failure := none
  initialFillWalk := none
  ledgerIdentity := some 0

/-- The pump at a task, before anything was sent. -/
def stage (session : FeedSession) (task : Task Empty) : Pump source :=
  { first with session := session, task := task }

def ready : Pump source := stage session .idle

/-- The session before its walk is through. -/
def unready (epoch : Nat) (ingress : Option Nat) : FeedSession :=
  { session with epoch := epoch, ingress := ingress, lastTickMs := none, reconciled := false }

def stamp : FeedStamp := ⟨3, some ⟨0, 0⟩⟩

/-- The pump is built, begins its first connection and skips the startup walk, since the ledger
holds no open gap. -/
theorem listening_run : Run (PumpStep reconciler account) first
    [.build, .begin 0, .skipStartup, .retry] (stage (unready 2 (some 0)) (.reconciling none)) :=
  have built : PumpStep reconciler account first .build (stage (unready 1 none) .built) :=
    .build rfl rfl rfl
  have begun : PumpStep reconciler account (stage (unready 1 none) .built) (.begin 0)
    (stage (unready 2 (some 0)) .starting) := .begin rfl
  have skipped : PumpStep reconciler account (stage (unready 2 (some 0)) .starting) .skipStartup
    (stage (unready 2 (some 0)) .idle) := .skipStartup rfl
  .snoc (.snoc (.snoc (.single built) begun) skipped) (.retry rfl rfl)

/-- The shortest run after which the pump says it is ready. -/
theorem ready_run : Run (PumpStep reconciler account) first toReady ready :=
  have walk : PumpStep reconciler account
    (stage (unready 2 (some 0)) (.reconciling none)) .startWalk
    (stage (unready 3 (some 0)) (.reading stamp none)) := .startWalk rfl
  have listed : PumpStep reconciler account (stage (unready 3 (some 0)) (.reading stamp none))
    .readGaps (stage (unready 3 (some 0)) (.reporting stamp [] 0 none)) := .readGaps rfl
  have finished : PumpStep reconciler account
      (stage (unready 3 (some 0)) (.reporting stamp [] 0 none)) (.finish 5) ready :=
    @PumpStep.finish _ _ _ _ _ (stage (unready 3 (some 0)) (.reporting stamp [] 0 none)) stamp 0 5
      none rfl
  .snoc (.snoc (.snoc listening_run walk) listed) finished

section Frames

variable (frame : WsEvent Quotients.reference)

/-- A frame arrives and is consumed. -/
def toConsumed : List (PumpAct Quotients.reference) :=
  [.ingress 0 (.send frame 6), .ingress 0 (.proceed 0), .ingress 0 (.poll 0), .receive 0,
    .apply frame (fun _ => true) false, .settle true, .ingress 0 (.settle 0 true)]

/-- The envelope of the frame. -/
def envelope (place : Place) : Envelope Quotients.reference := ⟨frame, 6, place⟩

/-- The channel with the frame in a place. -/
def holding (monitor : Monitor) (place : Place) : Ingress Quotients.reference :=
  { Ingress.new Quotients.reference with
    monitor := monitor, envelopes := [envelope frame place] }

def waiting : Monitor := ⟨1, 1, 1, false, false, 0, false⟩

def settled : Monitor := ⟨1, 0, 0, false, false, 0, false⟩

/-- A pump at a task, with its channel. -/
def hearing (pump : Pump source) (channel : Ingress Quotients.reference) (task : Task Empty) :
    Pump source :=
  { pump.moveChannel 0 channel with task := task }

/-- The ready pump after the frame was folded in. -/
def folded (session : FeedSession) (store : Store) : Pump source :=
  { ready with session := session, store := store }

variable {pump : Pump source} {channel moved : Ingress Quotients.reference} {frame}

/-- The hearing pump with its channel and its task replaced is what the steps below compute. -/
theorem moveChannel_hearing (task next : Task Empty) :
    { (hearing pump channel task).moveChannel 0 moved with task := next } =
      hearing pump moved next := by
  simp only [hearing, Pump.moveChannel, Function.update_idem]

/-- A step of a producer. -/
theorem hears {act : Act Quotients.reference} {task : Task Empty}
    (producer : act.isConsumer = false) (step : IngressStep channel act moved) :
    PumpStep reconciler account (hearing pump channel task) (.ingress 0 act)
      (hearing pump moved task) := by
  have moves : { (hearing pump channel task).moveChannel 0 moved with task := task } =
      hearing pump moved task := moveChannel_hearing task task
  rw [← moves]
  exact @PumpStep.ingress _ _ _ _ _ (hearing pump channel task) 0 act moved producer step

/-- A frame of the account is sent, passes the monitor and waits in the pump's channel. -/
theorem queued_run (counts : frame.isAccount = true) : Run (PumpStep reconciler account) ready
    [.ingress 0 (.send frame 6), .ingress 0 (.proceed 0), .ingress 0 (.poll 0)]
    (hearing ready (holding frame waiting .queued) .idle) := by
  have sends : IngressStep (Ingress.new Quotients.reference) (.send frame 6)
      (holding frame waiting .waiting) := by
    have step := @IngressStep.send _ (Ingress.new Quotients.reference) frame 6 Nat.one_pos rfl
    rw [counts] at step
    exact step
  have sent : PumpStep reconciler account ready (.ingress 0 (.send frame 6))
    (hearing ready (holding frame waiting .waiting) .idle) := .ingress rfl sends
  have proceeds : IngressStep (holding frame waiting .waiting) (.proceed 0)
      (holding frame waiting .sending) :=
    @IngressStep.proceed _ _ 0 (envelope frame .waiting) ⟨rfl, rfl⟩ rfl
  have polled : IngressStep (holding frame waiting .sending) (.poll 0)
      (holding frame waiting .queued) :=
    @IngressStep.poll _ _ 0 (envelope frame .sending) ⟨rfl, rfl⟩ rfl rfl
  exact .snoc (.snoc (.single sent) (hears rfl proceeds)) (hears rfl polled)

/-- A frame is consumed once it is folded in. -/
theorem consumed_run (counts : frame.isAccount = true) {session : FeedSession} {store : Store}
    (bound : session.ingress = some 0) (sound : session.failure = none)
    (applies : Feed.apply lib Quotients.reference reconciler.handle (fun _ => true) account.display
      frame 6 ready.session ready.store = (.ok .none, session, store)) :
    Run (PumpStep reconciler account) ready (toConsumed frame)
      (hearing (folded session store) (holding frame settled (.settled true)) .idle) := by
  have receives : IngressStep (holding frame waiting .queued) (.recv 0)
      (holding frame waiting .received) :=
    @IngressStep.recv _ _ 0 (envelope frame .queued) ⟨rfl, rfl⟩ rfl
  have received : PumpStep reconciler account (hearing ready (holding frame waiting .queued) .idle)
      (.receive 0) (hearing ready (holding frame waiting .received) (.holding 0)) := by
    rw [← moveChannel_hearing .idle (.holding 0)]
    exact @PumpStep.receive _ _ _ _ _ (hearing ready (holding frame waiting .queued) .idle) 0 _ rfl
      receives
  have applied : PumpStep reconciler account
      (hearing ready (holding frame waiting .received) (.holding 0))
      (.apply frame (fun _ => true) false)
      (hearing (folded session store) (holding frame waiting .received) (.settling 0)) :=
    @PumpStep.apply _ _ _ _ _ (hearing ready (holding frame waiting .received) (.holding 0)) 0
      (envelope frame .received) _ _ _ _ _ rfl rfl applies
  have acknowledges : IngressStep (holding frame waiting .received) (.acknowledge 0)
      (holding frame waiting (.settling true)) :=
    @IngressStep.acknowledge _ _ 0 (envelope frame .received) ⟨rfl, rfl⟩
  have acknowledged : PumpStep reconciler account
      (hearing (folded session store) (holding frame waiting .received) (.settling 0))
      (.settle true)
      (hearing (folded session store) (holding frame waiting (.settling true)) .idle) := by
    rw [← moveChannel_hearing (.settling 0) .idle]
    refine @PumpStep.acknowledge _ _ _ _ _
      (hearing (folded session store) (holding frame waiting .received) (.settling 0)) 0 _ rfl ?_
      acknowledges
    change session.failure.or (session.ingress.bind _) = none
    rw [sound, bound]
    rfl
  have settles : IngressStep (holding frame waiting (.settling true)) (.settle 0 true)
      (holding frame settled (.settled true)) := by
    have step := @IngressStep.settle _ (holding frame waiting (.settling true)) 0
      (envelope frame (.settling true)) true ⟨rfl, rfl⟩ rfl
    change IngressStep _ _ { (holding frame waiting (.settling true)).move 0
      (envelope frame (.settling true)) (.settled true) with
        monitor := waiting.settle frame.isAccount true } at step
    rw [counts] at step
    exact step
  exact .snoc (.snoc (.snoc (.snoc (queued_run counts) received) applied) acknowledged)
    (hears rfl settles)

/-- The only walk began before the frame was sent. -/
theorem receivedSince_consumed {begun : Pump source}
    (sets : SetBy reconciler account first (toReady ++ toConsumed frame) begun pump)
    (holds : pump.channels 0 = holding frame settled (.settled true)) :
    pump.receivedSince begun 0 = [envelope frame (.settled true)] := by
  obtain ⟨earlier, walked, later, before, finishing, finished, atMs, same, run, start, _⟩ := sets
  have split : [.build, .begin 0, .skipStartup, .retry] = earlier := by
    refine ((List.append_cons_inj_of_notMem ?_ ?_).mp
      ((List.append_assoc _ _ (toConsumed frame)).symm.trans same)).1
    · simp
    · simp [toConsumed]
  have none : (begun.channels 0).envelopes = [] := by
    have sent := sentOn_of_run (run.snoc start) 0
    rw [← split] at sent
    exact List.map_eq_nil_iff.mp sent
  rw [Pump.receivedSince, none, holds]
  rfl

end Frames

/-- A frame with a fill of the account. -/
def fill : Fill Quotients.reference where
  coin := "BTC"
  px := ⟨10, 0⟩
  sz := ⟨1, 0⟩
  side := .buy
  time := 4
  startPosition := ⟨0, 0⟩
  dir := "Open Long"
  closedPnl := ⟨0, 0⟩
  hash := "0x"
  oid := 1
  crossed := true
  fee := ⟨0, 0⟩
  feeToken := "USDC"
  builderFee := none
  tid := 1
  cloid := none

def fills : WsEvent Quotients.reference := .userFills account true [fill]

/-- What folding it in makes of the session and the ledger. -/
def folding : Ledger.Result Action × FeedSession × Store :=
  Feed.apply lib Quotients.reference reconciler.handle (fun _ => true) account.display fills 6
    ready.session ready.store

/-- The fold of the sample's frame into the ledger is not refused. -/
theorem folding_ok : folding.1.toOption = some .none := by decide +kernel

/-- The pump once the fill was consumed. -/
def current : Pump source :=
  hearing (folded folding.2.1 folding.2.2) (holding fills settled (.settled true)) .idle

/-- The run of the witness: the pump becomes ready, then a frame of fills arrives, is folded and is
acknowledged. -/
theorem current_run :
    Run (PumpStep reconciler account) first (toReady ++ toConsumed fills) current := by
  have applies : folding = (.ok .none, folding.2.1, folding.2.2) :=
    Prod.ext (eq_ok_of_some folding_ok) rfl
  exact ready_run.append (consumed_run rfl rfl rfl applies)

/-- A frame of fills that does not parse. -/
def frame : WsEvent Quotients.reference :=
  .messageDropped 0 "userFills" (FrameError.parse "userFills" "missing field tid").text

/-- The pump once that frame was consumed. -/
def consumed : Pump source :=
  hearing (folded ready.session ready.store) (holding frame settled (.settled true)) .idle

end UndecodedFill

end Oppen.Feed
