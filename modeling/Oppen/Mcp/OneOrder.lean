import Oppen.Mcp.Serial

/-! # Orders follow one another

Every step of the gateways, of the venue and of the other writers keeps the ledger and the calls
in agreement, so along a whole run no two orders of an account are measured against the same
state of it, and a request that may have reached the venue is not resolved as one that cannot
fill.
-/

namespace Oppen.Mcp

open Foundation Oppen.Ledger Oppen.Guardrail

section Answers

variable {Decimal : Type}

/-- An answer that leaves open whether the request reached the venue or what became of it. -/
def HttpAnswer.Inconclusive : HttpAnswer Decimal → Prop
  -- transport
  | .lost => True
  | .whole status body => ¬ (200 ≤ status ∧ status < 300) ∨
      match body with
      | none => True
      | some (.err _) => False
      | some (.ok kind statuses) => kind ≠ .order ∨ statuses.length ≠ 1

/-- An answer that is inconclusive resolves nothing. -/
theorem tracked_inconclusive {answer : HttpAnswer Decimal} (isOpen : answer.Inconclusive) :
    tracked answer.result = none := by
  cases answer with
  | lost => rfl
  | whole status body =>
      by_cases well : 200 ≤ status ∧ status < 300
      · rw [HttpAnswer.result, if_pos well]
        have shape := isOpen.resolve_left (not_not.mpr well)
        cases body with
        | none => rfl
        | some envelope =>
            cases envelope with
            | err message => exact shape.elim
            | ok kind statuses =>
                rcases shape with wrong | count
                · cases kind with
                  | order => exact absurd rfl wrong
                  | cancel | default => rfl
                · cases kind with
                  | order =>
                      match statuses, count with
                      | [], _ => rfl
                      | [status], single => exact absurd rfl single
                      | first :: _ :: _, _ => cases first <;> rfl
                  | cancel | default => rfl
      · rw [HttpAnswer.result, if_neg well]
        rfl

end Answers

section Stepping

variable {lib : Libraries} {dec : Decimals} {handle : Handle}
  {registry : Option (RegistryChecks dec.Decimal)} {replay : Replay}
  {acts : List (TradingAct dec)} {now after : Trading dec.Decimal} {act : TradingAct dec}

/-- The file is read, and its replay agrees with the calls and the venue. -/
structure Ordered (lib : Libraries) (dec : Decimals) (handle : Handle) (replay : Replay)
    (acts : List (TradingAct dec)) (now : Trading dec.Decimal) : Prop where
  tracks : ∃ behind, Tracks lib handle behind now.store
  reserved : Reserved lib dec handle now.store.db replay
  serial : Serial replay acts now

/-- A state read is the replay's. -/
theorem Ordered.account (ordered : Ordered lib dec handle replay acts now) {account : Address}
    {state : SubmissionState}
    (read : accountState lib dec handle registry now.store account = .ok state) :
    replay.accounts account = state := by
  obtain ⟨found, replayed, same⟩ := bind_eq_ok read
  have rows := replayRows_of_replay (replay_of_journalReplay replayed)
  rw [ordered.reserved.read] at rows
  cases rows
  exact Except.ok.inj same

/-- The calls move; the file stays. -/
theorem Ordered.moved (ordered : Ordered lib dec handle replay acts now)
    (store : after.store = now.store) (serial : Serial replay (acts ++ [act]) after) :
    ∃ next, Ordered lib dec handle next (acts ++ [act]) after := by
  refine ⟨replay, ?_, ?_, serial⟩
  · rw [store]
    exact ordered.tracks
  · rw [store]
    exact ordered.reserved

/-- The order the venue knows by the cloid of a reservation is the reservation's. -/
theorem Ordered.known (ordered : Ordered lib dec handle replay acts now)
    {order receipt : SubmissionReceipt} (posted : order ∈ now.posted)
    (started : receipt ∈ replay.starts) (same : order.uses = receipt.uses) :
    receipt ∈ now.posted := by
  have unused := ordered.reserved.sound.unused
  rw [ordered.reserved.sound.used] at unused
  obtain rfl := List.inj_on_of_nodup_map unused (ordered.serial.posted order posted) started same
  exact posted

/-- What reached the venue is not on its way. -/
theorem Serial.grounded (serial : Serial replay acts now) {receipt : SubmissionReceipt}
    (posted : receipt ∈ now.posted) : receipt ∉ now.flying :=
  fun flying => (List.nodup_append.mp serial.once).2.2 receipt flying receipt posted rfl

/-- Nobody sends a request twice. -/
theorem Serial.sent (serial : Serial replay acts now) {receipt : SubmissionReceipt}
    (posted : receipt ∈ now.posted) (other : Nat) : (now.calls other).unsent ≠ some receipt :=
  fun waiting => ((serial.stages other).waiting waiting).2.2.2 posted

/-- A resolution by a call that has moved on. -/
theorem Ordered.resolving (ordered : Ordered lib dec handle replay acts now)
    (serial : Serial replay (acts ++ [act]) after) (publish : Bool) {receipt : SubmissionReceipt}
    {outcome : SubmissionResolution} {atMs : Nat} (grounded : receipt ∉ after.flying)
    (idle : ∀ other, (after.calls other).unsent ≠ some receipt)
    (seen : receipt ∈ after.posted → Settled (acts ++ [act]) receipt)
    (unsent : ∀ detail, outcome = .notSent detail → ∀ id, .dispatch id receipt ∉ acts ++ [act])
    (refused : ∀ message, outcome = .rejected message →
      ∃ id answer, .answer id receipt answer ∈ acts ++ [act] ∧
        tracked answer.result = some (.rejected message)) :
    ∃ next, Ordered lib dec handle next (acts ++ [act])
      { after with
        store := (resolve lib dec handle publish receipt outcome atMs now.store).2 } := by
  obtain ⟨behind, tracks⟩ := ordered.tracks
  have stepped : Step lib dec handle now.store ⟨.resolve receipt outcome atMs, publish⟩
      (resolve lib dec handle publish receipt outcome atMs now.store).2 := rfl
  obtain ⟨behind', tracks', _⟩ := tracks.step stepped
  have sound := ordered.reserved.sound
  rcases resolve_cases ordered.reserved tracks.consistent publish receipt outcome atMs with
    ⟨error, failed⟩ | ⟨_, _, repeated⟩ | ⟨member, unresolved, next, _⟩
  · rw [failed]
    exact ⟨replay, ⟨behind, tracks⟩, ordered.reserved, serial.stored _⟩
  · rw [repeated]
    exact ⟨replay, ⟨behind, tracks⟩, ordered.reserved, serial.stored _⟩
  · have resolved := serial.resolved sound member unresolved grounded idle seen unsent refused
    exact ⟨_, ⟨behind', tracks'⟩, next, resolved.stored _⟩

/-! ## One step -/

/-- **One step.** Whoever moves, the ledger, the calls and the venue agree after it. -/
theorem Ordered.step (ordered : Ordered lib dec handle replay acts now)
    (step : TradingStep lib dec handle registry now act after) :
    ∃ next, Ordered lib dec handle next (acts ++ [act]) after := by
  have serial := ordered.serial
  have sound := ordered.reserved.sound
  cases step with
  | call id gateway account idle =>
      exact ordered.moved rfl (serial.paused rfl rfl rfl trivial rfl nofun nofun nofun)
  | lock id call stage free =>
      exact ordered.moved rfl (serial.paused rfl rfl rfl trivial rfl nofun nofun nofun)
  | vacant id call stage revision read =>
      have vacant : StageSound replay (acts ++ [.vacant id])
          (now.withCall id (.permitted call revision)) id (.permitted call revision) :=
        .inl (ordered.account read)
      exact ordered.moved rfl (serial.paused rfl rfl rfl vacant rfl nofun nofun nofun)
  | busy id call stage revision receipt read =>
      have pending : (replay.accounts call.account).pending = some receipt := by
        rw [ordered.account read]
      obtain ⟨started, owner, _⟩ := (sound.pending _ receipt).mp pending
      exact ordered.moved rfl
        (serial.paused rfl rfl rfl ⟨started, owner⟩ rfl nofun nofun nofun)
  | look id call receipt stage known named same oid status =>
      have held := serial.stages id
      rw [stage] at held
      obtain ⟨started, owner⟩ := held
      obtain ⟨order, posted, uses⟩ := known
      rw [← owner] at uses
      have arrived := ordered.known posted started uses
      have looked : .look id receipt ∈ acts ++ [.look id receipt] :=
        List.mem_append_right _ (List.mem_singleton_self _)
      exact ordered.moved rfl
        (serial.paused rfl rfl rfl ⟨arrived, looked⟩ rfl nofun nofun nofun)
  | observe id call receipt oid status stage publish atMs store resolved =>
      have held := serial.stages id
      rw [stage] at held
      obtain ⟨arrived, looked⟩ := held
      have paused : Serial replay (acts ++ [.observe id]) (now.withCall id (.reviewing call)) :=
        serial.paused rfl rfl rfl trivial rfl nofun nofun nofun
      have stored : store = (resolve lib dec handle publish receipt (.observed oid status) atMs
          now.store).2 := (congrArg Prod.snd resolved).symm
      subst stored
      refine ordered.resolving paused publish (serial.grounded arrived) (paused.sent arrived)
        (fun _ => .inl ⟨id, List.mem_append_left _ looked⟩) nofun nofun
  | observeFails id call receipt oid status stage publish atMs error store failed =>
      have held := serial.stages id
      rw [stage] at held
      obtain ⟨arrived, looked⟩ := held
      have paused : Serial replay (acts ++ [.observeFails id]) (now.close id) :=
        serial.paused rfl rfl rfl trivial rfl nofun nofun nofun
      have stored : store = (resolve lib dec handle publish receipt (.observed oid status) atMs
          now.store).2 := (congrArg Prod.snd failed).symm
      subst stored
      refine ordered.resolving paused publish (serial.grounded arrived) (paused.sent arrived)
        (fun _ => .inl ⟨id, List.mem_append_left _ looked⟩) nofun nofun
  | measure id call revision stage =>
      have held := serial.stages id
      rw [stage] at held
      refine ordered.moved rfl (serial.paused rfl rfl rfl ?_ rfl nofun nofun nofun)
      refine held.imp_left fun vacant => ⟨vacant, acts, [], rfl, .refl _, nofun, ?_⟩
      -- without a reservation every order of the account is settled
      intro receipt owner member
      have posted := serial.arrived receipt member
      refine serial.settled receipt posted ?_
      by_contra unresolved
      have pending := (sound.pending _ receipt).mpr
        ⟨serial.posted receipt posted, owner, unresolved⟩
      rw [vacant] at pending
      cases pending
  | read id call revision stage =>
      exact ordered.moved rfl (serial.noted nofun nofun nofun)
  | clear id call revision stage clearance =>
      have held := serial.stages id
      rw [stage] at held
      refine ordered.moved rfl (serial.paused rfl rfl rfl ?_ rfl nofun nofun nofun)
      exact held.imp_left fun vacant => ⟨vacant.1, vacant.2.next fun _ => nofun⟩
  | begin id call revision clearance stage publish atMs receipt store begun =>
      obtain ⟨behind, tracks⟩ := ordered.tracks
      have stepped : Step lib dec handle now.store
          ⟨.begin registry call.account clearance revision atMs, publish⟩ store :=
        congrArg Prod.snd begun
      obtain ⟨behind', tracks', _⟩ := tracks.step stepped
      rcases begin_cases ordered.reserved tracks.consistent registry publish call.account clearance
          revision atMs with ⟨error, refused⟩ | ⟨held, intent, owner, starts, next, answered⟩
      · rw [begun] at refused
        cases refused
      · rw [begun] at answered next
        rcases answered with granted | ⟨_, _, failed⟩
        · cases granted
          have began := serial.began sound starts stage owner
          exact ⟨_, ⟨behind', tracks'⟩, next, began.stored store⟩
        · cases failed
  | beginFails id call revision clearance stage publish atMs error store failed =>
      obtain ⟨behind, tracks⟩ := ordered.tracks
      have stepped : Step lib dec handle now.store
          ⟨.begin registry call.account clearance revision atMs, publish⟩ store :=
        congrArg Prod.snd failed
      obtain ⟨behind', tracks', _⟩ := tracks.step stepped
      rcases begin_cases ordered.reserved tracks.consistent registry publish call.account clearance
          revision atMs with ⟨error, refused⟩ | ⟨held, intent, owner, starts, next, answered⟩
      · rw [failed] at refused
        cases refused
        exact ordered.moved rfl (serial.paused rfl rfl rfl trivial rfl nofun nofun nofun)
      -- the row is there, and no call will send its request
      · rw [failed] at next
        have paused :
            Serial (replay.started held intent) (acts ++ [.beginFails id]) (now.close id) :=
          (serial.grown sound starts).paused rfl rfl rfl trivial rfl nofun nofun nofun
        exact ⟨_, ⟨behind', tracks'⟩, next, paused.stored store⟩
  | sign id call receipt stage =>
      have held := serial.stages id
      rw [stage] at held
      refine ordered.moved rfl (serial.staged rfl rfl rfl held ?_ ?_ nofun nofun nofun)
      · rw [stage]
        exact fun _ mine => mine
      · rw [stage]
        exact fun _ mine => mine
  | refuse id call receipt stage detail =>
      have held : (now.calls id).unsent = some receipt := by
        rcases stage with begun | signed
        · rw [begun]
          rfl
        · rw [signed]
          rfl
      have waiting := (serial.stages id).waiting held
      refine ordered.moved rfl (serial.staged rfl rfl rfl waiting ?_ ?_ nofun nofun nofun)
      · rintro _ ⟨⟩
        exact OrderStage.charge_of_unsent held
      · rintro _ ⟨⟩
        exact held
  | dispatch id call receipt stage => exact ordered.moved rfl (serial.dispatch stage)
  | withdraw id call receipt detail stage publish atMs =>
      have mine : (now.calls id).unsent = some receipt := by
        rw [stage]
        rfl
      obtain ⟨started, unresolved, grounded, unposted⟩ := (serial.stages id).waiting mine
      have paused : Serial replay (acts ++ [.withdraw id]) (now.close id) :=
        serial.paused rfl rfl rfl trivial rfl nofun nofun nofun
      refine ordered.resolving paused publish grounded ?_ (fun posted => absurd posted unposted)
        ?_ nofun
      · intro other waiting
        by_cases here : other = id
        · subst here
          change (Function.update now.calls other .closed other).unsent = _ at waiting
          rw [Function.update_self] at waiting
          cases waiting
        · change (Function.update now.calls id .closed other).unsent = _ at waiting
          rw [Function.update_of_ne here] at waiting
          exact here (serial.own other id receipt (OrderStage.charge_of_unsent waiting)
            (OrderStage.charge_of_unsent mine))
      · intro _ _ other member
        rcases mem_concat_act member with before | is
        · exact (serial.dispatched other receipt before).2 id mine
        · cases is
  | answer id call receipt stage answer arrived =>
      have held := serial.stages id
      rw [stage] at held
      have given : .answer id receipt answer ∈ acts ++ [.answer id receipt answer] :=
        List.mem_append_right _ (List.mem_singleton_self _)
      refine ordered.moved rfl
        (serial.staged rfl rfl rfl ⟨held, given, arrived⟩ nofun nofun nofun nofun ?_)
      rintro other receipt answer ⟨⟩
      exact ⟨held, congrArg OrderStage.charge stage, rfl⟩
  | reject id call receipt answer stage outcome resolves publish atMs =>
      have held := serial.stages id
      rw [stage] at held
      obtain ⟨started, given, arrived⟩ := held
      obtain ⟨message, rfl⟩ := tracked_rejected resolves
      have posted := arrived (whole_of_tracked resolves)
      have paused : Serial replay (acts ++ [.reject id]) (now.close id) :=
        serial.paused rfl rfl rfl trivial rfl nofun nofun nofun
      have given := List.mem_append_left [.reject id] given
      refine ordered.resolving paused publish (serial.grounded posted) (paused.sent posted)
        (fun _ => .inr ⟨id, answer, message, given, resolves⟩) nofun ?_
      rintro _ ⟨⟩
      exact ⟨id, answer, given, resolves⟩
  | finish id call receipt answer stage unresolved =>
      exact ordered.moved rfl (serial.paused rfl rfl rfl trivial rfl nofun nofun nofun)
  | drop id => exact ordered.moved rfl (serial.paused rfl rfl rfl trivial rfl nofun nofun nofun)
  | arrive receipt flying => exact ordered.moved rfl (serial.arrive sound flying)
  | lose receipt flying => exact ordered.moved rfl serial.lose
  | other request elsewhere store step =>
      obtain ⟨behind, tracks⟩ := ordered.tracks
      obtain ⟨behind', tracks', _⟩ := tracks.step step.2
      obtain ⟨next, reserved, advance⟩ := ordered.reserved.step tracks step
      have same : next = replay := by
        generalize request.call = call at elsewhere advance
        cases advance with
        | kept => rfl
        | began | resolved => exact elsewhere.elim
      subst same
      have noted : Serial next (acts ++ [.other request]) now := serial.noted nofun nofun nofun
      exact ⟨next, ⟨behind', tracks'⟩, reserved, noted.stored store⟩

/-! ## Runs -/

/-- Nothing was sent, and the file is new. -/
theorem Ordered.opened : Ordered lib dec handle .empty [] (.start (opened lib handle)) where
  tracks := ⟨0, opened_tracks⟩
  reserved := opened_reserved
  serial :=
    { flying := nofun, posted := nofun, once := List.nodup_nil, stages := fun _ => trivial,
      own := nofun, resolution := nofun, arrived := nofun, settled := nofun,
      reserved := fun _ ahead => ahead.elim nofun fun ⟨_, held⟩ => (nomatch held),
      dispatched := nofun, answered := nofun, notSent := nofun, rejected := nofun }

/-- After every run the orders, the ledger and the venue agree on what is pending and what
arrived. -/
theorem Ordered.run
    (run : Run (TradingStep lib dec handle registry) (.start (Ledger.opened lib handle)) acts now) :
    ∃ replay, Ordered lib dec handle replay acts now := by
  refine run.history (fun acts now => ∃ replay, Ordered lib dec handle replay acts now)
    ⟨.empty, .opened⟩ ?_
  rintro acts now act after _ ⟨replay, ordered⟩ step
  exact ordered.step step

end Stepping

/-- **One order at a time.** Any number of gateways over one ledger and any interleaving of
their calls, of the venue and of other writers of the ledger. An order arrives at most once, and
only after its call began to read the account, was cleared and reserved in this order, while no
order of the account arrived since and every one that arrived before was seen at the venue or
answered with a rejection. A reservation whose request was sent and had no conclusive answer is
resolved by what the venue shows of its order, if it is. -/
theorem orders_serialized (lib : Libraries) (dec : Decimals) (handle : Handle)
    (registry : Option (RegistryChecks dec.Decimal)) {acts : List (TradingAct dec)}
    {now : Trading dec.Decimal}
    (run : Run (TradingStep lib dec handle registry) (.start (opened lib handle)) acts now) :
    (∀ earlier receipt later, acts = earlier ++ .arrive receipt :: later →
      .arrive receipt ∉ earlier ∧ ∃ id clearance first second,
        earlier = first ++ .measure id :: second ∧
          List.Sublist [.clear id clearance, .begin id clearance receipt] second ∧
          Alone receipt.start.account first second) ∧
      ∃ replay, replayRows (D := dec.Decimal) lib handle now.store.db = .ok replay ∧
        ∀ receipt ∈ replay.starts, (∃ id, .dispatch id receipt ∈ acts) →
          (∀ id answer, .answer id receipt answer ∈ acts → answer.Inconclusive) →
            ∀ outcome, replay.resolution receipt.seq = some outcome →
              ∃ oid status, outcome = .observed oid status := by
  constructor
  · rintro earlier receipt later rfl
    obtain ⟨before, prior, rest⟩ := run.split
    obtain ⟨after, step, _⟩ := rest.head
    obtain ⟨replay, ordered⟩ := Ordered.run prior
    cases step with
    | arrive _ flying =>
        obtain ⟨id, clearance, first, second, parts, done, alone⟩ :=
          ordered.serial.reserved receipt (.inl flying)
        refine ⟨fun repeated => ?_, id, clearance, first, second, parts, done, alone⟩
        exact ordered.serial.grounded (ordered.serial.arrived receipt repeated) flying
  · obtain ⟨replay, ordered⟩ := Ordered.run run
    refine ⟨replay, ordered.reserved.read, ?_⟩
    rintro receipt started ⟨id, dispatched⟩ inconclusive outcome resolved
    cases outcome with
    | observed oid status => exact ⟨oid, status, rfl⟩
    | notSent detail =>
        exact absurd dispatched (ordered.serial.notSent receipt started detail resolved id)
    | rejected message =>
        obtain ⟨other, answer, answered, rejects⟩ :=
          ordered.serial.rejected receipt started message resolved
        rw [tracked_inconclusive (inconclusive other answer answered)] at rejects
        cases rejects

/-! ## An order that arrives -/

namespace OneOrder

open OneReservation

/-- Two gateways with an order each for one account. The first reserves it, and the second finds
its order at the venue. -/
def before {dec : Decimals} (record : Request dec) (clearance : Clearance)
    (receipt : SubmissionReceipt) : List (TradingAct dec) :=
  [.other record, .call 0 0 .zero, .call 1 1 .zero, .lock 0, .lock 1, .vacant 0, .measure 0,
    .clear 0 clearance, .begin 0 clearance receipt, .busy 1, .sign 0, .dispatch 0 receipt]

/-- A request of another call is a step of the ledger that keeps what was reserved, and an order is
then begun on it. -/
theorem submits {lib : Libraries} {dec : Decimals} {handle : Handle} {record : Request dec}
    {clearance : Clearance} {receipt : SubmissionReceipt} {recorded reserved : Store}
    {revision : Nat} (elsewhere : Elsewhere record.call)
    (step : SparingStep lib dec handle (opened lib handle) record recorded)
    (vacant : accountState lib dec handle none recorded .zero = .ok ⟨0, none⟩)
    (begun : begin lib dec handle none true .zero clearance 0 6 recorded =
      (.ok receipt, reserved))
    (owner : receipt.start.account = .zero)
    (busy : accountState lib dec handle none reserved .zero = .ok ⟨revision, some receipt⟩) :
    ∃ now, Run (TradingStep lib dec handle none) (.start (opened lib handle))
      (before record clearance receipt ++ [.arrive receipt, .look 1 receipt]) now := by
  have recording := Run.single
    (.other record elsewhere recorded step : TradingStep lib dec handle none (.start _) _ _)
  have called := (recording.snoc (.call 0 0 .zero rfl)).snoc (.call 1 1 .zero rfl)
  have held := (called.snoc (.lock 0 ⟨0, .zero⟩ rfl rfl)).snoc (.lock 1 ⟨1, .zero⟩ rfl rfl)
  have empty := held.snoc (.vacant 0 ⟨0, .zero⟩ (.inl rfl) 0 vacant)
  have measured := empty.snoc (.measure 0 ⟨0, .zero⟩ 0 rfl)
  have cleared := measured.snoc (.clear 0 ⟨0, .zero⟩ 0 rfl clearance)
  have kept := cleared.snoc (.begin 0 ⟨0, .zero⟩ 0 clearance rfl true 6 receipt reserved begun)
  have waits := kept.snoc (.busy 1 ⟨1, .zero⟩ rfl revision receipt busy)
  have signed := waits.snoc (.sign 0 ⟨0, .zero⟩ receipt rfl)
  have sent := signed.snoc (.dispatch 0 ⟨0, .zero⟩ receipt rfl)
  have arrived := sent.snoc (.arrive receipt (List.mem_cons_self ..))
  have known : receipt.uses = ((.zero : Address), receipt.start.cloid) := congrArg (·, _) owner
  exact ⟨_, arrived.snoc (.look 1 ⟨1, .zero⟩ receipt rfl
    ⟨receipt, List.mem_append_right _ (List.mem_singleton_self _), known⟩ none nofun 1 "open")⟩

/-- Once a reservation was made every reader finds it. -/
theorem begun_busy {lib : Libraries} {dec : Decimals} {handle : Handle}
    {requests : List (Request dec)} {store after : Store} {account : Address}
    {clearance : Clearance} {revision atMs : Nat} {receipt : SubmissionReceipt}
    (run : Run (SparingStep lib dec handle) (opened lib handle) requests store)
    (published : ∀ request ∈ requests, request.publish = true)
    (begun : begin lib dec handle none true account clearance revision atMs store =
      (.ok receipt, after)) :
    receipt.start.account = account ∧ ∃ revision,
      accountState lib dec handle none after account = .ok ⟨revision, some receipt⟩ := by
  obtain ⟨_, replay, tracks, rows, _⟩ := opened_reserved.run opened_tracks run
  have step : Step lib dec handle store ⟨.begin none account clearance revision atMs, true⟩ after :=
    congrArg Prod.snd begun
  obtain ⟨behind, near, tracked⟩ := published_but_last
    ((run.mono fun _ _ _ step => step.2).snoc step)
    (by rwa [List.dropLast_concat])
  rcases begin_cases rows tracks.consistent none true account clearance revision atMs with
    ⟨_, refused⟩ | ⟨other, intent, owner, _, next, granted | ⟨_, unpublished, _⟩⟩
  · cases begun.symm.trans refused
  · rw [begun] at next granted
    cases granted
    have replayed := tracked.replays near next.read
    refine ⟨owner, receipt.seq, ?_⟩
    rw [accountState, journalReplay, replayed]
    simp only [bind, Except.bind, pure, Except.pure, Replay.started, owner, Function.update_self]
  · cases unpublished

/-- It arrives once, and alone since its account was measured. -/
theorem arrives_alone : ∃ receipt now,
    Run (TradingStep lib Decimals.reference handle none) (.start (opened lib handle))
      (before record clearance receipt ++ [.arrive receipt, .look 1 receipt]) now ∧
    .arrive receipt ∉ before record clearance receipt ∧
    ∃ id terms first second,
      before record clearance receipt = first ++ .measure id :: second ∧
        List.Sublist [.clear id terms, .begin id terms receipt] second ∧
        Alone receipt.start.account first second := by
  have vacant : accountState lib Decimals.reference handle none recorded .zero = .ok ⟨0, none⟩ :=
    eq_ok_of_some (by decide +kernel)
  have granted : (begin lib Decimals.reference handle none true .zero clearance 0 6
      recorded).1.toOption.isSome = true := by decide +kernel
  have elsewhere : Elsewhere record.call := trivial
  generalize begun : begin lib Decimals.reference handle none true .zero clearance 0 6 recorded =
    answer at granted
  obtain ⟨reply, reserved⟩ := answer
  cases reply with
  | error error => cases granted
  | ok receipt =>
      obtain ⟨owner, revision, busy⟩ := begun_busy recorded_run (by simp [record]) begun
      obtain ⟨now, run⟩ := submits elsewhere ⟨rfl, rfl⟩ vacant begun owner busy
      exact ⟨receipt, now, run,
        (orders_serialized lib Decimals.reference handle none run).1 _ receipt _ rfl⟩

end OneOrder

end Oppen.Mcp
