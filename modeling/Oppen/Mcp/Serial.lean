import Oppen.Mcp.Submission

/-! # One order at a time

Between the first read of an account and the arrival of the order that was measured against it
no other order of the account arrives. The reservation carries this: an account that is read
without one and reserved at the same revision had none in between, a request on its way keeps
its reservation pending, and a reservation ends only when its order was seen, was answered with
a rejection, or was never sent.
-/

namespace Oppen.Ledger

/-! ## Resolutions of a replay -/

/-- What a replay resolved a reservation with. -/
def Replay.resolution (replay : Replay) (seq : Nat) : Option SubmissionResolution :=
  (replay.pilot.find? fun submission => submission.seq = seq).bind PilotSubmission.resolution

/-- A start resolves nothing. -/
theorem resolution_started {replay : Replay} {receipt : SubmissionReceipt} {intent : Json.Value}
    (seq : Nat) : (replay.started receipt intent).resolution seq = replay.resolution seq := by
  rw [Replay.resolution, Replay.started, List.find?_append]
  cases found : replay.pilot.find? fun submission => submission.seq = seq with
  | some submission => rw [Replay.resolution, found, Option.some_or]
  | none =>
      rw [Replay.resolution, found, Option.none_or]
      by_cases here : receipt.seq = seq
      · simp [here]
      · simp [here]

/-- A resolution is found at its own start, and elsewhere what was there. -/
theorem resolution_resolve {length : Nat} {replay : Replay} (sound : replay.Sound length)
    {receipt : SubmissionReceipt} (member : receipt ∈ replay.starts)
    (position : Nat) (outcome : SubmissionResolution) (seq : Nat) :
    (replay.resolve receipt position outcome).resolution seq =
      if seq = receipt.seq then some outcome else replay.resolution seq := by
  have known : receipt.seq ∈ replay.pilot.map PilotSubmission.seq := by
    rw [sound.pilot]
    exact List.mem_map_of_mem member
  -- a submission keeps its position
  have same : (fun submission : PilotSubmission => decide (submission.seq = seq)) ∘
      (fun submission : PilotSubmission => if submission.seq = receipt.seq then
        { submission with resolution := some outcome } else submission) =
        fun submission => decide (submission.seq = seq) := by
    funext submission
    rw [Function.comp_apply]
    split <;> rfl
  rw [Replay.resolution, Replay.resolve, List.find?_map, same, Replay.resolution]
  cases found : replay.pilot.find? fun submission => submission.seq = seq with
  | none =>
      have absent : seq ≠ receipt.seq := by
        rintro rfl
        obtain ⟨submission, inside, position⟩ := List.mem_map.mp known
        exact List.find?_eq_none.mp found submission inside (decide_eq_true position)
      rw [if_neg absent]
      rfl
  | some submission =>
      have position : submission.seq = seq := of_decide_eq_true (List.find?_some found :)
      subst position
      show (if submission.seq = receipt.seq then _ else submission : PilotSubmission).resolution = _
      split <;> rfl

end Oppen.Ledger

namespace Oppen.Mcp

open Foundation Oppen.Ledger Oppen.Guardrail

/-! ## What a stage holds -/

section Stages

variable {Decimal : Type}

/-- The reservation whose request a call may still send. -/
def OrderStage.unsent : OrderStage Decimal → Option SubmissionReceipt
  | .begun _ receipt | .signed _ receipt | .refused _ receipt _ => some receipt
  | _ => none

/-- The reservation whose request a call sends or waits for. -/
def OrderStage.charge : OrderStage Decimal → Option SubmissionReceipt
  | .sent _ receipt => some receipt
  | stage => stage.unsent

/-- An order that was reserved and not yet sent is charged to its account. -/
theorem OrderStage.charge_of_unsent {stage : OrderStage Decimal} {receipt : SubmissionReceipt}
    (unsent : stage.unsent = some receipt) : stage.charge = some receipt := by
  cases stage with
  | begun | signed | refused => exact unsent
  | _ => cases unsent

/-- The account a call found without a reservation, and at which revision. -/
def OrderStage.vantage : OrderStage Decimal → Option (Address × Nat)
  | .permitted call revision | .measuring call revision | .cleared call revision _ =>
      some (call.account, revision)
  | _ => none

end Stages

/-! ## What the acts show -/

section History

variable {dec : Decimals}

/-- The order was seen at the venue by its cloid, or answered with a structured rejection. -/
def Settled (acts : List (TradingAct dec)) (receipt : SubmissionReceipt) : Prop :=
  (∃ id, .look id receipt ∈ acts) ∨
    ∃ id answer message, .answer id receipt answer ∈ acts ∧
      tracked answer.result = some (.rejected message)

/-- No order of the account arrives in the second part, and those that arrived in the first were
settled there. -/
structure Alone (account : Address) (first second : List (TradingAct dec)) : Prop where
  none : ∀ receipt : SubmissionReceipt, receipt.start.account = account →
    .arrive receipt ∉ second
  settled : ∀ receipt : SubmissionReceipt, receipt.start.account = account →
    .arrive receipt ∈ first → Settled first receipt

/-- A call began to read the account, did this, and nothing of the account arrived since. -/
def Measured (acts : List (TradingAct dec)) (id : Nat) (account : Address)
    (since : List (TradingAct dec)) : Prop :=
  ∃ first second, acts = first ++ .measure id :: second ∧ since.Sublist second ∧
    Alone account first second

/-- An order that was settled stays so. -/
theorem Settled.grow {acts : List (TradingAct dec)} {receipt : SubmissionReceipt}
    (settled : Settled acts receipt) (more : List (TradingAct dec)) :
    Settled (acts ++ more) receipt := by
  rcases settled with ⟨id, looked⟩ | ⟨id, answer, message, answered, rejected⟩
  · exact .inl ⟨id, List.mem_append_left _ looked⟩
  · exact .inr ⟨id, answer, message, List.mem_append_left _ answered, rejected⟩

/-- A measurement stays one while no order of its account arrives. -/
theorem Measured.grow {acts since : List (TradingAct dec)} {id : Nat} {account : Address}
    (measured : Measured acts id account since) {act : TradingAct dec}
    (calm : ∀ receipt : SubmissionReceipt, receipt.start.account = account →
      act ≠ .arrive receipt) : Measured (acts ++ [act]) id account since := by
  obtain ⟨first, second, rfl, done, alone⟩ := measured
  refine ⟨first, second ++ [act], ?_, done.trans (List.sublist_append_left ..), ?_, alone.settled⟩
  · rw [List.append_assoc, List.cons_append]
  · intro receipt owner member
    rcases List.mem_append.mp member with earlier | last
    · exact alone.none receipt owner earlier
    · exact calm receipt owner (List.mem_singleton.mp last).symm

/-- What the call does next is among what it did. -/
theorem Measured.next {acts since : List (TradingAct dec)} {id : Nat} {account : Address}
    (measured : Measured acts id account since) {act : TradingAct dec}
    (calm : ∀ receipt, act ≠ .arrive receipt) :
    Measured (acts ++ [act]) id account (since ++ [act]) := by
  obtain ⟨first, second, rfl, done, alone⟩ := measured
  refine ⟨first, second ++ [act], ?_, done.append (.refl _), ?_, alone.settled⟩
  · rw [List.append_assoc, List.cons_append]
  · intro receipt owner member
    rcases List.mem_append.mp member with earlier | last
    · exact alone.none receipt owner earlier
    · exact calm receipt (List.mem_singleton.mp last).symm

end History

/-! ## The invariant -/

section Invariant

variable {dec : Decimals}

/-- What a call at a stage knows of the ledger and of the venue. -/
def StageSound (replay : Replay) (acts : List (TradingAct dec)) (now : Trading dec.Decimal)
    (id : Nat) : OrderStage dec.Decimal → Prop
  | .looking call receipt => receipt ∈ replay.starts ∧ receipt.start.account = call.account
  | .seen _ receipt _ _ => receipt ∈ now.posted ∧ .look id receipt ∈ acts
  | .permitted call revision =>
      replay.accounts call.account = ⟨revision, none⟩ ∨
        revision < (replay.accounts call.account).revision
  | .measuring call revision =>
      (replay.accounts call.account = ⟨revision, none⟩ ∧ Measured acts id call.account []) ∨
        revision < (replay.accounts call.account).revision
  | .cleared call revision clearance =>
      (replay.accounts call.account = ⟨revision, none⟩ ∧
          Measured acts id call.account [.clear id clearance]) ∨
        revision < (replay.accounts call.account).revision
  | .begun _ receipt | .signed _ receipt | .refused _ receipt _ =>
      receipt ∈ replay.starts ∧ receipt.seq ∉ replay.resolved ∧ receipt ∉ now.flying ∧
        receipt ∉ now.posted
  | .sent _ receipt => receipt ∈ replay.starts
  | .answered _ receipt answer =>
      receipt ∈ replay.starts ∧ .answer id receipt answer ∈ acts ∧
        (answer ≠ .lost → receipt ∈ now.posted)
  | _ => True

/-- The ledger, the gateways and the venue agree on every reservation. -/
structure Serial (replay : Replay) (acts : List (TradingAct dec)) (now : Trading dec.Decimal) :
    Prop where
  flying : ∀ receipt ∈ now.flying, receipt ∈ replay.starts ∧ receipt.seq ∉ replay.resolved
  posted : ∀ receipt ∈ now.posted, receipt ∈ replay.starts
  once : (now.flying ++ now.posted).Nodup
  stages : ∀ id, StageSound replay acts now id (now.calls id)
  own : ∀ id other receipt, (now.calls id).charge = some receipt →
    (now.calls other).charge = some receipt → id = other
  resolution : ∀ seq outcome, replay.resolution seq = some outcome → seq ∈ replay.resolved
  arrived : ∀ receipt, .arrive receipt ∈ acts → receipt ∈ now.posted
  settled : ∀ receipt ∈ now.posted, receipt.seq ∈ replay.resolved → Settled acts receipt
  reserved : ∀ receipt, (receipt ∈ now.flying ∨ ∃ id, (now.calls id).unsent = some receipt) →
    ∃ id clearance, Measured acts id receipt.start.account
      [.clear id clearance, .begin id clearance receipt]
  dispatched : ∀ id receipt, .dispatch id receipt ∈ acts → receipt ∈ replay.starts ∧
    ∀ other, (now.calls other).unsent ≠ some receipt
  answered : ∀ id receipt answer, .answer id receipt answer ∈ acts → receipt ∈ replay.starts ∧
    ∀ other, (now.calls other).charge ≠ some receipt
  notSent : ∀ receipt ∈ replay.starts, ∀ detail,
    replay.resolution receipt.seq = some (.notSent detail) → ∀ id, .dispatch id receipt ∉ acts
  rejected : ∀ receipt ∈ replay.starts, ∀ message,
    replay.resolution receipt.seq = some (.rejected message) →
      ∃ id answer, .answer id receipt answer ∈ acts ∧
        tracked answer.result = some (.rejected message)

variable {replay next : Replay} {acts : List (TradingAct dec)} {now after : Trading dec.Decimal}
  {act : TradingAct dec} {id : Nat} {stage : OrderStage dec.Decimal}

/-- A call knows what it knew, as long as its request is not sent and nothing arrives on the
account it reads. -/
theorem StageSound.grow (sound : StageSound replay acts now id stage)
    (unsent : ∀ receipt, stage.unsent = some receipt → receipt ∉ now.flying →
      receipt ∉ now.posted → receipt ∉ after.flying ∧ receipt ∉ after.posted)
    (posted : ∀ receipt ∈ now.posted, receipt ∈ after.posted)
    (alone : ∀ account revision, stage.vantage = some (account, revision) →
      replay.accounts account = ⟨revision, none⟩ → ∀ receipt : SubmissionReceipt,
        receipt.start.account = account → act ≠ .arrive receipt) :
    StageSound replay (acts ++ [act]) after id stage := by
  cases stage with
  | idle | queued | held | looking | reviewing | permitted | sent | closed => exact sound
  | seen => exact ⟨posted _ sound.1, List.mem_append_left _ sound.2⟩
  | measuring call revision =>
      refine sound.imp_left fun vacant => ⟨vacant.1, vacant.2.grow ?_⟩
      exact alone _ _ rfl vacant.1
  | cleared call revision clearance =>
      refine sound.imp_left fun vacant => ⟨vacant.1, vacant.2.grow ?_⟩
      exact alone _ _ rfl vacant.1
  | begun | signed | refused =>
      obtain ⟨started, unresolved, grounded, unposted⟩ := sound
      exact ⟨started, unresolved, unsent _ rfl grounded unposted⟩
  | answered =>
      obtain ⟨started, answered, arrived⟩ := sound
      exact ⟨started, List.mem_append_left _ answered, fun whole => posted _ (arrived whole)⟩

/-- A call knows what it knew when the ledger moves on, as long as its reservation stays. -/
theorem StageSound.advance (sound : StageSound replay acts now id stage)
    (extended : replay.Extends next)
    (unresolved : ∀ receipt, stage.unsent = some receipt → receipt.seq ∉ replay.resolved →
      receipt.seq ∉ next.resolved) : StageSound next acts now id stage := by
  have vantage : ∀ {account : Address} {revision : Nat} {known : Prop},
      (replay.accounts account = ⟨revision, none⟩ ∧ known) ∨
        revision < (replay.accounts account).revision →
          (next.accounts account = ⟨revision, none⟩ ∧ known) ∨
            revision < (next.accounts account).revision := by
    intro account revision known held
    rcases extended.revised account with same | grown
    · rw [same]
      exact held
    · rcases held with ⟨vacant, _⟩ | past
      · rw [vacant] at grown
        exact .inr grown
      · exact .inr (past.trans grown)
  cases stage with
  | idle | queued | held | reviewing | closed | seen => exact sound
  | looking => exact ⟨extended.starts _ sound.1, sound.2⟩
  | permitted =>
      have held := vantage (sound.imp_left fun vacant => ⟨vacant, trivial⟩)
      exact held.imp_left And.left
  | measuring | cleared => exact vantage sound
  | begun | signed | refused =>
      obtain ⟨started, pending, rest⟩ := sound
      exact ⟨extended.starts _ started, unresolved _ rfl pending, rest⟩
  | sent => exact extended.starts _ sound
  | answered => exact ⟨extended.starts _ sound.1, sound.2⟩

/-- A reservation whose request may still be sent is open, and its request nowhere. -/
theorem StageSound.waiting (sound : StageSound replay acts now id stage)
    {receipt : SubmissionReceipt} (unsent : stage.unsent = some receipt) :
    receipt ∈ replay.starts ∧ receipt.seq ∉ replay.resolved ∧ receipt ∉ now.flying ∧
      receipt ∉ now.posted := by
  cases stage with
  | begun | signed | refused =>
      cases unsent
      exact sound
  | _ => cases unsent

/-- An act of a longer run is one of the shorter or the last. -/
theorem mem_concat_act {one : TradingAct dec} (member : one ∈ acts ++ [act]) :
    one ∈ acts ∨ act = one :=
  (List.mem_append.mp member).imp_right fun last => (List.mem_singleton.mp last).symm

/-- One call moves; the venue and the ledger stay. -/
theorem Serial.staged (serial : Serial replay acts now) (flying : after.flying = now.flying)
    (posted : after.posted = now.posted) (calls : after.calls = Function.update now.calls id stage)
    (sound : StageSound replay (acts ++ [act]) after id stage)
    (charge : ∀ receipt, stage.charge = some receipt → (now.calls id).charge = some receipt)
    (unsent : ∀ receipt, stage.unsent = some receipt → (now.calls id).unsent = some receipt)
    (still : ∀ receipt, act ≠ .arrive receipt)
    (unsending : ∀ id receipt, act ≠ .dispatch id receipt)
    (answers : ∀ other receipt answer, act = .answer other receipt answer →
      receipt ∈ replay.starts ∧ (now.calls id).charge = some receipt ∧ stage.charge = none) :
    Serial replay (acts ++ [act]) after := by
  have stage_of : ∀ other, (other = id ∧ after.calls other = stage) ∨
      (other ≠ id ∧ after.calls other = now.calls other) := by
    intro other
    rw [calls]
    by_cases here : other = id
    · subst here
      exact .inl ⟨rfl, Function.update_self ..⟩
    · exact .inr ⟨here, Function.update_of_ne here ..⟩
  have charged : ∀ other receipt, (after.calls other).charge = some receipt →
      (now.calls other).charge = some receipt := by
    intro other receipt held
    rcases stage_of other with ⟨rfl, is⟩ | ⟨_, is⟩
    · exact charge receipt (is ▸ held)
    · exact is ▸ held
  have waiting : ∀ other receipt, (after.calls other).unsent = some receipt →
      (now.calls other).unsent = some receipt := by
    intro other receipt held
    rcases stage_of other with ⟨rfl, is⟩ | ⟨_, is⟩
    · exact unsent receipt (is ▸ held)
    · exact is ▸ held
  constructor
  case flying => rw [flying]; exact serial.flying
  case posted => rw [posted]; exact serial.posted
  case once => rw [flying, posted]; exact serial.once
  case stages =>
      intro other
      rcases stage_of other with ⟨rfl, is⟩ | ⟨_, is⟩
      · rw [is]
        exact sound
      · rw [is]
        refine (serial.stages other).grow ?_ ?_ fun _ _ _ _ receipt _ => still receipt
        · rw [flying, posted]
          exact fun _ _ grounded unposted => ⟨grounded, unposted⟩
        · rw [posted]
          exact fun _ member => member
  case own =>
      intro first second receipt held held'
      exact serial.own first second receipt (charged _ _ held) (charged _ _ held')
  case resolution => exact serial.resolution
  case arrived =>
      intro receipt member
      rw [posted]
      rcases mem_concat_act member with before | is
      · exact serial.arrived receipt before
      · exact absurd is (still receipt)
  case settled =>
      rw [posted]
      exact fun receipt member resolved => (serial.settled receipt member resolved).grow _
  case reserved =>
      rw [flying]
      intro receipt ahead
      obtain ⟨other, clearance, measured⟩ := serial.reserved receipt
        (ahead.imp_right fun ⟨other, held⟩ => ⟨other, waiting other receipt held⟩)
      exact ⟨other, clearance, measured.grow fun receipt _ => still receipt⟩
  case dispatched =>
      intro other receipt member
      rcases mem_concat_act member with before | is
      · obtain ⟨started, none⟩ := serial.dispatched other receipt before
        exact ⟨started, fun other held => none other (waiting other receipt held)⟩
      · exact absurd is (unsending other receipt)
  case answered =>
      intro other receipt answer member
      rcases mem_concat_act member with before | is
      · obtain ⟨started, none⟩ := serial.answered other receipt answer before
        exact ⟨started, fun other held => none other (charged other receipt held)⟩
      · obtain ⟨started, mine, free⟩ := answers other receipt answer is
        refine ⟨started, fun other held => ?_⟩
        obtain rfl := serial.own other id receipt (charged other receipt held) mine
        rw [calls, Function.update_self, free] at held
        cases held
  case notSent =>
      intro receipt member detail resolved other dispatched
      rcases mem_concat_act dispatched with before | is
      · exact serial.notSent receipt member detail resolved other before
      · exact absurd is (unsending other receipt)
  case rejected =>
      intro receipt member message resolved
      obtain ⟨other, answer, answered, rejects⟩ := serial.rejected receipt member message resolved
      exact ⟨other, answer, List.mem_append_left _ answered, rejects⟩

/-- One call moves to a stage without a request of its own. -/
theorem Serial.paused (serial : Serial replay acts now) (flying : after.flying = now.flying)
    (posted : after.posted = now.posted) (calls : after.calls = Function.update now.calls id stage)
    (sound : StageSound replay (acts ++ [act]) after id stage) (free : stage.charge = none)
    (still : ∀ receipt, act ≠ .arrive receipt)
    (unsending : ∀ id receipt, act ≠ .dispatch id receipt)
    (unanswered : ∀ id receipt answer, act ≠ .answer id receipt answer) :
    Serial replay (acts ++ [act]) after := by
  refine serial.staged flying posted calls sound ?_ ?_ still unsending
    fun other receipt answer is => absurd is (unanswered other receipt answer)
  · intro receipt held
    rw [free] at held
    cases held
  · intro receipt held
    rw [OrderStage.charge_of_unsent held] at free
    cases free

/-- An act that moves no call and no request. -/
theorem Serial.noted (serial : Serial replay acts now) (still : ∀ receipt, act ≠ .arrive receipt)
    (unsending : ∀ id receipt, act ≠ .dispatch id receipt)
    (unanswered : ∀ id receipt answer, act ≠ .answer id receipt answer) :
    Serial replay (acts ++ [act]) now := by
  refine serial.staged rfl rfl (Function.update_eq_self 0 now.calls).symm ?_
    (fun _ held => held) (fun _ held => held) still unsending
    fun other receipt answer is => absurd is (unanswered other receipt answer)
  exact (serial.stages 0).grow (fun _ _ grounded unposted => ⟨grounded, unposted⟩)
    (fun _ inside => inside) fun _ _ _ _ receipt _ => still receipt

/-- The ledger's rows are read through its replay. -/
theorem Serial.stored (serial : Serial replay acts now) (store : Store) :
    Serial replay acts { now with store } :=
  ⟨serial.flying, serial.posted, serial.once, serial.stages, serial.own, serial.resolution,
    serial.arrived, serial.settled, serial.reserved, serial.dispatched, serial.answered,
    serial.notSent, serial.rejected⟩

/-- A reservation that nobody may still send is resolved. -/
theorem Serial.resolved {db : Db} {receipt : SubmissionReceipt} {outcome : SubmissionResolution}
    (serial : Serial replay acts now) (sound : replay.Sound db.events.length)
    (member : receipt ∈ replay.starts) (unresolved : receipt.seq ∉ replay.resolved)
    (grounded : receipt ∉ now.flying) (idle : ∀ other, (now.calls other).unsent ≠ some receipt)
    (seen : receipt ∈ now.posted → Settled acts receipt)
    (unsent : ∀ detail, outcome = .notSent detail → ∀ id, .dispatch id receipt ∉ acts)
    (refused : ∀ message, outcome = .rejected message →
      ∃ id answer, .answer id receipt answer ∈ acts ∧
        tracked answer.result = some (.rejected message)) :
    Serial (replay.resolve receipt (db.events.length + 1) outcome) acts now := by
  have advance : Advance db replay (.resolve receipt outcome 0 : Call dec) _ :=
    .resolved member unresolved
  have extended : replay.Extends (replay.resolve receipt (db.events.length + 1) outcome) :=
    advance.extends sound
  -- only this reservation is resolved
  have other : ∀ {seq : Nat}, seq ≠ receipt.seq → seq ∉ replay.resolved →
      seq ∉ (replay.resolve receipt (db.events.length + 1) outcome).resolved := by
    intro seq apart unresolved' resolved
    rcases List.mem_append.mp resolved with older | last
    · exact unresolved' older
    · exact apart (List.mem_singleton.mp last)
  have apart : ∀ {held : SubmissionReceipt}, held ∈ replay.starts → held ≠ receipt →
      held.seq ≠ receipt.seq :=
    fun started different same => different (sound.eq_of_seq started member same)
  have resolution := resolution_resolve sound member (db.events.length + 1) outcome
  constructor
  case flying =>
      intro held inside
      obtain ⟨started, pending⟩ := serial.flying held inside
      exact ⟨started, other (apart started fun same => grounded (same ▸ inside)) pending⟩
  case posted => exact serial.posted
  case once => exact serial.once
  case stages =>
      intro id
      refine (serial.stages id).advance extended fun held mine pending => ?_
      have started := ((serial.stages id).waiting mine).1
      exact other (apart started fun same => idle id (same ▸ mine)) pending
  case own => exact serial.own
  case resolution =>
      intro seq held found
      rw [resolution] at found
      split at found
      · rename_i here
        exact List.mem_append_right _ (List.mem_singleton.mpr here)
      · exact List.mem_append_left _ (serial.resolution seq held found)
  case arrived => exact serial.arrived
  case settled =>
      intro held inside resolved
      rcases List.mem_append.mp resolved with older | last
      · exact serial.settled held inside older
      · obtain rfl := sound.eq_of_seq (serial.posted held inside) member
          (List.mem_singleton.mp last)
        exact seen inside
  case reserved => exact serial.reserved
  case dispatched => exact serial.dispatched
  case answered => exact serial.answered
  case notSent =>
      intro held started detail found
      rw [resolution] at found
      split at found
      · rename_i here
        obtain rfl := sound.eq_of_seq started member here
        exact unsent detail (Option.some.inj found)
      · exact serial.notSent held started detail found
  case rejected =>
      intro held started message found
      rw [resolution] at found
      split at found
      · rename_i here
        obtain rfl := sound.eq_of_seq started member here
        exact refused message (Option.some.inj found)
      · exact serial.rejected held started message found

/-- The reservation of a call is one of the ledger's. -/
theorem StageSound.started (sound : StageSound replay acts now id stage)
    {receipt : SubmissionReceipt} (mine : stage.charge = some receipt) :
    receipt ∈ replay.starts := by
  cases stage with
  | begun | signed | refused =>
      cases mine
      exact sound.1
  | sent =>
      cases mine
      exact sound
  | _ => cases mine

/-- A reservation is committed, before its call goes on. -/
theorem Serial.grown {db : Db} {revision : Nat} {clearance : Clearance}
    {receipt : SubmissionReceipt} {intent : Json.Value} (serial : Serial replay acts now)
    (sound : replay.Sound db.events.length)
    (starts : Starts db replay clearance revision receipt intent) :
    Serial (replay.started receipt intent) acts now := by
  have advance : Advance db replay
      (.begin none receipt.start.account clearance revision 0 : Call dec) _ := .began starts
  have extended : replay.Extends (replay.started receipt intent) := advance.extends sound
  have unresolved : receipt.seq ∉ replay.resolved := by
    intro resolved
    have within := sound.resolved _ resolved
    rw [starts.position] at within
    omega
  constructor
  case flying =>
      intro held inside
      obtain ⟨started, pending⟩ := serial.flying held inside
      exact ⟨extended.starts _ started, pending⟩
  case posted => exact fun held inside => extended.starts _ (serial.posted held inside)
  case once => exact serial.once
  case stages =>
      exact fun other => (serial.stages other).advance extended fun _ _ pending => pending
  case own => exact serial.own
  case resolution =>
      intro seq outcome found
      rw [resolution_started] at found
      exact serial.resolution seq outcome found
  case arrived => exact serial.arrived
  case settled => exact serial.settled
  case reserved => exact serial.reserved
  case dispatched =>
      intro other held member
      obtain ⟨started, none⟩ := serial.dispatched other held member
      exact ⟨extended.starts _ started, none⟩
  case answered =>
      intro other held answer member
      obtain ⟨started, none⟩ := serial.answered other held answer member
      exact ⟨extended.starts _ started, none⟩
  case notSent =>
      intro held started detail found
      rw [resolution_started] at found
      rcases List.mem_append.mp started with older | last
      · exact serial.notSent held older detail found
      · obtain rfl := List.mem_singleton.mp last
        exact absurd (serial.resolution _ _ found) unresolved
  case rejected =>
      intro held started message found
      rw [resolution_started] at found
      rcases List.mem_append.mp started with older | last
      · exact serial.rejected held older message found
      · obtain rfl := List.mem_singleton.mp last
        exact absurd (serial.resolution _ _ found) unresolved

/-- An account that was measured is reserved. -/
theorem Serial.began {db : Db} {call : OrderCall} {revision : Nat} {clearance : Clearance}
    {receipt : SubmissionReceipt} {intent : Json.Value} (serial : Serial replay acts now)
    (sound : replay.Sound db.events.length)
    (starts : Starts db replay clearance revision receipt intent)
    (cleared : now.calls id = .cleared call revision clearance)
    (owner : receipt.start.account = call.account) :
    Serial (replay.started receipt intent) (acts ++ [.begin id clearance receipt])
      (now.withCall id (.begun call receipt)) := by
  have grown := serial.grown sound starts
  have fresh : receipt ∉ replay.starts := by
    intro member
    have within := sound.bounded receipt member
    rw [starts.position] at within
    omega
  have unresolved : receipt.seq ∉ replay.resolved := by
    intro resolved
    have within := sound.resolved _ resolved
    rw [starts.position] at within
    omega
  have calls : ∀ other, other ≠ id →
      (now.withCall id (.begun call receipt)).calls other = now.calls other :=
    fun other apart => Function.update_of_ne apart ..
  have mine : (now.withCall id (.begun call receipt)).calls id = .begun call receipt :=
    Function.update_self ..
  have others : ∀ other, (now.calls other).charge ≠ some receipt :=
    fun other held => fresh ((serial.stages other).started held)
  constructor
  case flying => exact grown.flying
  case posted => exact grown.posted
  case once => exact grown.once
  case stages =>
      intro other
      by_cases here : other = id
      · rw [here, mine]
        refine ⟨List.mem_append_right _ (List.mem_singleton_self _), unresolved, ?_, ?_⟩
        · exact fun inside => fresh (serial.flying receipt inside).1
        · exact fun inside => fresh (serial.posted receipt inside)
      · rw [calls other here]
        refine (grown.stages other).grow ?_ ?_ fun _ _ _ _ _ _ => nofun
        · exact fun _ _ grounded unposted => ⟨grounded, unposted⟩
        · exact fun _ inside => inside
  case own =>
      intro first second held one two
      by_cases here : first = id
      · by_cases there : second = id
        · exact here.trans there.symm
        · rw [here, mine] at one
          cases one
          rw [calls second there] at two
          exact absurd two (others second)
      · rw [calls first here] at one
        by_cases there : second = id
        · rw [there, mine] at two
          cases two
          exact absurd one (others first)
        · rw [calls second there] at two
          exact serial.own first second held one two
  case resolution => exact grown.resolution
  case arrived =>
      intro held member
      rcases mem_concat_act member with before | is
      · exact serial.arrived held before
      · cases is
  case settled => exact fun held inside resolved => (serial.settled held inside resolved).grow _
  case reserved =>
      have older : ∀ held, (held ∈ now.flying ∨ ∃ other, (now.calls other).unsent = some held) →
          ∃ other terms, Measured (acts ++ [.begin id clearance receipt]) other held.start.account
            [.clear other terms, .begin other terms held] := by
        intro held ahead
        obtain ⟨other, terms, measured⟩ := serial.reserved held ahead
        exact ⟨other, terms, measured.grow fun _ _ => nofun⟩
      rintro held (inside | ⟨other, waiting⟩)
      · exact older held (.inl inside)
      · by_cases here : other = id
        · rw [here, mine] at waiting
          cases waiting
          have sight := serial.stages id
          rw [cleared] at sight
          rcases sight with ⟨_, measured⟩ | past
          · rw [owner]
            exact ⟨id, clearance, measured.next fun _ => nofun⟩
          · rw [← owner, starts.current] at past
            exact absurd past (lt_irrefl _)
        · rw [calls other here] at waiting
          exact older held (.inr ⟨other, waiting⟩)
  case dispatched =>
      intro other held member
      rcases mem_concat_act member with before | is
      · have started := (serial.dispatched other held before).1
        refine ⟨(grown.dispatched other held before).1, fun other waiting => ?_⟩
        by_cases here : other = id
        · rw [here, mine] at waiting
          cases waiting
          exact fresh started
        · rw [calls other here] at waiting
          exact (grown.dispatched _ held before).2 other waiting
      · cases is
  case answered =>
      intro other held answer member
      rcases mem_concat_act member with before | is
      · have started := (serial.answered other held answer before).1
        refine ⟨(grown.answered other held answer before).1, fun other waiting => ?_⟩
        by_cases here : other = id
        · rw [here, mine] at waiting
          cases waiting
          exact fresh started
        · rw [calls other here] at waiting
          exact (grown.answered _ held answer before).2 other waiting
      · cases is
  case notSent =>
      intro held started detail found other member
      rcases mem_concat_act member with before | is
      · exact grown.notSent held started detail found other before
      · cases is
  case rejected =>
      intro held started message found
      obtain ⟨other, answer, answered, rejects⟩ := grown.rejected held started message found
      exact ⟨other, answer, List.mem_append_left _ answered, rejects⟩

/-- A request that arrives is of the pending reservation of its account. -/
theorem Serial.arriving {length : Nat} {receipt : SubmissionReceipt}
    (serial : Serial replay acts now) (sound : replay.Sound length)
    (flying : receipt ∈ now.flying) :
    (replay.accounts receipt.start.account).pending = some receipt := by
  obtain ⟨started, unresolved⟩ := serial.flying receipt flying
  exact (sound.pending _ receipt).mpr ⟨started, rfl, unresolved⟩

/-- An order in flight that arrives is posted once, and the agreement holds of what is left in
flight. -/
theorem Serial.arrive {length : Nat} {receipt : SubmissionReceipt}
    (serial : Serial replay acts now) (sound : replay.Sound length)
    (flying : receipt ∈ now.flying) :
    Serial replay (acts ++ [.arrive receipt]) { now with
      flying := now.flying.erase receipt, posted := now.posted ++ [receipt] } := by
  have pending := serial.arriving sound flying
  obtain ⟨started, unresolved⟩ := serial.flying receipt flying
  have moved : (now.flying.erase receipt ++ (now.posted ++ [receipt])).Perm
      (now.flying ++ now.posted) := by
    rw [← List.append_assoc]
    exact (List.perm_append_comm.trans
      ((List.perm_cons_erase flying).symm.append_right now.posted))
  constructor
  case flying => exact fun held inside => serial.flying held (List.mem_of_mem_erase inside)
  case posted =>
      intro held inside
      rcases List.mem_append.mp inside with older | last
      · exact serial.posted held older
      · rw [List.mem_singleton.mp last]
        exact started
  case once => exact moved.nodup_iff.mpr serial.once
  case stages =>
      intro other
      refine (serial.stages other).grow ?_ ?_ ?_
      · intro held _ grounded unposted
        refine ⟨fun inside => grounded (List.mem_of_mem_erase inside), fun inside => ?_⟩
        rcases List.mem_append.mp inside with older | last
        · exact unposted older
        · rw [List.mem_singleton.mp last] at grounded
          exact grounded flying
      · exact fun held inside => List.mem_append_left _ inside
      · intro account revision _ vacant held owner same
        cases same
        rw [owner, vacant] at pending
        cases pending
  case own => exact serial.own
  case resolution => exact serial.resolution
  case arrived =>
      intro held member
      rcases mem_concat_act member with before | is
      · exact List.mem_append_left _ (serial.arrived held before)
      · cases is
        exact List.mem_append_right _ (List.mem_singleton_self _)
  case settled =>
      intro held inside resolved
      rcases List.mem_append.mp inside with older | last
      · exact (serial.settled held older resolved).grow _
      · rw [List.mem_singleton.mp last] at resolved
        exact absurd resolved unresolved
  case reserved =>
      intro held ahead
      have older : held ∈ now.flying ∨ ∃ other, (now.calls other).unsent = some held :=
        ahead.imp_left List.mem_of_mem_erase
      -- the account's one pending reservation has arrived
      have apart : held ≠ receipt := by
        rintro rfl
        rcases ahead with inside | ⟨other, waiting⟩
        · exact (List.nodup_append.mp serial.once).1.not_mem_erase inside
        · exact ((serial.stages other).waiting waiting).2.2.1 flying
      have isOpen : held ∈ replay.starts ∧ held.seq ∉ replay.resolved := by
        rcases older with inside | ⟨other, waiting⟩
        · exact serial.flying held inside
        · have known := (serial.stages other).waiting waiting
          exact ⟨known.1, known.2.1⟩
      obtain ⟨id, clearance, measured⟩ := serial.reserved held older
      refine ⟨id, clearance, measured.grow fun other owner same => ?_⟩
      cases same
      rw [owner, (sound.pending _ held).mpr ⟨isOpen.1, rfl, isOpen.2⟩] at pending
      exact apart (Option.some.inj pending)
  case dispatched =>
      intro id held member
      rcases mem_concat_act member with before | is
      · exact serial.dispatched id held before
      · cases is
  case answered =>
      intro id held answer member
      rcases mem_concat_act member with before | is
      · exact serial.answered id held answer before
      · cases is
  case notSent =>
      intro held member detail resolved id dispatched
      rcases mem_concat_act dispatched with before | is
      · exact serial.notSent held member detail resolved id before
      · cases is
  case rejected =>
      intro held member message resolved
      obtain ⟨id, answer, answered, rejects⟩ := serial.rejected held member message resolved
      exact ⟨id, answer, List.mem_append_left _ answered, rejects⟩

/-- A request is lost on its way. -/
theorem Serial.lose {receipt : SubmissionReceipt} (serial : Serial replay acts now) :
    Serial replay (acts ++ [.lose receipt])
      { now with flying := now.flying.erase receipt } := by
  constructor
  case flying => exact fun held inside => serial.flying held (List.mem_of_mem_erase inside)
  case posted => exact serial.posted
  case once =>
      exact serial.once.sublist ((List.erase_sublist ..).append_right _)
  case stages =>
      intro other
      refine (serial.stages other).grow ?_ (fun _ inside => inside) fun _ _ _ _ _ _ => nofun
      intro held _ grounded unposted
      exact ⟨fun inside => grounded (List.mem_of_mem_erase inside), unposted⟩
  case own => exact serial.own
  case resolution => exact serial.resolution
  case arrived =>
      intro held member
      rcases mem_concat_act member with before | is
      · exact serial.arrived held before
      · cases is
  case settled => exact fun held inside resolved => (serial.settled held inside resolved).grow _
  case reserved =>
      intro held ahead
      obtain ⟨id, clearance, measured⟩ :=
        serial.reserved held (ahead.imp_left List.mem_of_mem_erase)
      exact ⟨id, clearance, measured.grow fun _ _ => nofun⟩
  case dispatched =>
      intro id held member
      rcases mem_concat_act member with before | is
      · exact serial.dispatched id held before
      · cases is
  case answered =>
      intro id held answer member
      rcases mem_concat_act member with before | is
      · exact serial.answered id held answer before
      · cases is
  case notSent =>
      intro held member detail resolved id dispatched
      rcases mem_concat_act dispatched with before | is
      · exact serial.notSent held member detail resolved id before
      · cases is
  case rejected =>
      intro held member message resolved
      obtain ⟨id, answer, answered, rejects⟩ := serial.rejected held member message resolved
      exact ⟨id, answer, List.mem_append_left _ answered, rejects⟩

/-- A call sends the request it signed. -/
theorem Serial.dispatch {call : OrderCall} {receipt : SubmissionReceipt}
    (serial : Serial replay acts now) (signed : now.calls id = .signed call receipt) :
    Serial replay (acts ++ [.dispatch id receipt])
      ({ now with flying := receipt :: now.flying }.withCall id (.sent call receipt)) := by
  have known := serial.stages id
  rw [signed] at known
  obtain ⟨started, unresolved, grounded, unposted⟩ := known
  have calls : ∀ other, other ≠ id →
      ({ now with flying := receipt :: now.flying }.withCall id (.sent call receipt)).calls other =
        now.calls other := fun other apart => Function.update_of_ne apart ..
  have mine : ({ now with flying := receipt :: now.flying }.withCall id
      (.sent call receipt)).calls id = .sent call receipt := Function.update_self ..
  have charge : ∀ other, (({ now with flying := receipt :: now.flying }.withCall id
      (.sent call receipt)).calls other).charge = (now.calls other).charge := by
    intro other
    by_cases here : other = id
    · rw [here, mine, signed]
      rfl
    · rw [calls other here]
  -- the request was this call's to send
  have alone : ∀ other, other ≠ id → (now.calls other).unsent ≠ some receipt := by
    intro other apart waiting
    refine apart (serial.own other id receipt (OrderStage.charge_of_unsent waiting) ?_)
    rw [signed]
    rfl
  constructor
  case flying =>
      intro held inside
      rcases List.mem_cons.mp inside with rfl | older
      · exact ⟨started, unresolved⟩
      · exact serial.flying held older
  case posted => exact serial.posted
  case once =>
      refine List.nodup_cons.mpr ⟨fun inside => ?_, serial.once⟩
      rcases List.mem_append.mp inside with older | older
      · exact grounded older
      · exact unposted older
  case stages =>
      intro other
      by_cases here : other = id
      · rw [here, mine]
        exact started
      · rw [calls other here]
        refine (serial.stages other).grow ?_ (fun _ inside => inside) fun _ _ _ _ _ _ => nofun
        intro held waiting grounded' unposted'
        refine ⟨fun inside => ?_, unposted'⟩
        rcases List.mem_cons.mp inside with rfl | older
        · exact alone other here waiting
        · exact grounded' older
  case own =>
      intro first second held one two
      rw [charge] at one two
      exact serial.own first second held one two
  case resolution => exact serial.resolution
  case arrived =>
      intro held member
      rcases mem_concat_act member with before | is
      · exact serial.arrived held before
      · cases is
  case settled => exact fun held inside resolved => (serial.settled held inside resolved).grow _
  case reserved =>
      intro held ahead
      have older : held ∈ now.flying ∨ ∃ other, (now.calls other).unsent = some held := by
        rcases ahead with inside | ⟨other, waiting⟩
        · rcases List.mem_cons.mp inside with rfl | older
          · exact .inr ⟨id, by rw [signed]; rfl⟩
          · exact .inl older
        · by_cases here : other = id
          · rw [here, mine] at waiting
            cases waiting
          · rw [calls other here] at waiting
            exact .inr ⟨other, waiting⟩
      obtain ⟨other, clearance, measured⟩ := serial.reserved held older
      exact ⟨other, clearance, measured.grow fun _ _ => nofun⟩
  case dispatched =>
      have waiting : ∀ held, (∀ other, other ≠ id → (now.calls other).unsent ≠ some held) →
          ∀ other, (({ now with flying := receipt :: now.flying }.withCall id
            (.sent call receipt)).calls other).unsent ≠ some held := by
        intro held none other
        by_cases here : other = id
        · rw [here, mine]
          exact nofun
        · rw [calls other here]
          exact none other here
      intro other held member
      rcases mem_concat_act member with before | is
      · obtain ⟨started, none⟩ := serial.dispatched other held before
        exact ⟨started, waiting held fun other _ => none other⟩
      · cases is
        exact ⟨started, waiting _ alone⟩
  case answered =>
      intro other held answer member
      rcases mem_concat_act member with before | is
      · obtain ⟨started, none⟩ := serial.answered other held answer before
        exact ⟨started, fun other => charge other ▸ none other⟩
      · cases is
  case notSent =>
      intro held member detail resolved other dispatched
      rcases mem_concat_act dispatched with before | is
      · exact serial.notSent held member detail resolved other before
      · cases is
        exact unresolved (serial.resolution _ _ resolved)
  case rejected =>
      intro held member message resolved
      obtain ⟨other, answer, answered, rejects⟩ := serial.rejected held member message resolved
      exact ⟨other, answer, List.mem_append_left _ answered, rejects⟩

end Invariant

end Oppen.Mcp
