import Oppen.Guardrail.KillCalls
import Oppen.Ledger.Gaps
import Oppen.Ledger.System

/-! # A stop stays until its release returns

What is stopped in a process blocks there until a release of the same scope goes through. A
release compares the stop generation it captured, so one that was under way when a stop landed
goes through no more.
-/

namespace Oppen.Guardrail

open Foundation Oppen.Ledger

/-! ## What a release leaves engaged -/

namespace KillSwitch

variable {Decimal Amount : Type} {kill : KillSwitch Decimal} {scope other : KillScope}

/-- A release leaves every other scope as it was. -/
theorem engaged_release_iff (apart : other ≠ scope) :
    (kill.release scope).Engaged other ↔ kill.Engaged other := by
  cases scope with
  | global =>
      cases other with
      | global => exact absurd rfl apart
      | agent => exact .rfl
  | agent released =>
      cases other with
      | global => exact .rfl
      | agent agent =>
          have here : agent ≠ released := fun same => apart (congrArg KillScope.agent same)
          rw [engaged_agent_iff, engaged_agent_iff, release, Json.KeyMap.keys, Json.KeyMap.keys,
            Json.KeyMap.remove, List.mem_map, List.mem_map]
          refine exists_congr fun entry => and_congr_left fun named => ?_
          rw [List.mem_filter, named]
          simp [here]

/-- Which scopes are engaged does not depend on how the amounts are written. -/
theorem engaged_map_iff (image : Decimal → Amount) :
    (kill.map image).Engaged scope ↔ kill.Engaged scope := by
  cases scope with
  | global =>
      rw [Engaged, Engaged, KillSwitch.map, engagement, engagement, Option.isSome_map]
  | agent agent =>
      rw [engaged_agent_iff, engaged_agent_iff, KillSwitch.map, Json.KeyMap.keys, Json.KeyMap.keys,
        Json.KeyMap.map, List.map_map]
      exact .rfl

end KillSwitch

section Committed

variable {dec : PolicyDecimals} {journal : PolicyJournal dec} {publish : Bool}
  {store after : Store} {version : PolicyVersion dec.Decimal} {scope : KillScope}

/-- States that compare equal engage the same scopes. -/
theorem engaged_of_same {state other : PersistedState dec.Decimal} (same : state.Same dec other) :
    state.kill.Engaged scope ↔ other.kill.Engaged scope := by
  have images : (state.map dec.value).kill.Engaged scope ↔
    (other.map dec.value).kill.Engaged scope :=
    iff_of_eq (congrArg (fun state => state.kill.Engaged scope) same)
  exact (KillSwitch.engaged_map_iff dec.value).symm.trans
    (images.trans (KillSwitch.engaged_map_iff dec.value))

/-- A version that is appended holds the state it was asked to hold. -/
theorem appendPolicy_state {db grown : Db} {previous : Option PolicyLink}
    {operation : PolicyOperation dec.Decimal} {state : PersistedState dec.Decimal} {atMs : UInt64}
    {appended : Appended}
    (run : appendPolicy journal db previous operation state atMs = .ok (version, appended, grown)) :
    version.state = state := by
  obtain ⟨_, _, run⟩ := bind_eq_ok run
  obtain ⟨_, _, run⟩ := bind_eq_ok run
  obtain ⟨_, _, run⟩ := bind_eq_ok run
  obtain ⟨_, _, run⟩ := bind_eq_ok run
  obtain ⟨⟨row, _⟩, _, run⟩ := bind_eq_ok run
  cases row with
  | none => cases run
  | some row =>
      cases run
      rfl

/-- What a replacement returns is the state it was given, or one equal to it. -/
theorem replacePolicy_same {expectedRevision : Nat} {next : PersistedState dec.Decimal}
    {atMs : UInt64} {route : Option AuthorizedRoute}
    (run : replacePolicy journal publish expectedRevision next atMs route store =
      (.ok version, after)) : version.state.Same dec next := by
  rcases transact_outcome run with ⟨_, _, _, failed⟩ | ⟨done, body, _, value⟩
  · cases failed
  · rw [value version rfl]
    obtain ⟨_, _, body⟩ := bind_eq_ok body
    obtain ⟨_, _, body⟩ := bind_eq_ok body
    obtain ⟨current, _, body⟩ := bind_eq_ok body
    cases current with
    | none => cases body
    | some current =>
        obtain ⟨_, _, body⟩ := bind_eq_ok body
        split at body
        · rename_i held
          obtain ⟨_, _, body⟩ := bind_eq_ok body
          cases body
          exact held.elim (fun retry => retry.2.2) id
        · obtain ⟨⟨written, appended, db⟩, append, body⟩ := bind_eq_ok body
          cases body
          exact congrArg (PersistedState.map dec.value) (appendPolicy_state append)

/-- What a reviewed release returns is the state it was reviewed at, with its scope released. -/
theorem releaseKill_state {request : ReleaseRequest dec.Decimal}
    {gate : Except KillReleaseError UInt64} {receipt : KillReleaseReceipt dec.Decimal}
    (run : releaseKill journal publish request gate store = (.ok (receipt, version), after)) :
    version.state = request.released := by
  unfold releaseKill at run
  dsimp only at run
  split at run
  · cases run
  · rename_i released appended atMs middle committed
    split at run
    · cases run
    · cases run
      rcases transact_outcome committed with ⟨_, _, _, failed⟩ | ⟨done, body, _, value⟩
      · cases failed
      · obtain ⟨_, _, body⟩ := bind_eq_ok body
        obtain ⟨_, _, body⟩ := bind_eq_ok body
        obtain ⟨previous, _, body⟩ := bind_eq_ok body
        cases previous with
        | none => cases body
        | some previous =>
            obtain ⟨_, _, body⟩ := bind_eq_ok body
            obtain ⟨_, _, body⟩ := bind_eq_ok body
            obtain ⟨_, _, body⟩ := bind_eq_ok body
            obtain ⟨_, _, body⟩ := bind_eq_ok body
            obtain ⟨⟨written, row, db⟩, append, body⟩ := bind_eq_ok body
            cases body
            have same := value _ rfl
            cases same
            exact appendPolicy_state (mapError_eq_ok append)

end Committed

/-! ## What the calls do to the stops -/

namespace EngineState

section Stopped

variable {Decimal : Type} {state after last : EngineState Decimal} {scope : KillScope}

/-- A scope is stopped in this process. -/
def Stopped (state : EngineState Decimal) (scope : KillScope) : Prop :=
  scope ∈ state.emergency.map Prod.fst

/-- A stopped scope blocks whom it covers. -/
theorem Stopped.blocks (stopped : state.Stopped scope) {agent : String}
    (covers : scope.Covers agent) : (state.effectiveKill.blocking agent).isSome = true := by
  obtain ⟨entry, member, rfl⟩ := List.mem_map.mp stopped
  exact (effectiveKill_of_emergency member).blocks covers

/-- What every change but a release does: it removes no stop, and counts no generation back. -/
structure Steady (spared : KillScope → Prop) (state after : EngineState Decimal) : Prop where
  stopped : ∀ scope, spared scope → state.Stopped scope → after.Stopped scope
  generation : state.stopGeneration ≤ after.stopGeneration
  bounded : state.stopGeneration ≤ u64Max → after.stopGeneration ≤ u64Max

variable {spared : KillScope → Prop}

theorem Steady.refl (state : EngineState Decimal) : Steady spared state state :=
  ⟨fun _ _ => id, le_refl _, id⟩

/-- What two steps keep engaged, they keep together. -/
theorem Steady.trans (first : Steady spared state after) (second : Steady spared after last) :
    Steady spared state last where
  stopped scope free stopped := second.stopped scope free (first.stopped scope free stopped)
  generation := first.generation.trans second.generation
  bounded within := second.bounded (first.bounded within)

/-- A change of neither stops nor generation. -/
theorem Steady.of_eq (emergency : after.emergency = state.emergency)
    (generation : after.stopGeneration = state.stopGeneration) : Steady spared state after where
  stopped scope _ stopped := by
    rw [Stopped, emergency]
    exact stopped
  generation := generation.ge
  bounded within := by
    rw [generation]
    exact within

variable (spared)

/-- Inhibiting an engine removes no stop, and it counts the generation on. -/
theorem Steady.inhibit (bounded : state.stopGeneration ≤ u64Max) :
    Steady spared state state.inhibit where
  stopped _ _ stopped := stopped
  generation := by
    show _ ≤ min (state.stopGeneration + 1) u64Max
    omega
  bounded _ := min_le_right ..

theorem Steady.withdraw (released : Bool) : Steady spared state (state.withdraw released) :=
  .of_eq rfl rfl

/-- A scope that is overlaid removes no other stop. -/
theorem Steady.overlay (more : KillScope) (engagement : Engagement Decimal) :
    Steady spared state (state.overlay more engagement) where
  stopped scope _ stopped := by
    rw [Stopped, EngineState.overlay]
    dsimp only
    split
    · exact stopped
    · rw [List.map_append]
      exact List.mem_append_left _ stopped
  generation := le_refl _
  bounded := id

/-- A release lifts the stop of its own scope only. -/
theorem Steady.lift (released : KillScope) (other : ∀ scope, spared scope → scope ≠ released) :
    Steady spared state (state.lift released) where
  stopped scope free stopped := by
    obtain ⟨entry, member, rfl⟩ := List.mem_map.mp stopped
    refine List.mem_map_of_mem (List.mem_filter.mpr ⟨member, ?_⟩)
    exact decide_eq_true (other entry.1 free)
  generation := le_refl _
  bounded := id

/-- The scope that is stopped or overlaid is stopped. -/
theorem stopped_overlay (state : EngineState Decimal) (scope : KillScope)
    (engagement : Engagement Decimal) : (state.overlay scope engagement).Stopped scope := by
  rw [Stopped, overlay]
  dsimp only
  split
  · rename_i held
    obtain ⟨entry, member, rfl⟩ := held
    exact List.mem_map_of_mem member
  · rw [List.map_append]
    exact List.mem_append_right _ (List.mem_singleton_self _)

/-- A stop removes no other one: it overlays its scope, and its inhibition counts the generation
on. -/
theorem Steady.stop (bounded : state.stopGeneration ≤ u64Max) (more : KillScope)
    (engagement : Engagement Decimal) : Steady spared state (state.stop more engagement) :=
  (Steady.overlay spared more engagement).trans (.inhibit spared bounded)

end Stopped

section Published

variable {dec : PolicyDecimals} {state after : EngineState dec.Decimal}

/-- Publishing a version keeps the overlay, and with it what was stopped by hand. -/
theorem Steady.publish (spared : KillScope → Prop) {version : PolicyVersion dec.Decimal}
    (run : state.publish dec version = .ok after) : Steady spared state after := by
  rw [publish_ok run]
  exact .of_eq rfl rfl

/-- Only the scope a release was asked for can leave the overlay. -/
theorem Steady.retain (spared : KillScope → Prop) (request : ReleaseRequest dec.Decimal) :
    Steady spared state (state.retain request) := by
  unfold EngineState.retain
  split
  · exact (Steady.overlay spared _ _).trans (.withdraw spared true)
  · exact .withdraw spared true

end Published

end EngineState

/-! ## What a step does -/

section Steps

variable {dec : PolicyDecimals} {journal : PolicyJournal dec} {now after : KillEngine dec.Decimal}
  {act : KillAct dec}

/-- No release of the scope goes through with the act. -/
def KillAct.Spares (act : KillAct dec) (scope : KillScope) : Prop :=
  ∀ id, act.releases ≠ some (id, scope)

/-- A stop that begins overlays its scope at once, before anything is written. -/
theorem KillEngine.beginning_state (now : KillEngine dec.Decimal) (id : Nat) (scope : KillScope)
    (engagement : Engagement dec.Decimal) :
    (now.beginning id scope engagement).state = now.state.stop scope engagement := by
  unfold KillEngine.beginning
  dsimp only
  split <;> rfl

/-- A stop that begins leaves the other calls as they were. -/
theorem KillEngine.beginning_calls (now : KillEngine dec.Decimal) (id : Nat) (scope : KillScope)
    (engagement : Engagement dec.Decimal) : ∃ halt,
      (now.beginning id scope engagement).calls = Function.update now.calls id (.pending halt) := by
  unfold KillEngine.beginning
  dsimp only
  split <;> exact ⟨_, rfl⟩

/-- **What a step does to the stops**: only a release that goes through removes one, and it
removes that of its own scope. -/
theorem KillStep.steady (step : KillStep journal now act after)
    (bounded : now.state.stopGeneration ≤ u64Max) :
    EngineState.Steady act.Spares now.state after.state := by
  cases step with
  | begin id scope engagement idle =>
      rw [KillEngine.beginning_state]
      exact .stop _ bounded scope engagement
  | trip id scope engagement => exact .stop _ bounded scope engagement
  | withdraw => exact .withdraw _ false
  | refresh _ _ _ _ _ published => exact .publish _ published
  | publish _ _ _ _ _ _ published => exact .publish _ published
  | take _ _ _ _ published => exact .publish _ published
  | «show» _ _ _ _ _ _ _ published => exact .publish _ published
  | release id scope generation change stage same =>
      refine .lift _ scope fun other spares named => ?_
      exact spares id (congrArg (fun scope => some (id, scope)) named.symm)
  | inhibit | review => exact .inhibit _ bounded
  | enable => exact .of_eq rfl rfl
  | overlay _ _ request => exact .retain _ request
  | complete id nowMs request version stage same timely state published =>
      have once : EngineState.Steady
          (KillAct.complete id request.display.scope nowMs : KillAct dec).Spares now.state state :=
        .publish _ published
      refine (once.trans (.lift _ request.display.scope fun other spares named => ?_)).trans
        (.inhibit _ (once.bounded bounded))
      exact spares id (congrArg (fun scope => some (id, scope)) named.symm)
  | fail _ inhibits =>
      cases inhibits with
      | true => exact .inhibit _ bounded
      | false => exact .refl _
  | _ => exact .refl _

/-- **What a stop does**: its scope is stopped, under another generation. -/
theorem KillStep.stops {scope : KillScope} (step : KillStep journal now act after)
    (stops : act.stops = some scope) : after.state.Stopped scope ∧
      after.state.stopGeneration = min (now.state.stopGeneration + 1) u64Max := by
  have stopped (engagement : Engagement dec.Decimal) :
      (now.state.stop scope engagement).Stopped scope :=
    EngineState.stopped_overlay now.state scope engagement
  cases step with
  | begin id _ engagement idle =>
      cases stops
      rw [KillEngine.beginning_state]
      exact ⟨stopped engagement, rfl⟩
  | trip id _ engagement =>
      cases stops
      exact ⟨stopped engagement, rfl⟩
  | _ => cases stops

/-! ## What a release compares -/

/-- The calls after a step: one of them is at another stage. -/
theorem captured_update {id : Nat} {stage : KillStage dec.Decimal} {generation : Nat}
    (calls : after.calls = Function.update now.calls id stage) {other : Nat}
    (captured : (after.calls other).captured = some generation) :
    other = id ∧ stage.captured = some generation ∨
      (now.calls other).captured = some generation := by
  rw [calls, Function.update_apply] at captured
  split at captured
  · rename_i here
    exact .inl ⟨here, captured⟩
  · exact .inr captured

/-- A release that is reviewed has captured the generation and the revision of its state. -/
theorem captured_reviewRelease {state : EngineState dec.Decimal}
    {snapshot : ReleaseSnapshot dec.Decimal} {network : Network} {scope : KillScope}
    {operationId : String} {nowMs : UInt64} {request : ReleaseRequest dec.Decimal}
    (bounded : state.stopGeneration ≤ u64Max)
    (run : reviewRelease state snapshot network scope operationId nowMs = .ok request) :
    request.display.stopGeneration.toNat = state.stopGeneration := by
  obtain ⟨_, _, run⟩ := bind_eq_ok run
  obtain ⟨_, _, run⟩ := bind_eq_ok run
  obtain ⟨_, _, run⟩ := bind_eq_ok run
  obtain ⟨_, _, run⟩ := bind_eq_ok run
  cases run
  exact UInt64.toNat_ofNat_of_lt' (Nat.lt_of_le_of_lt bounded (by decide))

/-- **What a call compares** is what it had captured, or the generation it captures now. -/
theorem KillStep.captured (step : KillStep journal now act after)
    (bounded : now.state.stopGeneration ≤ u64Max) {id generation : Nat}
    (captured : (after.calls id).captured = some generation) :
    (now.calls id).captured = some generation ∨
      act.captures = some id ∧ generation = now.state.stopGeneration := by
  have moved {call : Nat} {stage : KillStage dec.Decimal}
      (calls : after.calls = Function.update now.calls call stage)
      (kept : stage.captured = some generation → (now.calls call).captured = some generation) :
      (now.calls id).captured = some generation := by
    rcases captured_update calls captured with ⟨rfl, held⟩ | before
    · exact kept held
    · exact before
  cases step with
  | begin call scope engagement =>
      obtain ⟨halt, calls⟩ := now.beginning_calls call scope engagement
      exact .inl (moved calls nofun)
  | capture call scope atMs =>
      rcases captured_update rfl captured with ⟨rfl, held⟩ | before
      · exact .inr ⟨rfl, (Option.some.inj held).symm⟩
      · exact .inl before
  | «show» call operationId nowMs scope snapshot stage state published request reviewed =>
      rcases captured_update rfl captured with ⟨rfl, held⟩ | before
      · have counted : state.stopGeneration = now.state.stopGeneration := by
          rw [EngineState.publish_ok published]
        rw [← counted] at bounded ⊢
        rw [← captured_reviewRelease bounded reviewed]
        exact .inr ⟨rfl, (Option.some.inj held).symm⟩
      · exact .inl before
  | inhibit | enable | write => exact .inl captured
  | withdraw call change releases stage | exchange call publish change releases stage
  | publish call change releases version stage | confirm call request stage
  | overlay call nowMs request stage | commit call nowMs publish request stage =>
      refine .inl (moved rfl fun held => ?_)
      rw [stage]
      exact held
  | _ => exact .inl (moved rfl nofun)

/-- What a release that goes through compared. -/
theorem KillStep.released {id : Nat} {scope : KillScope} (step : KillStep journal now act after)
    (releases : act.releases = some (id, scope)) :
    (now.calls id).captured = some now.state.stopGeneration := by
  cases step with
  | release call named generation change stage same =>
      cases releases
      rw [stage, same]
      rfl
  | complete call nowMs request version stage same =>
      cases releases
      rw [stage, same]
      rfl
  | _ => cases releases

/-! ## Runs -/

/-- The generation is a 64-bit number, and what was captured is not ahead of it. -/
structure KillEngine.Counted (now : KillEngine dec.Decimal) : Prop where
  bounded : now.state.stopGeneration ≤ u64Max
  captured : ∀ id generation, (now.calls id).captured = some generation →
    generation ≤ now.state.stopGeneration

/-- An engine that was just started has captured nothing, so nothing captured is ahead of its
generation. -/
theorem KillEngine.start_counted (journal : PolicyJournal dec) (store : Store) :
    (KillEngine.start journal store).Counted where
  bounded := by
    have unread : (EngineState.unread : EngineState dec.Decimal).stopGeneration ≤ u64Max :=
      Nat.zero_le _
    unfold KillEngine.start
    dsimp only
    split
    · split
      · rename_i published
        rw [EngineState.publish_ok published]
        exact unread
      · exact unread
    · exact unread
  captured _ _ := nofun

/-- Every step keeps what was captured at or below the generation. -/
theorem KillStep.counted (step : KillStep journal now act after) (counted : now.Counted) :
    after.Counted where
  bounded := (step.steady counted.bounded).bounded counted.bounded
  captured id generation captured := by
    have rises := (step.steady counted.bounded).generation
    rcases step.captured counted.bounded captured with before | ⟨_, rfl⟩
    · exact (counted.captured id generation before).trans rises
    · exact rises

/-- Over a whole run what was captured stays at or below the generation, and the generation stays a
64-bit number. -/
theorem run_counted {start : KillEngine dec.Decimal} {acts : List (KillAct dec)}
    (run : Run (KillStep journal) start acts now) (counted : start.Counted) : now.Counted :=
  run.invariant KillEngine.Counted (fun _ _ _ counted step => step.counted counted) counted

/-- A stopped scope stays stopped while no release of it goes through. -/
theorem run_stopped {middle : KillEngine dec.Decimal} {acts : List (KillAct dec)}
    {scope : KillScope} (run : Run (KillStep journal) middle acts now) (counted : middle.Counted)
    (stopped : middle.state.Stopped scope) (spared : ∀ act ∈ acts, act.Spares scope) :
    now.state.Stopped scope := by
  induction run with
  | nil => exact stopped
  | snoc prior step ih =>
      have held := ih fun act member => spared act (List.mem_append_left _ member)
      have bounded := (run_counted prior counted).bounded
      exact (step.steady bounded).stopped scope (spared _ List.mem_concat_self) held

/-- The releases of a scope that go through among the acts were under way before them. -/
def Underway (acts : List (KillAct dec)) (scope : KillScope) : Prop :=
  ∀ earlier release later id, acts = earlier ++ release :: later →
    release.releases = some (id, scope) → ∀ act ∈ earlier, act.captures ≠ some id

/-- The releases of a scope were under way in the shorter run too. -/
theorem Underway.init {acts : List (KillAct dec)} {scope : KillScope}
    (underway : Underway (acts ++ [act]) scope) : Underway acts scope := by
  intro earlier release later id same
  refine underway earlier release (later ++ [act]) id ?_
  rw [same, List.append_assoc, List.cons_append]

/-- **A stop outlasts the releases that were under way when it landed**: they compare the
generation they captured before it. -/
theorem run_outlasts {middle : KillEngine dec.Decimal} {acts : List (KillAct dec)}
    {scope : KillScope} (run : Run (KillStep journal) middle acts now) (counted : middle.Counted)
    (stopped : middle.state.Stopped scope)
    (behind : ∀ id generation, (middle.calls id).captured = some generation →
      generation < middle.state.stopGeneration) (underway : Underway acts scope) :
    now.state.Stopped scope := by
  suffices all : now.state.Stopped scope ∧
      middle.state.stopGeneration ≤ now.state.stopGeneration ∧
      ∀ id generation, (∀ act ∈ acts, act.captures ≠ some id) →
        (now.calls id).captured = some generation →
          (middle.calls id).captured = some generation by exact all.1
  induction run with
  | nil => exact ⟨stopped, le_refl _, fun _ _ _ captured => captured⟩
  | @snoc acts before last act prior step ih =>
      obtain ⟨held, rises, carried⟩ := ih underway.init
      have bounded := (run_counted prior counted).bounded
      have steady := step.steady bounded
      refine ⟨?_, rises.trans steady.generation, fun id generation uncaptured captured => ?_⟩
      · by_cases spares : act.Spares scope
        · exact steady.stopped scope spares held
        · -- a release that goes through now compares what it captured before the stop
          simp only [KillAct.Spares, ne_eq, not_forall, not_not] at spares
          obtain ⟨id, releases⟩ := spares
          have uncaptured := underway acts act [] id rfl releases
          have compared := carried id _ uncaptured (step.released releases)
          exact absurd (behind id _ compared) (not_lt.mpr rises)
      · have earlier := fun act member => uncaptured act (List.mem_append_left _ member)
        rcases step.captured bounded captured with kept | ⟨captures, _⟩
        · exact carried id generation earlier kept
        · exact absurd captures (uncaptured act List.mem_concat_self)

/-! ## What a release publishes -/

/-- A release that is under way changes nothing but its own scope. -/
def KillStage.Spares : KillStage dec.Decimal → Prop
  | .changing change (some (scope, _)) | .withdrawn change (some (scope, _)) =>
      change.next = change.base.releasing scope
  | .exchanged change (some (scope, _)) version => ∀ other, other ≠ scope →
      (version.state.kill.Engaged other ↔ change.base.kill.Engaged other)
  | .removed request version => ∀ other, other ≠ request.display.scope →
      (version.state.kill.Engaged other ↔ request.before.kill.Engaged other)
  | _ => True

/-- Every step keeps that the releases under way change nothing but their own scope. -/
theorem KillStep.spares (step : KillStep journal now act after)
    (spares : ∀ id, (now.calls id).Spares) (id : Nat) : (after.calls id).Spares := by
  have moved {call : Nat} {stage : KillStage dec.Decimal}
      (calls : after.calls = Function.update now.calls call stage) (held : stage.Spares) :
      (after.calls id).Spares := by
    rw [calls, Function.update_apply]
    split
    · exact held
    · exact spares id
  cases step with
  | begin call scope engagement =>
      obtain ⟨halt, calls⟩ := now.beginning_calls call scope engagement
      exact moved calls trivial
  | capture => exact moved rfl rfl
  | withdraw call change releases stage =>
      have held := spares call
      rw [stage] at held
      exact moved rfl (by cases releases <;> exact held)
  | exchange call publish change releases stage version store replaced =>
      have held := spares call
      rw [stage] at held
      cases releases with
      | none => exact moved rfl trivial
      | some release =>
          have held : change.next = change.base.releasing release.1 := held
          refine moved rfl fun other apart => ?_
          rw [engaged_of_same (replacePolicy_same replaced), held]
          exact KillSwitch.engaged_release_iff apart
  | commit call nowMs publish request stage same timely receipt version store removed =>
      refine moved rfl fun other apart => ?_
      rw [releaseKill_state removed]
      exact KillSwitch.engaged_release_iff apart
  | publish call change releases => exact moved rfl (by cases releases <;> exact trivial)
  | configure | engage | lockTripped => exact moved rfl trivial
  | inhibit | enable | write => exact spares id
  | _ => exact moved rfl trivial

/-- An act that stops captures nothing. -/
theorem KillAct.captures_of_stops {scope : KillScope} (stops : act.stops = some scope) :
    act.captures = none := by
  cases act with
  | begin | trip => rfl
  | _ => cases stops

/-- What was captured before a stop is behind it. -/
theorem KillStep.behind {scope : KillScope} (step : KillStep journal now act after)
    (counted : now.Counted) (stops : act.stops = some scope)
    (counting : now.state.stopGeneration < u64Max) (id generation : Nat)
    (captured : (after.calls id).captured = some generation) :
    generation < after.state.stopGeneration := by
  rw [(step.stops stops).2]
  rcases step.captured counted.bounded captured with before | ⟨captures, _⟩
  · have ahead := counted.captured id generation before
    omega
  · rw [KillAct.captures_of_stops stops] at captures
    cases captures

/-- **A stop persists.** Whatever stops, breakers, refreshes, commits that fail or conflict and
other processes do between, an agent whose scope was stopped is blocked until a release of that very
scope goes through, and one that was under way when the stop landed does not. What is no such
release removes no stop, and what a release publishes keeps every other engagement of the policy it
was read from. The overlay in memory is what carries the stop over commits that fail. -/
theorem kill_persists (journal : PolicyJournal dec) (store : Store) {acts : List (KillAct dec)}
    (run : Run (KillStep journal) (.start journal store) acts now) :
    (∀ earlier act later scope, acts = earlier ++ act :: later → act.stops = some scope →
      (∀ release ∈ later, release.Spares scope) → ∀ agent, scope.Covers agent →
        (now.state.effectiveKill.blocking agent).isSome = true) ∧
    (∀ earlier act later scope before middle,
      Run (KillStep journal) (.start journal store) earlier before →
        KillStep journal before act middle → Run (KillStep journal) middle later now →
          act.stops = some scope → before.state.stopGeneration < u64Max → Underway later scope →
            ∀ agent, scope.Covers agent →
              (now.state.effectiveKill.blocking agent).isSome = true) ∧
    (∀ act after scope, KillStep journal now act after → act.Spares scope →
      now.state.Stopped scope → after.state.Stopped scope) ∧
    ∀ id, (now.calls id).Spares := by
  have initial := KillEngine.start_counted journal store
  refine ⟨?_, ?_, ?_, ?_⟩
  · rintro earlier act later scope rfl stops spared agent covers
    obtain ⟨before, first, rest⟩ := run.split
    obtain ⟨middle, step, onward⟩ := rest.head
    have counted := step.counted (run_counted first initial)
    exact (run_stopped onward counted (step.stops stops).1 spared).blocks covers
  · intro earlier act later scope before middle first step onward stops counting underway agent
      covers
    have counted := run_counted first initial
    exact (run_outlasts onward (step.counted counted) (step.stops stops).1
      (step.behind counted stops counting) underway).blocks covers
  · intro act after scope step spares stopped
    exact (step.steady (run_counted run initial).bounded).stopped scope spares stopped
  · exact run.invariant (fun now => ∀ id, (now.calls id).Spares)
      (fun _ _ _ spares step => step.spares spares) fun _ => trivial

end Steps

namespace OneHalt

/-- The compact reader and the checksum in place of the real libraries, one tag for every
message and a registry without routes. -/
def journal : PolicyJournal .reference where
  lib := .reference checksum
  handle := ⟨.testnet, true⟩
  key := .constant
  registry := ⟨fun _ _ => .ok none, fun _ => .ok [], fun _ _ => .error "no route"⟩

/-- An engine over a new file, which has no policy yet. -/
def fresh : KillEngine PolicyDecimals.reference.Decimal :=
  .start journal (opened journal.lib journal.handle)

def halted : KillEngine PolicyDecimals.reference.Decimal :=
  fresh.beginning 0 (.agent "alpha") ⟨7, .operator⟩

/-- The halt could not be made durable. -/
def unpersisted : KillEngine PolicyDecimals.reference.Decimal :=
  ({ halted with state := halted.state.inhibit }.unlocked 0).withCall 0 .closed

/-- The sample's stop fails to be written and stays in the overlay. -/
theorem unpersisted_run : Run (KillStep journal) fresh
    ([.begin 0 (.agent "alpha") ⟨7, .operator⟩] ++ [.fail 0 true]) unpersisted := by
  have stop : KillStep journal fresh (.begin 0 (.agent "alpha") ⟨7, .operator⟩) halted :=
    .begin 0 _ _ rfl
  have failed : KillStep journal halted (.fail 0 true) unpersisted :=
    .fail 0 true ⟨nofun, nofun⟩
  exact .snoc (.single stop) failed

/-- Its agent is blocked nevertheless. -/
theorem unpersisted_blocks :
    (unpersisted.state.effectiveKill.blocking "alpha").isSome = true := by
  refine (kill_persists journal _ unpersisted_run).1 [] _ [.fail 0 true] (.agent "alpha") rfl rfl
    ?_ "alpha" rfl
  intro act member id
  rw [List.mem_singleton.mp member]
  exact nofun

end OneHalt

end Oppen.Guardrail
