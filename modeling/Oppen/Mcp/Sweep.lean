import Oppen.Mcp.Supervision

/-! # Clean sweeps

A sweep that reports no error has read the resting orders of every account its stop covers
and had each of them cancelled. The engine cannot forget the stop in between: it holds the
version that engages it, or nothing is acknowledged.
-/

namespace Oppen.Mcp

open Foundation Oppen.Json Oppen.Guardrail Oppen.Ledger

section Engine

variable {dec : PolicyDecimals} {engine : EngineState dec.Decimal}
  {version : PolicyVersion dec.Decimal}

/-- A version is taken over unless a later one was, or admission is inhibited. -/
theorem observe_cases (engine : EngineState dec.Decimal) (counted : 0 < version.revision) :
    (engine.observe dec version =
        { engine with policyRevision := version.revision, policy := version.state } ∧
      engine.policyRevision ≤ version.revision) ∨
    (engine.observe dec version = engine.inhibit ∧ version.revision ≤ engine.policyRevision) := by
  cases published : engine.publish dec version with
  | ok state =>
      have observed : engine.observe dec version = state := by
        rw [EngineState.observe, published]
      obtain ⟨done, first, rest⟩ := bind_eq_ok published
      obtain ⟨_, _, final⟩ := bind_eq_ok rest
      cases final
      have forward := refuseIf_ok first
      exact .inl ⟨observed, by omega⟩
  | error error =>
      have observed : engine.observe dec version = engine.inhibit := by
        rw [EngineState.observe, published]
      refine .inr ⟨observed, ?_⟩
      by_contra ahead
      rw [EngineState.publish, refuse_passes (by omega), refuse_passes fun same => by omega]
        at published
      cases published

end Engine

/-! ## Versions -/

/-- A version of the journal. -/
def Known {Decimal : Type} (policies : List (PersistedState Decimal))
    (version : PolicyVersion Decimal) : Prop :=
  0 < version.revision ∧ policies[version.revision - 1]? = some version.state

section Versions

variable {Decimal : Type} {policies : List (PersistedState Decimal)}
  {version : PolicyVersion Decimal}

/-- A version that is known stays so after a commit. -/
theorem Known.committed (known : Known policies version) (state : PersistedState Decimal) :
    Known (policies ++ [state]) version :=
  ⟨known.1, List.getElem?_append_left (List.getElem?_eq_some_iff.mp known.2).1 ▸ known.2⟩

/-- The version of the state that was committed is known. -/
theorem known_new (policies : List (PersistedState Decimal)) (state : PersistedState Decimal) :
    Known (policies ++ [state]) ⟨policies.length + 1, state⟩ :=
  ⟨Nat.succ_pos _, List.getElem?_concat_length⟩

/-- The current version is known, and it is the last. -/
theorem known_current (current : currentVersion policies = some version) :
    Known policies version ∧ version.revision = policies.length := by
  obtain ⟨state, last, rfl⟩ := Option.map_eq_some_iff.mp current
  have nonempty : 0 < policies.length := by
    cases policies with
    | nil => cases last
    | cons => exact Nat.succ_pos _
  exact ⟨⟨nonempty, by rw [← List.getLast?_eq_getElem?]; exact last⟩, rfl⟩

/-- A known version's revision is at most the number of the policies. -/
theorem Known.le_length (known : Known policies version) :
    version.revision ≤ policies.length := by
  have bound := (List.getElem?_eq_some_iff.mp known.2).1
  have := known.1
  omega

end Versions

/-! ## What a runtime holds -/

section Held

variable {dec : PolicyDecimals}

/-- The engine has seen no policy, or holds a version of the journal. -/
def Published (policies : List (PersistedState dec.Decimal))
    (engine : EngineState dec.Decimal) : Prop :=
  engine.policyRevision = 0 ∨ Known policies ⟨engine.policyRevision, engine.policy⟩

/-- What a runtime holds is of the journal, and nobody reviewed a stop that has not come. -/
structure Supervision.Sound (now : Supervision dec.Decimal) : Prop where
  published : Published now.policies now.engine
  reads : ∀ version ∈ now.reads, Known now.policies version
  sweeping : ∀ sweep ∈ now.sweep, ∀ version, sweep.refresh = .read version →
    Known now.policies version
  reviewed : ∀ acknowledging ∈ now.acknowledging,
    acknowledging.generation ≤ now.engine.stopGeneration
  generation : now.engine.stopGeneration ≤ u64Max
  running : ∀ sweep ∈ now.sweep, sweep.sequence = now.status.startedSequence
  completed : now.status.completedSequence ≤ now.status.startedSequence

variable {policies : List (PersistedState dec.Decimal)} {engine : EngineState dec.Decimal}
  {version : PolicyVersion dec.Decimal} {now after : Supervision dec.Decimal}
  {act : SupervisionAct dec}

/-- An engine that observes a known version has published it or a later one. -/
theorem Published.observe (published : Published policies engine)
    (known : Known policies version) : Published policies (engine.observe dec version) := by
  rcases observe_cases engine known.1 with ⟨taken, _⟩ | ⟨inhibited, _⟩
  · rw [taken]
    exact .inr known
  · rw [inhibited]
    exact published

/-- What an engine has published stays among the versions after a commit. -/
theorem Published.committed (published : Published policies engine)
    (state : PersistedState dec.Decimal) : Published (policies ++ [state]) engine :=
  published.imp_right fun known => known.committed state

/-- Inhibiting counts, up to the last generation. -/
theorem inhibit_generation (counted : engine.stopGeneration ≤ u64Max) :
    engine.stopGeneration ≤ engine.inhibit.stopGeneration ∧
      engine.inhibit.stopGeneration ≤ u64Max := by
  rw [EngineState.inhibit]
  exact ⟨le_min (Nat.le_succ _) counted, min_le_right _ _⟩

/-- Observing a version does not lower the stop generation and keeps it within its width. -/
theorem observe_generation (known : Known policies version)
    (counted : engine.stopGeneration ≤ u64Max) :
    engine.stopGeneration ≤ (engine.observe dec version).stopGeneration ∧
      (engine.observe dec version).stopGeneration ≤ u64Max := by
  rcases observe_cases engine known.1 with ⟨taken, _⟩ | ⟨inhibited, _⟩
  · rw [taken]
    exact ⟨le_refl _, counted⟩
  · rw [inhibited]
    exact inhibit_generation counted

/-- The engine replaced by one that holds a version of the journal and forgets no stop. -/
theorem Supervision.Sound.withEngine (sound : now.Sound)
    (published : Published now.policies engine)
    (counted : now.engine.stopGeneration ≤ engine.stopGeneration ∧ engine.stopGeneration ≤ u64Max) :
    Supervision.Sound { now with engine } :=
  { sound with
    published
    reviewed := fun acknowledging held => (sound.reviewed acknowledging held).trans counted.1
    generation := counted.2 }

/-- The sweep replaced by one at another point of the same turn. -/
theorem Supervision.Sound.withSweep (sound : now.Sound) {sweep : Sweep dec.Decimal}
    (running : now.sweep = some sweep) (next : Sweep dec.Decimal)
    (same : next.sequence = sweep.sequence)
    (refresh : ∀ version, next.refresh = .read version →
      sweep.refresh = .read version ∨ Known now.policies version) :
    Supervision.Sound { now with sweep := some next } := by
  refine { sound with sweeping := ?_, running := ?_ }
  · rintro _ ⟨⟩ version read
    exact (refresh version read).elim (sound.sweeping sweep running version) id
  · rintro _ ⟨⟩
    exact same.trans (sound.running sweep running)

/-- Every step keeps the supervisor, its sweeps and the engine in agreement. -/
theorem Supervision.Sound.step (sound : now.Sound) (step : SupervisionStep now act after) :
    after.Sound := by
  cases step with
  | stop scope engagement =>
      exact sound.withEngine sound.published (inhibit_generation sound.generation)
  | inhibit => exact sound.withEngine sound.published (inhibit_generation sound.generation)
  | withdraw | overlay | lift | acknowledge =>
      exact sound.withEngine sound.published ⟨le_refl _, sound.generation⟩
  | commit state own =>
      refine { sound with
        published := sound.published.committed state, reads := ?_, sweeping := ?_ }
      · intro version member
        split at member
        · rcases List.mem_cons.mp member with rfl | older
          · exact known_new now.policies state
          · exact (sound.reads version older).committed state
        · exact (sound.reads version member).committed state
      · intro sweep running version read
        exact (sound.sweeping sweep running version read).committed state
  | read version current =>
      refine { sound with reads := fun other member => ?_ }
      rcases List.mem_cons.mp member with rfl | older
      · exact (known_current current).1
      · exact sound.reads other older
  | publish version held =>
      have known := sound.reads version held
      exact sound.withEngine (sound.published.observe known)
        (observe_generation known sound.generation)
  | review generation seen =>
      refine { sound with reviewed := fun other member => ?_ }
      rcases List.mem_cons.mp member with rfl | older
      · exact seen
      · exact sound.reviewed other older
  | reread acknowledging held version current =>
      refine { sound with reviewed := fun other member => ?_ }
      rcases List.mem_cons.mp member with rfl | older
      · exact sound.reviewed acknowledging held
      · exact sound.reviewed other older
  | pair | acquire | letGo | request | exhaust => exact { sound with }
  | begin alive idle counted =>
      refine { sound with sweeping := ?_, running := ?_, completed := ?_ }
      · rintro _ ⟨⟩ version read
        cases read
      · rintro _ ⟨⟩
        rfl
      · exact sound.completed.trans (Nat.le_succ _)
  | unreadable atMs alive idle counted =>
      refine { sound with running := ?_, completed := le_refl _ }
      intro sweep running
      rw [show now.sweep = some sweep from running] at idle
      cases idle
  | sweepRead sweep running pending version current =>
      refine sound.withSweep running _ rfl ?_
      rintro _ ⟨⟩
      exact .inr (known_current current).1
  | sweepReadFails sweep running pending =>
      have inhibited : Supervision.Sound { now with engine := now.engine.inhibit } :=
        sound.withEngine sound.published (inhibit_generation sound.generation)
      exact inhibited.withSweep running { sweep with refresh := .settled none } rfl fun _ => nofun
  | sweepPublish sweep running version read =>
      have known := sound.sweeping sweep running version read
      have observed := sound.withEngine (sound.published.observe known)
        (observe_generation known sound.generation)
      exact observed.withSweep running { sweep with refresh := .settled none } rfl fun _ => nofun
  | sweepRefreshLost detail sweep running unsettled =>
      refine { sound.withSweep running { sweep with refresh := .settled (some detail) } rfl
        fun _ => nofun with reads := ?_ }
      intro version member
      split at member
      · rename_i other read
        rcases List.mem_cons.mp member with rfl | older
        · exact sound.sweeping sweep running _ read
        · exact sound.reads version older
      · exact sound.reads version member
  | visit sweep running | skip sweep running =>
      exact sound.withSweep running _ rfl fun _ => .inl
  | needed sweep bound stage next working | unneeded sweep bound stage next working
  | lock sweep bound working | route sweep bound working | readNone sweep bound working
  | readOrders sweep bound working | clear sweep bound orders wires working
  | post sweep bound orders wires working | answered sweep bound orders wires working =>
      exact sound.withSweep working.1 _ rfl fun _ => .inl
  | fail sweep bound stage working detail retained =>
      exact { sound.withSweep working.1 { sweep with
        work := none, failure := some (sweep.failure.getD detail) } rfl fun _ => .inl with }
  | finish sweep running failure refreshed idle done atMs =>
      refine { sound with sweeping := fun _ => nofun, running := fun _ => nofun, completed := ?_ }
      exact (sound.running sweep running).le
  | abandon =>
      exact { sound with sweeping := fun _ => nofun, running := fun _ => nofun }

/-- A runtime whose supervisor has not run holds nothing. -/
theorem Supervision.start_sound (policies : List (PersistedState dec.Decimal))
    (tokens : TokenStore) : (Supervision.start policies tokens).Sound where
  published := .inl rfl
  reads := fun _ => nofun
  sweeping := fun _ => nofun
  reviewed := fun _ => nofun
  generation := Nat.zero_le _
  running := fun _ => nofun
  completed := le_refl _

/-- Every run keeps them in agreement. -/
theorem Supervision.Sound.run (sound : now.Sound) {acts : List (SupervisionAct dec)}
    (run : Run SupervisionStep now acts after) : after.Sound :=
  run.invariant Supervision.Sound (fun _ _ _ sound step => sound.step step) sound

end Held

/-! ## Stops that stay -/

/-- Where a stop is engaged: in the durable policy, or over it in the engine. -/
inductive Place where
  | journal
  | engine
  deriving DecidableEq

section Stops

variable {dec : PolicyDecimals} {now after : Supervision dec.Decimal} {act : SupervisionAct dec}
  {scope : KillScope} {baseline since : Nat}

def Supervision.Stopped (now : Supervision dec.Decimal) (scope : KillScope) : Place → Prop
  | .journal => ∃ version, currentVersion now.policies = some version ∧
      version.state.kill.Engaged scope
  | .engine => ∃ engagement, (scope, engagement) ∈ now.engine.emergency

/-- The act takes the stop away from where it is. -/
def SupervisionAct.Releases (act : SupervisionAct dec) (scope : KillScope) (place : Place) :
    Prop :=
  match act with
  | .commit state _ => place = .journal ∧ ¬ state.kill.Engaged scope
  | .lift other => place = .engine ∧ other = scope
  | _ => False

/-- The engine holds a version at least this late, or has no acknowledgment and waits for one
by an operator who read such a version. -/
def Supervision.Safe (now : Supervision dec.Decimal) (since : Nat) : Prop :=
  since ≤ now.engine.policyRevision ∨
    now.engine.acknowledged = none ∧ ∀ acknowledging ∈ now.acknowledging,
      now.engine.stopGeneration ≤ acknowledging.generation → acknowledging.generation ≠ u64Max →
        ∀ revision ∈ acknowledging.read, since ≤ revision

/-- The stop is in every version since one; a sweep past the baseline reads such a version, and
leaves the engine safe. -/
structure Supervision.Guarded (now : Supervision dec.Decimal) (baseline since : Nat)
    (scope : KillScope) : Prop where
  counted : 0 < since
  reached : since ≤ now.policies.length
  engaged : ∀ version, Known now.policies version → since ≤ version.revision →
    version.state.kill.Engaged scope
  reads : ∀ sweep ∈ now.sweep, baseline < sweep.sequence → ∀ version,
    sweep.refresh = .read version → since ≤ version.revision
  settled : ∀ sweep ∈ now.sweep, baseline < sweep.sequence → sweep.refresh = .settled none →
    now.Safe since

/-- An engine that forgets neither a version nor a stop, and acknowledges nothing anew. -/
theorem Supervision.Safe.withEngine (safe : now.Safe since) {engine : EngineState dec.Decimal}
    (revision : now.engine.policyRevision ≤ engine.policyRevision)
    (generation : now.engine.stopGeneration ≤ engine.stopGeneration)
    (kept : now.engine.acknowledged = none → engine.acknowledged = none) :
    Supervision.Safe { now with engine } since := by
  rcases safe with late | ⟨none, waits⟩
  · exact .inl (late.trans revision)
  · exact .inr ⟨kept none, fun acknowledging held near =>
      waits acknowledging held (generation.trans near)⟩

/-- Inhibited, an engine waits for a review that has not begun. -/
theorem Supervision.Sound.inhibited_safe (sound : now.Sound) (since : Nat) :
    Supervision.Safe { now with engine := now.engine.inhibit } since := by
  refine .inr ⟨rfl, fun acknowledging held near counted => ?_⟩
  have reviewed := sound.reviewed acknowledging held
  have bound := sound.generation
  have near' : min (now.engine.stopGeneration + 1) u64Max ≤ acknowledging.generation := near
  omega

/-- An engine that saw a version is safe from it on. -/
theorem observed_safe (version : PolicyVersion dec.Decimal) (known : Known now.policies version)
    (late : since ≤ version.revision) :
    Supervision.Safe { now with engine := now.engine.observe dec version } since := by
  rcases observe_cases now.engine known.1 with ⟨taken, _⟩ | ⟨inhibited, ahead⟩
  · rw [taken]
    exact .inl late
  · rw [inhibited]
    exact .inl (late.trans ahead)

/-- What a stop keeps safe stays so when the engine observes a known version. -/
theorem Supervision.Safe.observe (safe : now.Safe since) (sound : now.Sound)
    (version : PolicyVersion dec.Decimal) (known : Known now.policies version) :
    Supervision.Safe { now with engine := now.engine.observe dec version } since := by
  have generation := (observe_generation known sound.generation).1
  rcases observe_cases now.engine known.1 with ⟨taken, ahead⟩ | ⟨inhibited, _⟩
  · rw [taken] at generation ⊢
    exact safe.withEngine ahead generation id
  · rw [inhibited]
    exact sound.inhibited_safe since

/-- The one acknowledgment that can come is of a late version. -/
theorem Supervision.Safe.acknowledge (safe : now.Safe since) {acknowledging : Acknowledging}
    (held : acknowledging ∈ now.acknowledging) {revision : Nat}
    (read : acknowledging.read = some revision) (near : revision ≤ now.engine.policyRevision)
    (same : acknowledging.generation = now.engine.stopGeneration)
    (counted : acknowledging.generation ≠ u64Max) : since ≤ now.engine.policyRevision := by
  rcases safe with late | ⟨_, waits⟩
  · exact late
  · exact (waits acknowledging held same.ge counted revision read).trans near

/-- The sweep replaced by one of the same turn whose refresh is as far. -/
theorem Supervision.Guarded.withSweep (guarded : now.Guarded baseline since scope)
    {sweep : Sweep dec.Decimal} (running : now.sweep = some sweep) (next : Sweep dec.Decimal)
    (sequence : next.sequence = sweep.sequence) (refresh : next.refresh = sweep.refresh) :
    Supervision.Guarded { now with sweep := some next } baseline since scope := by
  refine { guarded with reads := ?_, settled := ?_ }
  · rintro _ ⟨⟩ later version read
    exact guarded.reads sweep running (sequence ▸ later) version (refresh ▸ read)
  · rintro _ ⟨⟩ later settled
    exact guarded.settled sweep running (sequence ▸ later) (refresh ▸ settled)

/-- The engine replaced by one that is safe whenever this one is. -/
theorem Supervision.Guarded.withEngine (guarded : now.Guarded baseline since scope)
    {engine : EngineState dec.Decimal}
    (safe : now.Safe since → Supervision.Safe { now with engine } since) :
    Supervision.Guarded { now with engine } baseline since scope :=
  { guarded with
    settled := fun sweep running later settled =>
      safe (guarded.settled sweep running later settled) }

/-- A scope stays guarded over every step that is not a release of it. -/
theorem Supervision.Guarded.step (guarded : now.Guarded baseline since scope) (sound : now.Sound)
    (step : SupervisionStep now act after) (kept : ¬ act.Releases scope .journal) :
    after.Guarded baseline since scope := by
  cases step with
  | stop scope' engagement =>
      exact guarded.withEngine fun safe =>
        safe.withEngine (le_refl _) (inhibit_generation sound.generation).1 fun _ => rfl
  | inhibit => exact guarded.withEngine fun _ => sound.inhibited_safe since
  | withdraw =>
      exact guarded.withEngine fun safe =>
        safe.withEngine (le_refl _) (le_refl _) fun _ => rfl
  | overlay | lift =>
      exact guarded.withEngine fun safe => safe.withEngine (le_refl _) (le_refl _) id
  | commit state own =>
      have engages : state.kill.Engaged scope := by
        by_contra released
        exact kept ⟨rfl, released⟩
      refine { guarded with reached := ?_, engaged := ?_ }
      · rw [List.length_append]
        exact guarded.reached.trans (Nat.le_add_right _ _)
      · intro version known late
        rcases Nat.lt_or_ge now.policies.length version.revision with new | old
        · have last := known.le_length
          rw [List.length_append, List.length_singleton] at last
          have final : version.revision - 1 = now.policies.length := by omega
          have found := known.2
          rw [final, List.getElem?_concat_length] at found
          rw [← Option.some.inj found]
          exact engages
        · have positive := known.1
          refine guarded.engaged version ⟨positive, ?_⟩ late
          rw [← known.2, List.getElem?_append_left (by omega)]
  | publish version held =>
      exact guarded.withEngine fun safe => safe.observe sound version (sound.reads version held)
  | review generation seen =>
      refine { guarded with settled := fun sweep running later settled => ?_ }
      refine (guarded.settled sweep running later settled).imp_right ?_
      rintro ⟨none, waits⟩
      refine ⟨none, fun acknowledging held near counted revision read => ?_⟩
      rcases List.mem_cons.mp held with rfl | older
      · cases read
      · exact waits acknowledging older near counted revision read
  | reread acknowledging held version current =>
      refine { guarded with settled := fun sweep running later settled => ?_ }
      refine (guarded.settled sweep running later settled).imp_right ?_
      rintro ⟨none, waits⟩
      refine ⟨none, fun other member near counted revision read => ?_⟩
      rcases List.mem_cons.mp member with rfl | older
      · obtain rfl : version.revision = revision := Option.some.inj read
        rw [(known_current current).2]
        exact guarded.reached
      · exact waits other older near counted revision read
  | acknowledge acknowledging scope' held revision read near same counted =>
      exact guarded.withEngine fun safe => .inl (safe.acknowledge held read near same counted)
  | read | pair | acquire | letGo | request | exhaust | unreadable => exact { guarded with }
  | begin =>
      refine { guarded with reads := ?_, settled := ?_ }
      · rintro _ ⟨⟩ _ version read
        cases read
      · rintro _ ⟨⟩ _ settled
        cases settled
  | sweepRead sweep running pending version current =>
      refine { guarded with reads := ?_, settled := ?_ }
      · rintro _ ⟨⟩ _ _ ⟨⟩
        rw [(known_current current).2]
        exact guarded.reached
      · rintro _ ⟨⟩ _ settled
        cases settled
  | sweepReadFails sweep running pending =>
      refine { guarded with reads := ?_, settled := ?_ }
      · rintro _ ⟨⟩ _ _ read
        cases read
      · exact fun _ _ _ _ => sound.inhibited_safe since
  | sweepPublish sweep running version read =>
      refine { guarded with reads := ?_, settled := ?_ }
      · rintro _ ⟨⟩ _ _ read
        cases read
      · rintro _ ⟨⟩ later _
        exact observed_safe version (sound.sweeping sweep running version read)
          (guarded.reads sweep running later version read)
  | sweepRefreshLost detail sweep running unsettled =>
      refine { guarded with reads := ?_, settled := ?_ }
      · rintro _ ⟨⟩ _ _ read
        cases read
      · rintro _ ⟨⟩ _ settled
        cases settled
  | visit sweep running | skip sweep running => exact guarded.withSweep running _ rfl rfl
  | needed sweep bound stage next working | unneeded sweep bound stage next working
  | lock sweep bound working | route sweep bound working | readNone sweep bound working
  | readOrders sweep bound working | clear sweep bound orders wires working
  | post sweep bound orders wires working | answered sweep bound orders wires working =>
      exact guarded.withSweep working.1 _ rfl rfl
  | fail sweep bound stage working detail retained =>
      exact { guarded.withSweep working.1 { sweep with
        work := none, failure := some (sweep.failure.getD detail) } rfl rfl with }
  | finish | abandon =>
      exact { guarded with reads := fun _ => nofun, settled := fun _ => nofun }

/-- While the engine is safe, whom a stop of the policy covers is cancelled. -/
theorem Supervision.Guarded.needed (guarded : now.Guarded baseline since scope)
    (sound : now.Sound) (safe : now.Safe since) {agent : String} (covers : scope.Covers agent) :
    now.engine.cancellationNeeded agent = true := by
  rcases safe with late | ⟨none, _⟩
  · refine EngineState.cancellationNeeded_of_engaged (EngineState.effectiveKill_of_policy ?_) covers
    have counted := guarded.counted
    rcases sound.published with unread | known
    · omega
    · exact guarded.engaged _ known late
  · exact EngineState.cancellationNeeded_of_unacknowledged none

/-- What keeps a stop in force where it is. -/
def Supervision.Assured (now : Supervision dec.Decimal) (baseline : Nat) (scope : KillScope) :
    Place → Prop
  | .journal => ∃ since, now.Guarded baseline since scope
  | .engine => now.Stopped scope .engine

/-- An overlay of the engine stays until it is lifted. -/
theorem overlay_stays (stopped : now.Stopped scope .engine) (step : SupervisionStep now act after)
    (kept : ¬ act.Releases scope .engine) : after.Stopped scope .engine := by
  obtain ⟨engagement, member⟩ := stopped
  have observed : ∀ version : PolicyVersion dec.Decimal,
      (now.engine.observe dec version).emergency = now.engine.emergency := by
    intro version
    rw [EngineState.observe]
    split
    · rename_i published
      obtain ⟨_, _, rest⟩ := bind_eq_ok published
      obtain ⟨_, _, final⟩ := bind_eq_ok rest
      cases final
      rfl
    · rfl
  refine ⟨engagement, ?_⟩
  cases step with
  | stop scope' more =>
      show (scope, engagement) ∈ ite _ _ _
      split
      · exact member
      · exact List.mem_append_left _ member
  | overlay => exact List.mem_append_left _ member
  | lift other =>
      refine List.mem_filter.mpr ⟨member, decide_eq_true fun same => kept ⟨rfl, same.symm⟩⟩
  | publish version | sweepPublish _ _ version =>
      rw [show (now.engine.observe dec version).emergency = _ from observed version]
      exact member
  | _ => exact member

/-- A stop of the policy that a request finds; every sweep that runs began before it. -/
theorem Supervision.Sound.guarded (sound : now.Sound) (stopped : now.Stopped scope .journal) :
    now.Guarded now.status.startedSequence now.policies.length scope := by
  obtain ⟨version, current, engaged⟩ := stopped
  obtain ⟨known, last⟩ := known_current current
  refine ⟨last ▸ known.1, le_refl _, fun other found late => ?_, ?_, ?_⟩
  · have same : other.revision = version.revision :=
      (le_antisymm found.le_length late).trans last.symm
    have state := found.2
    rw [same, known.2] at state
    rw [← Option.some.inj state]
    exact engaged
  · intro sweep running later
    exact absurd later (sound.running sweep running).le.not_gt
  · intro sweep running later
    exact absurd later (sound.running sweep running).le.not_gt

/-- What is stopped is assured from the next sweep on, in whatever place it was stopped. -/
theorem Supervision.Sound.assured (sound : now.Sound) :
    ∀ {place : Place}, now.Stopped scope place →
      now.Assured now.status.startedSequence scope place
  | .journal, stopped => ⟨_, sound.guarded stopped⟩
  | .engine, stopped => stopped

/-- What is assured stays so over every step that is not its release. -/
theorem Supervision.Assured.step (sound : now.Sound) (step : SupervisionStep now act after) :
    ∀ {place : Place}, now.Assured baseline scope place → ¬ act.Releases scope place →
      after.Assured baseline scope place
  | .journal, ⟨since, guarded⟩, kept => ⟨since, guarded.step sound step kept⟩
  | .engine, stopped, kept => overlay_stays stopped step kept

/-- A sweep past the baseline whose refresh came to its end cancels for whom the stop covers. -/
theorem Supervision.Assured.needed (sound : now.Sound) {sweep : Sweep dec.Decimal}
    (running : now.sweep = some sweep) (later : baseline < sweep.sequence)
    (settled : sweep.refresh = .settled none) {agent : String} (covers : scope.Covers agent) :
    ∀ {place : Place}, now.Assured baseline scope place →
      now.engine.cancellationNeeded agent = true
  | .journal, ⟨_, guarded⟩ =>
      guarded.needed sound (guarded.settled sweep running later settled) covers
  | .engine, ⟨_, member⟩ =>
      EngineState.cancellationNeeded_of_engaged (EngineState.effectiveKill_of_emergency member)
        covers

end Stops

/-! ## Turns -/

section Turns

variable {dec : PolicyDecimals}

/-- The act, once what comes before was done, and nobody else with a turn on the account since. -/
def Then (account : Address) (act : SupervisionAct dec)
    (before : List (SupervisionAct dec) → Prop) (acts : List (SupervisionAct dec)) : Prop :=
  ∃ earlier since, acts = earlier ++ act :: since ∧ before earlier ∧
    ∀ other ∈ since, other ≠ .acquire account

/-- The turn on the account of a binding. -/
def Locked (bound : PairingBinding) : List (SupervisionAct dec) → Prop :=
  Then bound.account (.lock bound) fun _ => True

/-- Its resting orders read in that turn. -/
def Listed (bound : PairingBinding) (orders : List OpenOrder) :
    List (SupervisionAct dec) → Prop :=
  Then bound.account (.readOrders bound orders) (Locked bound)

/-- One cancel for every order read. -/
def Posted (bound : PairingBinding) (orders : List OpenOrder) (wires : List CancelWire)
    (acts : List (SupervisionAct dec)) : Prop :=
  wires.map CancelWire.oid = orders.map OpenOrder.oid ∧
    Then bound.account (.post bound wires) (Listed bound orders) acts

/-- Nothing was resting on the account of a binding, or the venue confirmed the cancel of every
order that was, all in one turn on the account. -/
def Cancelled (bound : PairingBinding) (acts : List (SupervisionAct dec)) : Prop :=
  (∃ earlier later, acts = earlier ++ .readOrders bound [] :: later ∧ Locked bound earlier) ∨
    ∃ orders wires response earlier later, acts = earlier ++ .answered bound response :: later ∧
      Posted bound orders wires earlier ∧ response.complete orders.length

/-- What was done for the binding at work. -/
def Reached (bound : PairingBinding) (acts : List (SupervisionAct dec)) : Stage → Prop
  | .due | .queued => True
  | .locked | .routed | .reading => Locked bound acts
  | .clearing orders wires | .cleared orders wires | .posting orders wires =>
      wires.map CancelWire.oid = orders.map OpenOrder.oid ∧ Listed bound orders acts
  | .posted orders wires => Posted bound orders wires acts

/-- A failure of the refresh or of a binding. -/
def SupervisionAct.Fails : SupervisionAct dec → Prop
  | .fail .. | .sweepRefreshLost _ => True
  | _ => False

/-- The sweep will not be reported clean. -/
def Sweep.Failed (sweep : Sweep dec.Decimal) : Prop :=
  sweep.failure.isSome = true ∨ ∃ detail, sweep.refresh = .settled (some detail)

/-- A sweep against the acts since it began. -/
structure Turn (during : List (SupervisionAct dec)) (sweep : Sweep dec.Decimal) : Prop where
  refreshed : ∀ work ∈ sweep.work, ∃ failure, sweep.refresh = .settled failure
  listed : ∀ bound ∈ sweep.bindings, bound ∈ sweep.todo ∨ bound ∈ sweep.seen
  visited : ∀ bound ∈ sweep.seen, .visit bound ∈ during
  reported : ∀ act ∈ during, act.Fails → sweep.Failed
  turned : sweep.failure = none → ∀ bound ∈ sweep.seen, Cancelled bound during ∨
    .unneeded bound ∈ during ∨ ∃ stage, sweep.work = some ⟨bound, stage⟩
  reached : ∀ work ∈ sweep.work, Reached work.bound during work.stage

variable {account : Address} {bound : PairingBinding} {during : List (SupervisionAct dec)}
  {act other : SupervisionAct dec} {before : List (SupervisionAct dec) → Prop}
  {sweep : Sweep dec.Decimal} {stage : Stage}

/-- An act has just been done after the run before it. -/
theorem Then.now (act : SupervisionAct dec) (done : before during) :
    Then account act before (during ++ [act]) :=
  ⟨during, [], rfl, done, fun _ => nofun⟩

/-- What was done after an acquisition stays so until the account is acquired again. -/
theorem Then.grow (done : Then account act before during) (calm : other ≠ .acquire account) :
    Then account act before (during ++ [other]) := by
  obtain ⟨earlier, since, rfl, first, quiet⟩ := done
  refine ⟨earlier, since ++ [other], by rw [List.append_assoc, List.cons_append], first, ?_⟩
  intro later member
  rcases List.mem_append.mp member with older | new
  · exact quiet later older
  · rw [List.mem_singleton.mp new]
    exact calm

/-- What was cancelled stays so over later acts. -/
theorem Cancelled.grow (done : Cancelled bound during) (other : SupervisionAct dec) :
    Cancelled bound (during ++ [other]) := by
  rcases done with ⟨earlier, later, rfl, first⟩ |
    ⟨orders, wires, response, earlier, later, rfl, first, complete⟩
  · exact .inl ⟨earlier, later ++ [other], by rw [List.append_assoc, List.cons_append], first⟩
  · exact .inr ⟨orders, wires, response, earlier, later ++ [other],
      by rw [List.append_assoc, List.cons_append], first, complete⟩

/-- What was done stays done while nobody else takes a turn on the account. -/
theorem Reached.grow (done : Reached bound during stage)
    (calm : stage.holds = true → other ≠ .acquire bound.account) :
    Reached bound (during ++ [other]) stage := by
  cases stage with
  | due | queued => trivial
  | locked | routed | reading => exact Then.grow done (calm rfl)
  | clearing | cleared | posting | posted => exact ⟨done.1, done.2.grow (calm rfl)⟩

/-- The wires of a cancellation name the orders read, one each and in their order. -/
theorem cancelWires_oids {assets : Universe} : ∀ {orders : List OpenOrder}
    {wires : List CancelWire}, cancelWires assets orders = some wires →
      wires.map CancelWire.oid = orders.map OpenOrder.oid
  | [], wires, listed => by
      rw [cancelWires, List.mapM_nil] at listed
      cases listed
      rfl
  | order :: rest, wires, listed => by
      rw [cancelWires, List.mapM_cons] at listed
      obtain ⟨wire, named, more⟩ := Option.bind_eq_some_iff.mp listed
      obtain ⟨others, tail, final⟩ := Option.bind_eq_some_iff.mp more
      obtain ⟨asset, _, rfl⟩ := Option.map_eq_some_iff.mp named
      cases final
      exact congrArg (order.oid :: ·) (cancelWires_oids tail)

/-- A sweep that has begun. -/
theorem Turn.begin (sequence : Nat) (bindings : List PairingBinding) :
    Turn ([] : List (SupervisionAct dec))
      ⟨sequence, bindings, .pending, bindings, [], none, none⟩ where
  refreshed := fun _ => nofun
  listed := fun _ => .inl
  visited := fun _ => nofun
  reported := fun _ => nofun
  turned := fun _ _ => nofun
  reached := fun _ => nofun

/-- An act that leaves the sweep where it is. -/
theorem Turn.grow (turn : Turn during sweep) (whole : ¬ act.Fails)
    (calm : ∀ work ∈ sweep.work, work.stage.holds = true → act ≠ .acquire work.bound.account) :
    Turn (during ++ [act]) sweep where
  refreshed := turn.refreshed
  listed := turn.listed
  visited := fun bound seen => List.mem_append_left _ (turn.visited bound seen)
  reported := fun other member fails => by
    rcases List.mem_append.mp member with older | new
    · exact turn.reported other older fails
    · exact absurd (List.mem_singleton.mp new ▸ fails) whole
  turned := fun clean bound seen =>
    (turn.turned clean bound seen).imp (·.grow act) (·.imp_left (List.mem_append_left _))
  reached := fun work held => (turn.reached work held).grow (calm work held)

/-- Nothing but an `acquire` disturbs a turn. -/
theorem Turn.grown (turn : Turn during sweep) (act : SupervisionAct dec) (whole : ¬ act.Fails)
    (calm : ∀ account, act ≠ .acquire account) : Turn (during ++ [act]) sweep :=
  turn.grow whole fun _ _ _ => calm _

/-- The work at its next stage. -/
theorem Turn.work (turn : Turn during sweep) (working : sweep.work = some ⟨bound, stage⟩)
    (next : Stage) (reached : Reached bound during next) : Turn during (sweep.at bound next) :=
  { turn with
    refreshed := fun _ _ => turn.refreshed _ working
    turned := fun clean other seen => by
      refine (turn.turned clean other seen).imp_right (·.imp_right ?_)
      rintro ⟨_, same⟩
      cases working.symm.trans same
      exact ⟨next, rfl⟩
    reached := by
      rintro _ ⟨⟩
      exact reached }

/-- The work at its end. -/
theorem Turn.settle (turn : Turn during sweep) (working : sweep.work = some ⟨bound, stage⟩)
    (done : Cancelled bound during ∨ .unneeded bound ∈ during) :
    Turn during { sweep with work := none } :=
  { turn with
    refreshed := fun _ => nofun
    turned := fun clean other seen => by
      rcases turn.turned clean other seen with cancelled | unneeded | ⟨_, same⟩
      · exact .inl cancelled
      · exact .inr (.inl unneeded)
      · cases working.symm.trans same
        exact done.imp_right .inl
    reached := fun _ => nofun }

/-- The refresh further on, before it came to its end. -/
theorem Turn.onward (turn : Turn during sweep) (refresh : Refresh dec.Decimal)
    (unsettled : ∀ failure, sweep.refresh ≠ .settled failure) :
    Turn during { sweep with refresh } :=
  { turn with
    refreshed := fun work held => by
      obtain ⟨failure, settled⟩ := turn.refreshed work held
      exact absurd settled (unsettled failure)
    reported := fun act member fails => by
      rcases turn.reported act member fails with failed | ⟨detail, failed⟩
      · exact .inl failed
      · exact absurd failed (unsettled _) }

/-- A step within a sweep. -/
theorem Turn.step {now after : Supervision dec.Decimal} {next : Sweep dec.Decimal}
    (turn : Turn during sweep) (running : now.sweep = some sweep)
    (step : SupervisionStep now act after) (running' : after.sweep = some next) :
    Turn (during ++ [act]) next := by
  cases step with
  | acquire account free idle =>
      cases running.symm.trans running'
      refine turn.grow id fun work held holds same => ?_
      injection same with same
      exact idle ⟨sweep, running, work, held, holds, same.symm⟩
  | begin alive idle | unreadable atMs alive idle =>
      rw [running] at idle
      cases idle
  | sweepRead other now' pending version =>
      cases now'.symm.trans running
      cases running'
      exact (turn.grown .sweepRead id fun _ => nofun).onward (.read version) fun _ settled =>
        nomatch pending.symm.trans settled
  | sweepReadFails other now' pending =>
      cases now'.symm.trans running
      cases running'
      exact (turn.grown .sweepReadFails id fun _ => nofun).onward (.settled none)
        fun _ settled => nomatch pending.symm.trans settled
  | sweepPublish other now' version read =>
      cases now'.symm.trans running
      cases running'
      exact (turn.grown .sweepPublish id fun _ => nofun).onward (.settled none)
        fun _ settled => nomatch read.symm.trans settled
  | sweepRefreshLost detail other now' unsettled =>
      cases now'.symm.trans running
      cases running'
      exact { refreshed := fun work held => by
                obtain ⟨failure, settled⟩ := turn.refreshed work held
                exact absurd settled (unsettled failure)
              listed := turn.listed
              visited := fun bound seen => List.mem_append_left _ (turn.visited bound seen)
              reported := fun _ _ _ => .inr ⟨detail, rfl⟩
              turned := fun clean bound seen =>
                (turn.turned clean bound seen).imp (·.grow _)
                  (·.imp_left (List.mem_append_left _))
              reached := fun work held => (turn.reached work held).grow fun _ => nofun }
  | visit other now' failure refreshed idle bound todo first new =>
      cases now'.symm.trans running
      cases running'
      have grown := turn.grown (.visit bound) id fun _ => nofun
      refine { refreshed := fun _ _ => ⟨failure, refreshed⟩, reported := grown.reported
               listed := ?_, visited := ?_, turned := ?_, reached := ?_ }
      · intro binding member
        rcases turn.listed binding member with waiting | seen
        · rw [first] at waiting
          rcases List.mem_cons.mp waiting with rfl | later
          · exact .inr List.mem_cons_self
          · exact .inl later
        · exact .inr (List.mem_cons_of_mem _ seen)
      · intro binding seen
        rcases List.mem_cons.mp seen with rfl | older
        · exact List.mem_append_right _ List.mem_cons_self
        · exact grown.visited binding older
      · intro clean binding seen
        rcases List.mem_cons.mp seen with rfl | older
        · exact .inr (.inr ⟨.due, rfl⟩)
        · rcases grown.turned clean binding older with cancelled | unneeded | ⟨_, work⟩
          · exact .inl cancelled
          · exact .inr (.inl unneeded)
          · cases idle.symm.trans work
      · rintro _ ⟨⟩
        trivial
  | skip other now' failure refreshed idle bound todo first old =>
      cases now'.symm.trans running
      cases running'
      refine { turn.grown (.skip bound) id fun _ => nofun with listed := fun binding member => ?_ }
      rcases turn.listed binding member with waiting | seen
      · rw [first] at waiting
        rcases List.mem_cons.mp waiting with rfl | later
        · exact .inr old
        · exact .inl later
      · exact .inr seen
  | needed other bound stage following working asks =>
      cases working.1.symm.trans running
      cases running'
      have grown := turn.grown (.needed bound) id fun _ => nofun
      have reached : Reached bound (during ++ [.needed bound]) stage :=
        grown.reached ⟨bound, stage⟩ working.2
      refine grown.work working.2 following ?_
      cases stage with
      | due | routed | cleared =>
          cases asks
          exact reached
      | _ => cases asks
  | unneeded other bound stage following working =>
      cases working.1.symm.trans running
      cases running'
      exact (turn.grown (.unneeded bound) id fun _ => nofun).settle working.2
        (.inr (List.mem_append_right _ List.mem_cons_self))
  | lock other bound working =>
      cases working.1.symm.trans running
      cases running'
      exact (turn.grown (.lock bound) id fun _ => nofun).work working.2 .locked
        (.now _ trivial)
  | route other bound working =>
      cases working.1.symm.trans running
      cases running'
      have grown := turn.grown (.route bound) id fun _ => nofun
      exact grown.work working.2 .routed (grown.reached _ working.2)
  | readNone other bound working =>
      cases working.1.symm.trans running
      cases running'
      exact (turn.grown (.readOrders bound []) id fun _ => nofun).settle working.2
        (.inl (.inl ⟨during, [], rfl, turn.reached _ working.2⟩))
  | readOrders other bound working orders assets resting wires named =>
      cases working.1.symm.trans running
      cases running'
      exact (turn.grown (.readOrders bound orders) id fun _ => nofun).work working.2
        (.clearing orders wires) ⟨cancelWires_oids named, .now _ (turn.reached _ working.2)⟩
  | clear other bound orders wires working =>
      cases working.1.symm.trans running
      cases running'
      have grown := turn.grown (.clear bound) id fun _ => nofun
      exact grown.work working.2 (.cleared orders wires) (grown.reached _ working.2)
  | post other bound orders wires working =>
      cases working.1.symm.trans running
      cases running'
      have reached := turn.reached _ working.2
      exact (turn.grown (.post bound wires) id fun _ => nofun).work working.2
        (.posted orders wires) ⟨reached.1, .now _ reached.2⟩
  | answered other bound orders wires working response complete =>
      cases working.1.symm.trans running
      cases running'
      exact (turn.grown (.answered bound response) id fun _ => nofun).settle working.2
        (.inl (.inr ⟨orders, wires, response, during, [], rfl, turn.reached _ working.2,
          complete⟩))
  | fail other bound stage working detail retained =>
      cases working.1.symm.trans running
      cases running'
      exact { refreshed := fun _ => nofun
              listed := turn.listed
              visited := fun bound seen => List.mem_append_left _ (turn.visited bound seen)
              reported := fun _ _ _ => .inl rfl
              turned := nofun
              reached := fun _ => nofun }
  | finish | abandon => cases running'
  | _ =>
      cases running.symm.trans running'
      exact turn.grown _ id fun _ => nofun

end Turns

/-! ## Receipts -/

/-- The supervisor takes the next sequence. -/
def SupervisionAct.begins {dec : PolicyDecimals} : SupervisionAct dec → Bool
  | .begin _ | .unreadable _ => true
  | _ => false

/-- The last of the acts are those since a sweep began, with the next sequence, over the
bindings the store listed there. -/
def Begun {dec : PolicyDecimals} (asked : Supervision dec.Decimal)
    (acts : List (SupervisionAct dec)) (sequence : Nat) (bindings : List PairingBinding)
    (during : List (SupervisionAct dec)) : Prop :=
  ∃ earlier began, acts = earlier ++ .begin bindings :: during ∧
    Run SupervisionStep asked earlier began ∧ began.tokens.bindings = bindings ∧
      sequence = began.status.startedSequence + 1

/-- What holds of a supervisor from here on: its sequences count its turns; a sweep that ends
has visited every binding and reports what failed; and after a request, a receipt above the
baseline without an error is of a sweep begun since, in which the orders of every account were
cancelled that a stop in force at the request covers, unless the stop was released before. -/
structure Supervised {dec : PolicyDecimals} (start : Supervision dec.Decimal)
    (before : List (SupervisionAct dec)) (asked : Supervision dec.Decimal) : Prop where
  counted : asked.status.startedSequence =
    start.status.startedSequence + before.countP SupervisionAct.begins
  bounded : asked.status.startedSequence ≤ u64Max
  finished : ∀ atMs after, SupervisionStep asked (.finish atMs) after →
    ∃ bindings during, Begun start before after.status.completedSequence bindings during ∧
      (∀ bound ∈ bindings, .visit bound ∈ during) ∧
      ∀ act ∈ during, act.Fails → after.status.lastError ≠ none
  clean : ∀ acts now, Run SupervisionStep asked.requestSweep.2 acts now →
    asked.requestSweep.1 < now.status.completedSequence → now.status.lastError = none →
      ∃ earlier atMs later bindings during, acts = earlier ++ .finish atMs :: later ∧
        Begun asked.requestSweep.2 earlier now.status.completedSequence bindings during ∧
          ∀ scope place, asked.Stopped scope place →
            (∀ act ∈ earlier, ¬ act.Releases scope place) →
              ∀ bound ∈ bindings, scope.Covers bound.agent → Cancelled bound during

section Receipts

variable {dec : PolicyDecimals} {asked now after : Supervision dec.Decimal}
  {acts during : List (SupervisionAct dec)} {act : SupervisionAct dec}
  {sweep next : Sweep dec.Decimal}

/-- The count of started sweeps rises with the acts that begin one. -/
theorem SupervisionStep.counts (step : SupervisionStep now act after) :
    after.status.startedSequence =
      now.status.startedSequence + List.countP SupervisionAct.begins [act] := by
  cases step <;> rfl

/-- The sequence counts the turns of the loop. -/
theorem run_counts (run : Run SupervisionStep asked acts now) :
    now.status.startedSequence =
      asked.status.startedSequence + acts.countP SupervisionAct.begins := by
  induction run with
  | nil => rfl
  | snoc _ moved ih => rw [moved.counts, ih, List.countP_append, Nat.add_assoc]

/-- A sweep goes on from a step before, or begins. -/
theorem SupervisionStep.origin (step : SupervisionStep now act after)
    (running : after.sweep = some next) :
    (∃ sweep, now.sweep = some sweep ∧ next.sequence = sweep.sequence ∧
        next.bindings = sweep.bindings ∧
        ∀ detail, sweep.refresh = .settled (some detail) →
          next.refresh = .settled (some detail)) ∨
      act = .begin now.tokens.bindings ∧
        next = ⟨now.status.startedSequence + 1, now.tokens.bindings, .pending,
          now.tokens.bindings, [], none, none⟩ := by
  cases step with
  | begin =>
      cases running
      exact .inr ⟨rfl, rfl⟩
  | sweepRead other now' pending | sweepReadFails other now' pending =>
      cases running
      exact .inl ⟨other, now', rfl, rfl, fun _ settled => nomatch pending.symm.trans settled⟩
  | sweepPublish other now' version read =>
      cases running
      exact .inl ⟨other, now', rfl, rfl, fun _ settled => nomatch read.symm.trans settled⟩
  | sweepRefreshLost detail other now' unsettled =>
      cases running
      exact .inl ⟨other, now', rfl, rfl, fun _ settled => absurd settled (unsettled _)⟩
  | visit other now' | skip other now' =>
      cases running
      exact .inl ⟨other, now', rfl, rfl, fun _ => id⟩
  | needed other bound stage following working | unneeded other bound stage following working
  | lock other bound working | route other bound working | readNone other bound working
  | readOrders other bound working | clear other bound orders wires working
  | post other bound orders wires working | answered other bound orders wires working
  | fail other bound stage working =>
      cases running
      exact .inl ⟨other, working.1, rfl, rfl, fun _ => id⟩
  | finish | abandon => cases running
  | _ => exact .inl ⟨next, running, rfl, rfl, fun _ => id⟩

/-- Sweeps are numbered from one on. -/
theorem SupervisionStep.positive (positive : ∀ sweep ∈ now.sweep, 0 < sweep.sequence)
    (step : SupervisionStep now act after) : ∀ next ∈ after.sweep, 0 < next.sequence := by
  intro next running
  rcases step.origin running with ⟨sweep, running', sequence, _⟩ | ⟨_, rfl⟩
  · rw [sequence]
    exact positive sweep running'
  · exact Nat.succ_pos _

/-- A sweep past a moment began after it, and is where its acts since led it. Of a stop that
held since that moment it has found nobody's cancellation unneeded, unless its refresh failed. -/
theorem sweep_begun (sound : asked.Sound) (run : Run SupervisionStep asked acts now)
    (running : now.sweep = some sweep)
    (later : asked.status.startedSequence < sweep.sequence) :
    ∃ during, Begun asked acts sweep.sequence sweep.bindings during ∧ Turn during sweep ∧
      ∀ scope place, asked.Stopped scope place → (∀ act ∈ acts, ¬ act.Releases scope place) →
        (∀ detail, sweep.refresh ≠ .settled (some detail)) →
          ∀ bound : PairingBinding, scope.Covers bound.agent → .unneeded bound ∉ during := by
  induction run generalizing sweep with
  | nil => exact absurd later (sound.running sweep running).le.not_gt
  | @snoc acts before after act prior moved ih =>
      rcases moved.origin running with ⟨old, running', sequence, bindings, lost⟩ | ⟨rfl, rfl⟩
      · rw [sequence] at later
        obtain ⟨during, ⟨earlier, began, split, first, listed, counted⟩, turn, needs⟩ :=
          ih running' later
        refine ⟨during ++ [act], ⟨earlier, began, ?_, first, bindings ▸ listed,
          sequence ▸ counted⟩, turn.step running' moved running, ?_⟩
        · rw [split, bindings, List.append_assoc, List.cons_append]
        · intro scope place stopped held whole bound covers unneeded
          have whole' : ∀ detail, old.refresh ≠ .settled (some detail) :=
            fun detail settled => whole detail (lost detail settled)
          have calm : ∀ act ∈ acts, ¬ act.Releases scope place :=
            fun act member => held act (List.mem_append_left _ member)
          rcases List.mem_append.mp unneeded with older | new
          · exact needs scope place stopped calm whole' bound covers older
          · obtain rfl := (List.mem_singleton.mp new).symm
            have onward := prior.persists
              (fun last => last.Sound ∧ last.Assured asked.status.startedSequence scope place)
              (fun act => ¬ act.Releases scope place)
              (fun _ _ _ both kept step => ⟨both.1.step step, both.2.step both.1 step kept⟩) calm
              ⟨sound, sound.assured stopped⟩
            cases moved with
            | unneeded other bound stage following working asks released =>
                cases working.1.symm.trans running'
                obtain ⟨failure, settled⟩ := turn.refreshed _ working.2
                cases failure with
                | some detail => exact whole' detail settled
                | none =>
                    have stays := onward.2.needed onward.1 running' later settled covers
                    exact absurd (stays.symm.trans released) Bool.true_eq_false.mp
      · refine ⟨[], ⟨acts, before, rfl, prior, rfl, rfl⟩, .begin _ _, ?_⟩
        exact fun _ _ _ _ _ _ _ => nofun

/-- Only a finished sweep leaves a receipt without an error. -/
theorem SupervisionStep.receipt (step : SupervisionStep now act after) :
    (after.status.completedSequence = now.status.completedSequence ∧
        after.status.lastError = now.status.lastError) ∨
      (∃ atMs, act = .finish atMs) ∨ after.status.lastError ≠ none := by
  cases step with
  | finish sweep running failure refreshed idle done atMs => exact .inr (.inl ⟨atMs, rfl⟩)
  | unreadable => exact .inr (.inr nofun)
  | _ => exact .inl ⟨rfl, rfl⟩

/-- A sweep that was asked for and completed without an error was one that began after the
asking. -/
theorem receipt_finished (run : Run SupervisionStep asked acts now)
    (later : asked.status.completedSequence < now.status.completedSequence)
    (clean : now.status.lastError = none) :
    ∃ earlier finished atMs after later, acts = earlier ++ .finish atMs :: later ∧
      Run SupervisionStep asked earlier finished ∧
      SupervisionStep finished (.finish atMs) after ∧
      after.status.completedSequence = now.status.completedSequence ∧
      after.status.lastError = none := by
  induction run with
  | nil => exact absurd later (Nat.lt_irrefl _)
  | @snoc acts before last act prior moved ih =>
      rcases moved.receipt with ⟨completed, error⟩ | ⟨atMs, rfl⟩ | failed
      · rw [completed] at later
        rw [error] at clean
        obtain ⟨earlier, finished, atMs, after, rest, split, first, final, same, fine⟩ :=
          ih later clean
        refine ⟨earlier, finished, atMs, after, rest ++ [act], ?_, first, final,
          same.trans completed.symm, fine⟩
        rw [split, List.append_assoc, List.cons_append]
      · exact ⟨acts, before, atMs, last, [], rfl, prior, moved, rfl, clean⟩
      · exact absurd clean failed

/-- The sequence never wraps. -/
theorem SupervisionStep.bounded (bounded : now.status.startedSequence ≤ u64Max)
    (step : SupervisionStep now act after) : after.status.startedSequence ≤ u64Max := by
  cases step with
  | begin alive idle counted | unreadable atMs alive idle counted => exact counted
  | _ => exact bounded

/-- What a sweep that ends did. -/
theorem finish_turn (sound : asked.Sound) (run : Run SupervisionStep asked acts now)
    {atMs : Option Nat} (step : SupervisionStep now (.finish atMs) after)
    (later : asked.status.startedSequence < after.status.completedSequence) :
    ∃ bindings during, Begun asked acts after.status.completedSequence bindings during ∧
      (∀ bound ∈ bindings, .visit bound ∈ during) ∧
      (∀ act ∈ during, act.Fails → after.status.lastError ≠ none) ∧
      (after.status.lastError = none → ∀ scope place, asked.Stopped scope place →
        (∀ act ∈ acts, ¬ act.Releases scope place) →
          ∀ bound ∈ bindings, scope.Covers bound.agent → Cancelled bound during) := by
  cases step with
  | finish sweep running failure refreshed idle done =>
      obtain ⟨during, begun, turn, needs⟩ := sweep_begun sound run running later
      have seen : ∀ bound ∈ sweep.bindings, bound ∈ sweep.seen := by
        intro bound member
        rcases turn.listed bound member with waiting | seen
        · rw [done] at waiting
          cases waiting
        · exact seen
      refine ⟨sweep.bindings, during, begun, fun bound member => turn.visited bound
        (seen bound member), ?_, ?_⟩
      · intro act member fails clean
        obtain ⟨none, whole⟩ := Option.or_eq_none_iff.mp clean
        rcases turn.reported act member fails with failed | ⟨detail, failed⟩
        · rw [none] at failed
          cases failed
        · cases refreshed.symm.trans failed
          cases whole
      · intro clean scope place stopped held bound member covers
        obtain ⟨none, whole⟩ := Option.or_eq_none_iff.mp clean
        rcases turn.turned none bound (seen bound member) with cancelled | unneeded | ⟨_, work⟩
        · exact cancelled
        · refine absurd unneeded (needs scope place stopped held (fun detail failed => ?_) bound
            covers)
          cases refreshed.symm.trans failed
          cases whole
        · cases idle.symm.trans work

/-- **Pause supervision.** In every interleaving of stops, releases, refreshes, pairings, venue
answers, failures and timeouts, a clean receipt after a request means cancelled. Every sweep that
finishes has visited each binding it began with and reports what failed on the way. After a
request, one that finishes without an error has cancelled the orders of every binding a stop in
force covers. -/
theorem clean_sweep_cancels {policies : List (PersistedState dec.Decimal)} {tokens : TokenStore}
    {before : List (SupervisionAct dec)}
    (prior : Run SupervisionStep (Supervision.start policies tokens) before asked) :
    Supervised (Supervision.start policies tokens) before asked := by
  have started := Supervision.start_sound policies tokens
  have sound := started.run prior
  refine ⟨run_counts prior, ?_, ?_, ?_⟩
  · exact prior.invariant (fun last => last.status.startedSequence ≤ u64Max)
      (fun _ _ _ bounded step => step.bounded bounded) (Nat.zero_le _)
  · intro atMs after step
    have positive : ∀ sweep ∈ asked.sweep, 0 < sweep.sequence :=
      prior.invariant (fun last => ∀ sweep ∈ last.sweep, 0 < sweep.sequence)
        (fun _ _ _ positive step => step.positive positive) fun _ => nofun
    have later : 0 < after.status.completedSequence := by
      cases step with
      | finish sweep running => exact positive sweep running
    obtain ⟨bindings, during, begun, visited, reported, _⟩ := finish_turn started prior step later
    exact ⟨bindings, during, begun, visited, reported⟩
  · intro acts now run later clean
    have requested : asked.requestSweep.2.Sound := sound.step .request
    have behind := requested.completed.trans_lt later
    obtain ⟨earlier, finished, atMs, after, rest, split, first, final, same, fine⟩ :=
      receipt_finished run behind clean
    obtain ⟨bindings, during, begun, _, _, cancelled⟩ :=
      finish_turn requested first final (same ▸ later)
    exact ⟨earlier, atMs, rest, bindings, during, split, same ▸ begun, cancelled fine⟩

end Receipts

namespace OneSweep

/-- A pairing with one order resting. -/
def bound : PairingBinding := ⟨"maker", .filled 1⟩

def tokens : TokenStore :=
  ⟨[⟨⟨.testnet, 1⟩, ⟨List.replicate 32 0, List.length_replicate⟩, false, bound⟩], 0, false⟩

def order : OpenOrder := ⟨"BTC", 7⟩

def start : Supervision PolicyDecimals.reference.Decimal := .start [] tokens

def stopped : Supervision PolicyDecimals.reference.Decimal :=
  { start with engine := start.engine.stop .global ⟨1, .operator⟩ }

/-- The one sweep, at work on its one binding. -/
def sweep (stage : Stage) : Sweep PolicyDecimals.reference.Decimal :=
  ⟨1, [bound], .settled none, [], [bound], some ⟨bound, stage⟩, none⟩

def working (stage : Stage) : Supervision PolicyDecimals.reference.Decimal :=
  { stopped with
    engine := stopped.engine.inhibit
    status := ⟨1, 0, true, none, none⟩
    sweep := some (sweep stage) }

def swept : Supervision PolicyDecimals.reference.Decimal :=
  { working .due with status := ⟨1, 1, false, some 9, none⟩, sweep := none }

/-- The acts from the request on. -/
def acts : List (SupervisionAct .reference) :=
  [.begin [bound], .sweepReadFails, .visit bound, .needed bound, .lock bound, .route bound,
    .needed bound, .readOrders bound [order], .clear bound, .needed bound, .post bound [⟨0, 7⟩],
    .answered bound ⟨.cancel, [.success]⟩, .finish (some 9)]

/-- A stage that asks whether a cancellation is needed is told that it is. -/
theorem needed_step {stage next : Stage} (asks : stage.needed = some next) :
    SupervisionStep (working stage) (.needed bound) (working next) :=
  .needed (sweep stage) bound stage next ⟨rfl, rfl⟩ asks false
    (.inl (EngineState.cancellationNeeded_of_unacknowledged rfl))

/-- The sample's operator stops everything. -/
theorem stopped_run : Run SupervisionStep start [.stop .global ⟨1, .operator⟩] stopped :=
  .single (.stop _ _)

/-- A sweep is asked for and begins, one of its reads failing on the way. -/
theorem begun_run : Run SupervisionStep stopped.requestSweep.2
    [.begin [bound], .sweepReadFails, .visit bound] (working .due) :=
  .snoc (.snoc (.single (.begin rfl rfl (by decide)))
    (.sweepReadFails ⟨1, [bound], .pending, [bound], [], none, none⟩ rfl rfl))
    (.visit ⟨1, [bound], .settled none, [bound], [], none, none⟩ rfl none rfl rfl bound [] rfl
      List.not_mem_nil)

/-- The sweep reads the one order that is open. -/
theorem listed_run : Run SupervisionStep (working .due)
    [.needed bound, .lock bound, .route bound, .needed bound, .readOrders bound [order]]
    (working (.clearing [order] [⟨0, 7⟩])) :=
  .snoc (.snoc (.snoc (.snoc (.single (needed_step rfl))
    (.lock (sweep .queued) bound ⟨rfl, rfl⟩ List.not_mem_nil))
    (.route (sweep .locked) bound ⟨rfl, rfl⟩)) (needed_step rfl))
    (.readOrders (sweep .reading) bound ⟨rfl, rfl⟩ [order] [("BTC", 0)] (List.cons_ne_nil _ _)
      [⟨0, 7⟩] rfl)

/-- The venue answers the cancellation, and the sweep is finished. -/
theorem answered_run : Run SupervisionStep (working (.clearing [order] [⟨0, 7⟩]))
    [.clear bound, .needed bound, .post bound [⟨0, 7⟩], .answered bound ⟨.cancel, [.success]⟩,
      .finish (some 9)] swept :=
  .snoc (.snoc (.snoc (.snoc (.single
    (.clear (sweep (.clearing [order] [⟨0, 7⟩])) bound [order] [⟨0, 7⟩] ⟨rfl, rfl⟩))
    (needed_step rfl))
    (.post (sweep (.posting [order] [⟨0, 7⟩])) bound [order] [⟨0, 7⟩] ⟨rfl, rfl⟩))
    (.answered (sweep (.posted [order] [⟨0, 7⟩])) bound [order] [⟨0, 7⟩] ⟨rfl, rfl⟩ _
      ⟨rfl, rfl, fun _ member => List.mem_singleton.mp member⟩))
    (.finish ⟨1, [bound], .settled none, [], [bound], none, none⟩ rfl none rfl rfl rfl (some 9))

/-- No act of the sample releases the stop. -/
theorem acts_release_nothing {act : SupervisionAct .reference} (member : act ∈ acts) :
    ¬ act.Releases .global .engine := by
  simp only [acts, List.mem_cons, List.not_mem_nil, or_false] at member
  rcases member with rfl | rfl | rfl | rfl | rfl | rfl | rfl | rfl | rfl | rfl | rfl | rfl | rfl <;>
    exact id

/-- The sweep of the sample begins over its one binding. -/
theorem acts_begin {bindings : List PairingBinding} (member : .begin bindings ∈ acts) :
    bindings = [bound] := by
  simpa [acts] using member

/-- A stopped runtime swept its one pairing clean, so the order of the pairing was cancelled. -/
theorem swept_supervised : Supervised start [.stop .global ⟨1, .operator⟩] stopped ∧
    swept.status = ⟨1, 1, false, some 9, none⟩ ∧
    ∃ earlier atMs later during, acts = earlier ++ .finish atMs :: later ∧
      Begun stopped.requestSweep.2 earlier 1 [bound] during ∧ Cancelled bound during := by
  have supervised := clean_sweep_cancels stopped_run
  obtain ⟨earlier, atMs, later, bindings, during, split, begun, cancelled⟩ :=
    supervised.clean acts swept ((begun_run.append listed_run).append answered_run)
      Nat.zero_lt_one rfl
  have inside {act : SupervisionAct .reference} (member : act ∈ earlier) : act ∈ acts :=
    split ▸ List.mem_append_left _ member
  obtain rfl : bindings = [bound] := by
    obtain ⟨first, _, here, _⟩ := begun
    exact acts_begin (inside (here ▸ List.mem_append_right _ List.mem_cons_self))
  exact ⟨supervised, rfl, earlier, atMs, later, during, split, begun,
    cancelled .global .engine ⟨_, List.mem_cons_self⟩
      (fun _ member => acts_release_nothing (inside member)) bound List.mem_cons_self trivial⟩

end OneSweep

end Oppen.Mcp
