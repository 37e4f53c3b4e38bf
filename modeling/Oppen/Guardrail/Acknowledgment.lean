import Oppen.Guardrail.Activation

/-! # What an acknowledgment rests on

An engine is acknowledged by one confirmation of one review: the review is of the same engine,
nothing inhibited it since the review was begun, and the row of the request stands directly on
the head that was reviewed. Everything else leaves it inhibited.
-/

namespace Oppen.Guardrail

open Foundation Oppen.Ledger Oppen.Feed

variable {dec : EvidenceDecimals}

/-! ## What a step does to an engine -/

/-- The act inhibits an engine. -/
def ActivationAct.Inhibits (act : ActivationAct dec) (engine : Nat) : Prop :=
  match act with
  | .stop other .. | .inhibit other | .begin _ other .. | .fail _ other => other = engine
  | _ => False

/-- What an act makes of the state of an engine. -/
inductive Effect (now : Activations dec.Decimal) (act : ActivationAct dec) (engine : Nat)
    (state : EngineState dec.Decimal) : EngineState dec.Decimal → Prop
  | same (calm : ¬ act.Inhibits engine) : Effect now act engine state state
  | inhibited (emergency : List (KillScope × Engagement dec.Decimal)) :
      Effect now act engine state { state with emergency }.inhibit
  | withdrawn (released : Bool) (calm : ¬ act.Inhibits engine) :
      Effect now act engine state (state.withdraw released)
  | overlaid (emergency : List (KillScope × Engagement dec.Decimal))
      (calm : ¬ act.Inhibits engine) : Effect now act engine state { state with emergency }
  | published (version : PolicyVersion dec.Decimal) (calm : ¬ act.Inhibits engine) :
      Effect now act engine state
        { state with policyRevision := version.revision, policy := version.state }
  | reconciled (is : act = .reconcile engine)
      (unsupervised : (now.engines engine).supervised = false)
      (free : (now.engines engine).holder = none) :
      Effect now act engine state
        { state with acknowledged := some ⟨state.policyRevision, state.stopGeneration⟩ }
  | acknowledged (id nowMs : Nat) (is : act = .acknowledge id nowMs)
      (review : ActivationReview dec.Decimal) (evidence : ActivationEvidence dec.Decimal)
      (current : ActivationAuthority dec.Decimal)
      (stage : now.attempts id = .verified engine review evidence current)
      (holds : checkConfirmation (now.engines engine) review evidence current nowMs = .ok ()) :
      Effect now act engine state (acknowledging state review current)

section Effects

variable {reader : ActivationReader dec.Decimal} {lib : Libraries} {handle : Handle}
  {now after : Activations dec.Decimal} {act : ActivationAct dec} {engine : Nat}

/-- An engine that is replaced, and the others, which are not. -/
theorem effect_update {other : Nat} {changed : ActivationEngine dec.Decimal}
    (moved : after.engines = Function.update now.engines other changed)
    (here : Effect now act other (now.engines other).state changed.state)
    (apart : ∀ engine, act.Inhibits engine → engine = other) (engine : Nat) :
    Effect now act engine (now.engines engine).state (after.engines engine).state := by
  rw [moved]
  by_cases same : engine = other
  · subst same
    rw [Function.update_self]
    exact here
  · rw [Function.update_of_ne same]
    exact .same fun inhibits => same (apart engine inhibits)

/-- What one step of an activation does to one engine's state, stated by the engine. Every invariant
below is derived from this. -/
theorem ActivationStep.effect (step : ActivationStep reader lib handle now act after)
    (engine : Nat) :
    Effect now act engine (now.engines engine).state (after.engines engine).state := by
  cases step with
  | stop | inhibit | begin | failReview | failConfirmation =>
      refine effect_update rfl ?_ ?_ engine
      · exact .inhibited _
      · exact fun _ => Eq.symm
  | withdraw other released =>
      refine effect_update rfl ?_ (fun _ => False.elim) engine
      exact .withdrawn released id
  | overlay other emergency =>
      refine effect_update rfl ?_ (fun _ => False.elim) engine
      exact .overlaid emergency id
  | publish other version state published =>
      cases EngineState.publish_ok published
      refine effect_update rfl ?_ (fun _ => False.elim) engine
      exact .published version id
  | capture _ other _ authority _ state published =>
      cases EngineState.publish_ok published
      refine effect_update rfl ?_ (fun _ => False.elim) engine
      exact .published authority.policy id
  | reconcile other unsupervised free =>
      refine effect_update rfl ?_ (fun _ => False.elim) engine
      exact .reconciled rfl unsupervised free
  | feed | refuse | confirm =>
      refine effect_update rfl ?_ (fun _ => False.elim) engine
      exact .same id
  | acknowledge attempt other review evidence current stage nowMs holds =>
      refine effect_update rfl ?_ (fun _ => False.elim) engine
      exact .acknowledged attempt nowMs rfl review evidence current stage holds
  | _ => exact .same id

/-! ## Stop generations -/

/-- The stop generation never falls, and it rises where the act inhibits the engine, unless it is at
its end. -/
theorem Effect.rises {state changed : EngineState dec.Decimal}
    (effect : Effect now act engine state changed) (bounded : state.stopGeneration ≤ u64Max) :
    state.stopGeneration ≤ changed.stopGeneration ∧ changed.stopGeneration ≤ u64Max ∧
      (act.Inhibits engine → state.stopGeneration = u64Max ∨
        state.stopGeneration < changed.stopGeneration) := by
  cases effect with
  | inhibited emergency =>
      show _ ≤ min (state.stopGeneration + 1) u64Max ∧ min (state.stopGeneration + 1) u64Max ≤ _ ∧
        (_ → _ ∨ _ < min (state.stopGeneration + 1) u64Max)
      omega
  | same calm | withdrawn released calm | overlaid emergency calm | published version calm =>
      exact ⟨le_refl _, bounded, fun inhibits => absurd inhibits calm⟩
  | reconciled is | acknowledged id nowMs is =>
      subst is
      exact ⟨le_refl _, bounded, fun inhibits => inhibits.elim⟩

/-- The generations of all engines are 64-bit numbers. -/
def Activations.Bounded (now : Activations dec.Decimal) : Prop :=
  ∀ engine, (now.engines engine).state.stopGeneration ≤ u64Max

/-- Every step keeps the generations within their width. -/
theorem ActivationStep.bounded (step : ActivationStep reader lib handle now act after)
    (bounded : now.Bounded) : after.Bounded :=
  fun engine => ((step.effect engine).rises (bounded engine)).2.1

/-- Where the generation is what it was, and not the last, nothing inhibited the engine. -/
theorem run_uninhibited {acts : List (ActivationAct dec)}
    (run : Run (ActivationStep reader lib handle) now acts after) (bounded : now.Bounded) :
    (now.engines engine).state.stopGeneration ≤ (after.engines engine).state.stopGeneration ∧
      after.Bounded ∧
      ((after.engines engine).state.stopGeneration = (now.engines engine).state.stopGeneration →
        (after.engines engine).state.stopGeneration ≠ u64Max →
          ∀ act ∈ acts, ¬ act.Inhibits engine) := by
  induction run with
  | nil => exact ⟨le_refl _, bounded, fun _ _ _ => nofun⟩
  | snoc _ moved ih =>
      obtain ⟨risen, bounded, calm⟩ := ih
      obtain ⟨more, _, strict⟩ := (moved.effect engine).rises (bounded engine)
      refine ⟨risen.trans more, moved.bounded bounded, fun same counted act member => ?_⟩
      have here := le_antisymm (more.trans same.le) risen
      rcases List.mem_append.mp member with older | last
      · exact calm here (fun full => counted (by omega)) act older
      · rw [List.mem_singleton.mp last]
        intro inhibits
        rcases strict inhibits with full | higher
        · exact counted (by omega)
        · omega

end Effects

/-! ## The mutation lock -/

/-- One call at a time has the mutation lock of an engine, and none acknowledges while a review
is begun. -/
structure Activations.Sound (now : Activations dec.Decimal) : Prop where
  bounded : now.Bounded
  locked : ∀ id engine, (now.attempts id).holds = some engine →
    (now.engines engine).holder = some id
  inhibited : ∀ id engine, (now.attempts id).begins = some engine →
    (now.engines engine).state.acknowledged = none

section Locks

variable {reader : ActivationReader dec.Decimal} {lib : Libraries} {handle : Handle}
  {now after : Activations dec.Decimal} {act : ActivationAct dec} {id other : Nat}
  {stage : ActivationStage dec.Decimal} {changed : ActivationEngine dec.Decimal}

/-- A stage that begins on an engine holds that engine. -/
theorem ActivationStage.holds_of_begins {engine : Nat} (begins : stage.begins = some engine) :
    stage.holds = some engine := by
  rw [ActivationStage.holds, begins]
  rfl

/-- A stage that confirms on an engine holds that engine. -/
theorem ActivationStage.holds_of_confirms {engine : Nat} (confirms : stage.confirms = some engine) :
    stage.holds = some engine := by
  cases stage with
  | confirming | rechecked | allowed | requested | published | verified => exact confirms
  | _ => cases confirms

/-- The engine keeps its holder, and the attempt its lock. -/
theorem Activations.Sound.locked_kept (sound : now.Sound)
    (engines : ∀ engine, (after.engines engine).holder = (now.engines engine).holder)
    (attempts : ∀ id engine, (after.attempts id).holds = some engine →
      (now.attempts id).holds = some engine) (id engine : Nat)
    (holds : (after.attempts id).holds = some engine) :
    (after.engines engine).holder = some id := by
  rw [engines]
  exact sound.locked id engine (attempts id engine holds)

/-- The lock of an engine that only one attempt can have is taken or released. -/
theorem Activations.Sound.locked_moved (sound : now.Sound)
    (engines : after.engines = Function.update now.engines other changed)
    (attempts : after.attempts = Function.update now.attempts id stage)
    (alone : ∀ rival, (now.attempts rival).holds = some other → rival = id)
    (own : ∀ engine, stage.holds = some engine → engine = other ∧ changed.holder = some id)
    (rival engine : Nat) (holds : (after.attempts rival).holds = some engine) :
    (after.engines engine).holder = some rival := by
  rw [attempts] at holds
  rw [engines]
  by_cases same : rival = id
  · subst same
    rw [Function.update_self] at holds
    obtain ⟨rfl, held⟩ := own engine holds
    rw [Function.update_self]
    exact held
  · rw [Function.update_of_ne same] at holds
    by_cases here : engine = other
    · exact absurd (alone rival (here ▸ holds)) same
    · rw [Function.update_of_ne here]
      exact sound.locked rival engine holds

/-- A lock that is free is nobody's. -/
theorem Activations.Sound.alone_of_free (sound : now.Sound)
    (free : (now.engines other).holder = none) (id rival : Nat)
    (holds : (now.attempts rival).holds = some other) : rival = id := by
  rw [sound.locked rival other holds] at free
  cases free

/-- A lock that is held is one attempt's. -/
theorem Activations.Sound.alone_of_held (sound : now.Sound)
    (held : (now.attempts id).holds = some other) (rival : Nat)
    (holds : (now.attempts rival).holds = some other) : rival = id :=
  Option.some.inj ((sound.locked rival other holds).symm.trans (sound.locked id other held))

/-- While a review is begun nothing acknowledges its engine. -/
theorem Activations.Sound.unacknowledged (sound : now.Sound) {engine : Nat}
    (begins : (now.attempts id).begins = some engine) {state : EngineState dec.Decimal}
    (effect : Effect now act engine (now.engines engine).state state) :
    state.acknowledged = none := by
  have none := sound.inhibited id engine begins
  have holds := ActivationStage.holds_of_begins begins
  cases effect with
  | inhibited | withdrawn => rfl
  | same | overlaid | published => exact none
  | reconciled _ _ free =>
      rw [sound.locked id engine holds] at free
      cases free
  | acknowledged rival nowMs is review evidence current verified =>
      obtain rfl : rival = id := sound.alone_of_held holds rival (by rw [verified]; rfl)
      rw [verified] at begins
      cases begins

/-- An engine's holder is kept where only another field of an engine changed. -/
theorem holder_update (moved : after.engines = Function.update now.engines other changed)
    (kept : changed.holder = (now.engines other).holder) (engine : Nat) :
    (after.engines engine).holder = (now.engines engine).holder := by
  rw [moved, Function.update_apply]
  split
  · rename_i here
    rw [here]
    exact kept
  · rfl

/-- An attempt that moves on holds no engine it did not hold before. -/
theorem holds_update (moved : after.attempts = Function.update now.attempts id stage)
    (kept : ∀ engine, stage.holds = some engine → (now.attempts id).holds = some engine)
    (rival engine : Nat) (holds : (after.attempts rival).holds = some engine) :
    (now.attempts rival).holds = some engine := by
  rw [moved, Function.update_apply] at holds
  split at holds
  · rename_i here
    rw [here]
    exact kept engine holds
  · exact holds

/-- The engine an attempt holds has that attempt as its holder, after every step. -/
theorem ActivationStep.locked (sound : now.Sound)
    (step : ActivationStep reader lib handle now act after) (id engine : Nat)
    (holds : (after.attempts id).holds = some engine) :
    (after.engines engine).holder = some id := by
  cases step with
  | stop | inhibit | withdraw | overlay | publish | reconcile | feed =>
      refine sound.locked_kept ?_ ?_ id engine holds
      · exact holder_update rfl rfl
      · exact fun _ _ held => held
  | write => exact sound.locked id engine holds
  | begin attempt other agent account idle free =>
      refine sound.locked_moved rfl rfl (sound.alone_of_free free attempt) ?_ id engine holds
      rintro _ ⟨⟩
      exact ⟨rfl, rfl⟩
  | confirm attempt other evidence review stage free =>
      refine sound.locked_moved rfl rfl (sound.alone_of_free free attempt) ?_ id engine holds
      rintro _ ⟨⟩
      exact ⟨rfl, rfl⟩
  | observe attempt other agent account stage | recheck attempt other review evidence stage
  | allow attempt other review evidence current stage
  | request attempt other review evidence current atMs stage
  | note attempt other review evidence current appended stage
  | verify attempt other review evidence current appended stage =>
      refine sound.locked_kept ?_ ?_ id engine holds
      · exact fun _ => rfl
      · refine holds_update rfl fun _ held => ?_
        rw [stage]
        exact held
  | review | reread | «show» | discard =>
      refine sound.locked_kept ?_ ?_ id engine holds
      · exact fun _ => rfl
      · exact holds_update rfl fun _ => nofun
  | failReview =>
      refine sound.locked_kept ?_ ?_ id engine holds
      · exact holder_update rfl rfl
      · exact holds_update rfl fun _ => nofun
  | capture attempt other account authority stage =>
      refine sound.locked_moved rfl rfl (sound.alone_of_held ?_) ?_ id engine holds
      · rw [stage]
        rfl
      · exact fun _ => nofun
  | refuse attempt other stage =>
      refine sound.locked_moved rfl rfl (sound.alone_of_held ?_) ?_ id engine holds
      · exact ActivationStage.holds_of_begins stage
      · exact fun _ => nofun
  | acknowledge attempt other review evidence current stage =>
      refine sound.locked_moved rfl rfl (sound.alone_of_held ?_) ?_ id engine holds
      · rw [stage]
        rfl
      · exact fun _ => nofun
  | failConfirmation attempt other stage =>
      refine sound.locked_moved rfl rfl (sound.alone_of_held ?_) ?_ id engine holds
      · exact ActivationStage.holds_of_confirms stage
      · exact fun _ => nofun

/-- A review that goes on being begun was begun before, or begins inhibited. -/
theorem ActivationStep.begins (step : ActivationStep reader lib handle now act after)
    {engine : Nat} (begins : (after.attempts id).begins = some engine) :
    (now.attempts id).begins = some engine ∨
      (after.engines engine).state.acknowledged = none := by
  have kept : ∀ {attempt : Nat} {stage : ActivationStage dec.Decimal},
      after.attempts = Function.update now.attempts attempt stage →
        (stage.begins = some engine → (now.attempts attempt).begins = some engine) →
          (now.attempts id).begins = some engine := by
    intro attempt stage moved same
    rw [moved, Function.update_apply] at begins
    split at begins
    · rename_i here
      rw [here]
      exact same begins
    · exact begins
  cases step with
  | stop | inhibit | withdraw | overlay | publish | reconcile | feed | write => exact .inl begins
  | begin attempt other agent account idle free =>
      by_cases here : id = attempt
      · subst here
        rw [show ((now.withEngine other _).withAttempt id _).attempts id = _ from
          Function.update_self ..] at begins
        have same : other = engine := Option.some.inj begins
        refine .inr ?_
        rw [← same, show ((now.withEngine other _).withAttempt id _).engines other = _ from
          Function.update_self ..]
        rfl
      · rw [show ((now.withEngine other _).withAttempt attempt _).attempts id = _ from
          Function.update_of_ne here ..] at begins
        exact .inl begins
  | observe attempt other agent account stage =>
      refine .inl (kept rfl fun begins => ?_)
      rw [stage]
      exact begins
  | _ => exact .inl (kept rfl nofun)

/-- Every step keeps the engines and the attempts in agreement. -/
theorem ActivationStep.sound (sound : now.Sound)
    (step : ActivationStep reader lib handle now act after) : after.Sound where
  bounded := step.bounded sound.bounded
  locked := step.locked sound
  inhibited := fun id engine begins => by
    rcases step.begins begins with before | inhibited
    · exact sound.unacknowledged before (step.effect engine)
    · exact inhibited

end Locks

end Oppen.Guardrail
