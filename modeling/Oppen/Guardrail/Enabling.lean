import Oppen.Guardrail.Acknowledgment

/-! # Activation enables what was reviewed

Each stage of an activation carries what its calls did: where the review was begun, what was
shown, what the confirmation compared and the row it appended. An acknowledgment has it all,
and the last look at the engine besides.
-/

namespace Oppen.Guardrail

open Foundation Oppen.Ledger Oppen.Feed

variable {dec : EvidenceDecimals}

/-! ## The course of an activation -/

section Course

variable (reader : ActivationReader dec.Decimal) (lib : Libraries) (handle : Handle)
  (start : Activations dec.Decimal) (acts : List (ActivationAct dec))
  (now : Activations dec.Decimal) (id : Nat)

/-- The review was begun where its engine had the generation it names. -/
def Captured (observation : ActivationObservation dec.Decimal) : Prop :=
  ∃ earlier before after later, acts = earlier ++ .capture id :: later ∧
    Run (ActivationStep reader lib handle) start earlier before ∧
    ActivationStep reader lib handle before (.capture id) after ∧
    Run (ActivationStep reader lib handle) after later now ∧
    (after.engines observation.owner).state.stopGeneration = observation.generation

/-- The evidence that was shown was fit then. -/
def Displayed (review : ActivationReview dec.Decimal) : Prop :=
  ∃ lastTickMs display, validateEvidence dec review.observation.authority
    review.observation.generation review.evidence review.display.observedAtMs lastTickMs =
      .ok display

/-- What a confirmation compared. -/
structure Rechecked (engine : Nat) (review : ActivationReview dec.Decimal)
    (evidence : ActivationEvidence dec.Decimal) (current : ActivationAuthority dec.Decimal) :
    Prop where
  own : review.observation.owner = engine
  material : checkMaterial dec.toPolicyDecimals review.evidence evidence = .ok ()
  head : review.observation.authority.head = current.head
  authority : SameAuthority review.observation.authority current

/-- The review was made by the engine that began it. -/
structure Reviewed (review : ActivationReview dec.Decimal) : Prop where
  captured : Captured reader lib handle start acts now id review.observation
  called : .review id review.observation.owner review.evidence ∈ acts
  displayed : Displayed review

/-- The row of the request was appended after that on the head that was reviewed. -/
structure Requested (engine : Nat) (review : ActivationReview dec.Decimal)
    (evidence : ActivationEvidence dec.Decimal) (current : ActivationAuthority dec.Decimal) :
    Prop where
  called : .review id review.observation.owner review.evidence ∈ acts
  confirmed : .confirm id engine evidence ∈ acts
  displayed : Displayed review
  rechecked : Rechecked engine review evidence current
  requested : ∃ earlier before after later appended, acts = earlier ++ .request id :: later ∧
    Captured reader lib handle start earlier before id review.observation ∧
    ActivationStep reader lib handle before (.request id) after ∧
    Run (ActivationStep reader lib handle) after later now ∧
    RequestedOn reader lib current before.store after.store appended

/-- What was done for an activation at a stage. -/
def Progress : ActivationStage dec.Decimal → Prop
  | .idle | .beginning .. | .begun .. | .closed => True
  | .observed observation => Captured reader lib handle start acts now id observation
  | .reviewing engine observation evidence =>
      Captured reader lib handle start acts now id observation ∧
        .review id engine evidence ∈ acts
  | .reread engine observation evidence _ =>
      Captured reader lib handle start acts now id observation ∧
        .review id engine evidence ∈ acts ∧ observation.owner = engine
  | .reviewed review => Reviewed reader lib handle start acts now id review
  | .confirming engine review evidence =>
      Reviewed reader lib handle start acts now id review ∧ .confirm id engine evidence ∈ acts
  | .rechecked engine review evidence current | .allowed engine review evidence current _ =>
      Reviewed reader lib handle start acts now id review ∧
        .confirm id engine evidence ∈ acts ∧ Rechecked engine review evidence current
  | .requested engine review evidence current _ | .published engine review evidence current _
  | .verified engine review evidence current =>
      Requested reader lib handle start acts now id engine review evidence current

end Course

section Progress

variable {reader : ActivationReader dec.Decimal} {lib : Libraries} {handle : Handle}
  {start now after : Activations dec.Decimal} {acts : List (ActivationAct dec)}
  {act : ActivationAct dec} {id : Nat}

/-- A capture stays one after one more act. -/
theorem Captured.grow {observation : ActivationObservation dec.Decimal}
    (captured : Captured reader lib handle start acts now id observation)
    (step : ActivationStep reader lib handle now act after) :
    Captured reader lib handle start (acts ++ [act]) after id observation := by
  obtain ⟨earlier, before, begun, later, rfl, first, capture, onward, generation⟩ := captured
  exact ⟨earlier, before, begun, later ++ [act], by rw [List.append_assoc, List.cons_append],
    first, capture, onward.snoc step, generation⟩

/-- A review stays one after one more act. -/
theorem Reviewed.grow {review : ActivationReview dec.Decimal}
    (reviewed : Reviewed reader lib handle start acts now id review)
    (step : ActivationStep reader lib handle now act after) :
    Reviewed reader lib handle start (acts ++ [act]) after id review :=
  ⟨reviewed.captured.grow step, List.mem_append_left _ reviewed.called, reviewed.displayed⟩

/-- A request stays one after one more act. -/
theorem Requested.grow {engine : Nat} {review : ActivationReview dec.Decimal}
    {evidence : ActivationEvidence dec.Decimal} {current : ActivationAuthority dec.Decimal}
    (requested : Requested reader lib handle start acts now id engine review evidence current)
    (step : ActivationStep reader lib handle now act after) :
    Requested reader lib handle start (acts ++ [act]) after id engine review evidence current := by
  refine { requested with called := ?_, confirmed := ?_, requested := ?_ }
  · exact List.mem_append_left _ requested.called
  · exact List.mem_append_left _ requested.confirmed
  · obtain ⟨earlier, before, asked, later, appended, rfl, captured, request, onward, on⟩ :=
      requested.requested
    exact ⟨earlier, before, asked, later ++ [act], appended,
      by rw [List.append_assoc, List.cons_append], captured, request, onward.snoc step, on⟩

/-- What was done stays done. -/
theorem Progress.grow {stage : ActivationStage dec.Decimal}
    (progress : Progress reader lib handle start acts now id stage)
    (step : ActivationStep reader lib handle now act after) :
    Progress reader lib handle start (acts ++ [act]) after id stage := by
  cases stage with
  | idle | beginning | begun | closed => trivial
  | observed => exact Captured.grow progress step
  | reviewing => exact ⟨progress.1.grow step, List.mem_append_left _ progress.2⟩
  | reread =>
      exact ⟨progress.1.grow step, List.mem_append_left _ progress.2.1, progress.2.2⟩
  | reviewed => exact Reviewed.grow progress step
  | confirming => exact ⟨progress.1.grow step, List.mem_append_left _ progress.2⟩
  | rechecked | allowed =>
      exact ⟨progress.1.grow step, List.mem_append_left _ progress.2.1, progress.2.2⟩
  | requested | published | verified => exact Requested.grow progress step

/-- The attempt that moves, and the others, which keep what was done for them. -/
theorem progress_moved {attempt : Nat} {stage : ActivationStage dec.Decimal}
    (all : ∀ id, Progress reader lib handle start acts now id (now.attempts id))
    (step : ActivationStep reader lib handle now act after)
    (moved : after.attempts = Function.update now.attempts attempt stage)
    (here : Progress reader lib handle start (acts ++ [act]) after attempt stage) (id : Nat) :
    Progress reader lib handle start (acts ++ [act]) after id (after.attempts id) := by
  rw [moved]
  by_cases same : id = attempt
  · subst same
    rw [Function.update_self]
    exact here
  · rw [Function.update_of_ne same]
    exact (all id).grow step

/-- What a review displays is of the moment it is shown. -/
theorem reviewDisplay_ok {engine : ActivationEngine dec.Decimal}
    {observation : ActivationObservation dec.Decimal} {evidence : ActivationEvidence dec.Decimal}
    {current : ActivationAuthority dec.Decimal} {nowMs : Nat}
    {display : ActivationDisplay dec.Decimal}
    (run : reviewDisplay engine observation evidence current nowMs = .ok display) :
    Displayed ⟨observation, evidence, display⟩ := by
  obtain ⟨_, _, run⟩ := bind_eq_ok run
  obtain ⟨lastTickMs, _, run⟩ := bind_eq_ok run
  obtain ⟨shown, valid, run⟩ := bind_eq_ok run
  obtain ⟨_, _, run⟩ := bind_eq_ok run
  cases run
  have moment : shown.observedAtMs = nowMs := (validateEvidence_ok valid).2.2.2
  refine ⟨lastTickMs, shown, ?_⟩
  show validateEvidence dec _ _ _ shown.observedAtMs _ = _
  rw [moment]
  exact valid

/-- Every step keeps, of every attempt, that its stage was reached through the earlier ones. -/
theorem ActivationStep.progress (run : Run (ActivationStep reader lib handle) start acts now)
    (all : ∀ id, Progress reader lib handle start acts now id (now.attempts id))
    (step : ActivationStep reader lib handle now act after) (id : Nat) :
    Progress reader lib handle start (acts ++ [act]) after id (after.attempts id) := by
  have before : ∀ {attempt : Nat} {stage : ActivationStage dec.Decimal},
      now.attempts attempt = stage →
        Progress reader lib handle start (acts ++ [act]) after attempt stage := by
    intro attempt stage same
    exact (same ▸ all attempt : Progress reader lib handle start acts now attempt stage).grow step
  have whole := step
  have moved : ∀ {attempt : Nat} {stage : ActivationStage dec.Decimal},
      after.attempts = Function.update now.attempts attempt stage →
        Progress reader lib handle start (acts ++ [act]) after attempt stage →
          Progress reader lib handle start (acts ++ [act]) after id (after.attempts id) :=
    fun moved here => progress_moved all step moved here id
  cases step with
  | stop | inhibit | withdraw | overlay | publish | reconcile | feed | write => exact before rfl
  | begin | observe | refuse | failReview | failConfirmation | discard | acknowledge =>
      refine moved rfl ?_
      trivial
  | capture attempt engine account authority stage state published fresh fed =>
      refine moved rfl ?_
      refine ⟨acts, now, _, [], rfl, run, whole, .nil, ?_⟩
      show ((Function.update now.engines engine _) engine).state.stopGeneration = _
      rw [Function.update_self]
  | review attempt engine evidence observation stage =>
      refine moved rfl ?_
      exact ⟨before stage, List.mem_append_right _ List.mem_cons_self⟩
  | reread attempt engine observation evidence stage own =>
      refine moved rfl ?_
      obtain ⟨captured, called⟩ := before stage
      exact ⟨captured, called, own⟩
  | «show» attempt engine observation evidence current stage nowMs display shown =>
      refine moved rfl ?_
      obtain ⟨captured, called, own⟩ := before stage
      subst own
      exact ⟨captured, called, reviewDisplay_ok shown⟩
  | confirm attempt engine evidence review stage =>
      refine moved rfl ?_
      exact ⟨before stage, List.mem_append_right _ List.mem_cons_self⟩
  | recheck attempt engine review evidence stage own material alpha current read same =>
      refine moved rfl ?_
      obtain ⟨reviewed, confirmed⟩ := before stage
      obtain ⟨head, authority⟩ := checkHistory_ok same
      exact ⟨reviewed, confirmed, own, material, head, authority⟩
  | allow attempt engine review evidence current stage =>
      refine moved rfl ?_
      have done := before stage
      exact done
  | request attempt engine review evidence current atMs stage appended db written =>
      refine moved rfl ?_
      have done : Progress reader lib handle start acts now attempt
        (.allowed engine review evidence current atMs) := stage ▸ all attempt
      obtain ⟨reviewed, confirmed, rechecked⟩ := done
      exact ⟨List.mem_append_left _ reviewed.called, List.mem_append_left _ confirmed,
        reviewed.displayed, rechecked, acts, now, _, [], appended, rfl, reviewed.captured, whole,
        .nil, requestActivation_ok written⟩
  | note attempt engine review evidence current appended stage =>
      refine moved rfl ?_
      have done := before stage
      exact done
  | verify attempt engine review evidence current appended stage =>
      refine moved rfl ?_
      have done := before stage
      exact done

/-- After every run each attempt's stage was reached through the earlier ones. The run begins with
every attempt idle. -/
theorem run_progress (idle : ∀ id, start.attempts id = .idle)
    (run : Run (ActivationStep reader lib handle) start acts now) :
    ∀ id, Progress reader lib handle start acts now id (now.attempts id) := by
  refine run.history (fun acts now => ∀ id, Progress reader lib handle start acts now id
    (now.attempts id)) (fun id => ?_) ?_
  · rw [idle]
    trivial
  · exact fun acts before act after run all step => step.progress run all

end Progress

end Oppen.Guardrail
