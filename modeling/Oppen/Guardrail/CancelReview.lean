import Oppen.Foundation.Pairing
import Oppen.Guardrail.Cancels

/-! # Reviewed cancels

An operator reviews a cancel before it is sent. What is cleared names the frozen targets and
nothing else, and is cleared only while the venue has each of them as it was, but for what filled
of it meanwhile. Orders that were not reviewed neither stop a cancel nor get into it.
-/

namespace Oppen.Guardrail

open Oppen.Json Oppen.Ledger Oppen.Signing

/-! ## The decision -/

/-- A cancellation proposal, with who owns its targets as the submission journal had it. -/
structure CancelProposal (Decimal : Type) where
  id : String
  agent : String
  intent : CancelIntent Decimal
  route : AuthorizedRoute
  provenance : Option Value
  expiresAtMs : UInt64

/-- What an operator reviewed. -/
structure CancelReview (Decimal : Type) where
  proposal : CancelProposal Decimal
  candidate : CancelIntent Decimal
  action : Action
  policyRevision : ℕ
  reviewedAtMs : UInt64

/-- What the approval journal says of one review: the pending proposal and the policy's revision,
whether the review can be retained, its digest, whether the proposal could still be claimed, and
whether the claim was disposed of. -/
structure ReviewJournal (Decimal : Type) where
  prepared : Except String (Option (CancelProposal Decimal × ℕ))
  committed : Except String Unit
  digest : Except String String
  claimed : Except String Bool
  finished : Except String Unit

/-- Who owns the targets of a cancellation, as it was cleared. -/
def ClearedKind.provenance? : ClearedKind → Option Value
  | .discretionaryCancel fields => fields.lookup "provenance"
  | _ => none

section Reviews

variable {dec : RiskDecimals}

/-- `operator_prepare_cancel_proposal`. -/
def prepareCancelProposal (setup : EngineSetup) (answers : Answers dec.Decimal)
    (journal : Option (ReviewJournal dec.Decimal)) (id : String)
    (context : CancelContext dec.Decimal) (ownership : Except String Value) (nowMs : UInt64)
    (state : OrderState dec.Decimal) :
    Except (Refusal dec.Decimal) (CancelReview dec.Decimal) × OrderState dec.Decimal :=
  match journal with
  | none => (.error (approvalRefusal "durable approval authority required"), state)
  | some journal =>
      match journal.prepared with
      | .error detail => (.error (approvalRefusal detail), state)
      | .ok none => (.error (.unevaluable (.unknownProposal id)), state)
      | .ok (some (proposal, policyRevision)) =>
          match decideDiscretionaryCancel setup answers
              ⟨proposal.agent, proposal.intent, context, ownership, nowMs⟩ (some proposal.route)
              true state with
          | (.error refusal, state) => (.error refusal, state)
          | (.ok cleared, state) =>
              if cleared.clearance.kind.provenance? = none ∨
                  cleared.clearance.kind.provenance? ≠ proposal.provenance then
                (.error (submissionRefusal
                  "cancellation proposal lacks matching authenticated ownership"), state)
              else
                match journal.committed with
                | .error detail => (.error (approvalRefusal detail), state)
                | .ok () =>
                    (.ok ⟨proposal, proposal.intent, cleared.action, policyRevision, nowMs⟩, state)

/-- What a confirmation makes of a decision: it has to be the reviewed one. -/
def CancelReview.accept (review : CancelReview dec.Decimal) (digest : String)
    (cleared : Cleared dec.Decimal) : Except (Refusal dec.Decimal) (Cleared dec.Decimal) :=
  if cleared.action ≠ review.action ∨ cleared.clearance.policyRevision ≠ review.policyRevision ∨
      cleared.clearance.kind.provenance? = none ∨
      cleared.clearance.kind.provenance? ≠ review.proposal.provenance then
    .error (reviewChanged "cancellation action or policy changed")
  else .ok { cleared with
    clearance := { cleared.clearance with approvalReviewDigest := some digest } }

/-- `operator_confirm_cancel_review`. -/
def confirmCancelReview (setup : EngineSetup) (answers : Answers dec.Decimal)
    (journal : Option (ReviewJournal dec.Decimal)) (review : CancelReview dec.Decimal)
    (context : CancelContext dec.Decimal) (ownership : Except String Value) (nowMs : UInt64)
    (state : OrderState dec.Decimal) :
    Except (Refusal dec.Decimal) (Cleared dec.Decimal) × OrderState dec.Decimal :=
  if review.proposal.expiresAtMs ≤ nowMs then
    (.error (.unevaluable (.approvalExpired review.proposal.expiresAtMs nowMs)), state)
  else if nowMs < review.reviewedAtMs then
    (.error (.unevaluable (.clockWentBackwards nowMs review.reviewedAtMs)), state)
  else
    match journal with
    | none => (.error (approvalRefusal "durable approval authority required"), state)
    | some journal =>
        match journal.digest, journal.claimed with
        | .error detail, _ => (.error (approvalRefusal detail), state)
        | .ok _, .error detail => (.error (approvalRefusal detail), state)
        | .ok _, .ok false => (.error (.unevaluable (.unknownProposal review.proposal.id)), state)
        | .ok digest, .ok true =>
            let (decided, state) := decideDiscretionaryCancel setup answers
              ⟨review.proposal.agent, review.candidate, context, ownership, nowMs⟩
              (some review.proposal.route) false state
            let outcome := decided.bind (review.accept digest)
            match answers.audit, outcome, journal.finished with
            | .error detail, .ok _, _ => (.error (.unevaluable (.auditWriteFailed detail)), state)
            | _, _, .error detail => (.error (approvalRefusal detail), state)
            | _, outcome, .ok () => (outcome, state)

/-! ## What a check accepts -/

/-- A row of the snapshot is a frozen order still: the same order on the same asset, side and
price and whatever else it was frozen with, of which something is left and nothing was added. -/
structure CancelTarget.StillIs (target actual : CancelTarget dec.Decimal) : Prop where
  oid : actual.oid = target.oid
  asset : actual.assetIndex = target.assetIndex
  side : actual.isBuy = target.isBuy
  price : dec.value actual.limitPx = dec.value target.limitPx
  left : 0 < dec.value actual.sz
  shrunk : dec.value actual.sz ≤ dec.value target.sz
  rest : { actual with sz := target.sz }.map dec.value = target.map dec.value

/-- An intent that can be cleared at all: some targets, each of them sound, no order twice. -/
structure CancelIntent.Frozen (intent : CancelIntent dec.Decimal) : Prop where
  some : intent.targets ≠ []
  sound : ∀ target ∈ intent.targets, ¬ invalidTarget target
  nodup : (intent.targets.map (·.oid)).Nodup

/-- A snapshot that can be cleared on: of the account, not from the future and not too old, and
no order twice. -/
structure CancelContext.Fresh (context : CancelContext dec.Decimal) (account : Address)
    (maxAgeMs nowMs : UInt64) : Prop where
  account : context.account = account
  past : context.observedAtMs ≤ nowMs
  recent : nowMs - context.observedAtMs ≤ maxAgeMs
  nodup : (context.targets.map (·.oid)).Nodup

section Checks

variable {intent : CancelIntent dec.Decimal} {context : CancelContext dec.Decimal}
  {account : Address} {maxAgeMs nowMs : UInt64}

/-- A check passes exactly if what it refuses is not so. -/
theorem refuseIf_ok_iff {bad : Prop} [Decidable bad] {refusal : Refusal dec.Decimal} :
    refuseIf bad refusal = .ok () ↔ ¬ bad := by
  by_cases holds : bad
  · simp [refuseIf, holds]
  · simp [refuseIf, holds]

/-- Two checks in a row pass exactly if each of them does. -/
theorem bind_unit_ok_iff {first second : Except (Refusal dec.Decimal) Unit} :
    (first >>= fun _ => second) = .ok () ↔ first = .ok () ∧ second = .ok () := by
  constructor
  · intro run
    obtain ⟨done, first, second⟩ := bind_eq_ok run
    exact ⟨first, second⟩
  · rintro ⟨rfl, second⟩
    exact second

/-- A cancellation passes its own validation exactly if it can be cleared at all: it has targets,
each of them is sound, and no order is named twice. -/
theorem CancelIntent.validate_ok_iff : intent.validate = .ok () ↔ intent.Frozen := by
  simp only [validate, bind_unit_ok_iff, refuseIf_ok_iff, not_or, not_exists, not_and, not_not]
  constructor
  · rintro ⟨some, sound, nodup⟩
    exact ⟨some, sound, nodup⟩
  · intro frozen
    exact ⟨frozen.some, frozen.sound, frozen.nodup⟩

/-- A target is there unchanged when one of the rows is it still. -/
theorem CancelIntent.unchanged_iff (nodup : (context.targets.map (·.oid)).Nodup)
    {target : CancelTarget dec.Decimal} :
    unchanged context target ↔ ∃ actual ∈ context.targets, target.StillIs actual := by
  constructor
  · rintro ⟨actual, found, left, shrunk, rest⟩
    have named := List.find?_some found
    simp only [decide_eq_true_eq] at named
    have fields := rest
    simp only [CancelTarget.map, CancelTarget.mk.injEq] at fields
    exact ⟨actual, List.mem_of_find?_eq_some found,
      ⟨named.1, named.2, by tauto, by tauto, left, shrunk, rest⟩⟩
  · rintro ⟨actual, member, still⟩
    refine ⟨actual, ?_, still.left, still.shrunk, still.rest⟩
    apply Foundation.find?_of_key nodup member
    · simp only [still.oid, still.asset, and_self, decide_true]
    · intro other named
      simp only [decide_eq_true_eq] at named
      exact named.1.trans still.oid.symm

/-- **What `check_context` accepts.** Exactly the frozen intents on fresh snapshots in which each
frozen target is still there. -/
theorem CancelIntent.checkContext_ok_iff :
    intent.checkContext context account maxAgeMs nowMs = .ok () ↔
      intent.Frozen ∧ context.Fresh account maxAgeMs nowMs ∧
        ∀ target ∈ intent.targets, ∃ actual ∈ context.targets, target.StillIs actual := by
  simp only [checkContext, bind_unit_ok_iff, refuseIf_ok_iff, validate_ok_iff, UInt64.not_lt,
    not_exists, not_and, not_not]
  constructor
  · rintro ⟨frozen, account, past, recent, nodup, there⟩
    exact ⟨frozen, ⟨account, past, recent, nodup⟩,
      fun target member => (unchanged_iff nodup).mp (there target member)⟩
  · rintro ⟨frozen, fresh, there⟩
    exact ⟨frozen, fresh.account, fresh.past, fresh.recent, fresh.nodup,
      fun target member => (unchanged_iff fresh.nodup).mpr (there target member)⟩

/-- On a snapshot of the frozen orders alone, what is accepted is every row, each for its
target. -/
theorem CancelIntent.checkContext_rows
    (accepted : intent.checkContext context account maxAgeMs nowMs = .ok ())
    (frozenOnly : ∀ actual ∈ context.targets, actual.oid ∈ intent.targets.map (·.oid)) :
    ∃ rows, rows.Perm context.targets ∧
      List.Forall₂ CancelTarget.StillIs intent.targets rows := by
  obtain ⟨frozen, fresh, there⟩ := checkContext_ok_iff.mp accepted
  exact Foundation.exists_perm_of_keys (fun _ _ still => still.oid) frozen.nodup fresh.nodup there
    frozenOnly

end Checks

/-! ## What is cleared -/

/-- An action that names exactly the targets of an intent, in their order. -/
def CancelIntent.Names (intent : CancelIntent dec.Decimal) (action : Action) : Prop :=
  ∃ cancels, action = .cancel cancels ∧
    cancels.map (fun wire => (wire.a, wire.o)) =
      intent.targets.map fun target => (target.assetIndex, target.oid)

/-- The action of a cancellation names the order the cancellation names. -/
theorem CancelIntent.names_action (intent : CancelIntent dec.Decimal) :
    intent.Names intent.action := by
  refine ⟨_, rfl, ?_⟩
  rw [List.map_map]
  rfl

/-- A clearance that was made of an intent on a snapshot: the snapshot is of the account of the
route it is cleared on, was accepted for the age the agent is configured with, and the action
names the targets. -/
structure ClearedOn (ask : CancelAsk dec.Decimal) (reviewedRoute : Option AuthorizedRoute)
    (cleared : Cleared dec.Decimal) (after : OrderState dec.Decimal) : Prop where
  accepted : ∃ config, after.engine.policy.guardrails.get ask.agent = some config ∧
    ask.intent.checkContext ask.context cleared.clearance.route.binding.container
      config.freshness.maxAccountAgeMs ask.nowMs = .ok ()
  route : ∀ expected ∈ reviewedRoute, expected = cleared.clearance.route
  names : ask.intent.Names cleared.action

section Decisions

variable {setup : EngineSetup} {answers : Answers dec.Decimal} {ask : CancelAsk dec.Decimal}
  {reviewedRoute : Option AuthorizedRoute} {preparing : Bool}
  {state after : OrderState dec.Decimal} {cleared : Cleared dec.Decimal}

/-- What a passed check of a discretionary cancellation says: the agent is configured, the context
and the route are its own, and the review is the one it was asked for. -/
theorem checkDiscretionary_ok {engine : EngineState dec.Decimal} {route : AuthorizedRoute}
    {provenance : Value}
    (checked : checkDiscretionary setup answers ask reviewedRoute engine =
      .ok (route, provenance)) :
    (∃ config, engine.policy.guardrails.get ask.agent = some config ∧
      ask.intent.checkContext ask.context route.binding.container
        config.freshness.maxAccountAgeMs ask.nowMs = .ok ()) ∧
      ∀ expected ∈ reviewedRoute, expected = route := by
  unfold checkDiscretionary at checked
  split at checked
  · exact nomatch checked
  · rename_i config found
    obtain ⟨route', -, checked⟩ := bind_eq_ok checked
    obtain ⟨done, kept, checked⟩ := bind_eq_ok checked
    obtain ⟨done, -, checked⟩ := bind_eq_ok checked
    obtain ⟨done, accepted, checked⟩ := bind_eq_ok checked
    obtain ⟨provenance', -, checked⟩ := bind_eq_ok checked
    split at checked
    · split at checked <;> exact nomatch checked
    · cases checked
      refine ⟨⟨config, found, accepted⟩, fun expected member => ?_⟩
      by_contra other
      exact refuseIf_ok kept ⟨expected, member, other⟩

/-- **Nothing is added or dropped.** What is cleared names the targets of the intent, and was
cleared on the snapshot. -/
theorem decideDiscretionaryCancel_ok
    (decided : decideDiscretionaryCancel setup answers ask reviewedRoute preparing state =
      (.ok cleared, after)) : ClearedOn ask reviewedRoute cleared after := by
  unfold decideDiscretionaryCancel at decided
  split at decided
  · exact nomatch decided
  · split at decided
    · exact nomatch decided
    · split at decided
      · exact nomatch decided
      · rename_i route provenance checked
        obtain ⟨accepted, kept⟩ := checkDiscretionary_ok checked
        split at decided <;> cases decided <;>
          exact ⟨accepted, kept, ask.intent.names_action⟩

/-- What a proposal that was prepared says: the checks of a fresh cancellation passed and the review
freezes what they saw. -/
theorem prepareCancelProposal_ok {journal : Option (ReviewJournal dec.Decimal)} {id : String}
    {context : CancelContext dec.Decimal} {ownership : Except String Value} {nowMs : UInt64}
    {review : CancelReview dec.Decimal}
    (prepared : prepareCancelProposal setup answers journal id context ownership nowMs state =
      (.ok review, after)) :
    review.candidate = review.proposal.intent ∧ ∃ cleared, review.action = cleared.action ∧
      ClearedOn ⟨review.proposal.agent, review.proposal.intent, context, ownership, nowMs⟩
        (some review.proposal.route) cleared after := by
  unfold prepareCancelProposal at prepared
  split at prepared
  · exact nomatch prepared
  · split at prepared
    · exact nomatch prepared
    · exact nomatch prepared
    · split at prepared
      · exact nomatch prepared
      · rename_i cleared state' decided
        split at prepared
        · exact nomatch prepared
        · split at prepared
          · exact nomatch prepared
          · cases prepared
            exact ⟨rfl, cleared, rfl, decideDiscretionaryCancel_ok decided⟩

/-- A decision is accepted by a review exactly as it was reviewed, under the digest that was
confirmed. -/
theorem CancelReview.accept_ok {review : CancelReview dec.Decimal} {digest : String}
    {decided : Cleared dec.Decimal} (accepted : review.accept digest decided = .ok cleared) :
    decided.action = review.action ∧ cleared =
      { decided with
        clearance := { decided.clearance with approvalReviewDigest := some digest } } := by
  unfold CancelReview.accept at accepted
  split at accepted
  · exact nomatch accepted
  · rename_i same
    cases accepted
    exact ⟨not_not.mp (not_or.mp same).1, rfl⟩

/-- What a confirmed review says: the checks passed again, and the action is the one that was
reviewed. -/
theorem confirmCancelReview_ok {journal : Option (ReviewJournal dec.Decimal)}
    {review : CancelReview dec.Decimal} {context : CancelContext dec.Decimal}
    {ownership : Except String Value} {nowMs : UInt64}
    (confirmed : confirmCancelReview setup answers journal review context ownership nowMs state =
      (.ok cleared, after)) :
    cleared.action = review.action ∧
      ClearedOn ⟨review.proposal.agent, review.candidate, context, ownership, nowMs⟩
        (some review.proposal.route) cleared after := by
  unfold confirmCancelReview at confirmed
  split at confirmed
  · exact nomatch confirmed
  · split at confirmed
    · exact nomatch confirmed
    · split at confirmed
      · exact nomatch confirmed
      · split at confirmed
        · exact nomatch confirmed
        · exact nomatch confirmed
        · exact nomatch confirmed
        · rename_i digest _ _
          generalize decision : decideDiscretionaryCancel setup answers
            ⟨review.proposal.agent, review.candidate, context, ownership, nowMs⟩
            (some review.proposal.route) false state = made at confirmed
          obtain ⟨decided, state'⟩ := made
          dsimp only at confirmed
          split at confirmed
          · exact nomatch confirmed
          · exact nomatch confirmed
          · injection confirmed with outcome same
            subst same
            obtain ⟨decided', rfl, accepted⟩ := bind_eq_ok outcome
            obtain ⟨same, rfl⟩ := CancelReview.accept_ok accepted
            have made := decideDiscretionaryCancel_ok decision
            exact ⟨same, made.accepted, made.route, made.names⟩

end Decisions

end Reviews

/-- **A reviewed cancel cancels what was reviewed.** A check accepts exactly the sound intents on
fresh snapshots in which every frozen order is still there; of a snapshot of the frozen orders alone
it accepts every row, each for its target. What a decision clears names the targets of the intent it
checked, and what is confirmed is the proposal that was reviewed, on the snapshot it is confirmed
with. Rows of other orders, and orders that filled in part, do not stand in the way of a review. -/
theorem reviewed_cancel_exact (dec : RiskDecimals) :
    (∀ (intent : CancelIntent dec.Decimal) (context : CancelContext dec.Decimal)
      (account : Address) (maxAgeMs nowMs : UInt64),
      (intent.checkContext context account maxAgeMs nowMs = .ok () ↔
        intent.Frozen ∧ context.Fresh account maxAgeMs nowMs ∧
          ∀ target ∈ intent.targets, ∃ actual ∈ context.targets, target.StillIs actual) ∧
      (intent.checkContext context account maxAgeMs nowMs = .ok () →
        (∀ actual ∈ context.targets, actual.oid ∈ intent.targets.map (·.oid)) →
          ∃ rows, rows.Perm context.targets ∧
            List.Forall₂ CancelTarget.StillIs intent.targets rows)) ∧
    (∀ (setup : EngineSetup) (answers : Answers dec.Decimal) (ask : CancelAsk dec.Decimal)
      (reviewedRoute : Option AuthorizedRoute) (preparing : Bool)
      (state after : OrderState dec.Decimal) (cleared : Cleared dec.Decimal),
      decideDiscretionaryCancel setup answers ask reviewedRoute preparing state =
        (.ok cleared, after) →
        ClearedOn ask reviewedRoute cleared after) ∧
    ∀ (setup : EngineSetup) (answers answers' : Answers dec.Decimal)
      (journal journal' : Option (ReviewJournal dec.Decimal)) (id : String)
      (context context' : CancelContext dec.Decimal) (ownership ownership' : Except String Value)
      (nowMs nowMs' : UInt64) (state after state' after' : OrderState dec.Decimal)
      (review : CancelReview dec.Decimal) (cleared : Cleared dec.Decimal),
      prepareCancelProposal setup answers journal id context ownership nowMs state =
          (.ok review, after) →
        confirmCancelReview setup answers' journal' review context' ownership' nowMs' state' =
            (.ok cleared, after') →
          cleared.action = review.action ∧
            ClearedOn ⟨review.proposal.agent, review.proposal.intent, context', ownership', nowMs'⟩
              (some review.proposal.route) cleared after' := by
  refine ⟨fun intent context account maxAgeMs nowMs =>
      ⟨CancelIntent.checkContext_ok_iff, CancelIntent.checkContext_rows⟩,
    fun _ _ _ _ _ _ _ _ decided => decideDiscretionaryCancel_ok decided, ?_⟩
  intro setup answers answers' journal journal' id context context' ownership ownership' nowMs
    nowMs' state after state' after' review cleared prepared confirmed
  have frozen : review.candidate = review.proposal.intent := (prepareCancelProposal_ok prepared).1
  obtain ⟨same, made⟩ := confirmCancelReview_ok confirmed
  rw [frozen] at made
  exact ⟨same, made⟩

namespace OneBid

open OneSymbol

/-- A bid of which some is left. -/
def bid (oid : UInt64) (left : FixedPoint) : CancelTarget FixedPoint :=
  ⟨"BTC", 0, oid, none, true, ⟨60000, 0⟩, left, ⟨1, 0⟩, 0, "Limit", none, false, false, none, none,
    false⟩

def intent : CancelIntent RiskDecimals.reference.Decimal := ⟨[bid 1 ⟨1, 0⟩], "stop"⟩

/-- The bid, half of it filled, beside one that was placed since. -/
def later : CancelContext RiskDecimals.reference.Decimal :=
  ⟨account, 0, [bid 2 ⟨1, 0⟩, bid 1 ⟨5, 1⟩]⟩

def proposal : CancelProposal RiskDecimals.reference.Decimal :=
  ⟨"p", "maker", intent, route, some (.string "receipt"), 60000⟩

def journal : Option (ReviewJournal RiskDecimals.reference.Decimal) :=
  some ⟨.ok (some (proposal, 1)), .ok (), .ok "digest", .ok true, .ok ()⟩

/-- The proposal is reviewed while the whole bid is left. -/
def reviewing : Except (Refusal RiskDecimals.reference.Decimal)
    (CancelReview RiskDecimals.reference.Decimal) × OrderState RiskDecimals.reference.Decimal :=
  prepareCancelProposal setup (answers guardrails) journal "p" ⟨account, 0, [bid 1 ⟨1, 0⟩]⟩
    (.ok (.string "receipt")) 0 (state guardrails ⟨⟨2, 1000⟩, 1⟩)

/-- The sample's review is prepared. -/
theorem reviews : reviewing.1.toOption.isSome = true := by decide +kernel

def review : CancelReview RiskDecimals.reference.Decimal := reviewing.1.toOption.get reviews

/-- It is confirmed once half of the bid filled. -/
def confirming : Except (Refusal RiskDecimals.reference.Decimal)
    (Cleared RiskDecimals.reference.Decimal) × OrderState RiskDecimals.reference.Decimal :=
  confirmCancelReview setup (answers guardrails) journal review later (.ok (.string "receipt")) 1
    reviewing.2

/-- The sample's review is confirmed, after the order was half filled. -/
theorem confirms : confirming.1.toOption.isSome = true := by decide +kernel

def confirmed : Cleared RiskDecimals.reference.Decimal := confirming.1.toOption.get confirms

/-- What was reviewed is cancelled although half of it filled and another order was placed. -/
theorem half_filled_bid_cancelled : confirmed.action = review.action ∧
    ClearedOn ⟨review.proposal.agent, review.proposal.intent, later, .ok (.string "receipt"), 1⟩
      (some review.proposal.route) confirmed confirming.2 :=
  (reviewed_cancel_exact .reference).2.2 setup (answers guardrails) (answers guardrails) journal
    journal "p" _ later (.ok (.string "receipt")) (.ok (.string "receipt")) 0 1 _ reviewing.2
    reviewing.2 confirming.2 review confirmed (Prod.ext (ok_get reviews) rfl)
    (Prod.ext (ok_get confirms) rfl)

/-- An order that was placed since does not stop a reviewed cancel. -/
theorem later_order_accepted :
    ¬ ∀ (intent : CancelIntent RiskDecimals.reference.Decimal)
      (context : CancelContext RiskDecimals.reference.Decimal) (account : Address)
      (maxAgeMs nowMs : UInt64),
      intent.checkContext context account maxAgeMs nowMs = .ok () →
        ∀ actual ∈ context.targets, ∃ target ∈ intent.targets, target.StillIs actual := by
  intro all
  obtain ⟨target, member, still⟩ :=
    all intent later account 0 0 (ok_get (by decide +kernel)) (bid 2 ⟨1, 0⟩) List.mem_cons_self
  obtain rfl := List.mem_singleton.mp member
  exact absurd still.oid (by decide)

end OneBid

end Oppen.Guardrail
