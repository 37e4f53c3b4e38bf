import Oppen.Ledger.Identity

/-! # Clearances

The audit record of one successful evaluation, with the JSON it is serialised to.
Decimals are kept as the text they are serialised as; nothing reads them back except
from that text.
-/

namespace Oppen.Guardrail

open Oppen.Json Oppen.Ledger

/-- The non-secret record of an agent's wallet. -/
structure AgentWallet where
  generation : Nat
  address : Address
  approvedAtMs : Nat
  validUntilMs : Nat
  deriving DecidableEq

/-- An operator grant: an agent, its container and the wallet approved to sign for it. -/
structure RegistryBinding where
  agent : String
  container : Address
  vaultAddress : Option Address
  wallet : AgentWallet
  deriving DecidableEq

/-- A granted route as a clearance carries it: the binding, the row it was granted in, and its
network. -/
structure AuthorizedRoute where
  network : Network
  bindingSeq : Nat
  binding : RegistryBinding
  deriving DecidableEq

/-- What was cleared, in the terms the guardrails evaluated it in. The targets of a
discretionary cancellation are kept as serialised. -/
inductive ClearedKind where
  | order (symbol : String) (isBuy : Bool) (px sz notionalUsd : String) (reduceOnly : Bool)
      (slippageBps referencePx slippageReferencePx : String) (cloid : Option Cloid)
      (snapshotId snapshotHash : Option String)
  | cancel (count : Nat)
  | discretionaryCancel (fields : List (String × Value))
  | scheduleCancel (cancelAtMs : Option Nat)
  deriving DecidableEq

/-- The audit record of one successful evaluation; the utilization block is kept as
serialised. -/
structure Clearance where
  approvalReviewDigest : Option String
  agent : String
  route : AuthorizedRoute
  policyRevision : Nat
  vaultAddress : Option Address
  network : Network
  evaluatedAtMs : Nat
  kind : ClearedKind
  utilization : Value
  deriving DecidableEq

/-- `None` is written as `null`. -/
def optionValue {α : Type} (write : α → Value) : Option α → Value
  | none => .null
  | some value => write value

def AgentWallet.toValue (wallet : AgentWallet) : Value :=
  .ofFields [("generation", .ofInt wallet.generation), ("address", wallet.address.toValue),
    ("approved_at_ms", .ofInt wallet.approvedAtMs),
    ("valid_until_ms", .ofInt wallet.validUntilMs)]

def RegistryBinding.toValue (binding : RegistryBinding) : Value :=
  .ofFields [("agent", .string binding.agent), ("container", binding.container.toValue),
    ("vault_address", optionValue Address.toValue binding.vaultAddress),
    ("wallet", binding.wallet.toValue)]

def AuthorizedRoute.toValue (route : AuthorizedRoute) : Value :=
  .ofFields [("network", route.network.toValue), ("binding_seq", .ofInt route.bindingSeq),
    ("binding", route.binding.toValue)]

def ClearedKind.toValue : ClearedKind → Value
  | .order symbol isBuy px sz notionalUsd reduceOnly slippageBps referencePx slippageReferencePx
      cloid snapshotId snapshotHash =>
      .ofFields [("cleared", .string "order"), ("symbol", .string symbol),
        ("is_buy", .bool isBuy), ("px", .string px), ("sz", .string sz),
        ("notional_usd", .string notionalUsd), ("reduce_only", .bool reduceOnly),
        ("slippage_bps", .string slippageBps), ("reference_px", .string referencePx),
        ("slippage_reference_px", .string slippageReferencePx),
        ("cloid", optionValue Cloid.toValue cloid),
        ("snapshot_id", .ofOption snapshotId), ("snapshot_hash", .ofOption snapshotHash)]
  | .cancel count => .ofFields [("cleared", .string "cancel"), ("count", .ofInt count)]
  | .discretionaryCancel fields =>
      .ofFields (("cleared", .string "discretionary_cancel") :: fields)
  | .scheduleCancel cancelAtMs =>
      .ofFields [("cleared", .string "schedule_cancel"),
        ("cancel_at_ms", optionValue (fun ms => .ofInt (ms : Nat)) cancelAtMs)]

/-- The members every clearance is serialised with. -/
def Clearance.fields (clearance : Clearance) : List (String × Value) :=
  [("agent", .string clearance.agent), ("route", clearance.route.toValue),
    ("policy_revision", .ofInt clearance.policyRevision),
    ("vault_address", optionValue Address.toValue clearance.vaultAddress),
    ("network", clearance.network.toValue), ("evaluated_at_ms", .ofInt clearance.evaluatedAtMs),
    ("kind", clearance.kind.toValue), ("utilization", clearance.utilization)]

/-- A clearance as `serde_json::to_value` writes it; an absent review digest is skipped. -/
def Clearance.toValue (clearance : Clearance) : Value :=
  .ofFields (match clearance.approvalReviewDigest with
    | none => clearance.fields
    | some digest => ("approval_review_digest", .string digest) :: clearance.fields)

/-- The cloid of an order clearance. -/
def ClearedKind.cloid? : ClearedKind → Option Cloid
  | .order _ _ _ _ _ _ _ _ _ cloid _ _ => cloid
  | _ => none

def ClearedKind.isOrder : ClearedKind → Bool
  | .order .. => true
  | _ => false

/-- The review digest does not hide another member. -/
theorem Clearance.get_toValue (clearance : Clearance) {key : String}
    (other : key ≠ "approval_review_digest") :
    clearance.toValue.get key = (Fields.ofList clearance.fields).lookup key := by
  unfold toValue
  cases clearance.approvalReviewDigest with
  | none => rfl
  | some digest =>
      rw [Value.get_ofFields, Fields.lookup_ofList_cons, if_neg (Ne.symm other), Option.or_none]

end Oppen.Guardrail
