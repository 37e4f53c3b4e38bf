/-! # Answers of the exchange

What the venue says of the orders and cancels of one request. A whole answer has an envelope and a
status for each thing asked; anything less leaves open what became of the request.
-/

namespace Oppen.Mcp

/-- `Status`, what the venue says of one order or cancel. -/
inductive Status (Decimal : Type) where
  | resting (oid : UInt64)
  | filled (totalSz avgPx : Decimal) (oid : UInt64)
  | error (message : String)
  | success
  | waitingForTrigger
  | waitingForFill
  deriving DecidableEq

inductive ExchangeResponseKind where
  | order
  | cancel
  | default
  deriving DecidableEq

/-- `ExchangeResponse`. The statuses stand in the order of what was asked; an action without a
payload is answered with none. -/
structure ExchangeResponse (Decimal : Type) where
  kind : ExchangeResponseKind
  statuses : List (Status Decimal)
  deriving DecidableEq

/-- `RawResponse`, the envelope of an answer. -/
inductive RawResponse (Decimal : Type) where
  | ok (kind : ExchangeResponseKind) (statuses : List (Status Decimal))
  | err (message : String)

/-- The errors of `ExchangeClient::post`. -/
inductive ExchangeError where
  | http
  | venue (status : Nat)
  | invalidExchangeResponse
  | exchangeRejected (message : String)

/-- What comes back of a request: nothing whole, or an HTTP answer and what its body parses
to. -/
inductive HttpAnswer (Decimal : Type) where
  | lost
  | whole (status : Nat) (body : Option (RawResponse Decimal))

/-- A default envelope carries no statuses. -/
def ExchangeResponse.parse {Decimal : Type} :
    Option (RawResponse Decimal) → Except ExchangeError (ExchangeResponse Decimal)
  | none => .error .invalidExchangeResponse
  | some (.err message) => .error (.exchangeRejected message)
  | some (.ok .default _) => .ok ⟨.default, []⟩
  | some (.ok kind statuses) => .ok ⟨kind, statuses⟩

/-- The result of `ExchangeClient::post`. -/
def HttpAnswer.result {Decimal : Type} :
    HttpAnswer Decimal → Except ExchangeError (ExchangeResponse Decimal)
  | .lost => .error .http
  | .whole status body =>
      if 200 ≤ status ∧ status < 300 then ExchangeResponse.parse body
      else .error (.venue status)

/-- The venue confirmed every cancel that was asked. -/
def ExchangeResponse.complete {Decimal : Type} (response : ExchangeResponse Decimal)
    (requested : Nat) : Prop :=
  response.kind = .cancel ∧ response.statuses.length = requested ∧
    ∀ status ∈ response.statuses, status = .success

end Oppen.Mcp
