import Oppen.Guardrail.Measuring

/-! # What is signed

The wire order of a clearance is the order that was measured: its numbers are read back as the
rounded price, size and trigger price that every check was made on.
-/

namespace Oppen.Guardrail

open Foundation Oppen.Ledger Oppen.Signing

section Wire

variable {dec : RiskDecimals}

/-- What a number on the wire is worth, where it can be read. -/
def wireValue (dec : RiskDecimals) (wire : WireFloat) : Option ℚ :=
  (decodeWire dec wire).map dec.value

/-- A number on the wire is read back as what was put there. -/
theorem wireFloat_value {number : dec.Decimal} {wire : WireFloat}
    (run : wireFloat dec number = .ok wire) (nonzero : dec.value number ≠ 0) :
    wireValue dec wire = some (dec.value number) := by
  obtain ⟨text, written, same⟩ := bind_eq_ok run
  obtain rfl := Except.ok.inj same
  obtain ⟨_, -, written⟩ := bind_eq_ok written
  rw [dec.value_normalize, if_neg nonzero] at written
  obtain rfl := Except.ok.inj written
  rw [wireValue, decodeWire, dec.deserialize_display, Option.map_some, dec.value_normalize]

/-- The type of order on the wire is the kind of order that was measured. -/
def KindOnWire : Signing.OrderType → OrderKind dec.Decimal → Prop
  | .limit tif, .limit measured => tif = measured
  | .trigger isMarket px tpsl, .trigger measured triggerPx reason =>
      isMarket = measured ∧ wireValue dec px = some (dec.value triggerPx) ∧ tpsl = reason
  | _, _ => False

/-- The kind that is sent is the rounded kind of the order, its trigger included. -/
theorem wireKind_ok {spec : OrderSpec dec.Decimal} {asset : Asset} {kind : Signing.OrderType}
    (original : OrderKind dec.Decimal) (rounded : spec.kind = original.round asset)
    (run : spec.wireKind asset = .ok kind) : KindOnWire kind spec.kind := by
  unfold OrderSpec.wireKind at run
  rw [rounded] at run ⊢
  cases original with
  | limit tif =>
      obtain rfl := Except.ok.inj run
      rfl
  | trigger isMarket triggerPx tpsl =>
      obtain ⟨_, valid, run⟩ := bind_eq_ok run
      obtain ⟨px, written, run⟩ := bind_eq_ok run
      obtain rfl := Except.ok.inj run
      have positive := validatePrice_ok (mapError_eq_ok valid)
      have read := wireFloat_value (mapError_eq_ok written) positive.ne'
      rw [asset.value_roundPrice_twice] at read
      exact ⟨rfl, read, rfl⟩

/-- What is signed of an order. -/
structure Signed (asset : Asset) (intent : OrderIntent dec.Decimal) (order : Rounded dec.Decimal)
    (wire : OrderWire) : Prop where
  asset : wire.a = asset.index
  px : wireValue dec wire.p = some (dec.value order.px)
  sz : wireValue dec wire.s = some (dec.value order.sz)
  kind : KindOnWire wire.t order.kind
  side : wire.b = intent.isBuy
  reduceOnly : wire.r = intent.reduceOnly
  cloid : wire.c = intent.cloid

/-- **What is measured is what is signed.** -/
theorem RoundsTo.signed {config : AgentGuardrails dec.Decimal}
    {account : AccountSnapshot dec.Decimal}
    {asset : Asset} {intent : OrderIntent dec.Decimal} {order : Rounded dec.Decimal}
    (rounds : RoundsTo config account asset intent order) :
    Signed asset intent order order.wire := by
  obtain ⟨price, size⟩ := toWireForPosition_positive rounds.wire
  obtain ⟨_, -, run⟩ := bind_eq_ok rounds.wire
  obtain ⟨kind, typed, run⟩ := bind_eq_ok run
  obtain ⟨p, priced, run⟩ := bind_eq_ok run
  obtain ⟨s, sized, run⟩ := bind_eq_ok run
  have px := wireFloat_value (mapError_eq_ok priced) price.ne'
  have sz := wireFloat_value (mapError_eq_ok sized) size.ne'
  dsimp only at px sz
  -- the order was rounded before it was measured, and is rounded again
  rw [rounds.px, asset.value_roundPrice_twice, ← rounds.px] at px
  rw [rounds.sz, asset.value_roundSize_twice, ← rounds.sz] at sz
  have typed := wireKind_ok intent.kind rounds.kind typed
  rw [← Except.ok.inj run]
  exact ⟨rfl, px, sz, typed, rfl, rfl, rfl⟩

variable {setup : EngineSetup} {answers : Answers dec.Decimal} {ask : Evaluation dec.Decimal}
  {before after : OrderState dec.Decimal} {cleared : Cleared dec.Decimal}

/-- **What is measured is what is signed.** A cleared order has one wire order. Its price, size and
trigger price are read back as those that the notional, the positions, the leverage and the
slippage were measured on, and the rest of it is the intent's. -/
theorem signs_what_was_measured
    (run : evaluate setup answers ask before = (.ok cleared, after)) :
    ∃ (clears : Clears ask cleared after) (wire : OrderWire),
      cleared.action = .order [wire] ask.intent.grouping ask.intent.builder ∧
      Signed ask.asset ask.intent clears.measures.order wire ∧
      clears.measures.order.kind.tif = ask.intent.kind.tif ∧
      (dec.value (ask.asset.roundPrice dec clears.measures.order.px) =
          dec.value clears.measures.order.px ∧
        dec.value (ask.asset.roundSize dec clears.measures.order.sz) =
          dec.value clears.measures.order.sz) := by
  obtain ⟨clears⟩ := decideOrder_clears (evaluate_ok run)
  have rounds := clears.measures.rounds
  refine ⟨clears, clears.measured.wire, clears.action, ?_, ?_, ?_, ?_⟩
  · rw [clears.measures.wire]
    exact rounds.signed
  · rw [rounds.kind]
    cases ask.intent.kind <;> rfl
  · rw [rounds.px, ask.asset.value_roundPrice_twice]
  · rw [rounds.sz, ask.asset.value_roundSize_twice]

end Wire

namespace OneSymbol

/-- A stop to market of what is held. -/
def stop : Evaluation dec.Decimal :=
  let holder := snapshot (dollars 1) (dollars 100)
  { ask holder (dollars 90) (dollars 1) 0 with
    intent := ⟨none, "BTC", false, dollars 90, (⟨1000001, 6⟩ : FixedPoint),
      .trigger true (⟨8999999, 5⟩ : FixedPoint) .sl, true, none, .na, none, none, "stop"⟩ }

/-- The stop that is signed is at the prices and for the size that were measured. -/
theorem stop_signed : ∃ cleared after wire,
    evaluate setup (answers guardrails) stop (state guardrails loose) = (.ok cleared, after) ∧
      cleared.action = .order [wire] .na none ∧ wireValue dec wire.s = some 1 ∧
      wireValue dec wire.p = some 90 ∧ KindOnWire wire.t (stop.intent.kind.round asset) := by
  have cleared : (evaluate setup (answers guardrails) stop
      (state guardrails loose)).1.isOk = true := by decide +kernel
  generalize same : evaluate setup (answers guardrails) stop (state guardrails loose) = result
    at cleared
  obtain ⟨outcome, after⟩ := result
  cases outcome with
  | error refusal => exact nomatch cleared
  | ok order =>
      obtain ⟨clears, wire, action, signed, -, -⟩ := signs_what_was_measured same
      have rounds := clears.measures.rounds
      refine ⟨order, after, wire, rfl, action, ?_, ?_, ?_⟩
      · rw [signed.sz, rounds.sz]
        decide +kernel
      · rw [signed.px, rounds.px]
        decide +kernel
      · have kind := signed.kind
        rw [rounds.kind] at kind
        exact kind

end OneSymbol

end Oppen.Guardrail
