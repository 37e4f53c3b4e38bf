import Oppen.Ledger.ReadBack
import Oppen.Tca.Report

/-! # The report over the chain

The fills of an agent in a window of the venue's time are read from the chain and scored. A row
whose payload was redacted, or does not parse, is no fill of the report; every other one is counted,
scored or not.
-/

namespace Oppen.Ledger

open Oppen.Json

/-- A fill attributed to the agent inside the window. -/
def Row.isFillOf (agentId : String) (fromMs toMs : Int) (row : Row) : Bool :=
  row.kind = EventKind.fill.asStr && row.agentId = some agentId && fromMs ≤ row.tsMs.toInt &&
    row.tsMs.toInt ≤ toMs

/-- The rows of the query of `fills_for`. -/
def fillRows (db : Db) (agentId : String) (fromMs toMs : Int) : List Row :=
  db.events.filter (Row.isFillOf agentId fromMs toMs)

/-- One turn of the loop of `fills_for`. -/
def pushPayload (lib : Libraries) (payloads : List Value) (row : Row) : Result (List Value) :=
  match row.payload with
  | .null => .ok payloads
  | .text text =>
      match lib.fromSlice (utf8 text) with
      | some value => .ok (payloads ++ [value])
      | none => .ok payloads
  | _ => .error .sqlite

/-- `fills_for`. -/
def fillsFor (lib : Libraries) (db : Db) (agentId : String) (fromMs toMs : Int) :
    Result (List Value) :=
  (fillRows db agentId fromMs toMs).foldlM (pushPayload lib) []

/-- The value of a payload column, when it has a text that parses. -/
def SqlValue.parsed (lib : Libraries) : SqlValue → Option Value
  | .text stored => lib.fromSlice (utf8 stored)
  | _ => none

def Row.parsed (lib : Libraries) (row : Row) : Option Value := row.payload.parsed lib

/-- The payloads read are those that are there and parse. -/
theorem fillsFor_ok {lib : Libraries} {db : Db} {agentId : String} {fromMs toMs : Int}
    {payloads : List Value} (run : fillsFor lib db agentId fromMs toMs = .ok payloads) :
    payloads = (fillRows db agentId fromMs toMs).filterMap (Row.parsed lib) := by
  refine Foundation.foldlM_history
    (fun rows payloads => payloads = rows.filterMap (Row.parsed lib)) rfl ?_ run
  rintro rows before row after rfl step
  rw [List.filterMap_append]
  unfold pushPayload at step
  split at step
  · rename_i gone
    cases step
    simp [Row.parsed, SqlValue.parsed, gone]
  · rename_i text held
    split at step
    · rename_i value read
      cases step
      simp [Row.parsed, SqlValue.parsed, held, read]
    · rename_i unread
      cases step
      simp [Row.parsed, SqlValue.parsed, held, unread]
  · cases step

end Oppen.Ledger

namespace Oppen.Tca

open Foundation Oppen.Json Oppen.Guardrail Oppen.Ledger

/-! ## The tool -/

/-- The report of `get_execution_report` once its window is known. -/
def reportBetween (lib : Libraries) (dec : RiskDecimals) (db : Db) (agentId : String)
    (fromMs toMs : Int) : Result (ExecutionReport dec.Decimal) := do
  let payloads ← fillsFor lib db agentId fromMs toMs
  let scored := payloads.filterMap (ScoredFill.fromPayload dec)
  let unscored := payloads.length - scored.length
  return ExecutionReport.of dec scored fromMs toMs unscored

/-- `DEFAULT_REPORT_HOURS`. -/
def defaultReportHours : UInt32 := 24

/-- `get_execution_report`; the window starts no earlier than an `i64` can say. -/
def getExecutionReport (lib : Libraries) (dec : RiskDecimals) (db : Db) (agentId : String)
    (hours : Option UInt32) (toMs : Int64) : Result (ExecutionReport dec.Decimal) :=
  let back := (hours.getD defaultReportHours).toNat * 3600000
  reportBetween lib dec db agentId (max (-2 ^ 63) (toMs.toInt - back)) toMs.toInt

/-! ## What a report accounts for -/

/-- The fills that are scored. -/
def scoredFills (lib : Libraries) (dec : RiskDecimals) (db : Db) (agentId : String)
    (fromMs toMs : Int) : List (ScoredFill dec.Decimal) :=
  ((fillRows db agentId fromMs toMs).filterMap (Row.parsed lib)).filterMap
    (ScoredFill.fromPayload dec)

/-- The report accounts for every fill of the agent in the window that has a payload which parses:
counted, on one side, in one symbol, and in every total. -/
structure AccountsFor (lib : Libraries) (dec : RiskDecimals) (ratio : ℚ → ℚ) (db : Db)
    (agentId : String) (fromMs toMs : Int) (report : ExecutionReport dec.Decimal) : Prop where
  denominator : report.scoredFills + report.unscoredFills =
    (fillRows db agentId fromMs toMs).countP fun row => (row.parsed lib).isSome
  scored : report.scoredFills = (scoredFills lib dec db agentId fromMs toMs).length
  whole : Summarizes dec ratio (scoredFills lib dec db agentId fromMs toMs) report.slippage
    report.all report.costs
  symbols : (report.bySymbol.map SymbolReport.symbol).Pairwise (· < ·) ∧
    ∀ symbol, symbol ∈ report.bySymbol.map SymbolReport.symbol ↔
      ∃ fill ∈ scoredFills lib dec db agentId fromMs toMs, fill.symbol = symbol
  slices : ∀ slice ∈ report.bySymbol,
    Summarizes dec ratio
      ((scoredFills lib dec db agentId fromMs toMs).filter fun fill => fill.symbol = slice.symbol)
      slice.slippage slice.all slice.costs
  samples :
    (report.bySymbol.map fun slice => sampled slice.slippage.taker).sum =
        sampled report.slippage.taker ∧
      (report.bySymbol.map fun slice => sampled slice.slippage.maker).sum =
        sampled report.slippage.maker ∧
      (report.bySymbol.map fun slice => sampled slice.all).sum = sampled report.all ∧
      (report.bySymbol.map fun slice => slice.costs.n).sum = report.costs.n
  totals :
    (report.bySymbol.map fun slice => dec.value slice.costs.closedPnlUsd).sum =
        dec.value report.costs.closedPnlUsd ∧
      (report.bySymbol.map fun slice => dec.value slice.costs.feesUsd).sum =
        dec.value report.costs.feesUsd ∧
      (report.bySymbol.map fun slice => dec.value slice.costs.notionalUsd).sum =
        dec.value report.costs.notionalUsd

section Accounts

variable {lib : Libraries} {dec : RiskDecimals} {ratio : ℚ → ℚ} {db db' : Db} {agentId : String}
  {fromMs toMs : Int} {report report' : ExecutionReport dec.Decimal}

/-- A report that was answered is that of the fills which could be scored, with the others
counted. -/
theorem reportBetween_ok (run : reportBetween lib dec db agentId fromMs toMs = .ok report) :
    report = ExecutionReport.of dec (scoredFills lib dec db agentId fromMs toMs) fromMs toMs
      (((fillRows db agentId fromMs toMs).countP fun row => (row.parsed lib).isSome) -
        (scoredFills lib dec db agentId fromMs toMs).length) := by
  obtain ⟨payloads, read, run⟩ := bind_eq_ok run
  cases run
  rw [fillsFor_ok read, List.length_filterMap_eq_countP]
  rfl

/-- No more fills are scored than could be parsed. -/
theorem length_scoredFills_le :
    (scoredFills lib dec db agentId fromMs toMs).length ≤
      (fillRows db agentId fromMs toMs).countP fun row => (row.parsed lib).isSome := by
  rw [← List.length_filterMap_eq_countP]
  exact List.length_filterMap_le _ _

/-- A report on some fills adds up over its symbols. -/
theorem sum_bySymbol {M : Type} [AddCommMonoid M] (fills : List (ScoredFill dec.Decimal))
    (unscored : Nat) (amount : SymbolReport dec.Decimal → M) (each : ScoredFill dec.Decimal → M)
    (adds : ∀ symbol group, amount ⟨symbol, baseline dec group,
      Stat.of dec (group.map ScoredFill.slipBps), costs dec group⟩ = (group.map each).sum) :
    ((ExecutionReport.of dec fills fromMs toMs unscored).bySymbol.map amount).sum =
      (fills.map each).sum := by
  rw [← @sum_groupBy _ _ _ ScoredFill.symbol _ _ each fills, ExecutionReport.of, List.map_map]
  exact congrArg List.sum (List.map_congr_left fun group _ => adds group.1 group.2)

/-- The fills of a side are counted by it. -/
theorem sum_side (crossed : Bool) (fills : List (ScoredFill dec.Decimal)) :
    (fills.map fun fill => if fill.crossed = crossed then 1 else 0).sum =
      (sideOf crossed fills).length := by
  rw [sideOf, ← List.countP_eq_length_filter]
  induction fills with
  | nil => rfl
  | cons fill rest ih =>
      rw [List.map_cons, List.sum_cons, ih, List.countP_cons, Nat.add_comm]
      simp only [decide_eq_true_eq]

/-- **A report accounts for the fills of its window.** -/
theorem reportBetween_accounts (exact : dec.Exact) (rounds : dec.RoundsRatios ratio)
    (run : reportBetween lib dec db agentId fromMs toMs = .ok report) :
    AccountsFor lib dec ratio db agentId fromMs toMs report := by
  have counted : (scoredFills lib dec db agentId fromMs toMs).length ≤ _ := length_scoredFills_le
  obtain rfl := reportBetween_ok run
  have slice (group : List (ScoredFill dec.Decimal)) := summarizes exact rounds group
  have whole := slice (scoredFills lib dec db agentId fromMs toMs)
  have symbols (fills : List (ScoredFill dec.Decimal)) (unscored : Nat) :
      (ExecutionReport.of dec fills fromMs toMs unscored).bySymbol.map SymbolReport.symbol =
        (groupBy ScoredFill.symbol fills).map Prod.fst := by
    rw [ExecutionReport.of, List.map_map]
    rfl
  have length (fills : List (ScoredFill dec.Decimal)) :
      fills.length = (fills.map fun _ => 1).sum := by
    simp
  refine ⟨Nat.add_sub_cancel' counted, rfl, whole, ⟨?_, fun symbol => ?_⟩, ?_,
    ⟨?_, ?_, ?_, ?_⟩, ⟨?_, ?_, ?_⟩⟩
  · rw [symbols]
    exact (groupBy_spec _ _).1.ascending
  · rw [symbols]
    exact keys_groupBy
  · intro part member
    obtain ⟨group, inside, rfl⟩ := List.mem_map.mp member
    rw [← mem_groupBy inside]
    exact slice group.2
  · refine (sum_bySymbol _ _ _ (fun fill => if fill.crossed = true then 1 else 0)
      fun symbol group => ?_).trans ?_
    · rw [sum_side]
      exact (slice group).taker.sampled_eq.trans (List.length_map _)
    · rw [sum_side]
      exact (whole.taker.sampled_eq.trans (List.length_map _)).symm
  · refine (sum_bySymbol _ _ _ (fun fill => if fill.crossed = false then 1 else 0)
      fun symbol group => ?_).trans ?_
    · rw [sum_side]
      exact (slice group).maker.sampled_eq.trans (List.length_map _)
    · rw [sum_side]
      exact (whole.maker.sampled_eq.trans (List.length_map _)).symm
  · refine (sum_bySymbol _ _ _ (fun _ => 1) fun symbol group => ?_).trans ?_
    · rw [← length]
      exact (slice group).counts.2.1
    · rw [← length]
      exact whole.counts.2.1.symm
  · exact (sum_bySymbol _ _ _ (fun _ => 1) fun symbol group => length group).trans (length _).symm
  · exact (sum_bySymbol _ _ _ _ fun symbol group => (slice group).closedPnl).trans
      whole.closedPnl.symm
  · exact (sum_bySymbol _ _ _ _ fun symbol group => (slice group).fees).trans whole.fees.symm
  · exact (sum_bySymbol _ _ _ _ fun symbol group => (slice group).notional).trans
      whole.notional.symm

/-- **A report does not depend on the order in which the fills were recorded.** -/
theorem reportBetween_perm (exact : dec.Exact) (rounds : dec.RoundsRatios ratio)
    (perm : ((fillRows db agentId fromMs toMs).map Row.payload).Perm
      ((fillRows db' agentId fromMs toMs).map Row.payload))
    (run : reportBetween lib dec db agentId fromMs toMs = .ok report)
    (run' : reportBetween lib dec db' agentId fromMs toMs = .ok report') :
    report.map dec.value = report'.map dec.value := by
  have payloads : ((fillRows db agentId fromMs toMs).filterMap (Row.parsed lib)).Perm
      ((fillRows db' agentId fromMs toMs).filterMap (Row.parsed lib)) := by
    have read := perm.filterMap (SqlValue.parsed lib)
    rwa [List.filterMap_map, List.filterMap_map] at read
  have fills : (scoredFills lib dec db agentId fromMs toMs).Perm
      (scoredFills lib dec db' agentId fromMs toMs) := payloads.filterMap _
  obtain rfl := reportBetween_ok run
  obtain rfl := reportBetween_ok run'
  rw [← List.length_filterMap_eq_countP, ← List.length_filterMap_eq_countP, payloads.length_eq,
    fills.length_eq]
  exact ExecutionReport.of_perm exact rounds fills fromMs toMs _

/-- What an agent is told accounts for the fills of the hours it asked for, or of the last day. -/
theorem getExecutionReport_accounts (exact : dec.Exact) (rounds : dec.RoundsRatios ratio)
    {hours : Option UInt32} {toMs : Int64}
    (run : getExecutionReport lib dec db agentId hours toMs = .ok report) :
    AccountsFor lib dec ratio db agentId
      (max (-2 ^ 63) (toMs.toInt - (hours.getD defaultReportHours).toNat * 3600000)) toMs.toInt
      report :=
  reportBetween_accounts exact rounds run

end Accounts

/-- **The execution report.** A report of any window accounts for the fills of the agent in it whose
payload is there and parses, and it is the same, value for value, in whatever order the rows of
these fills were recorded. Redacted rows and rows that do not parse are left out before anything is
counted. -/
theorem executionReport_accounts {lib : Libraries} {dec : RiskDecimals} {ratio : ℚ → ℚ} {db : Db}
    {agentId : String} {fromMs toMs : Int} {report : ExecutionReport dec.Decimal}
    (exact : dec.Exact) (rounds : dec.RoundsRatios ratio)
    (run : reportBetween lib dec db agentId fromMs toMs = .ok report) :
    AccountsFor lib dec ratio db agentId fromMs toMs report ∧
      ∀ other report', ((fillRows db agentId fromMs toMs).map Row.payload).Perm
          ((fillRows other agentId fromMs toMs).map Row.payload) →
        reportBetween lib dec other agentId fromMs toMs = .ok report' →
          report.map dec.value = report'.map dec.value :=
  ⟨reportBetween_accounts exact rounds run, fun _ _ perm run' =>
    reportBetween_perm exact rounds perm run run'⟩

namespace ExecutionSample

def lib : Libraries := .reference checksum

/-- A fill of an agent, as its row stores it. -/
def fill (seq : Int) (payload : SqlValue) : Row :=
  ⟨seq, 1000, "fill", some "alpha", payload, "p", "g", toString seq, none, none, none, none, none⟩

/-- The payload of a fill of two contracts. -/
def payload (crossed : Bool) (slip closedPnl : String) : SqlValue :=
  .text (String.ofList (Value.ofFields [("agent_id", .string "alpha"),
    ("closed_pnl", .string closedPnl), ("coin", .string "BTC"), ("crossed", .bool crossed),
    ("fee", .string "0.5"), ("px", .string "100"), ("slip_bps", .string slip),
    ("sz", .string "2"), ("ts_ms", .ofInt 1000)]).chars)

/-- Two fills that are scored, one that is not, and one that was redacted. -/
def table : Db :=
  { Db.migrated with events := [fill 1 (payload true "8" "0"), fill 2 (payload false "-2" "1"),
      fill 3 (.text "null"), fill 4 .null] }

/-- Runs that go through with related values. -/
theorem exists_of_any {α β : Type} {run : Result α} {run' : Result β} {test : α → β → Bool}
    (any : (run.toOption.any fun value => run'.toOption.any (test value)) = true) :
    ∃ value value', run = .ok value ∧ run' = .ok value' ∧ test value value' = true := by
  obtain ⟨value, here, any⟩ := (Option.any_eq_true _ _).mp any
  obtain ⟨value', here', tested⟩ := (Option.any_eq_true _ _).mp any
  exact ⟨value, value', eq_ok_of_some here, eq_ok_of_some here', tested⟩

/-- The report of the sample accounts for its three fills. -/
theorem report_accounts : ∃ report,
    reportBetween lib .reference table "alpha" 0 2000 = .ok report ∧
      AccountsFor lib .reference ratioDigits table "alpha" 0 2000 report ∧
      report.scoredFills = 2 ∧ report.unscoredFills = 1 := by
  obtain ⟨report, here, counts⟩ : ∃ report,
      (reportBetween lib .reference table "alpha" 0 2000).toOption = some report ∧
        decide (report.scoredFills = 2 ∧ report.unscoredFills = 1) = true :=
    (Option.any_eq_true _ _).mp (by decide +kernel)
  have run := eq_ok_of_some here
  exact ⟨report, run, (executionReport_accounts RiskDecimals.reference_exact
    RiskDecimals.reference_roundsRatios run).1, of_decide_eq_true counts⟩

/-- A redacted fill, and one whose payload nests too deep to be read. -/
def unread : Db :=
  { Db.migrated with events := [fill 1 .null,
      fill 2 (.text (String.ofList (DeepPayload.nested recursionLimit).chars))] }

/-- Decimals that overflow where the real ones do. -/
def bounded : RiskDecimals :=
  { RiskDecimals.reference with
    checkedAdd := fun left right =>
      (RiskDecimals.reference.checkedAdd left right).filter fun sum => |sum.value| < 2 ^ 96
    value_checkedAdd := fun left right sum same =>
      RiskDecimals.reference.value_checkedAdd left right sum (Option.filter_eq_some_iff.mp same).1 }

instance : DecidableEq bounded.Decimal := inferInstanceAs (DecidableEq FixedPoint)

/-- The largest decimal. -/
def most : String := "79228162514264337593543950335"

/-- Fills of the largest results, in an order of their signs. -/
def results (first second third : String) : Db :=
  { Db.migrated with events := [fill 1 (payload true "8" (first ++ most)),
      fill 2 (payload true "8" (second ++ most)), fill 3 (payload true "8" (third ++ most))] }

/-- Rows that are redacted or do not parse are not counted, and totals that saturate depend on the
order of the rows. -/
theorem unread_not_counted :
    (reportBetween lib .reference unread "alpha" 0 2000 =
        .ok (ExecutionReport.of .reference [] 0 2000 0) ∧
      (fillRows unread "alpha" 0 2000).length = 2) ∧
    ((fillRows (results "" "" "-") "alpha" 0 2000).map Row.payload).Perm
        ((fillRows (results "" "-" "") "alpha" 0 2000).map Row.payload) ∧
      ∃ report report',
        reportBetween lib bounded (results "" "" "-") "alpha" 0 2000 = .ok report ∧
        reportBetween lib bounded (results "" "-" "") "alpha" 0 2000 = .ok report' ∧
        decide (report.map bounded.value ≠ report'.map bounded.value) = true := by
  refine ⟨⟨eq_ok_of_some ?_, ?_⟩, ?_, exists_of_any ?_⟩
  all_goals decide +kernel

end ExecutionSample

end Oppen.Tca
