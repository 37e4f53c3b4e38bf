import Oppen.Foundation.Samples
import Oppen.Guardrail.Overstep

/-! # The execution report

What an agent's fills cost, read from their chained rows: slippage split by whether the fill took
liquidity, the fees and the result of the closing sides, for the whole window and for each symbol.
-/

namespace Oppen.Tca

open Foundation Oppen.Json Oppen.Guardrail Oppen.Ledger

/-! ## The fills -/

/-- A fill as the report reads it. -/
structure ScoredFill (Decimal : Type) where
  symbol : String
  agentId : String
  tsMs : Int
  slipBps : Decimal
  notionalUsd : Decimal
  feeUsd : Decimal
  closedPnlUsd : Decimal
  crossed : Bool
  deriving DecidableEq

/-- `ScoredFill::from_payload`, with `none` for a row that cannot be scored. -/
def ScoredFill.fromPayload (dec : RiskDecimals) (payload : Value) :
    Option (ScoredFill dec.Decimal) := do
  let text (key : String) := (payload.get key).bind Value.asStr
  let decimal (key : String) := (text key).bind dec.fromStrExact
  let px ← decimal "px"
  let sz ← decimal "sz"
  let symbol ← text "coin"
  let agentId ← text "agent_id"
  let tsMs ← (payload.get "ts_ms").bind Value.asI64
  let slipBps ← decimal "slip_bps"
  let notional ← dec.checkedMul px sz
  let feeUsd ← decimal "fee"
  let closedPnlUsd ← decimal "closed_pnl"
  let crossed ← (payload.get "crossed").bind Value.asBool
  return { symbol, agentId, tsMs, slipBps, notionalUsd := dec.abs notional, feeUsd, closedPnlUsd,
           crossed }

/-! ## Statistics -/

structure Stat (Decimal : Type) where
  n : Nat
  meanBps : Decimal
  medianBps : Decimal
  p90Bps : Decimal
  deriving DecidableEq

/-- The rank `percentile` reads at. -/
def nearestRank (length pct : Nat) : Nat := max ((length * pct + 99) / 100) 1

/-- The nearest rank of a sample is one of its places. -/
theorem nearestRank_le {length pct : Nat} (filled : 0 < length) (most : pct ≤ 100) :
    nearestRank length pct - 1 < length := by
  have bound : length * pct ≤ length * 100 := Nat.mul_le_mul_left length most
  unfold nearestRank
  omega

/-- `percentile`, on a sorted slice that is not empty. -/
def percentile {α : Type} (sorted : List α) (pct : Nat) (filled : 0 < sorted.length)
    (most : pct ≤ 100) : α :=
  sorted.get ⟨nearestRank sorted.length pct - 1, nearestRank_le filled most⟩

section Reports

variable (dec : RiskDecimals)

/-- `Stat::of`. -/
def Stat.of (slips : List dec.Decimal) : Option (Stat dec.Decimal) :=
  if filled : 0 < (sortBy dec.value slips).length then do
    let sorted := sortBy dec.value slips
    let sum ← sorted.foldlM dec.checkedAdd dec.zero
    let meanBps ← dec.checkedDiv sum (dec.ofInt sorted.length)
    return {
      n := sorted.length, meanBps, medianBps := percentile sorted 50 filled (by decide)
      p90Bps := percentile sorted 90 filled (by decide) }
  else none

structure SlippageBaseline (Decimal : Type) where
  taker : Option (Stat Decimal)
  maker : Option (Stat Decimal)
  deriving DecidableEq

structure Costs (Decimal : Type) where
  n : Nat
  closedPnlUsd : Decimal
  feesUsd : Decimal
  feeBpsOfNotional : Option Decimal
  notionalUsd : Decimal
  deriving DecidableEq

structure SymbolReport (Decimal : Type) where
  symbol : String
  slippage : SlippageBaseline Decimal
  all : Option (Stat Decimal)
  costs : Costs Decimal
  deriving DecidableEq

/-- The report of a window: what was scored by symbol and side, and what could not be. -/
structure ExecutionReport (Decimal : Type) where
  contractVersion : Nat
  fromMs : Int
  toMs : Int
  scoredFills : Nat
  unscoredFills : Nat
  slippage : SlippageBaseline Decimal
  all : Option (Stat Decimal)
  costs : Costs Decimal
  bySymbol : List (SymbolReport Decimal)
  deriving DecidableEq

/-- `CONTRACT_VERSION`. -/
def contractVersion : Nat := 1

def baseline (fills : List (ScoredFill dec.Decimal)) : SlippageBaseline dec.Decimal :=
  let side (crossed : Bool) :=
    Stat.of dec ((fills.filter fun fill => fill.crossed = crossed).map ScoredFill.slipBps)
  ⟨side true, side false⟩

def costs (fills : List (ScoredFill dec.Decimal)) : Costs dec.Decimal :=
  let sum (pick : ScoredFill dec.Decimal → dec.Decimal) :=
    fills.foldl (fun total fill => dec.saturatingSum total (pick fill)) dec.zero
  let notionalUsd := sum ScoredFill.notionalUsd
  let feesUsd := sum ScoredFill.feeUsd
  { n := fills.length
    closedPnlUsd := sum ScoredFill.closedPnlUsd
    feesUsd
    feeBpsOfNotional := (dec.checkedDiv feesUsd notionalUsd).bind fun ratio =>
      dec.checkedMul ratio (dec.ofInt 10000)
    notionalUsd }

/-- `ExecutionReport::of`. -/
def ExecutionReport.of (fills : List (ScoredFill dec.Decimal)) (fromMs toMs : Int)
    (unscored : Nat) : ExecutionReport dec.Decimal where
  contractVersion := Tca.contractVersion
  fromMs := fromMs
  toMs := toMs
  scoredFills := fills.length
  unscoredFills := unscored
  slippage := baseline dec fills
  all := Stat.of dec (fills.map ScoredFill.slipBps)
  costs := Tca.costs dec fills
  bySymbol := (groupBy ScoredFill.symbol fills).map fun (symbol, group) =>
    ⟨symbol, baseline dec group, Stat.of dec (group.map ScoredFill.slipBps),
      Tca.costs dec group⟩

end Reports

/-! ## What a statistic says of its sample -/

section Samples

variable {dec : RiskDecimals} {sample other : List dec.Decimal} {stat : Stat dec.Decimal}

/-- A slippage of the sample that at least a share of it is at or below, and less than that share
strictly below. -/
def Ranked (dec : RiskDecimals) (sample : List dec.Decimal) (pct : Nat) (slip : dec.Decimal) :
    Prop :=
  slip ∈ sample ∧
    pct * sample.length ≤
      100 * (sample.countP fun held => dec.value held ≤ dec.value slip) ∧
    100 * (sample.countP fun held => dec.value held < dec.value slip) < pct * sample.length

/-- An entry is the percentile where few enough entries are below it and enough are not above. -/
theorem ranked_of_rank {slip : dec.Decimal} {length pct : Nat} (same : length = sample.length)
    (some : 0 < pct) (member : slip ∈ sample)
    (below : nearestRank length pct - 1 <
      sample.countP fun held => dec.value held ≤ dec.value slip)
    (above : (sample.countP fun held => dec.value held < dec.value slip) ≤
      nearestRank length pct - 1) : Ranked dec sample pct slip := by
  have positive : 0 < sample.length * pct :=
    Nat.mul_pos (List.length_pos_of_mem member) some
  have rank : nearestRank length pct = (sample.length * pct + 99) / 100 := by
    rw [nearestRank, same]
    omega
  rw [rank] at below above
  refine ⟨member, ?_, ?_⟩ <;> rw [Nat.mul_comm pct] <;> omega

/-- The percentile that is read from the sorted sample is the nearest rank. -/
theorem percentile_ranked (filled : 0 < (sortBy dec.value sample).length) {pct : Nat}
    (some : 0 < pct) (most : pct ≤ 100) :
    Ranked dec sample pct (percentile (sortBy dec.value sample) pct filled most) := by
  have inside := nearestRank_le filled most
  exact ranked_of_rank (length_sortBy dec.value sample) some
    ((sortBy_perm dec.value sample).mem_iff.mp (List.getElem_mem inside))
    (lt_countP_le dec.value inside) (countP_lt_le dec.value inside)

/-- Adding up without overflow. -/
theorem foldlM_checkedAdd (exact : dec.Exact) (slips : List dec.Decimal) (start : dec.Decimal) :
    ∃ sum, slips.foldlM dec.checkedAdd start = some sum ∧
      dec.value sum = dec.value start + (slips.map dec.value).sum := by
  induction slips generalizing start with
  | nil => exact ⟨start, rfl, by simp⟩
  | cons slip rest ih =>
      obtain ⟨next, added⟩ := Option.isSome_iff_exists.mp (exact.add start slip)
      obtain ⟨sum, rest, value⟩ := ih next
      refine ⟨sum, ?_, ?_⟩
      · rw [List.foldlM_cons, added]
        exact rest
      · rw [value, dec.value_checkedAdd _ _ _ added, List.map_cons, List.sum_cons, add_assoc]

/-- A statistic is the size of its sample, its mean and two ranks of it. -/
structure Describes (dec : RiskDecimals) (ratio : ℚ → ℚ) (sample : List dec.Decimal)
    (stat : Stat dec.Decimal) : Prop where
  n : stat.n = sample.length
  mean : dec.value stat.meanBps = ratio ((sample.map dec.value).sum / sample.length)
  median : Ranked dec sample 50 stat.medianBps
  p90 : Ranked dec sample 90 stat.p90Bps

/-- A sample has a statistic unless it is empty. -/
def Reports (dec : RiskDecimals) (ratio : ℚ → ℚ) (sample : List dec.Decimal)
    (reported : Option (Stat dec.Decimal)) : Prop :=
  (reported = none ↔ sample = []) ∧ ∀ stat ∈ reported, Describes dec ratio sample stat

/-- The statistics of a sample are what `Reports` asks for: none if the sample is empty, else its
mean and its nearest ranks. -/
theorem Stat.of_reports (exact : dec.Exact) {ratio : ℚ → ℚ} (rounds : dec.RoundsRatios ratio)
    (sample : List dec.Decimal) : Reports dec ratio sample (Stat.of dec sample) := by
  unfold Stat.of
  split
  · rename_i filled
    have length := length_sortBy dec.value sample
    obtain ⟨sum, added, total⟩ := foldlM_checkedAdd exact (sortBy dec.value sample) dec.zero
    have count : dec.value (dec.ofInt (sortBy dec.value sample).length) = sample.length := by
      rw [dec.value_ofInt, length]
      rfl
    have nonzero : dec.value (dec.ofInt (sortBy dec.value sample).length) ≠ 0 := by
      rw [count, Nat.cast_ne_zero]
      omega
    obtain ⟨mean, divided, value⟩ := rounds.divides sum _ nonzero
    simp only [added, divided, Option.bind_eq_bind, Option.bind_some, Option.pure_def]
    refine ⟨iff_of_false nofun ?_, fun stat here => ?_⟩
    · rintro rfl
      rw [length] at filled
      exact absurd filled (lt_irrefl 0)
    · cases here
      refine ⟨length, ?_, percentile_ranked filled (by decide) (by decide),
        percentile_ranked filled (by decide) (by decide)⟩
      rw [value, total, dec.value_zero, zero_add, count]
      exact congrArg (fun sum => ratio (sum / sample.length))
        ((sortBy_perm dec.value sample).map dec.value).sum_eq
  · rename_i empty
    rw [length_sortBy, not_lt, Nat.le_zero, List.length_eq_zero_iff] at empty
    exact ⟨iff_of_true rfl empty, nofun⟩

end Samples

/-! ## What a part of the report says of its fills -/

/-- The fills that took liquidity, or those that rested. -/
def sideOf {Decimal : Type} (crossed : Bool) (fills : List (ScoredFill Decimal)) :
    List (ScoredFill Decimal) :=
  fills.filter fun fill => fill.crossed = crossed

/-- How many fills are behind a statistic. -/
def sampled {Decimal : Type} (reported : Option (Stat Decimal)) : Nat :=
  (reported.map Stat.n).getD 0

/-- The statistics and the costs are those of the fills. -/
structure Summarizes (dec : RiskDecimals) (ratio : ℚ → ℚ) (fills : List (ScoredFill dec.Decimal))
    (slippage : SlippageBaseline dec.Decimal) (all : Option (Stat dec.Decimal))
    (costs : Costs dec.Decimal) : Prop where
  taker : Reports dec ratio ((sideOf true fills).map ScoredFill.slipBps) slippage.taker
  maker : Reports dec ratio ((sideOf false fills).map ScoredFill.slipBps) slippage.maker
  whole : Reports dec ratio (fills.map ScoredFill.slipBps) all
  /-- No fill is on both sides, and none on neither. -/
  sides : (sideOf true fills ++ sideOf false fills).Perm fills
  counts : sampled slippage.taker + sampled slippage.maker = fills.length ∧
    sampled all = fills.length ∧ costs.n = fills.length
  closedPnl : dec.value costs.closedPnlUsd =
    (fills.map fun fill => dec.value fill.closedPnlUsd).sum
  fees : dec.value costs.feesUsd = (fills.map fun fill => dec.value fill.feeUsd).sum
  notional : dec.value costs.notionalUsd = (fills.map fun fill => dec.value fill.notionalUsd).sum

section Summaries

variable {dec : RiskDecimals} {ratio : ℚ → ℚ} {sample : List dec.Decimal}
  {reported : Option (Stat dec.Decimal)} {fills others : List (ScoredFill dec.Decimal)}

/-- A report says how large its sample was. -/
theorem Reports.sampled_eq (reports : Reports dec ratio sample reported) :
    sampled reported = sample.length := by
  cases reported with
  | none => rw [reports.1.mp rfl]; rfl
  | some stat => exact (reports.2 stat rfl).n

/-- The fills of both sides are all fills. -/
theorem sides_perm (fills : List (ScoredFill dec.Decimal)) :
    (sideOf true fills ++ sideOf false fills).Perm fills := by
  have other : sideOf false fills = fills.filter fun fill => !decide (fill.crossed = true) := by
    refine List.filter_congr fun fill _ => ?_
    cases fill.crossed <;> rfl
  rw [other]
  exact List.filter_append_perm _ fills

/-- A saturating total is the sum while nothing overflows. -/
theorem value_total (exact : dec.Exact) (pick : ScoredFill dec.Decimal → dec.Decimal)
    (fills : List (ScoredFill dec.Decimal)) (start : dec.Decimal) :
    dec.value (fills.foldl (fun total fill => dec.saturatingSum total (pick fill)) start) =
      dec.value start + (fills.map fun fill => dec.value (pick fill)).sum := by
  induction fills generalizing start with
  | nil => simp
  | cons fill rest ih =>
      obtain ⟨sum, added⟩ := Option.isSome_iff_exists.mp (exact.add start (pick fill))
      have step : dec.value (dec.saturatingSum start (pick fill)) =
          dec.value start + dec.value (pick fill) := by
        rw [RiskDecimals.saturatingSum, added, Option.getD_some, dec.value_checkedAdd _ _ _ added]
      rw [List.foldl_cons, ih, step, List.map_cons, List.sum_cons, add_assoc]

/-- **What is reported of some fills.** -/
theorem summarizes (exact : dec.Exact) (rounds : dec.RoundsRatios ratio)
    (fills : List (ScoredFill dec.Decimal)) :
    Summarizes dec ratio fills (baseline dec fills)
      (Stat.of dec (fills.map ScoredFill.slipBps)) (costs dec fills) := by
  have taker := Stat.of_reports exact rounds ((sideOf true fills).map ScoredFill.slipBps)
  have maker := Stat.of_reports exact rounds ((sideOf false fills).map ScoredFill.slipBps)
  have all := Stat.of_reports exact rounds (fills.map ScoredFill.slipBps)
  have sides := sides_perm fills
  have total (pick : ScoredFill dec.Decimal → dec.Decimal) :
      dec.value (fills.foldl (fun total fill => dec.saturatingSum total (pick fill)) dec.zero) =
        (fills.map fun fill => dec.value (pick fill)).sum := by
    rw [value_total exact pick, dec.value_zero, zero_add]
  refine ⟨taker, maker, all, sides, ⟨?_, ?_, rfl⟩, total _, total _, total _⟩
  · have counted := sides.length_eq
    rw [List.length_append] at counted
    refine (congrArg₂ (· + ·) taker.sampled_eq maker.sampled_eq).trans ?_
    rw [List.length_map, List.length_map, counted]
  · rw [all.sampled_eq, List.length_map]

end Summaries

/-! ## Reports by value -/

section Values

variable {D E : Type} (read : D → E)

def Stat.map (stat : Stat D) : Stat E :=
  ⟨stat.n, read stat.meanBps, read stat.medianBps, read stat.p90Bps⟩

def SlippageBaseline.map (slippage : SlippageBaseline D) : SlippageBaseline E :=
  ⟨slippage.taker.map (Stat.map read), slippage.maker.map (Stat.map read)⟩

def Costs.map (costs : Costs D) : Costs E :=
  ⟨costs.n, read costs.closedPnlUsd, read costs.feesUsd, costs.feeBpsOfNotional.map read,
    read costs.notionalUsd⟩

def SymbolReport.map (slice : SymbolReport D) : SymbolReport E :=
  ⟨slice.symbol, slice.slippage.map read, slice.all.map (Stat.map read), slice.costs.map read⟩

/-- The report with every decimal read; decimals are equal when their values are. -/
def ExecutionReport.map (report : ExecutionReport D) : ExecutionReport E where
  contractVersion := report.contractVersion
  fromMs := report.fromMs
  toMs := report.toMs
  scoredFills := report.scoredFills
  unscoredFills := report.unscoredFills
  slippage := report.slippage.map read
  all := report.all.map (Stat.map read)
  costs := report.costs.map read
  bySymbol := report.bySymbol.map (SymbolReport.map read)

/-- The percentile of the images is the image of the percentile. -/
theorem percentile_map (sorted : List D) (pct : Nat) (filled : 0 < sorted.length)
    (most : pct ≤ 100) :
    read (percentile sorted pct filled most) =
      percentile (sorted.map read) pct (by rwa [List.length_map]) most := by
  unfold percentile
  simp only [List.get_eq_getElem, List.getElem_map, List.length_map]

/-- The percentile depends on the sorted sample only. -/
theorem percentile_congr {sorted sorted' : List D} (same : sorted = sorted') (pct : Nat)
    (filled : 0 < sorted.length) (filled' : 0 < sorted'.length) (most : pct ≤ 100) :
    percentile sorted pct filled most = percentile sorted' pct filled' most := by
  subst same
  rfl

end Values

section Orders

variable {dec : RiskDecimals} {ratio : ℚ → ℚ} {sample other : List dec.Decimal}
  {fills others : List (ScoredFill dec.Decimal)}

/-- A statistic by value. -/
theorem Stat.of_value (exact : dec.Exact) (rounds : dec.RoundsRatios ratio)
    (filled : 0 < ((sortBy dec.value sample).map dec.value).length) :
    (Stat.of dec sample).map (Stat.map dec.value) = some {
      n := sample.length
      meanBps := ratio ((sample.map dec.value).sum / sample.length)
      medianBps := percentile ((sortBy dec.value sample).map dec.value) 50 filled (by decide)
      p90Bps := percentile ((sortBy dec.value sample).map dec.value) 90 filled (by decide) } := by
  have some : 0 < (sortBy dec.value sample).length := by rwa [List.length_map] at filled
  have present : sample ≠ [] := by
    rintro rfl
    exact absurd some (by rw [length_sortBy]; exact lt_irrefl 0)
  obtain ⟨absent, describes⟩ := Stat.of_reports exact rounds sample
  obtain ⟨stat, here⟩ := Option.ne_none_iff_exists'.mp (mt absent.mp present)
  obtain ⟨n, mean, -, -⟩ := describes stat here
  have ranks : stat.medianBps = percentile (sortBy dec.value sample) 50 some (by decide) ∧
      stat.p90Bps = percentile (sortBy dec.value sample) 90 some (by decide) := by
    unfold Stat.of at here
    rw [dif_pos some] at here
    obtain ⟨sum, _, here⟩ := Option.bind_eq_some_iff.mp here
    obtain ⟨mean, _, here⟩ := Option.bind_eq_some_iff.mp here
    cases here
    exact ⟨rfl, rfl⟩
  rw [here, Option.map_some, Stat.map, n, mean, ranks.1, ranks.2,
    percentile_map dec.value _ 50, percentile_map dec.value _ 90]

/-- A statistic does not depend on the order of its sample. -/
theorem Stat.of_perm (exact : dec.Exact) (rounds : dec.RoundsRatios ratio)
    (perm : sample.Perm other) :
    (Stat.of dec sample).map (Stat.map dec.value) =
      (Stat.of dec other).map (Stat.map dec.value) := by
  cases sample with
  | nil => rw [List.nil_perm.mp perm]
  | cons first rest =>
      have sorted := map_sortBy dec.value (perm.map dec.value)
      have filled : 0 < ((sortBy dec.value (first :: rest)).map dec.value).length := by
        rw [List.length_map, length_sortBy]
        exact Nat.succ_pos _
      rw [Stat.of_value exact rounds filled, Stat.of_value exact rounds (sorted ▸ filled)]
      rw [perm.length_eq, (perm.map dec.value).sum_eq,
        percentile_congr sorted 50 filled (sorted ▸ filled) (by decide),
        percentile_congr sorted 90 filled (sorted ▸ filled) (by decide)]

/-- The baseline does not depend on the order of the fills. -/
theorem baseline_perm (exact : dec.Exact) (rounds : dec.RoundsRatios ratio)
    (perm : fills.Perm others) :
    (baseline dec fills).map dec.value = (baseline dec others).map dec.value := by
  have side (crossed : Bool) := Stat.of_perm exact rounds
    ((perm.filter fun fill => fill.crossed = crossed).map ScoredFill.slipBps)
  exact congrArg₂ SlippageBaseline.mk (side true) (side false)

/-- The share of the fees, by value. -/
theorem value_feeShare (exact : dec.Exact) (rounds : dec.RoundsRatios ratio)
    (fees notional : dec.Decimal) :
    ((dec.checkedDiv fees notional).bind fun share =>
        dec.checkedMul share (dec.ofInt 10000)).map dec.value =
      if dec.value notional = 0 then none
      else some (ratio (dec.value fees / dec.value notional) * 10000) := by
  split
  · rename_i zero
    have undivided : dec.checkedDiv fees notional = none :=
      Option.eq_none_iff_forall_ne_some.mpr fun quotient divided =>
        (dec.value_checkedDiv _ _ _ divided).1 zero
    rw [undivided]
    rfl
  · rename_i nonzero
    obtain ⟨quotient, divided, value⟩ := rounds.divides fees notional nonzero
    obtain ⟨share, scaled⟩ := Option.isSome_iff_exists.mp (exact.mul quotient (dec.ofInt 10000))
    rw [divided, Option.bind_some, scaled, Option.map_some,
      dec.value_checkedMul _ _ _ scaled, value,
      dec.value_ofInt]
    rfl

/-- The costs do not depend on the order of the fills. -/
theorem costs_perm (exact : dec.Exact) (rounds : dec.RoundsRatios ratio)
    (perm : fills.Perm others) :
    (costs dec fills).map dec.value = (costs dec others).map dec.value := by
  have one := summarizes exact rounds fills
  have two := summarizes exact rounds others
  have sums (pick : ScoredFill dec.Decimal → ℚ) : (fills.map pick).sum = (others.map pick).sum :=
    (perm.map pick).sum_eq
  have closedPnl := (one.closedPnl.trans (sums _)).trans two.closedPnl.symm
  have fees := (one.fees.trans (sums _)).trans two.fees.symm
  have notional := (one.notional.trans (sums _)).trans two.notional.symm
  have share : (costs dec fills).feeBpsOfNotional.map dec.value =
      (costs dec others).feeBpsOfNotional.map dec.value := by
    refine (value_feeShare exact rounds (costs dec fills).feesUsd
      (costs dec fills).notionalUsd).trans ?_
    rw [fees, notional]
    exact (value_feeShare exact rounds _ _).symm
  rw [Costs.map, Costs.map, one.counts.2.2, two.counts.2.2, perm.length_eq, closedPnl, fees,
    notional, share]

/-- **The report does not depend on the order of the fills.** -/
theorem ExecutionReport.of_perm (exact : dec.Exact) (rounds : dec.RoundsRatios ratio)
    (perm : fills.Perm others) (fromMs toMs : Int) (unscored : Nat) :
    (ExecutionReport.of dec fills fromMs toMs unscored).map dec.value =
      (ExecutionReport.of dec others fromMs toMs unscored).map dec.value := by
  have slices : ((groupBy ScoredFill.symbol fills).map fun (symbol, group) =>
        (⟨symbol, baseline dec group, Stat.of dec (group.map ScoredFill.slipBps),
          Tca.costs dec group⟩ : SymbolReport dec.Decimal).map dec.value) =
      (groupBy ScoredFill.symbol others).map fun (symbol, group) =>
        (⟨symbol, baseline dec group, Stat.of dec (group.map ScoredFill.slipBps),
          Tca.costs dec group⟩ : SymbolReport dec.Decimal).map dec.value := by
    rw [← List.forall₂_eq_eq_eq, List.forall₂_map_left_iff, List.forall₂_map_right_iff]
    refine (groupBy_perm perm).imp ?_
    rintro ⟨symbol, group⟩ ⟨symbol', group'⟩ ⟨same, perm⟩
    dsimp only at same perm
    simp only [SymbolReport.map]
    rw [same, baseline_perm exact rounds perm, costs_perm exact rounds perm,
      Stat.of_perm exact rounds (perm.map ScoredFill.slipBps)]
  unfold ExecutionReport.of ExecutionReport.map
  dsimp only
  rw [perm.length_eq, baseline_perm exact rounds perm, costs_perm exact rounds perm,
    Stat.of_perm exact rounds (perm.map ScoredFill.slipBps), List.map_map, List.map_map]
  exact congrArg _ slices

end Orders

end Oppen.Tca
