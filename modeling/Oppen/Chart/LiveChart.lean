import Oppen.Candles.Aggregator
import Oppen.Foundation.Samples
import Oppen.Foundation.SortedMap
import Oppen.Reconcile.Source
import Mathlib.Data.Prod.Lex

/-! # The live chart

What a chart shows of one symbol: the trades observed on the socket folded into bars, the venue's
own candles, live or from a history answer, and the latest trade. A floor that only rises bounds
what is kept. Prices are of any type with the operations used of them.
-/

namespace Oppen.Chart

open Foundation Oppen.Candles Oppen.Ledger Oppen.Reconcile

/-- `HISTORY_BARS`. -/
def historyBars : ℕ := 600

/-- `MAX_IDENTITIES`. -/
def maxIdentities : ℕ := 65536

/-- `MAX_CLOCK_SKEW_MS`. -/
def maxClockSkewMs : ℕ := 5000

/-- `CLOCK_SKEW`. -/
def clockSkew : String :=
  "venue clock is ahead of host receipt time; trade marker is unverified"

/-! ## Observations -/

/-- `saturating_add` of a `u64`. -/
def saturatingAdd64 (left right : ℕ) : ℕ := min (left + right) (2 ^ 64 - 1)

/-- `checked_time_ms`, which `Trade::checked` does likewise: a stamp in the range of times. -/
def checkedTimeMs (raw : ℕ) : Option I64 :=
  if inside : raw ≤ 253402300799999 then some ⟨raw, by omega, by omega⟩ else none

/-- One public trade. -/
structure WsTrade (Decimal : Type) where
  coin : String
  side : Side
  px : Decimal
  sz : Decimal
  time : ℕ
  hash : String
  tid : ℕ
  users : List Address
  deriving BEq, ReflBEq, LawfulBEq, DecidableEq

/-- The identity of a trade, in the order of trades. -/
def WsTrade.key {Decimal : Type} (trade : WsTrade Decimal) : ℕ ×ₗ ℕ := toLex (trade.time, trade.tid)

/-- A row of the venue's candles. -/
structure Candle (Decimal : Type) where
  t : ℕ
  /-- `T`. -/
  tClose : ℕ
  s : String
  i : String
  o : Decimal
  c : Decimal
  h : Decimal
  l : Decimal
  v : Decimal
  n : UInt32

/-- `BarError`, as far as `bars_from_candles` raises it. -/
inductive BarError where
  | intervalMismatch (expected found : String)
  | timestamp (raw : ℕ)
  | misaligned (openTimeMs : ℤ) (interval : String)
  | wrongWidth (openTimeMs actualMs expectedMs : ℤ)
  deriving DecidableEq, Repr

def BarError.text : BarError → String
  | .intervalMismatch expected found =>
      s!"candle interval `{found}` does not match the requested `{expected}`"
  | .timestamp raw => s!"candle timestamp {raw} ms is out of range"
  | .misaligned openTimeMs interval =>
      s!"candle open {openTimeMs} ms is not aligned to {interval}"
  | .wrongWidth openTimeMs actualMs expectedMs =>
      s!"candle at {openTimeMs} ms spans {actualMs} ms, expected {expectedMs} ms"

/-- `ChartError`. -/
inductive ChartError where
  | invalid (detail : String)
  | superseded
  deriving DecidableEq, Repr

def ChartError.text : ChartError → String
  | .invalid detail => "invalid chart observation: " ++ detail
  | .superseded => "history request belongs to a different chart or is superseded"

/-- What the chart uses of a price: addition that may overflow, its digits, and its digits without
trailing zeros. -/
structure Numbers (Decimal : Type) where
  checkedAdd : Decimal → Decimal → Option Decimal
  text : Decimal → String
  normalized : Decimal → String

/-! ## The state -/

inductive TapeStatus where
  | observing
  | interrupted
  | capacityExceeded
  | invalidObservation
  deriving DecidableEq, Repr

inductive BarSource where
  | venue
  | observedTrades
  deriving DecidableEq, Repr

structure TradeMarker where
  timeMs : ℕ
  price : String
  priceAmbiguous : Bool
  deriving DecidableEq, Repr

/-- A capability to answer one history request: the chart that issued it, and which request. -/
structure HistoryTicket where
  owner : ℕ
  request : ℕ
  deriving DecidableEq, Repr

structure HistorySnapshot (Decimal : Type) where
  candles : List (Candle Decimal)
  priceDecimals : ℕ

structure VenueBar (Decimal : Type) where
  bar : Bar Decimal
  received : ℕ
  ws : Bool
  deriving DecidableEq

structure TapeBar (Decimal : Type) where
  bar : Bar Decimal
  first : ℕ ×ₗ ℕ
  last : ℕ ×ₗ ℕ
  firstAmbiguous : Bool
  lastAmbiguous : Bool
  received : ℕ
  deriving DecidableEq

/-- `LiveChart`. The owner is told apart from other charts, and the request from the earlier ones
of the chart. -/
structure LiveChart (Decimal : Type) where
  symbol : String
  interval : Interval
  precision : Option ℕ
  owner : ℕ
  request : ℕ
  revision : ℕ
  classificationMs : Option ℕ
  clockRollback : Bool
  floor : I64
  venue : SortedMap I64 (VenueBar Decimal)
  tape : SortedMap I64 (TapeBar Decimal)
  identities : SortedMap (ℕ ×ₗ ℕ) (WsTrade Decimal)
  marker : Option ((ℕ ×ₗ ℕ) × TradeMarker)
  status : TapeStatus
  historyError : Option String
  observationError : Option String
  transportError : Option String
  received : Option ℕ

namespace LiveChart

variable {Decimal : Type}

/-- `LiveChart::new`. -/
def new (owner : ℕ) (symbol : String) (interval : Interval) (priceDecimals : Option ℕ) :
    Except ChartError (LiveChart Decimal) :=
  if symbol = "" ∨ 256 < symbol.utf8ByteSize then .error (.invalid "empty or oversized symbol")
  else
    .ok {
      symbol, interval, precision := priceDecimals, owner, request := 0, revision := 0
      classificationMs := none, clockRollback := false, floor := minTimeMs, venue := .empty
      tape := .empty, identities := .empty, marker := none, status := .observing
      historyError := none, observationError := none, transportError := none, received := none }

/-- `changed`: the revision is a `u128`. -/
def changed (chart : LiveChart Decimal) : LiveChart Decimal :=
  { chart with revision := min (chart.revision + 1) (2 ^ 128 - 1) }

def frozen (chart : LiveChart Decimal) : Bool :=
  chart.transportError.isSome || chart.status = .capacityExceeded ||
    chart.status = .invalidObservation

/-- The marker with its price called ambiguous. -/
def doubt (marker : Option ((ℕ ×ₗ ℕ) × TradeMarker)) : Option ((ℕ ×ₗ ℕ) × TradeMarker) :=
  marker.map fun held => (held.1, { held.2 with priceAmbiguous := true })

def freeze (status : TapeStatus) (detail : String) (chart : LiveChart Decimal) :
    LiveChart Decimal :=
  { chart with status, observationError := some detail, marker := doubt chart.marker }.changed

/-- `received`. -/
def receive (atMs : ℕ) (chart : LiveChart Decimal) : LiveChart Decimal :=
  { chart with received := some (max (chart.received.getD 0) atMs) }

/-- `advance_floor`. -/
def advanceFloor (bucket : I64) (chart : LiveChart Decimal) : LiveChart Decimal :=
  let next := max chart.floor
    (.saturate (bucket - (historyBars - 1) * chart.interval.millis))
  if next = chart.floor then chart
  else
    { chart with
      floor := next
      venue := chart.venue.retain fun time => next ≤ time
      tape := chart.tape.retain fun time => next ≤ time
      identities := chart.identities.retain fun key => next.1.toNat ≤ (ofLex key).1 }

end LiveChart

section Chart

variable {Decimal : Type} [LE Decimal] [DecidableLE Decimal] [LT Decimal] [DecidableLT Decimal]
  [Max Decimal] [Min Decimal] [BEq Decimal] [Zero Decimal] (lib : Numbers Decimal)

/-! ## Trades -/

/-- The bar of a bucket before its first trade. -/
def TapeBar.opened (bucket : I64) (width : ℤ) (trade : WsTrade Decimal) (receivedAtMs : ℕ) :
    TapeBar Decimal where
  bar :=
    { openTimeMs := bucket, closeTimeMs := .saturate (bucket + width - 1), openPx := trade.px
      high := trade.px, low := trade.px, close := trade.px, volume := 0, trades := 0 }
  first := trade.key
  last := trade.key
  firstAmbiguous := false
  lastAmbiguous := false
  received := receivedAtMs

/-- The open of a bar after a trade, and whether it is ambiguous. -/
def TapeBar.printFirst (trade : WsTrade Decimal) (entry : TapeBar Decimal) : TapeBar Decimal :=
  let entry := if trade.time < (ofLex entry.first).1 then
    { entry with firstAmbiguous := false } else entry
  let entry := if trade.time = (ofLex entry.first).1 ∧ trade.px != entry.bar.openPx then
    { entry with firstAmbiguous := true } else entry
  if trade.key < entry.first then
    { entry with first := trade.key, bar := { entry.bar with openPx := trade.px } } else entry

/-- The close of a bar after a trade, and whether it is ambiguous. -/
def TapeBar.printLast (trade : WsTrade Decimal) (entry : TapeBar Decimal) : TapeBar Decimal :=
  let entry := if (ofLex entry.last).1 < trade.time then
    { entry with lastAmbiguous := false } else entry
  let entry := if trade.time = (ofLex entry.last).1 ∧ trade.px != entry.bar.close then
    { entry with lastAmbiguous := true } else entry
  if entry.last < trade.key then
    { entry with last := trade.key, bar := { entry.bar with close := trade.px } } else entry

/-- The bar with one more trade, whose size brings it to this volume. -/
def TapeBar.print (trade : WsTrade Decimal) (volume : Decimal) (receivedAtMs : ℕ)
    (entry : TapeBar Decimal) : TapeBar Decimal :=
  let entry := (entry.printFirst trade).printLast trade
  { entry with
    bar :=
      { entry.bar with
        high := max entry.bar.high trade.px
        low := min entry.bar.low trade.px
        volume
        trades := entry.bar.trades + 1 }
    received := max entry.received receivedAtMs }

/-- The marker after a trade. -/
def markTrade (trade : WsTrade Decimal) (marker : Option ((ℕ ×ₗ ℕ) × TradeMarker)) :
    Option ((ℕ ×ₗ ℕ) × TradeMarker) :=
  let price := lib.normalized trade.px
  match marker with
  | none => some (trade.key, ⟨trade.time, price, false⟩)
  | some (last, held) =>
      if trade.time = (ofLex last).1 then
        let held := { held with priceAmbiguous := held.priceAmbiguous || held.price != price }
        if last < trade.key then some (trade.key, { held with price }) else some (last, held)
      else if trade.key < last then some (last, held)
      else some (trade.key, ⟨trade.time, price, false⟩)

namespace LiveChart

/-- What a trade changes once it is accepted into its bucket. -/
def takeTrade (bucket : I64) (trade : WsTrade Decimal) (volume : Decimal) (receivedAtMs : ℕ)
    (chart : LiveChart Decimal) : LiveChart Decimal :=
  let entry := (chart.tape.get bucket).getD
    (.opened bucket chart.interval.millis trade receivedAtMs)
  let marker := markTrade lib trade chart.marker
  -- a stamp ahead of its receipt leaves the marker unverified
  let uncertain : Bool := receivedAtMs < trade.time
  LiveChart.changed <| LiveChart.receive receivedAtMs
    { chart with
      tape := chart.tape.insert bucket (entry.print trade volume receivedAtMs)
      marker := if uncertain then doubt marker else marker
      observationError :=
        if uncertain then some clockSkew
        else if chart.observationError = some clockSkew then none else chart.observationError
      identities := chart.identities.insert trade.key trade
      status := .observing }

/-- One row of `observe_trades`; an error is a chart that the call leaves as it is. -/
def observeTrade (receivedAtMs : ℕ) (chart : LiveChart Decimal) (trade : WsTrade Decimal) :
    Except (LiveChart Decimal) (LiveChart Decimal) :=
  match checkedTimeMs trade.time with
  | none =>
      .error (chart.freeze .invalidObservation "trade timestamp outside supported range")
  | some time =>
      if trade.coin ≠ chart.symbol ∨ trade.px ≤ 0 ∨ trade.sz ≤ 0 ∨
          128 < trade.hash.utf8ByteSize ∨ 2 < trade.users.length then
        .error (chart.freeze .invalidObservation "invalid trade symbol, price or size")
      else if saturatingAdd64 receivedAtMs maxClockSkewMs < trade.time then
        .ok { chart with
          observationError :=
            some "trade exceeds supported forward clock skew; observation ignored" }.changed
      else
        -- no stamp is before the epoch, so rounding down is rounding towards zero
        let bucket := chart.interval.bucketStartMs time
        if bucket < chart.floor then .ok chart
        else
          match chart.identities.get trade.key with
          | some prior =>
              if prior != trade then
                .error (chart.freeze .invalidObservation "conflicting trade identity")
              else .ok (chart.receive receivedAtMs).changed
          | none =>
              let chart := chart.advanceFloor bucket
              if maxIdentities ≤ chart.identities.length then
                .error (chart.freeze .capacityExceeded "trade identity capacity exceeded")
              else
                match lib.checkedAdd ((chart.tape.get bucket).elim 0 (·.bar.volume)) trade.sz with
                | none => .error (chart.freeze .invalidObservation "trade volume overflow")
                | some volume => .ok (chart.takeTrade lib bucket trade volume receivedAtMs)

/-- `observe_trades`: the rows in their order, up to one that freezes the tape. -/
def observeTrades (trades : List (WsTrade Decimal)) (receivedAtMs : ℕ)
    (chart : LiveChart Decimal) : LiveChart Decimal :=
  if chart.frozen then chart
  else if maxIdentities < trades.length then
    chart.freeze .capacityExceeded "trade batch exceeds identity capacity"
  else
    match (sortBy WsTrade.key trades).foldlM (observeTrade lib receivedAtMs) chart with
    | .ok chart | .error chart => chart

/-! ## Candles -/

/-- `Bar::from_candle` and the checks of `bars_from_candles`. -/
def barOfCandle (interval : Interval) (candle : Candle Decimal) : Except BarError (Bar Decimal) :=
  if candle.i ≠ interval.display then .error (.intervalMismatch interval.display candle.i)
  else
    match checkedTimeMs candle.t, checkedTimeMs candle.tClose with
    | none, _ => .error (.timestamp candle.t)
    | some _, none => .error (.timestamp candle.tClose)
    | some openTimeMs, some closeTimeMs =>
        if openTimeMs.1 % interval.millis ≠ 0 then
          .error (.misaligned openTimeMs interval.display)
        else if closeTimeMs.1 - openTimeMs.1 + 1 ≠ interval.millis then
          .error (.wrongWidth openTimeMs (closeTimeMs.1 - openTimeMs.1 + 1) interval.millis)
        else
          .ok ⟨openTimeMs, closeTimeMs, candle.o, candle.h, candle.l, candle.c, candle.v, candle.n⟩

/-- `bars_from_candles`. -/
def barsFromCandles (interval : Interval) (candles : List (Candle Decimal)) :
    Except BarError (List (Bar Decimal)) :=
  candles.mapM (barOfCandle interval)

/-- Whether a row is no candle of this chart. -/
def malformed (chart : LiveChart Decimal) (candle : Candle Decimal) : Bool :=
  candle.s ≠ chart.symbol || candle.i ≠ chart.interval.display || candle.o ≤ 0 ||
    candle.c ≤ 0 || candle.l ≤ 0 || candle.h < candle.l || candle.h < candle.o ||
      candle.h < candle.c || candle.o < candle.l || candle.c < candle.l || candle.v < 0

/-- `validate_candles`. -/
def validateCandles (chart : LiveChart Decimal) (candles : List (Candle Decimal)) :
    Except ChartError (List (Bar Decimal)) :=
  if historyBars + 1 < candles.length then .error (.invalid "history exceeds chart window")
  else if candles.any chart.malformed then .error (.invalid "invalid candle symbol or OHLCV")
  else
    match barsFromCandles chart.interval candles with
    | .error error => .error (.invalid error.text)
    | .ok bars =>
        if bars.IsChain fun left right => left.openTimeMs < right.openTimeMs then .ok bars
        else .error (.invalid "history buckets are not strictly ascending")

/-- A live candle that was found valid. -/
def takeCandle (receivedAtMs : ℕ) (chart : LiveChart Decimal) (bar : Bar Decimal) :
    LiveChart Decimal :=
  if bar.openTimeMs < chart.floor then chart
  else
    let chart := chart.advanceFloor bar.openTimeMs
    LiveChart.changed <| LiveChart.receive receivedAtMs
      { chart with venue := chart.venue.insert bar.openTimeMs ⟨bar, receivedAtMs, true⟩ }

/-- `observe_candle`. -/
def observeCandle (candle : Candle Decimal) (receivedAtMs : ℕ) (chart : LiveChart Decimal) :
    LiveChart Decimal :=
  if saturatingAdd64 receivedAtMs maxClockSkewMs < candle.t then
    { chart with
      observationError := some "candle bucket exceeds supported forward clock skew" }.changed
  else
    match chart.validateCandles [candle] with
    | .ok bars => bars.foldl (takeCandle receivedAtMs) chart
    | .error error => { chart with observationError := some error.text }.changed

end LiveChart

end Chart

namespace LiveChart

variable {Decimal : Type}

/-! ## Failures -/

/-- `interrupt`. -/
def interrupt (chart : LiveChart Decimal) : LiveChart Decimal :=
  if chart.frozen then chart else { chart with status := .interrupted }.changed

/-- `chars().take(512)`. -/
def clip (detail : String) : String := .ofList (detail.toList.take 512)

/-- `observation_failed`: the first failure of the transport is kept. -/
def observationFailed (detail : String) (chart : LiveChart Decimal) : LiveChart Decimal :=
  if chart.transportError.isSome then chart
  else
    { chart with
      status := if chart.frozen then chart.status else .interrupted
      transportError := some (clip detail)
      marker := doubt chart.marker }.changed

/-! ## History -/

/-- `begin_history`. -/
def beginHistory (chart : LiveChart Decimal) : HistoryTicket × LiveChart Decimal :=
  (⟨chart.owner, chart.request + 1⟩, { chart with request := chart.request + 1 })

/-- A bar of a history answer: it takes no place of a live candle. -/
def takeHistory (receivedAtMs : ℕ) (chart : LiveChart Decimal) (bar : Bar Decimal) :
    LiveChart Decimal :=
  if bar.openTimeMs < chart.floor ∨ (chart.venue.get bar.openTimeMs).any (·.ws) = true then chart
  else { chart with venue := chart.venue.insert bar.openTimeMs ⟨bar, receivedAtMs, false⟩ }

section History

variable [LE Decimal] [DecidableLE Decimal] [LT Decimal] [DecidableLT Decimal] [Zero Decimal]

/-- `finish_history`. -/
def finishHistory (ticket : HistoryTicket) (outcome : Except String (HistorySnapshot Decimal))
    (receivedAtMs : ℕ) (chart : LiveChart Decimal) :
    Except ChartError Unit × LiveChart Decimal :=
  if ticket.owner ≠ chart.owner ∨ ticket.request ≠ chart.request then (.error .superseded, chart)
  else
    match outcome with
    | .error error => (.ok (), { chart with historyError := some (clip error) }.changed)
    | .ok snapshot =>
        match chart.validateCandles snapshot.candles with
        | .error error =>
            (.error error, { chart with historyError := some error.text }.changed)
        | .ok bars =>
            if bars.getLast?.any fun bar =>
                saturatingAdd64 receivedAtMs maxClockSkewMs < bar.openTimeMs.1.toNat then
              let error := ChartError.invalid "history bucket starts after receipt time"
              (.error error, { chart with historyError := some error.text }.changed)
            else
              let chart := bars.getLast?.elim chart fun last => chart.advanceFloor last.openTimeMs
              let chart := bars.foldl (takeHistory receivedAtMs) chart
              let chart :=
                { chart with precision := some snapshot.priceDecimals, historyError := none }
              let chart :=
                if snapshot.candles = [] then chart else chart.receive receivedAtMs
              (.ok (), chart.changed)

end History

end LiveChart

/-! ## The projection -/

structure ObservedBar where
  timeMs : I64
  /-- `open`. -/
  openPx : String
  high : String
  low : String
  close : String
  volume : String
  source : BarSource
  isPartial : Bool
  openCloseAmbiguous : Bool
  receivedAtMs : ℕ
  deriving DecidableEq

structure ChartProjection where
  symbol : String
  interval : String
  intervalMs : ℤ
  revision : String
  priceDecimals : Option ℕ
  closed : List ObservedBar
  forming : Option ObservedBar
  latestTrade : Option TradeMarker
  historyError : Option String
  observationError : Option String
  lastObservationReceivedAtMs : Option ℕ
  tapeStatus : TapeStatus
  deriving DecidableEq

section Projection

variable {Decimal : Type} (lib : Numbers Decimal)

/-- `project_bar`. -/
def projectBar (source : BarSource) (isPartial ambiguous : Bool) (receivedAtMs : ℕ)
    (bar : Bar Decimal) : ObservedBar where
  timeMs := bar.openTimeMs
  openPx := lib.text bar.openPx
  high := lib.text bar.high
  low := lib.text bar.low
  close := lib.text bar.close
  volume := lib.text bar.volume
  source := source
  isPartial := isPartial
  openCloseAmbiguous := ambiguous
  receivedAtMs := receivedAtMs

namespace LiveChart

/-- What is shown of each bucket: the venue's bar, or the one of the observed trades. -/
def bars (chart : LiveChart Decimal) : SortedMap I64 ObservedBar :=
  (chart.tape.mapValues fun tape =>
    projectBar lib .observedTrades true (tape.firstAmbiguous || tape.lastAmbiguous) tape.received
      tape.bar).insertAll
  (chart.venue.mapValues fun venue => projectBar lib .venue false false venue.received venue.bar)

/-- Where the clock stands for the projection: it does not go back. -/
def classification (nowMs : ℕ) (chart : LiveChart Decimal) : ℕ :=
  max (chart.classificationMs.getD nowMs) nowMs

/-- The chart after a projection. -/
def classify (nowMs : ℕ) (chart : LiveChart Decimal) : LiveChart Decimal :=
  let classificationMs := chart.classification nowMs
  let clockRollback : Bool := nowMs < classificationMs
  let width := chart.interval.millis.toNat
  let chart :=
    if chart.classificationMs.map (· / width) ≠ some (classificationMs / width) ∨
      chart.clockRollback ≠ clockRollback then chart.changed else chart
  { chart with classificationMs := some classificationMs, clockRollback }

/-- Whether a bucket is over. -/
def isClosed (chart : LiveChart Decimal) (classificationMs : ℕ) (time : I64) : Bool :=
  saturatingAdd64 time.1.toNat chart.interval.millis.toNat ≤ classificationMs

/-- Whether a bucket has begun and is not over. -/
def isForming (chart : LiveChart Decimal) (classificationMs : ℕ) (time : I64) : Bool :=
  !chart.isClosed classificationMs time && time.1.toNat ≤ classificationMs

/-- The texts of the errors of the observations, with those of the transport and of the clock. -/
def errorText (chart : LiveChart Decimal) : Option String :=
  let join := fun (error : Option String) (detail : String) =>
    some (error.elim detail fun error => error ++ "; " ++ detail)
  let error := chart.transportError.elim chart.observationError fun transport =>
    join chart.observationError ("chart transport failed: " ++ transport)
  if chart.clockRollback then
    join error "host clock moved backward; retaining prior bar classification until clock recovery"
  else error

/-- What a classified chart shows. -/
def shown (classificationMs : ℕ) (chart : LiveChart Decimal) : ChartProjection where
  symbol := chart.symbol
  interval := chart.interval.display
  intervalMs := chart.interval.millis
  revision := toString chart.revision
  priceDecimals := chart.precision
  closed := (((chart.bars lib).retain (chart.isClosed classificationMs)).entries).map Prod.snd
  forming :=
    ((((chart.bars lib).retain (chart.isForming classificationMs)).entries).map Prod.snd).getLast?
  latestTrade := chart.marker.map Prod.snd
  historyError := chart.historyError
  observationError := chart.errorText
  lastObservationReceivedAtMs := chart.received
  tapeStatus := chart.status

/-- `projection`. -/
def projection (nowMs : ℕ) (chart : LiveChart Decimal) : ChartProjection × LiveChart Decimal :=
  ((chart.classify nowMs).shown lib (chart.classification nowMs), chart.classify nowMs)

end LiveChart

end Projection

end Oppen.Chart
