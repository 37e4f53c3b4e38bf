import Mathlib.Algebra.Ring.Int.Defs
import Mathlib.Data.List.Basic
import Mathlib.Logic.Function.Basic
import Mathlib.Order.Lattice

/-! # Alerts

An agent arms a condition and is woken once, when an observation of the market or of its fills
satisfies it. A sweep reads the armed alerts in one statement and marks those that fire one by one;
other calls come between its statements, and each statement may fail. Beside the rows the state
keeps which alert is which: an id is given again once the newest row is gone, so it does not say.
-/

namespace Oppen.Alerts

/-- `MAX_ARMED_PER_AGENT`. -/
def maxArmedPerAgent : Nat := 100

inductive Direction where
  | above
  | below
  deriving DecidableEq, Repr

/-- What an agent asked to be woken for. -/
inductive Condition (Decimal : Type) where
  | priceCross (symbol : String) (direction : Direction) (px : Decimal)
  | fill (symbol : Option String)
  | fundingRate (symbol : String) (direction : Direction) (hourToDateBps : Decimal)
  deriving DecidableEq

/-- What the venue's latest context says about one symbol. -/
structure MarketTick (Decimal : Type) where
  symbol : String
  markPx : Option Decimal
  fundingHourToDateBps : Decimal

/-- What an alert reads of a fill. -/
structure Fill where
  coin : String
  tid : Nat

/-- What the alerts are evaluated against. -/
inductive Observation (Decimal : Type) where
  | tick (tick : MarketTick Decimal)
  | fills (fills : List Fill)

/-- What a condition matched on. -/
inductive Matched (Decimal : Type) where
  | priceCross (symbol : String) (markPx : Decimal)
  | fill (symbol : String) (tid : Nat)
  | fundingRate (symbol : String) (bps : Decimal)
  deriving DecidableEq

inductive AlertError (Decimal : Type) where
  | sqlite
  | encode
  | full
  | emptySymbol
  | nonPositivePrice (px : Decimal)
  deriving DecidableEq

variable {Decimal : Type} [LinearOrder Decimal]

/-- `Direction::reached`. -/
def Direction.reached (observed level : Decimal) : Direction → Bool
  | .above => level ≤ observed
  | .below => observed ≤ level

/-- `Condition::watched_symbol`. -/
def Condition.watchedSymbol : Condition Decimal → Option String
  | .priceCross symbol _ _ => some symbol
  | .fundingRate symbol _ _ => some symbol
  | .fill _ => none

/-- `Condition::validate`. -/
def Condition.validate [Zero Decimal] (condition : Condition Decimal) :
    Except (AlertError Decimal) Unit :=
  if condition.watchedSymbol = some "" then .error .emptySymbol
  else
    match condition with
    | .priceCross _ _ px => if px ≤ 0 then .error (.nonPositivePrice px) else .ok ()
    | _ => .ok ()

/-- What an armed alert matches of a market tick. -/
def matchTick (tick : MarketTick Decimal) : Condition Decimal → Option (Matched Decimal)
  | .priceCross symbol direction px =>
      if symbol = tick.symbol then
        match tick.markPx with
        | some mark => if direction.reached mark px then some (.priceCross symbol mark) else none
        | none => none
      else none
  | .fundingRate symbol direction bps =>
      if symbol = tick.symbol then
        if direction.reached tick.fundingHourToDateBps bps then
          some (.fundingRate symbol tick.fundingHourToDateBps)
        else none
      else none
  | .fill _ => none

/-- What an armed alert matches of the fills of one event: the first it wanted. -/
def matchFills (fills : List Fill) : Condition Decimal → Option (Matched Decimal)
  | .fill symbol =>
      (fills.find? fun fill => symbol.all (· = fill.coin)).map fun fill => .fill fill.coin fill.tid
  | _ => none

def Observation.matched : Observation Decimal → Condition Decimal → Option (Matched Decimal)
  | .tick reading => matchTick reading
  | .fills seen => matchFills seen

/-- The observation is what the condition asks for. -/
def Condition.SatisfiedBy : Condition Decimal → Observation Decimal → Prop
  | .priceCross symbol direction px, .tick tick =>
      tick.symbol = symbol ∧ ∃ mark, tick.markPx = some mark ∧ direction.reached mark px = true
  | .fundingRate symbol direction bps, .tick tick =>
      tick.symbol = symbol ∧ direction.reached tick.fundingHourToDateBps bps = true
  | .fill symbol, .fills fills => ∃ fill ∈ fills, ∀ want, symbol = some want → want = fill.coin
  | _, _ => False

/-- What is matched for a condition satisfies it, so no alert fires for an observation that does
not. -/
theorem Condition.satisfied_of_matched {condition : Condition Decimal}
    {observation : Observation Decimal} {matched : Matched Decimal}
    (found : observation.matched condition = some matched) : condition.SatisfiedBy observation := by
  cases observation with
  | tick tick =>
      cases condition with
      | priceCross symbol direction px =>
          simp only [Observation.matched, matchTick] at found
          split at found
          · rename_i same
            split at found
            · rename_i mark quoted
              split at found
              · rename_i reached
                exact ⟨same.symm, mark, quoted, reached⟩
              · cases found
            · cases found
          · cases found
      | fundingRate symbol direction bps =>
          simp only [Observation.matched, matchTick] at found
          split at found
          · rename_i same
            split at found
            · rename_i reached
              exact ⟨same.symm, reached⟩
            · cases found
          · cases found
      | fill symbol => cases found
  | fills fills =>
      cases condition with
      | fill symbol =>
          obtain ⟨fill, here, -⟩ := Option.map_eq_some_iff.mp found
          refine ⟨fill, List.mem_of_find?_eq_some here, fun want asked => ?_⟩
          have wanted := List.find?_some here
          rw [asked] at wanted
          exact of_decide_eq_true wanted
      | priceCross symbol direction px => cases found
      | fundingRate symbol direction bps => cases found

/-! ## The store -/

/-- A row of `alerts`. -/
structure AlertRow where
  alertId : Int
  agent : String
  condition : String
  armedAtMs : Int
  firedAtMs : Option Int
  /-- Which alert it is, by the order of arming, and the call that marked it. -/
  serial : Nat
  firedBy : Option Nat
  deriving DecidableEq

/-- How conditions are stored; what was stored is read back. -/
structure ConditionText (Decimal : Type) where
  encode : Condition Decimal → Option String
  decode : String → Option (Condition Decimal)
  decode_encode : ∀ condition text, encode condition = some text → decode text = some condition

/-- An armed alert as a sweep reads it. -/
structure Entry (Decimal : Type) where
  alertId : Int
  agent : String
  condition : Condition Decimal
  serial : Nat

/-- `Fired`, and which alert it is of. -/
structure Fired (Decimal : Type) where
  alertId : Int
  agent : String
  condition : Condition Decimal
  matched : Matched Decimal
  serial : Nat

/-- A call of `on_market_tick` or `on_fills` under way. -/
structure Sweep (Decimal : Type) where
  observation : Observation Decimal
  nowMs : Int
  pending : List (Entry Decimal)
  fired : List (Fired Decimal)

/-- A firing that a call returned, for the pump to chain. -/
structure Returned (Decimal : Type) extends Fired Decimal where
  call : Nat
  observation : Observation Decimal

/-- The store of alerts with the sweeps that are under way on it. -/
structure State (Decimal : Type) where
  rows : List AlertRow
  calls : Nat → Option (Sweep Decimal)
  nextCall : Nat
  /-- Every alert there was, by its serial. -/
  armed : List (String × Condition Decimal)
  cancelled : List Nat
  returned : List (Returned Decimal)

/-- The store of a new file. -/
def State.new : State Decimal := ⟨[], fun _ => none, 0, [], [], []⟩

/-- The rowid of the next row: one past the largest. -/
def nextId (rows : List AlertRow) : Int := (rows.map AlertRow.alertId).foldl max 0 + 1

/-- The alerts that are still watching. -/
def AlertRow.watching (row : AlertRow) : Bool := row.firedAtMs = none

/-- `AlertStore::armed`; a row that does not decode is skipped. -/
def armedRows (text : ConditionText Decimal) (rows : List AlertRow) : List (Entry Decimal) :=
  (rows.filter AlertRow.watching).filterMap fun row =>
    (text.decode row.condition).map fun condition =>
      ⟨row.alertId, row.agent, condition, row.serial⟩

/-- The update of `mark_fired`. -/
def AlertRow.mark (alertId nowMs : Int) (call : Nat) (row : AlertRow) : AlertRow :=
  if row.alertId = alertId ∧ row.watching = true then
    { row with firedAtMs := some nowMs, firedBy := some call }
  else row

section Calls

variable (text : ConditionText Decimal) (state : State Decimal)

/-- `AlertStore::arm`; `fails` says that one of its statements does. -/
def arm [Zero Decimal] (agent : String) (condition : Condition Decimal) (nowMs : Int)
    (fails : Bool) : Except (AlertError Decimal) Int × State Decimal :=
  match condition.validate with
  | .error error => (.error error, state)
  | .ok () =>
      match text.encode condition with
      | none => (.error .encode, state)
      | some encoded =>
          if fails then (.error .sqlite, state)
          else if maxArmedPerAgent ≤
              (state.rows.filter fun row => row.agent = agent && row.watching).length then
            (.error .full, state)
          else
            let alertId := nextId state.rows
            let row : AlertRow :=
              ⟨alertId, agent, encoded, nowMs, none, state.armed.length, none⟩
            (.ok alertId, { state with
              rows := state.rows ++ [row], armed := state.armed ++ [(agent, condition)] })

/-- The alert that `cancel` removes. -/
def AlertRow.cancelledBy (agent : String) (alertId : Int) (row : AlertRow) : Bool :=
  row.alertId = alertId && row.agent = agent && row.watching

/-- `AlertStore::cancel`. -/
def cancel (agent : String) (alertId : Int) (fails : Bool) :
    Except (AlertError Decimal) Bool × State Decimal :=
  if fails then (.error .sqlite, state)
  else
    let removed := state.rows.filter (AlertRow.cancelledBy agent alertId)
    (.ok (removed.length = 1), { state with
      rows := state.rows.filter fun row => !row.cancelledBy agent alertId
      cancelled := state.cancelled ++ removed.map AlertRow.serial })

/-- A sweep reads the armed alerts, or returns the error of the read. -/
def begin (observation : Observation Decimal) (nowMs : Int) (fails : Bool) : State Decimal :=
  if fails then state
  else { state with
    calls := Function.update state.calls state.nextCall
      (some ⟨observation, nowMs, armedRows text state.rows, []⟩)
    nextCall := state.nextCall + 1 }

/-- A turn of the loop of a sweep, or the end of it; `fails` is about the statement that marks. An
error drops what the sweep had marked. -/
def next (call : Nat) (fails : Bool) : State Decimal :=
  match state.calls call with
  | none => state
  | some sweep =>
      match sweep.pending with
      | [] => { state with
          calls := Function.update state.calls call none
          returned := state.returned ++ sweep.fired.map fun fired =>
            ⟨fired, call, sweep.observation⟩ }
      | entry :: rest =>
          match sweep.observation.matched entry.condition with
          | none => { state with
              calls := Function.update state.calls call (some { sweep with pending := rest }) }
          | some matched =>
              if fails then { state with calls := Function.update state.calls call none }
              else if state.rows.any fun row => row.alertId = entry.alertId && row.watching then
                { state with
                  rows := state.rows.map (AlertRow.mark entry.alertId sweep.nowMs call)
                  calls := Function.update state.calls call (some { sweep with
                    pending := rest
                    fired := sweep.fired ++
                      [⟨entry.alertId, entry.agent, entry.condition, matched, entry.serial⟩] }) }
              else { state with
                calls := Function.update state.calls call (some { sweep with pending := rest }) }

end Calls

/-- A statement of a call, and whether it fails. -/
inductive Statement (Decimal : Type) where
  | arm (agent : String) (condition : Condition Decimal) (nowMs : Int) (fails : Bool)
  | cancel (agent : String) (alertId : Int) (fails : Bool)
  | begin (observation : Observation Decimal) (nowMs : Int) (fails : Bool)
  | next (call : Nat) (fails : Bool)

/-- What a statement does to the store, whether it goes through or fails. -/
def State.perform [Zero Decimal] (text : ConditionText Decimal) (state : State Decimal) :
    Statement Decimal → State Decimal
  | .arm agent condition nowMs fails => (Alerts.arm text state agent condition nowMs fails).2
  | .cancel agent alertId fails => (Alerts.cancel state agent alertId fails).2
  | .begin observation nowMs fails => Alerts.begin text state observation nowMs fails
  | .next call fails => Alerts.next state call fails

/-- The store after statements of any calls, in any order. -/
def State.after [Zero Decimal] (text : ConditionText Decimal)
    (statements : List (Statement Decimal)) : State Decimal :=
  statements.foldl (State.perform text) State.new

end Oppen.Alerts
