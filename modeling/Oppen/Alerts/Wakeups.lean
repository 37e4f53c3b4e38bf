import Mathlib.Data.List.Induction
import Mathlib.Data.List.Infix
import Mathlib.Data.List.Nodup
import Oppen.Alerts.Store

/-! # Wakeups are neither lost nor doubled

An alert marked fired is one that a call returned, or is still about to return, and the other way
round, for as long as no statement that marks fails after its sweep has marked another alert, and
no sweep marks an alert armed after its read under the id of one that it read. Neither holds of the
store itself: the error of a sweep drops what it had marked, and ids are given again.
-/

namespace Oppen.Alerts

variable {Decimal : Type} [LinearOrder Decimal]

/-! ## What is promised -/

/-- What holds of the alerts that were returned and of those marked. -/
structure OneToOne (state : State Decimal) : Prop where
  once : (state.returned.map fun returned => returned.serial).Nodup
  uncancelled : ∀ returned ∈ state.returned, returned.serial ∉ state.cancelled
  satisfied : ∀ returned ∈ state.returned, returned.condition.SatisfiedBy returned.observation
  /-- What is returned is the agent and the condition of the alert as it was armed. -/
  own : ∀ returned ∈ state.returned,
    state.armed[returned.serial]? = some (returned.agent, returned.condition)
  /-- What is returned was marked by the call that returned it. -/
  marked : ∀ returned ∈ state.returned, ∃ row ∈ state.rows,
    row.serial = returned.serial ∧ row.firedBy = some returned.call
  /-- What was marked is returned by the call that marked it, unless that is still under way. -/
  handed : ∀ row ∈ state.rows, row.watching = false → ∃ call, row.firedBy = some call ∧
    ((∃ returned ∈ state.returned, returned.serial = row.serial ∧ returned.call = call) ∨
      ∃ sweep, state.calls call = some sweep ∧ ∃ fired ∈ sweep.fired, fired.serial = row.serial)

/-- No marking fails once the sweep has marked an alert, and none marks an alert that was armed
after the read of the sweep. -/
def Statement.Safe (state : State Decimal) : Statement Decimal → Prop
  | .next call fails => ∀ sweep entry rest, state.calls call = some sweep →
      sweep.pending = entry :: rest → sweep.observation.matched entry.condition ≠ none →
        if fails then sweep.fired = []
        else ∀ row ∈ state.rows, row.alertId = entry.alertId → row.watching = true →
          row.serial = entry.serial
  | _ => True

/-- Whether a statement is safe can be computed. -/
instance (state : State Decimal) : (statement : Statement Decimal) →
    Decidable (statement.Safe state)
  | .next call fails =>
      decidable_of_iff (∀ sweep ∈ state.calls call, ∀ entry ∈ sweep.pending.head?,
          sweep.observation.matched entry.condition ≠ none →
            if fails then sweep.fired = []
            else ∀ row ∈ state.rows, row.alertId = entry.alertId → row.watching = true →
              row.serial = entry.serial)
        ⟨fun safe sweep entry _ under ahead => safe sweep under entry (ahead ▸ rfl),
          fun safe sweep under entry ahead =>
            let ⟨rest, ahead⟩ := List.head?_eq_some_iff.mp ahead
            safe sweep entry rest under ahead⟩
  | .arm .. | .cancel .. | .begin .. => isTrue trivial

/-! ## The invariant -/

/-- A firing is of an alert as it was armed, for an observation that satisfies it, and its row is
marked by the call. -/
structure Genuine (state : State Decimal) (observation : Observation Decimal) (call : Nat)
    (fired : Fired Decimal) : Prop where
  own : state.armed[fired.serial]? = some (fired.agent, fired.condition)
  satisfied : fired.condition.SatisfiedBy observation
  row : ∃ row ∈ state.rows, row.serial = fired.serial ∧ row.firedBy = some call

structure Consistent (text : ConditionText Decimal) (state : State Decimal) : Prop where
  ids : (state.rows.map AlertRow.alertId).Nodup
  serials : (state.rows.map AlertRow.serial).Nodup
  logged : ∀ row ∈ state.rows, ∃ condition,
    state.armed[row.serial]? = some (row.agent, condition) ∧
      text.encode condition = some row.condition
  marks : ∀ row ∈ state.rows, row.watching = true ↔ row.firedBy = none
  under : ∀ call sweep, state.calls call = some sweep → call < state.nextCall
  pending : ∀ call sweep, state.calls call = some sweep → ∀ entry ∈ sweep.pending,
    state.armed[entry.serial]? = some (entry.agent, entry.condition)
  distinct : ∀ call sweep, state.calls call = some sweep → (sweep.fired.map Fired.serial).Nodup
  firing : ∀ call sweep, state.calls call = some sweep → ∀ fired ∈ sweep.fired,
    Genuine state sweep.observation call fired
  once : (state.returned.map fun returned => returned.serial).Nodup
  ended : ∀ returned ∈ state.returned,
    returned.call < state.nextCall ∧ state.calls returned.call = none
  genuine : ∀ returned ∈ state.returned,
    Genuine state returned.observation returned.call returned.toFired
  removed : ∀ serial ∈ state.cancelled, serial < state.armed.length ∧
    ∀ row ∈ state.rows, row.serial ≠ serial
  handed : ∀ row ∈ state.rows, ∀ call, row.firedBy = some call →
    (∃ returned ∈ state.returned, returned.serial = row.serial ∧ returned.call = call) ∨
      ∃ sweep, state.calls call = some sweep ∧ ∃ fired ∈ sweep.fired, fired.serial = row.serial

section Invariant

variable {text : ConditionText Decimal} {state : State Decimal}

/-- The invariant gives what is promised of the alerts. -/
theorem Consistent.oneToOne (consistent : Consistent text state) : OneToOne state where
  once := consistent.once
  uncancelled returned member gone := by
    obtain ⟨row, inside, same, -⟩ := (consistent.genuine returned member).row
    exact (consistent.removed _ gone).2 row inside same
  satisfied returned member := (consistent.genuine returned member).satisfied
  own returned member := (consistent.genuine returned member).own
  marked returned member := (consistent.genuine returned member).row
  handed row member fired := by
    cases marker : row.firedBy with
    | none =>
        rw [(consistent.marks row member).mpr marker] at fired
        cases fired
    | some call => exact ⟨call, rfl, consistent.handed row member call marker⟩

/-- A new store is consistent, as it holds no alert. -/
theorem consistent_new (text : ConditionText Decimal) :
    Consistent text (State.new : State Decimal) where
  ids := .nil
  serials := .nil
  logged := nofun
  marks := nofun
  under := nofun
  pending := nofun
  distinct := nofun
  firing := nofun
  once := .nil
  ended := nofun
  genuine := nofun
  removed := nofun
  handed := nofun

/-- The alerts that were armed stay known, and the rows that were marked stay. -/
structure Grows (before after : State Decimal) : Prop where
  armed : before.armed <+: after.armed
  marked : ∀ row ∈ before.rows, ∀ call, row.firedBy = some call →
    ∃ row' ∈ after.rows, row'.serial = row.serial ∧ row'.firedBy = some call

omit [LinearOrder Decimal] in
/-- A store that grows keeps under each serial the alert that was armed there. -/
theorem Grows.own {before after : State Decimal} (grows : Grows before after) {serial : Nat}
    {alert : String × Condition Decimal} (known : before.armed[serial]? = some alert) :
    after.armed[serial]? = some alert := by
  obtain ⟨later, eq⟩ := grows.armed
  obtain ⟨bound, -⟩ := List.getElem?_eq_some_iff.mp known
  rw [← eq, List.getElem?_append_left bound]
  exact known

/-- A firing stays genuine while the store grows. -/
theorem Genuine.grow {before after : State Decimal} {observation : Observation Decimal}
    {call : Nat} {fired : Fired Decimal} (genuine : Genuine before observation call fired)
    (grows : Grows before after) : Genuine after observation call fired where
  own := grows.own genuine.own
  satisfied := genuine.satisfied
  row := by
    obtain ⟨row, member, same, marker⟩ := genuine.row
    obtain ⟨row', member', same', marker'⟩ := grows.marked row member call marker
    exact ⟨row', member', same'.trans same, marker'⟩

/-! ## What each statement preserves -/

/-- The largest id is at least every id, and at least where the search began. -/
theorem le_foldl_max (ids : List Int) (start : Int) :
    start ≤ ids.foldl max start ∧ ∀ id ∈ ids, id ≤ ids.foldl max start := by
  induction ids generalizing start with
  | nil => exact ⟨le_refl start, nofun⟩
  | cons id ids rest =>
      obtain ⟨low, high⟩ := rest (max start id)
      refine ⟨(le_max_left start id).trans low, fun other member => ?_⟩
      rcases List.mem_cons.mp member with rfl | later
      · exact (le_max_right start other).trans low
      · exact high other later

/-- No row has the id that the next one gets. -/
theorem lt_nextId {rows : List AlertRow} {row : AlertRow} (member : row ∈ rows) :
    row.alertId < nextId rows :=
  Int.lt_add_one_iff.mpr ((le_foldl_max _ 0).2 _ (List.mem_map_of_mem member))

/-- Serials are given in order, so a row has one below the number of alerts there were. -/
theorem Consistent.serial_lt (consistent : Consistent text state) {row : AlertRow}
    (member : row ∈ state.rows) : row.serial < state.armed.length := by
  obtain ⟨condition, known, -⟩ := consistent.logged row member
  exact (List.getElem?_eq_some_iff.mp known).1

/-- A serial names one row. -/
theorem Consistent.row_unique (consistent : Consistent text state) {row row' : AlertRow}
    (member : row ∈ state.rows) (member' : row' ∈ state.rows) (same : row.serial = row'.serial) :
    row = row' :=
  List.inj_on_of_nodup_map consistent.serials member member' same

/-- Arming an alert, or being refused, keeps the invariant. The new row has a fresh id and the next
serial. -/
theorem Consistent.arm [Zero Decimal] (consistent : Consistent text state) (agent : String)
    (condition : Condition Decimal) (nowMs : Int) (fails : Bool) :
    Consistent text (Alerts.arm text state agent condition nowMs fails).2 := by
  unfold Alerts.arm
  split
  · exact consistent
  · split
    · exact consistent
    · rename_i encoded written
      split
      · exact consistent
      · split
        · exact consistent
        · have grows : Grows state { state with
              rows := state.rows ++
                [⟨nextId state.rows, agent, encoded, nowMs, none, state.armed.length, none⟩]
              armed := state.armed ++ [(agent, condition)] } :=
            ⟨List.prefix_append _ _, fun row member call marker =>
              ⟨row, List.mem_append_left _ member, rfl, marker⟩⟩
          constructor
          · rw [List.map_append, List.map_singleton, ← List.concat_eq_append]
            refine consistent.ids.concat fun taken => ?_
            obtain ⟨row, member, same⟩ := List.mem_map.mp taken
            exact (lt_nextId member).ne same
          · rw [List.map_append, List.map_singleton, ← List.concat_eq_append]
            refine consistent.serials.concat fun taken => ?_
            obtain ⟨row, member, same⟩ := List.mem_map.mp taken
            exact (consistent.serial_lt member).ne same
          · intro row member
            rcases List.mem_append.mp member with old | new
            · obtain ⟨stored, known, encoded⟩ := consistent.logged row old
              exact ⟨stored, grows.own known, encoded⟩
            · obtain rfl := List.mem_singleton.mp new
              exact ⟨condition, by simp, written⟩
          · intro row member
            rcases List.mem_append.mp member with old | new
            · exact consistent.marks row old
            · obtain rfl := List.mem_singleton.mp new
              simp [AlertRow.watching]
          · exact consistent.under
          · exact fun call sweep here entry member =>
              grows.own (consistent.pending call sweep here entry member)
          · exact consistent.distinct
          · exact fun call sweep here fired member =>
              (consistent.firing call sweep here fired member).grow grows
          · exact consistent.once
          · exact consistent.ended
          · exact fun returned member => (consistent.genuine returned member).grow grows
          · intro serial gone
            obtain ⟨bound, absent⟩ := consistent.removed serial gone
            refine ⟨by rw [List.length_append]; exact Nat.lt_add_right _ bound,
              fun row member => ?_⟩
            rcases List.mem_append.mp member with old | new
            · exact absent row old
            · obtain rfl := List.mem_singleton.mp new
              exact bound.ne'
          · intro row member call marker
            rcases List.mem_append.mp member with old | new
            · exact consistent.handed row old call marker
            · obtain rfl := List.mem_singleton.mp new
              cases marker

/-- Cancelling keeps the invariant: it removes only rows that were not marked. -/
theorem Consistent.cancel (consistent : Consistent text state) (agent : String) (alertId : Int)
    (fails : Bool) : Consistent text (Alerts.cancel state agent alertId fails).2 := by
  unfold Alerts.cancel
  split
  · exact consistent
  · have kept : (state.rows.filter fun row => !row.cancelledBy agent alertId).Sublist state.rows :=
      List.filter_sublist
    have grows : Grows state { state with
        rows := state.rows.filter fun row => !row.cancelledBy agent alertId
        cancelled := state.cancelled ++
          (state.rows.filter (AlertRow.cancelledBy agent alertId)).map AlertRow.serial } := by
      refine ⟨List.prefix_refl _, fun row member call marker => ⟨row, ?_, rfl, marker⟩⟩
      -- an alert that was marked no longer watches, so it is not cancelled
      have marked : row.watching = false := by
        rw [← Bool.not_eq_true, consistent.marks row member, marker]
        exact Option.some_ne_none call
      exact List.mem_filter.mpr ⟨member, by simp [AlertRow.cancelledBy, marked]⟩
    constructor
    · exact consistent.ids.sublist (kept.map _)
    · exact consistent.serials.sublist (kept.map _)
    · exact fun row member => consistent.logged row (kept.subset member)
    · exact fun row member => consistent.marks row (kept.subset member)
    · exact consistent.under
    · exact consistent.pending
    · exact consistent.distinct
    · exact fun call sweep here fired member =>
        (consistent.firing call sweep here fired member).grow grows
    · exact consistent.once
    · exact consistent.ended
    · exact fun returned member => (consistent.genuine returned member).grow grows
    · intro serial gone
      rcases List.mem_append.mp gone with before | now
      · obtain ⟨bound, absent⟩ := consistent.removed serial before
        exact ⟨bound, fun row member => absent row (kept.subset member)⟩
      · obtain ⟨row, removed, rfl⟩ := List.mem_map.mp now
        obtain ⟨member, chosen⟩ := List.mem_filter.mp removed
        refine ⟨consistent.serial_lt member, fun other stays same => ?_⟩
        obtain ⟨inside, spared⟩ := List.mem_filter.mp stays
        rw [consistent.row_unique inside member same, chosen] at spared
        cases spared
    · exact fun row member => consistent.handed row (kept.subset member)

/-- What a sweep reads are alerts as they were armed. -/
theorem Consistent.armedRows (consistent : Consistent text state) {entry : Entry Decimal}
    (read : entry ∈ Alerts.armedRows text state.rows) :
    state.armed[entry.serial]? = some (entry.agent, entry.condition) := by
  obtain ⟨row, member, decoded⟩ := List.mem_filterMap.mp read
  obtain ⟨condition, known, written⟩ := consistent.logged row (List.mem_filter.mp member).1
  rw [text.decode_encode condition _ written] at decoded
  obtain rfl := Option.some.inj decoded
  exact known

omit [LinearOrder Decimal] in
/-- After an update a call under way is the updated one, or one of before. -/
theorem update_cases {calls : Nat → Option (Sweep Decimal)} {call other : Nat}
    {now : Option (Sweep Decimal)} {sweep : Sweep Decimal}
    (here : Function.update calls call now other = some sweep) :
    (other = call ∧ now = some sweep) ∨ (other ≠ call ∧ calls other = some sweep) := by
  by_cases same : other = call
  · rw [same, Function.update_self] at here
    exact .inl ⟨same, here⟩
  · rw [Function.update_of_ne same] at here
    exact .inr ⟨same, here⟩

/-- A sweep that begins has marked nothing, so the invariant stays. -/
theorem Consistent.begin (consistent : Consistent text state) (observation : Observation Decimal)
    (nowMs : Int) (fails : Bool) :
    Consistent text (Alerts.begin text state observation nowMs fails) := by
  unfold Alerts.begin
  split
  · exact consistent
  · have old : ∀ call, call < state.nextCall →
        Function.update state.calls state.nextCall
          (some ⟨observation, nowMs, Alerts.armedRows text state.rows, []⟩) call =
            state.calls call := fun call earlier =>
      Function.update_of_ne earlier.ne _ _
    constructor
    · exact consistent.ids
    · exact consistent.serials
    · exact consistent.logged
    · exact consistent.marks
    · intro call sweep here
      rcases update_cases here with ⟨rfl, -⟩ | ⟨-, before⟩
      · exact Nat.lt_succ_self _
      · exact Nat.lt_succ_of_lt (consistent.under call sweep before)
    · intro call sweep here entry member
      rcases update_cases here with ⟨-, new⟩ | ⟨-, before⟩
      · obtain rfl := Option.some.inj new
        exact consistent.armedRows member
      · exact consistent.pending call sweep before entry member
    · intro call sweep here
      rcases update_cases here with ⟨-, new⟩ | ⟨-, before⟩
      · obtain rfl := Option.some.inj new
        exact .nil
      · exact consistent.distinct call sweep before
    · intro call sweep here fired member
      rcases update_cases here with ⟨-, new⟩ | ⟨-, before⟩
      · obtain rfl := Option.some.inj new
        cases member
      · obtain ⟨own, satisfied, row⟩ := consistent.firing call sweep before fired member
        exact ⟨own, satisfied, row⟩
    · exact consistent.once
    · intro returned member
      obtain ⟨bound, gone⟩ := consistent.ended returned member
      exact ⟨Nat.lt_succ_of_lt bound, (old returned.call bound).trans gone⟩
    · intro returned member
      obtain ⟨own, satisfied, row⟩ := consistent.genuine returned member
      exact ⟨own, satisfied, row⟩
    · exact consistent.removed
    · intro row member call marker
      rcases consistent.handed row member call marker with handed | ⟨sweep, here, firing⟩
      · exact .inl handed
      · exact .inr ⟨sweep, (old call (consistent.under call sweep here)).trans here, firing⟩

/-- A sweep goes on past an entry. -/
theorem Consistent.pass (consistent : Consistent text state) {call : Nat} {sweep : Sweep Decimal}
    (under : state.calls call = some sweep) {entry : Entry Decimal} {rest : List (Entry Decimal)}
    (ahead : sweep.pending = entry :: rest) :
    Consistent text { state with
      calls := Function.update state.calls call (some { sweep with pending := rest }) } := by
  constructor
  · exact consistent.ids
  · exact consistent.serials
  · exact consistent.logged
  · exact consistent.marks
  · intro other sweep' here
    rcases update_cases here with ⟨rfl, -⟩ | ⟨-, before⟩
    · exact consistent.under other sweep under
    · exact consistent.under other sweep' before
  · intro other sweep' here later member
    rcases update_cases here with ⟨rfl, now⟩ | ⟨-, before⟩
    · obtain rfl := Option.some.inj now
      exact consistent.pending other sweep under later
        (by rw [ahead]; exact List.mem_cons_of_mem _ member)
    · exact consistent.pending other sweep' before later member
  · intro other sweep' here
    rcases update_cases here with ⟨rfl, now⟩ | ⟨-, before⟩
    · obtain rfl := Option.some.inj now
      exact consistent.distinct other sweep under
    · exact consistent.distinct other sweep' before
  · intro other sweep' here fired member
    rcases update_cases here with ⟨rfl, now⟩ | ⟨-, before⟩
    · obtain rfl := Option.some.inj now
      obtain ⟨own, satisfied, row⟩ := consistent.firing other sweep under fired member
      exact ⟨own, satisfied, row⟩
    · obtain ⟨own, satisfied, row⟩ := consistent.firing other sweep' before fired member
      exact ⟨own, satisfied, row⟩
  · exact consistent.once
  · intro returned member
    obtain ⟨bound, gone⟩ := consistent.ended returned member
    refine ⟨bound, ?_⟩
    have other : returned.call ≠ call := by
      rintro rfl
      rw [under] at gone
      cases gone
    exact (Function.update_of_ne other _ _).trans gone
  · intro returned member
    obtain ⟨own, satisfied, row⟩ := consistent.genuine returned member
    exact ⟨own, satisfied, row⟩
  · exact consistent.removed
  · intro row member other marker
    rcases consistent.handed row member other marker with handed | ⟨sweep', here, firing⟩
    · exact .inl handed
    · refine .inr ?_
      by_cases same : other = call
      · subst same
        obtain rfl := Option.some.inj (under.symm.trans here)
        exact ⟨{ sweep with pending := rest }, Function.update_self _ _ _, firing⟩
      · exact ⟨sweep', (Function.update_of_ne same _ _).trans here, firing⟩

/-- A sweep ends, with what it marked returned, or with an error and nothing marked. -/
theorem Consistent.finish (consistent : Consistent text state) {call : Nat}
    {sweep : Sweep Decimal} (under : state.calls call = some sweep) :
    Consistent text { state with
      calls := Function.update state.calls call none
      returned := state.returned ++ sweep.fired.map fun fired =>
        ⟨fired, call, sweep.observation⟩ } := by
  have others : ∀ returned ∈ state.returned, returned.call ≠ call := by
    rintro returned member rfl
    rw [(consistent.ended returned member).2] at under
    cases under
  have older : ∀ {other sweep'}, Function.update state.calls call none other = some sweep' →
      state.calls other = some sweep' := by
    intro other sweep' here
    rcases update_cases here with ⟨-, now⟩ | ⟨-, before⟩
    · cases now
    · exact before
  constructor
  · exact consistent.ids
  · exact consistent.serials
  · exact consistent.logged
  · exact consistent.marks
  · exact fun other sweep' here => consistent.under other sweep' (older here)
  · exact fun other sweep' here => consistent.pending other sweep' (older here)
  · exact fun other sweep' here => consistent.distinct other sweep' (older here)
  · intro other sweep' here fired member
    obtain ⟨own, satisfied, row⟩ := consistent.firing other sweep' (older here) fired member
    exact ⟨own, satisfied, row⟩
  · rw [List.map_append, List.map_map]
    refine consistent.once.append (consistent.distinct call sweep under) ?_
    -- a row is marked by one call, and this one has returned nothing before
    intro serial before now
    obtain ⟨returned, member, rfl⟩ := List.mem_map.mp before
    obtain ⟨fired, firing, same⟩ := List.mem_map.mp now
    obtain ⟨row, inside, eq, marker⟩ := (consistent.genuine returned member).row
    obtain ⟨row', inside', eq', marker'⟩ := (consistent.firing call sweep under fired firing).row
    obtain rfl := consistent.row_unique inside inside' (eq.trans (same.symm.trans eq'.symm))
    exact others returned member (Option.some.inj (marker.symm.trans marker'))
  · intro returned member
    rcases List.mem_append.mp member with before | now
    · obtain ⟨bound, gone⟩ := consistent.ended returned before
      exact ⟨bound, (Function.update_of_ne (others returned before) _ _).trans gone⟩
    · obtain ⟨fired, firing, rfl⟩ := List.mem_map.mp now
      exact ⟨consistent.under call sweep under, Function.update_self _ _ _⟩
  · intro returned member
    rcases List.mem_append.mp member with before | now
    · obtain ⟨own, satisfied, row⟩ := consistent.genuine returned before
      exact ⟨own, satisfied, row⟩
    · obtain ⟨fired, firing, rfl⟩ := List.mem_map.mp now
      obtain ⟨own, satisfied, row⟩ := consistent.firing call sweep under fired firing
      exact ⟨own, satisfied, row⟩
  · exact consistent.removed
  · intro row member other marker
    rcases consistent.handed row member other marker with
      ⟨returned, inside, handed⟩ | ⟨sweep', here, fired, firing, same⟩
    · exact .inl ⟨returned, List.mem_append_left _ inside, handed⟩
    · by_cases this : other = call
      · subst this
        obtain rfl := Option.some.inj (under.symm.trans here)
        exact .inl ⟨⟨fired, other, sweep.observation⟩,
          List.mem_append_right _ (List.mem_map_of_mem firing), same, rfl⟩
      · exact .inr ⟨sweep', (Function.update_of_ne this _ _).trans here, fired, firing, same⟩

@[simp] theorem AlertRow.mark_alertId (alertId nowMs : Int) (call : Nat) (row : AlertRow) :
    (row.mark alertId nowMs call).alertId = row.alertId := by
  unfold AlertRow.mark
  split <;> rfl

@[simp] theorem AlertRow.mark_serial (alertId nowMs : Int) (call : Nat) (row : AlertRow) :
    (row.mark alertId nowMs call).serial = row.serial := by
  unfold AlertRow.mark
  split <;> rfl

@[simp] theorem AlertRow.mark_agent (alertId nowMs : Int) (call : Nat) (row : AlertRow) :
    (row.mark alertId nowMs call).agent = row.agent := by
  unfold AlertRow.mark
  split <;> rfl

@[simp] theorem AlertRow.mark_condition (alertId nowMs : Int) (call : Nat) (row : AlertRow) :
    (row.mark alertId nowMs call).condition = row.condition := by
  unfold AlertRow.mark
  split <;> rfl

/-- A sweep marks the alert that it read and goes on. -/
theorem Consistent.mark (consistent : Consistent text state) {call : Nat} {sweep : Sweep Decimal}
    (under : state.calls call = some sweep) {entry : Entry Decimal} {rest : List (Entry Decimal)}
    (ahead : sweep.pending = entry :: rest) {matched : Matched Decimal}
    (found : sweep.observation.matched entry.condition = some matched)
    {row : AlertRow} (member : row ∈ state.rows) (named : row.alertId = entry.alertId)
    (watching : row.watching = true)
    (safe : ∀ row ∈ state.rows, row.alertId = entry.alertId → row.watching = true →
      row.serial = entry.serial) :
    Consistent text { state with
      rows := state.rows.map (AlertRow.mark entry.alertId sweep.nowMs call)
      calls := Function.update state.calls call (some { sweep with
        pending := rest
        fired := sweep.fired ++
          [⟨entry.alertId, entry.agent, entry.condition, matched, entry.serial⟩] }) } := by
  have known := consistent.pending call sweep under entry (by rw [ahead]; exact List.mem_cons_self)
  have marked : row.mark entry.alertId sweep.nowMs call =
      { row with firedAtMs := some sweep.nowMs, firedBy := some call } :=
    if_pos ⟨named, watching⟩
  have grows : Grows state { state with
      rows := state.rows.map (AlertRow.mark entry.alertId sweep.nowMs call)
      calls := Function.update state.calls call (some { sweep with
        pending := rest
        fired := sweep.fired ++
          [⟨entry.alertId, entry.agent, entry.condition, matched, entry.serial⟩] }) } := by
    refine ⟨List.prefix_refl _, fun other inside marker marked =>
      ⟨_, List.mem_map_of_mem inside, AlertRow.mark_serial _ _ _ _, ?_⟩⟩
    have idle : ¬ other.watching = true := by
      rw [consistent.marks other inside, marked]
      exact Option.some_ne_none marker
    rw [AlertRow.mark, if_neg fun both => idle both.2]
    exact marked
  constructor
  · rw [List.map_map]
    exact (List.map_congr_left fun other _ => AlertRow.mark_alertId _ _ _ other) ▸ consistent.ids
  · rw [List.map_map]
    exact (List.map_congr_left fun other _ => AlertRow.mark_serial _ _ _ other) ▸
      consistent.serials
  · intro other inside
    obtain ⟨before, here, rfl⟩ := List.mem_map.mp inside
    simpa using consistent.logged before here
  · intro other inside
    obtain ⟨before, here, rfl⟩ := List.mem_map.mp inside
    unfold AlertRow.mark
    split
    · simp [AlertRow.watching]
    · exact consistent.marks before here
  · intro other sweep' here
    rcases update_cases here with ⟨rfl, -⟩ | ⟨-, before⟩
    · exact consistent.under other sweep under
    · exact consistent.under other sweep' before
  · intro other sweep' here later inside
    rcases update_cases here with ⟨rfl, now⟩ | ⟨-, before⟩
    · obtain rfl := Option.some.inj now
      exact consistent.pending other sweep under later
        (by rw [ahead]; exact List.mem_cons_of_mem _ inside)
    · exact consistent.pending other sweep' before later inside
  · intro other sweep' here
    rcases update_cases here with ⟨rfl, now⟩ | ⟨-, before⟩
    · obtain rfl := Option.some.inj now
      rw [List.map_append, List.map_singleton, ← List.concat_eq_append]
      refine (consistent.distinct other sweep under).concat fun taken => ?_
      -- what the sweep marked before no longer watches
      obtain ⟨fired, firing, same⟩ := List.mem_map.mp taken
      obtain ⟨row', inside, eq, marker⟩ := (consistent.firing other sweep under fired firing).row
      obtain rfl := consistent.row_unique member inside
        ((safe row member named watching).trans (same.symm.trans eq.symm))
      rw [consistent.marks row member, marker] at watching
      cases watching
    · exact consistent.distinct other sweep' before
  · intro other sweep' here fired firing
    rcases update_cases here with ⟨rfl, now⟩ | ⟨-, before⟩
    · obtain rfl := Option.some.inj now
      rcases List.mem_append.mp firing with earlier | new
      · exact (consistent.firing other sweep under fired earlier).grow grows
      · obtain rfl := List.mem_singleton.mp new
        refine ⟨known, Condition.satisfied_of_matched found, _, List.mem_map_of_mem member, ?_, ?_⟩
        · rw [AlertRow.mark_serial]
          exact safe row member named watching
        · rw [marked]
    · exact (consistent.firing other sweep' before fired firing).grow grows
  · exact consistent.once
  · intro returned inside
    obtain ⟨bound, gone⟩ := consistent.ended returned inside
    refine ⟨bound, ?_⟩
    have other : returned.call ≠ call := by
      rintro rfl
      rw [under] at gone
      cases gone
    exact (Function.update_of_ne other _ _).trans gone
  · exact fun returned inside => (consistent.genuine returned inside).grow grows
  · intro serial gone
    obtain ⟨bound, absent⟩ := consistent.removed serial gone
    refine ⟨bound, fun other inside => ?_⟩
    obtain ⟨before, here, rfl⟩ := List.mem_map.mp inside
    rw [AlertRow.mark_serial]
    exact absent before here
  · intro other inside marker marked
    obtain ⟨before, here, rfl⟩ := List.mem_map.mp inside
    rw [AlertRow.mark_serial]
    by_cases target : before.alertId = entry.alertId ∧ before.watching = true
    · rw [AlertRow.mark, if_pos target] at marked
      obtain rfl := Option.some.inj marked
      exact .inr ⟨_, Function.update_self _ _ _, _,
        List.mem_append_right _ (List.mem_singleton_self _),
        (safe before here target.1 target.2).symm⟩
    · rw [AlertRow.mark, if_neg target] at marked
      rcases consistent.handed before here marker marked with
        handed | ⟨sweep', now, fired, firing, same⟩
      · exact .inl handed
      · refine .inr ?_
        by_cases this : marker = call
        · subst this
          obtain rfl := Option.some.inj (under.symm.trans now)
          exact ⟨_, Function.update_self _ _ _, fired, List.mem_append_left _ firing, same⟩
        · exact ⟨sweep', (Function.update_of_ne this _ _).trans now, fired, firing, same⟩

/-- The next statement of a sweep keeps the invariant as long as it is safe. Only a marking changes
a row. -/
theorem Consistent.next (consistent : Consistent text state) {call : Nat} {fails : Bool}
    (safe : (Statement.next call fails).Safe state) :
    Consistent text (Alerts.next state call fails) := by
  unfold Alerts.next
  split
  · exact consistent
  · rename_i sweep under
    split
    · exact consistent.finish under
    · rename_i entry rest ahead
      split
      · exact consistent.pass under ahead
      · rename_i matched found
        have kept := safe sweep entry rest under ahead (by rw [found]; exact Option.some_ne_none _)
        split
        · rename_i failing
          rw [if_pos failing] at kept
          have ended := consistent.finish under
          rw [kept, List.map_nil, List.append_nil] at ended
          exact ended
        · rename_i working
          rw [if_neg working] at kept
          split
          · rename_i nonempty
            obtain ⟨row, member, here⟩ := List.any_eq_true.mp nonempty
            rw [Bool.and_eq_true, decide_eq_true_iff] at here
            exact consistent.mark under ahead found member here.1 here.2 kept
          · exact consistent.pass under ahead

/-- Every safe statement keeps the invariant. -/
theorem Consistent.perform [Zero Decimal] (consistent : Consistent text state)
    {statement : Statement Decimal} (safe : statement.Safe state) :
    Consistent text (state.perform text statement) := by
  cases statement with
  | arm agent condition nowMs fails => exact consistent.arm agent condition nowMs fails
  | cancel agent alertId fails => exact consistent.cancel agent alertId fails
  | begin observation nowMs fails => exact consistent.begin observation nowMs fails
  | next call fails => exact consistent.next safe

/-! ## What breaks it -/

/-- The alerts that a failing sweep had marked are not returned any more. -/
theorem Consistent.dropped (consistent : Consistent text state) {call : Nat}
    {sweep : Sweep Decimal} (under : state.calls call = some sweep) (nonempty : sweep.fired ≠ []) :
    ¬ OneToOne { state with calls := Function.update state.calls call none } := by
  intro promised
  obtain ⟨fired, firing⟩ := List.exists_mem_of_ne_nil _ nonempty
  obtain ⟨row, member, -, marker⟩ := (consistent.firing call sweep under fired firing).row
  have marked : row.watching = false := by
    rw [← Bool.not_eq_true, consistent.marks row member, marker]
    exact Option.some_ne_none call
  obtain ⟨other, this, handed⟩ := promised.handed row member marked
  obtain rfl := Option.some.inj (marker.symm.trans this)
  rcases handed with ⟨returned, inside, -, rfl⟩ | ⟨sweep', now, -⟩
  · rw [(consistent.ended returned inside).2] at under
    cases under
  · cases (Function.update_self _ _ _).symm.trans now

/-- An alert that was marked for another is not the one that is returned. -/
theorem Consistent.mistaken (consistent : Consistent text state) {call : Nat}
    {sweep : Sweep Decimal} (under : state.calls call = some sweep) {entry : Entry Decimal}
    {rest : List (Entry Decimal)} {matched : Matched Decimal} {row : AlertRow}
    (member : row ∈ state.rows) (named : row.alertId = entry.alertId)
    (watching : row.watching = true) (other : row.serial ≠ entry.serial) :
    ¬ OneToOne { state with
      rows := state.rows.map (AlertRow.mark entry.alertId sweep.nowMs call)
      calls := Function.update state.calls call (some { sweep with
        pending := rest
        fired := sweep.fired ++
          [⟨entry.alertId, entry.agent, entry.condition, matched, entry.serial⟩] }) } := by
  intro promised
  have marked : row.mark entry.alertId sweep.nowMs call =
      { row with firedAtMs := some sweep.nowMs, firedBy := some call } :=
    if_pos ⟨named, watching⟩
  obtain ⟨marker, this, handed⟩ := promised.handed _ (List.mem_map_of_mem member)
    (by rw [marked]; rfl)
  rw [marked] at this
  obtain rfl := Option.some.inj this
  rw [AlertRow.mark_serial] at handed
  rcases handed with ⟨returned, inside, -, rfl⟩ | ⟨sweep', now, fired, firing, same⟩
  · rw [(consistent.ended returned inside).2] at under
    cases under
  · have now : some _ = some sweep' := (Function.update_self call _ state.calls).symm.trans now
    obtain rfl := Option.some.inj now
    rcases List.mem_append.mp firing with earlier | new
    · obtain ⟨row', inside, eq, marker⟩ := (consistent.firing call sweep under fired earlier).row
      obtain rfl := consistent.row_unique member inside (same.symm.trans eq.symm)
      rw [consistent.marks row member, marker] at watching
      cases watching
    · obtain rfl := List.mem_singleton.mp new
      exact other same.symm

/-- A statement that leaves the alerts one to one was safe. The two ways to be unsafe break the
promise at once. -/
theorem Consistent.safe_of_oneToOne [Zero Decimal] (consistent : Consistent text state)
    {statement : Statement Decimal} (promised : OneToOne (state.perform text statement)) :
    statement.Safe state := by
  cases statement with
  | arm | cancel | begin => trivial
  | next call fails =>
      intro sweep entry rest under ahead found
      obtain ⟨matched, found⟩ := Option.ne_none_iff_exists'.mp found
      simp only [State.perform, Alerts.next, under, ahead, found] at promised
      cases fails with
      | true =>
          by_contra nonempty
          exact consistent.dropped under nonempty promised
      | false =>
          intro row member named watching
          by_contra other
          have here : (state.rows.any fun row =>
              row.alertId = entry.alertId && row.watching) = true :=
            List.any_eq_true.mpr ⟨row, member, by simp [named, watching]⟩
          rw [if_neg Bool.false_ne_true, if_pos here] at promised
          exact consistent.mistaken under member named watching other promised

end Invariant

/-! ## Over all runs -/

section Runs

variable [Zero Decimal] {text : ConditionText Decimal}

/-- A run with one more statement performs that statement last. -/
theorem State.after_concat (statements : List (Statement Decimal)) (last : Statement Decimal) :
    State.after text (statements ++ [last]) = (State.after text statements).perform text last := by
  rw [State.after, List.foldl_append]
  rfl

/-- A run of safe statements ends in a consistent store. -/
theorem consistent_after {statements : List (Statement Decimal)}
    (safe : ∀ earlier statement, earlier ++ [statement] <+: statements →
      statement.Safe (State.after text earlier)) :
    Consistent text (State.after text statements) := by
  induction statements using List.reverseRecOn with
  | nil => exact consistent_new text
  | append_singleton statements last before =>
      rw [State.after_concat]
      apply Consistent.perform
      · exact before fun earlier statement within =>
          safe earlier statement (within.trans (List.prefix_append _ _))
      · exact safe statements last (List.prefix_refl _)

/-- The statements of a run are met one after another. -/
theorem safe_of_take {statements : List (Statement Decimal)}
    (safe : ∀ count < statements.length, ∀ statement ∈ statements[count]?,
      statement.Safe (State.after text (statements.take count)))
    (earlier : List (Statement Decimal)) (statement : Statement Decimal)
    (within : earlier ++ [statement] <+: statements) :
    statement.Safe (State.after text earlier) := by
  obtain ⟨later, rfl⟩ := within
  have met := safe earlier.length (by simp) statement (by simp)
  rwa [List.append_assoc, List.take_left] at met

end Runs

/-- For every sequence of statements of any calls, any of which may fail, the alerts returned and
the alerts marked are one to one at every time if and only if no marking fails after its sweep
marked another alert, and none marks an alert that its sweep has not read. -/
theorem oneToOne_iff [Zero Decimal] (text : ConditionText Decimal)
    (statements : List (Statement Decimal)) :
    (∀ earlier, earlier <+: statements → OneToOne (State.after text earlier)) ↔
      ∀ earlier statement, earlier ++ [statement] <+: statements →
        statement.Safe (State.after text earlier) := by
  constructor
  · intro promised
    induction statements using List.reverseRecOn with
    | nil =>
        intro earlier statement within
        exact absurd (List.prefix_nil.mp within) (by simp)
    | append_singleton statements last before =>
        have safe := before fun earlier within =>
          promised earlier (within.trans (List.prefix_append _ _))
        intro earlier statement within
        rcases List.prefix_concat_iff.mp within with whole | inside
        · obtain ⟨rfl, rfl⟩ : earlier = statements ∧ statement = last := by
            simpa using whole
          have kept := promised _ (List.prefix_refl _)
          rw [State.after_concat] at kept
          exact (consistent_after safe).safe_of_oneToOne kept
        · exact safe earlier statement inside
  · intro safe earlier within
    exact (consistent_after fun before statement inside =>
      safe before statement (inside.trans within)).oneToOne

namespace WakeupSample

def above : Condition Int := .priceCross "BTC" .above 60000

def encoded : String :=
  "\x7b\"type\":\"price_cross\",\"symbol\":\"BTC\",\"direction\":\"above\",\"px\":\"60000\"\x7d"

/-- The encoding of the one condition that is armed here. -/
def text : ConditionText Int where
  encode condition := if condition = above then some encoded else none
  decode stored := if stored = encoded then some above else none
  decode_encode := by
    intro condition stored written
    split at written
    · rename_i same
      rw [← Option.some.inj written, if_pos rfl, same]
    · cases written

/-- Two agents watch the same level. The mark reaches it, and the statement that would mark the
second alert fails. -/
def statements : List (Statement Int) :=
  [.arm "maker" above 1 false, .arm "taker" above 2 false,
    .begin (.tick ⟨"BTC", some 60001, 0⟩) 3 false, .next 0 false, .next 0 true]

/-- The first alert is marked, and nothing returns it. -/
theorem fired_alert_lost : ¬ ∀ statements, OneToOne (State.after text statements) := by
  intro promised
  have lost := (promised statements).handed ⟨1, "maker", encoded, 1, some 3, 0, some 0⟩
    (by decide +kernel) rfl
  obtain ⟨call, marker, ⟨returned, member, -⟩ | ⟨sweep, under, -⟩⟩ := lost
  · rw [show (State.after text statements).returned = [] by rfl] at member
    cases member
  · obtain rfl : 0 = call := Option.some.inj marker
    rw [show (State.after text statements).calls 0 = none by rfl] at under
    cases under

/-- The same sweep when nothing fails: it marks both alerts and returns them at its end. -/
def swept : List (Statement Int) :=
  [.arm "maker" above 1 false, .arm "taker" above 2 false,
    .begin (.tick ⟨"BTC", some 60001, 0⟩) 3 false, .next 0 false, .next 0 false, .next 0 false]

/-- Both alerts are returned by the sweep that marked them, each once. -/
theorem both_alerts_returned :
    (∀ earlier, earlier <+: swept → OneToOne (State.after text earlier)) ∧
      (State.after text swept).returned.map (fun returned => (returned.agent, returned.call)) =
        [("maker", 0), ("taker", 0)] :=
  ⟨(oneToOne_iff text swept).mpr (safe_of_take (by decide +kernel)), by decide +kernel⟩

end WakeupSample

end Oppen.Alerts
