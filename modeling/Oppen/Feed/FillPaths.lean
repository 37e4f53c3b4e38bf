import Oppen.Feed.Session
import Oppen.Ledger.FillRows
import Oppen.Reconcile.Attribution

/-! # The two paths of a fill

A fill reaches the ledger through the live feed or through a walk, and whichever offers it
first decides what its row says from then on.
-/

namespace Oppen.Feed

open Foundation Oppen.Json Oppen.Ledger Oppen.Reconcile

/-- What a fill's record is read for: who traded, why, at what cost, and what the venue
said. -/
def recordFields : List String :=
  ["attribution", "agent_id", "intent_seq", "intent_hash", "arrival_mid", "slip_bps", "account",
    "builder_fee", "cloid", "closed_pnl", "coin", "crossed", "dir", "fee", "fee_token", "hash",
    "oid", "px", "side", "start_position", "sz", "tid", "ts_ms", "venue_hash"]

/-- Two rows say the same about a fill. -/
structure SameRecord (first second : Row) : Prop where
  agentId : first.agentId = second.agentId
  fields : ∀ payload payload', first.Carries payload → second.Carries payload' →
    ∀ field ∈ recordFields, (sortedValue payload).get field = (sortedValue payload').get field

theorem SameRecord.refl (row : Row) : SameRecord row row where
  agentId := rfl
  fields payload payload' carries carries' field _ := by rw [carries.sorted carries']

/-- Members set on an object leave every other member. -/
theorem get_setMembers {field : String} : ∀ (members : List (String × Value)) (payload : Value),
    payload.isObject = true → (∀ member ∈ members, member.1 ≠ field) →
    (members.foldl (fun held member => held.set member.1 member.2) payload).isObject = true ∧
      (members.foldl (fun held member => held.set member.1 member.2) payload).get field =
        payload.get field
  | [], _, isObject, _ => ⟨isObject, rfl⟩
  | member :: rest, .object fields, _, other => by
      obtain ⟨isObject, same⟩ := get_setMembers rest (.object (fields.insert member.1 member.2)) rfl
        fun held inside => other held (List.mem_cons_of_mem _ inside)
      refine ⟨isObject, same.trans ?_⟩
      refine (Fields.lookup_insert member.1 field member.2 fields).trans ?_
      exact if_neg (other member List.mem_cons_self)

/-- What explains a fill adds its agent, its intent and its cost, or its action. -/
theorem attributionMembers_names {dec : Quotients} (fill : Fill dec)
    (attribution : Attribution dec) : ∀ member ∈ attributionMembers fill attribution,
    member.1 ∈ ["agent_id", "intent_seq", "intent_hash", "arrival_mid", "slip_bps",
      "action_seq"] := by
  intro member inside
  cases attribution with
  | attributed agentId intentSeq intentHash arrivalMid =>
      rw [attributionMembers] at inside
      cases arrivalMid with
      | none =>
          simp only [Option.bind_eq_bind, Option.bind_none, Option.getD_none, List.append_nil,
            List.mem_cons, List.not_mem_nil, or_false] at inside
          rcases inside with rfl | rfl | rfl <;> simp
      | some mid =>
          cases scored : slipBps dec fill.side.isBuy fill.px mid with
          | none =>
              simp only [Option.bind_eq_bind, Option.bind_some, scored, Option.bind_none,
                Option.getD_none, List.append_nil, List.mem_cons, List.not_mem_nil,
                or_false] at inside
              rcases inside with rfl | rfl | rfl <;> simp
          | some slip =>
              simp only [Option.bind_eq_bind, Option.bind_some, scored, pure, Option.getD_some,
                List.cons_append, List.nil_append, List.mem_cons, List.not_mem_nil,
                or_false] at inside
              rcases inside with rfl | rfl | rfl | rfl | rfl <;> simp
  | manual actionSeq =>
      obtain rfl := List.mem_singleton.mp inside
      simp
  | external => cases inside

/-- What a walk records says what explains the fill, whatever explains it. -/
theorem attribution_fillPayload {dec : Quotients} (account : Address) (fill : Fill dec)
    (attribution : Attribution dec) (recoveredFrom : Option RecoveredWindow) :
    (fillPayload account fill attribution recoveredFrom).isObject = true ∧
      (fillPayload account fill attribution recoveredFrom).get "attribution" =
        some (.string attribution.asStr) := by
  have other : ∀ member ∈ attributionMembers fill attribution, member.1 ≠ "attribution" := by
    intro member inside same
    have named := attributionMembers_names fill attribution member inside
    rw [same] at named
    revert named
    decide
  exact get_setMembers _ (.ofFields (fillMembers account fill attribution recoveredFrom)) rfl other

/-- The rows of the two paths never say the same. -/
theorem not_sameRecord {dec : Quotients} {account : Address} {live fetched : Fill dec}
    {attribution : Attribution dec} {recoveredFrom : Option RecoveredWindow} {first second : Row}
    (arrived : RecordedAs (liveFill account.display live) first)
    (walked : RecordedAs (recoveredFill account fetched attribution recoveredFrom) second) :
    ¬ SameRecord first second := by
  obtain ⟨isObject, explained⟩ := attribution_fillPayload account fetched attribution recoveredFrom
  obtain ⟨payload, carries, same⟩ := arrived.get rfl
  obtain ⟨payload', carries', same'⟩ := walked.get isObject
  intro agree
  have fields := agree.fields payload payload' carries carries' "attribution" (by decide)
  rw [get_sortedValue, get_sortedValue, same "attribution" (by decide),
    same' "attribution" (by decide)] at fields
  rw [show (liveFill account.display live).payload.get "attribution" = none from rfl,
    show (recoveredFill account fetched attribution recoveredFrom).payload.get "attribution" =
      some (.string attribution.asStr) from explained] at fields
  cases fields

section Paths

variable (lib : Libraries) (dec : Quotients) (VenueError : Type) (handle : Handle)

/-- The file after the live feed delivered fills. -/
def afterLive (publish : Nat → Bool) (session : FeedSession) (named : String) (account : Address)
    (isSnapshot : Bool) (fills : List (Fill dec)) (nowMs : Nat) (store : Store) : Store :=
  (apply lib dec handle publish named (.userFills account isSnapshot fills) nowMs session store).2.2

/-- The file after a walk recovered fills. -/
def afterWalk (publish : Nat → Bool) (account : Address) (fills : List (Fill dec))
    (recoveredFrom : Option RecoveredWindow) (store : Store) : Store :=
  (applyFills lib dec VenueError handle publish account fills recoveredFrom store).2

end Paths

section Arrivals

variable {lib : Libraries} {dec : Quotients} {handle : Handle} {store : Store} {behind : Nat}

/-- The live feed adds rows of the fills it delivers. -/
theorem afterLive_grows (tracks : Tracks lib handle behind store) (publish : Nat → Bool)
    (session : FeedSession) (named : String) (account : Address) (isSnapshot : Bool)
    (fills : List (Fill dec)) (nowMs : Nat) :
    (∃ behind', Tracks lib handle behind' (afterLive lib dec handle publish session named account
      isSnapshot fills nowMs store)) ∧
    ∃ added, (afterLive lib dec handle publish session named account isSnapshot fills nowMs
        store).db.events = store.db.events ++ added ∧
      ∀ row ∈ added, ∀ tid, row.idemKey = some (fillIdemKey account.display tid) →
        ∃ fill ∈ fills, RecordedAs (liveFill account.display fill) row := by
  obtain ⟨requests, run, leads⟩ := apply_run publish named
    (.userFills account isSnapshot fills) nowMs session store
  have keeps : ∀ request ∈ requests, request.call.redacts = false := by
    intro request member
    have lead := leads request member
    generalize request.call = call at lead
    cases lead
    rfl
  obtain ⟨added, same, wrote⟩ := tracks.run_grows run keeps
  refine ⟨(tracks.run run).1, added, same, fun row member tid keyed => ?_⟩
  obtain ⟨request, inside, fill, call, _, _, recorded⟩ := wrote.recorded member keyed
  have lead := leads request inside
  rw [call] at lead
  cases lead with
  | recorded carried => exact ⟨_, carried, recorded⟩

/-- A walk adds rows of the fills it recovers. -/
theorem afterWalk_grows (VenueError : Type) (tracks : Tracks lib handle behind store)
    (publish : Nat → Bool) (account : Address) (fills : List (Fill dec))
    (recoveredFrom : Option RecoveredWindow) :
    (∃ behind', Tracks lib handle behind' (afterWalk lib dec VenueError handle publish account
      fills recoveredFrom store)) ∧
    ∃ added, (afterWalk lib dec VenueError handle publish account fills recoveredFrom
        store).db.events = store.db.events ++ added ∧
      ∀ row ∈ added, ∀ tid, row.idemKey = some (fillIdemKey account.display tid) →
        ∃ fill ∈ fills, ∃ attribution,
          RecordedAs (recoveredFill account fill attribution recoveredFrom) row := by
  obtain ⟨requests, run, offers⟩ := @applyFills_run lib dec handle account recoveredFrom VenueError
    publish fills store
  have keeps : ∀ request ∈ requests, request.call.redacts = false := by
    intro request member
    obtain ⟨_, _, _, call⟩ := offers request member
    rw [call]
    rfl
  obtain ⟨added, same, wrote⟩ := tracks.run_grows run keeps
  refine ⟨(tracks.run run).1, added, same, fun row member tid keyed => ?_⟩
  obtain ⟨request, inside, fill, call, _, _, recorded⟩ := wrote.recorded member keyed
  obtain ⟨fetched, carried, attribution, call'⟩ := offers request inside
  rw [call] at call'
  cases call'
  exact ⟨fetched, carried, attribution, recorded⟩

end Arrivals

/-- **Two paths, one row, two records.** On every chain, for either order of arrival: the row the
first path leaves stays, and the rows the two paths leave first say the same exactly when the fill
was recorded before either of them offered it. The two writers fill different columns, and a ledger
that has the row from one of them never takes the other's. -/
theorem recorded_alike_iff {lib : Libraries} {dec : Quotients} {VenueError : Type}
    {handle : Handle} {requests : List (Request dec.toDecimals)} {store : Store}
    (reached : Run (Step lib dec.toDecimals handle) (opened lib handle) requests store)
    (publish publishWalk publishLater publishLast : Nat → Bool) (session : FeedSession)
    (named : String) (account : Address) (isSnapshot : Bool) (nowMs : Nat)
    (live fetched : List (Fill dec)) (recoveredFrom : Option RecoveredWindow) (tid : UInt64)
    {first second : Row}
    (arrived : (afterLive lib dec handle publish session named account isSnapshot live nowMs
      store).db.rowKeyed (fillIdemKey account.display tid) = some first)
    (walked : (afterWalk lib dec VenueError handle publishWalk account fetched recoveredFrom
      store).db.rowKeyed (fillIdemKey account.display tid) = some second) :
    (afterWalk lib dec VenueError handle publishLater account fetched recoveredFrom
        (afterLive lib dec handle publish session named account isSnapshot live nowMs
          store)).db.rowKeyed (fillIdemKey account.display tid) = some first ∧
      (afterLive lib dec handle publishLast session named account isSnapshot live nowMs
        (afterWalk lib dec VenueError handle publishWalk account fetched recoveredFrom
          store)).db.rowKeyed (fillIdemKey account.display tid) = some second ∧
      (SameRecord first second ↔
        ∃ row, store.db.rowKeyed (fillIdemKey account.display tid) = some row) := by
  obtain ⟨behind, tracks⟩ := run_tracks reached
  obtain ⟨⟨_, tracksLive⟩, _, grown, wrote⟩ :=
    afterLive_grows tracks publish session named account isSnapshot live nowMs
  obtain ⟨⟨_, tracksWalk⟩, _, grown', wrote'⟩ :=
    afterWalk_grows VenueError tracks publishWalk account fetched recoveredFrom
  obtain ⟨_, _, later, _⟩ :=
    afterWalk_grows VenueError tracksLive publishLater account fetched recoveredFrom
  obtain ⟨_, _, later', _⟩ :=
    afterLive_grows tracksWalk publishLast session named account isSnapshot live nowMs
  refine ⟨Db.rowKeyed_of_grown later arrived, Db.rowKeyed_of_grown later' walked, ?_, ?_⟩
  · intro same
    cases absent : store.db.rowKeyed (fillIdemKey account.display tid) with
    | some row => exact ⟨row, rfl⟩
    | none =>
        obtain ⟨added, keyed⟩ := Db.rowKeyed_added grown absent arrived
        obtain ⟨added', keyed'⟩ := Db.rowKeyed_added grown' absent walked
        obtain ⟨fill, _, recorded⟩ := wrote first added tid keyed
        obtain ⟨fill', _, attribution, recorded'⟩ := wrote' second added' tid keyed'
        exact absurd same (not_sameRecord recorded recorded')
  · rintro ⟨row, found⟩
    obtain rfl := Option.some.inj ((Db.rowKeyed_of_grown grown found).symm.trans arrived)
    obtain rfl := Option.some.inj ((Db.rowKeyed_of_grown grown' found).symm.trans walked)
    exact .refl _

namespace ExternalFill

/-- The compact reader, the checksum and exact decimals in place of the real libraries. -/
def lib : Libraries := .reference checksum

def handle : Handle := ⟨.testnet, false⟩

def account : Address := .filled 0

/-- A fill no order of this ledger explains. -/
def fill : Fill Quotients.reference where
  coin := "BTC"
  px := ⟨100, 0⟩
  sz := ⟨1, 0⟩
  side := .buy
  time := 7
  startPosition := ⟨0, 0⟩
  dir := "Open Long"
  closedPnl := ⟨0, 0⟩
  hash := "0x00"
  oid := 1
  crossed := true
  fee := ⟨0, 0⟩
  feeToken := "USDC"
  builderFee := none
  tid := 5
  cloid := none

/-- The fill that arrives live is recorded. -/
theorem live_recorded : ((afterLive lib Quotients.reference handle (fun _ => true) .new "" account
    false [fill] 9 (opened lib handle)).db.rowKeyed
      (fillIdemKey account.display 5)).isSome = true := by
  decide +kernel

/-- The fill that a walk recovers is recorded. -/
theorem walk_recorded : ((afterWalk lib Quotients.reference Empty handle (fun _ => true) account
    [fill] none (opened lib handle)).db.rowKeyed
      (fillIdemKey account.display 5)).isSome = true := by
  decide +kernel

/-- The fill's row differs with the path that offered it first. -/
theorem rows_differ : ∃ first second,
    (afterLive lib Quotients.reference handle (fun _ => true) .new "" account false [fill] 9
      (opened lib handle)).db.rowKeyed (fillIdemKey account.display 5) = some first ∧
    (afterWalk lib Quotients.reference Empty handle (fun _ => true) account [fill] none
      (opened lib handle)).db.rowKeyed (fillIdemKey account.display 5) = some second ∧
    (SameRecord first second ↔
      ∃ row, (opened lib handle).db.rowKeyed (fillIdemKey account.display 5) = some row) := by
  obtain ⟨first, arrived⟩ := Option.isSome_iff_exists.mp live_recorded
  obtain ⟨second, walked⟩ := Option.isSome_iff_exists.mp walk_recorded
  exact ⟨first, second, arrived, walked, (recorded_alike_iff .nil _ _ (fun _ => true)
    (fun _ => true) _ _ _ _ _ _ _ _ _ arrived walked).2.2⟩

/-- A fill delivered live and the same fill recovered by a walk leave different records. -/
theorem not_alike :
    ¬ ∀ (requests : List (Request Quotients.reference.toDecimals)) (store : Store),
      Run (Step lib Quotients.reference.toDecimals handle) (opened lib handle) requests store →
      ∀ (fill : Fill Quotients.reference) (first second : Row),
        (afterLive lib Quotients.reference handle (fun _ => true) .new "" account false [fill] 9
          store).db.rowKeyed (fillIdemKey account.display fill.tid) = some first →
        (afterWalk lib Quotients.reference Empty handle (fun _ => true) account [fill] none
          store).db.rowKeyed (fillIdemKey account.display fill.tid) = some second →
        SameRecord first second := by
  intro alike
  have tracks : Tracks lib handle 0 (opened lib handle) := opened_tracks
  obtain ⟨first, arrived⟩ := Option.isSome_iff_exists.mp live_recorded
  obtain ⟨second, walked⟩ := Option.isSome_iff_exists.mp walk_recorded
  obtain ⟨_, _, grown, wrote⟩ :=
    afterLive_grows tracks (fun _ => true) .new "" account false [fill] 9
  obtain ⟨_, _, grown', wrote'⟩ := afterWalk_grows Empty tracks (fun _ => true) account [fill] none
  obtain ⟨added, keyed⟩ := Db.rowKeyed_added grown rfl arrived
  obtain ⟨added', keyed'⟩ := Db.rowKeyed_added grown' rfl walked
  obtain ⟨_, _, recorded⟩ := wrote first added 5 keyed
  obtain ⟨_, _, _, recorded'⟩ := wrote' second added' 5 keyed'
  exact not_sameRecord recorded recorded' (alike [] _ .nil fill first second arrived walked)

end ExternalFill

end Oppen.Feed
