import Oppen.Ledger.FillKeys

/-! # The rows fills become

What a run without redactions adds to the chain, and what the row of a recorded fill
holds: the payload that was offered, with the stop it caused if it caused one.
-/

namespace Oppen.Ledger

open Foundation Oppen.Json

/-- The payload column holds the canonical text of the value. -/
def Row.Carries (row : Row) (payload : Value) : Prop :=
  ∃ text, canonicalJson payload = .ok text ∧ row.payload = .text text

/-- A row carries one value, up to the order of its members. -/
theorem Row.Carries.sorted {row : Row} {first second : Value} (carries : row.Carries first)
    (carries' : row.Carries second) : sortedValue first = sortedValue second := by
  obtain ⟨text, written, same⟩ := carries
  obtain ⟨text', written', same'⟩ := carries'
  obtain rfl := SqlValue.text.inj (same.symm.trans same')
  exact canonicalJson_injective written written'

/-- The row of an event, under a key. -/
structure HoldsEvent (event : NewEvent) (idemKey : Option String) (row : Row) : Prop where
  kind : row.kind = event.kind.asStr
  keyed : row.idemKey = idemKey
  tsMs : row.tsMs = event.tsMs
  agentId : row.agentId = event.agentId
  carries : row.Carries event.payload

/-- The row a fill was recorded as. -/
structure RecordedAs (fill : NewFill) (row : Row) : Prop where
  isFill : IsFillOf fill.account fill.tid row
  tsMs : row.tsMs = fill.tsMs
  agentId : row.agentId = fill.agentId
  carries : ∃ payload, (payload = fill.payload ∨
    ∃ embedded, payload = stoppedPayload fill.payload embedded) ∧ row.Carries payload

/-- A stop adds one member to a payload that has members. -/
theorem get_stoppedPayload {payload embedded : Value} {field : String}
    (isObject : payload.isObject = true) (other : field ≠ "pilot_stop") :
    (stoppedPayload payload embedded).get field = payload.get field := by
  rw [stoppedPayload, if_pos isObject]
  cases payload with
  | object fields =>
      exact (Fields.lookup_insert "pilot_stop" field embedded fields).trans (if_neg other.symm)
  | _ => cases isObject

/-- Every other member of the row is the one offered. -/
theorem RecordedAs.get {fill : NewFill} {row : Row} (recorded : RecordedAs fill row)
    (isObject : fill.payload.isObject = true) : ∃ payload, row.Carries payload ∧
      ∀ field, field ≠ "pilot_stop" → payload.get field = fill.payload.get field := by
  obtain ⟨payload, carried, carries⟩ := recorded.carries
  refine ⟨payload, carries, fun field other => ?_⟩
  rcases carried with rfl | ⟨embedded, rfl⟩
  · rfl
  · exact get_stoppedPayload isObject other

/-- The calls that null a payload. -/
def Call.redacts {dec : Decimals} : Call dec → Bool
  | .redact .. => true
  | _ => false

section Runs

variable {lib : Libraries} {dec : Decimals} {handle : Handle} {store after : Store}

/-- Only a redaction writes the row of one. -/
theorem Writes.notRedaction {call : Call dec} {event : NewEvent} {idemKey : Option String}
    (written : Writes dec call event idemKey) (keeps : call.redacts = false) :
    event.kind ≠ .payloadRedacted := by
  have generic {tsMs : Int64} (generic : Generic tsMs event idemKey) :
      event.kind ≠ .payloadRedacted := by
    rcases generic.kind with door | intent
    · exact notRedaction_of_door door
    · rw [intent]
      exact nofun
  cases written with
  | append written | recordIntent written | recordOutcome written | openGap written
  | closeGap written => exact generic written
  | fill | halt | started | resolved => exact nofun
  | redact => cases keeps
  | journal other =>
      intro redaction
      rw [redaction] at other
      cases other

/-- A change that is no redaction adds the row of its event and leaves the others. -/
theorem Change.added {genesis : String} {db changed : Db} {event : NewEvent}
    {idemKey : Option String} {appended : Appended}
    (change : Change lib genesis db event idemKey appended changed)
    (keeps : event.kind ≠ .payloadRedacted) :
    ∃ row, changed.events = db.events ++ [row] ∧ HoldsEvent event idemKey row := by
  obtain ⟨base, canonical, prepared, written, same⟩ := change.events
  cases prepared with
  | plain => exact ⟨_, same, rfl, rfl, rfl, rfl, canonical, written, rfl⟩
  | tombstone _ _ _ _ explains =>
      rw [explains] at keeps
      exact absurd rfl keeps

/-- The rows a run added, each with the call that wrote it. -/
def AddedBy (requests : List (Request dec)) (added : List Row) : Prop :=
  ∀ row ∈ added, ∃ request ∈ requests, ∃ event idemKey,
    Writes dec request.call event idemKey ∧ HoldsEvent event idemKey row

/-- A step that is no redaction adds at most one row, the one of its call. -/
theorem Tracks.step_grows {behind : Nat} (tracks : Tracks lib handle behind store)
    {request : Request dec} (keeps : request.call.redacts = false)
    (step : Step lib dec handle store request after) :
    ∃ added, after.db.events = store.db.events ++ added ∧ AddedBy [request] added := by
  have grown {event : NewEvent} {idemKey : Option String} {appended : Appended} {changed : Db}
      (written : Writes dec request.call event idemKey)
      (change : Change lib (handle.genesis lib) store.db event idemKey appended changed) :
      ∃ added, changed.events = store.db.events ++ added ∧ AddedBy [request] added := by
    obtain ⟨row, same, holds⟩ := change.added (written.notRedaction keeps)
    refine ⟨[row], same, fun other member => ?_⟩
    obtain rfl := List.mem_singleton.mp member
    exact ⟨request, List.mem_singleton_self _, event, idemKey, written, holds⟩
  obtain ⟨reply, moved⟩ := tracks.moved step
  cases moved with
  | unchanged => exact ⟨[], (List.append_nil _).symm, nofun⟩
  | published written change => exact grown written change
  | unpublished written change => exact grown written change

/-- **A run without redactions only adds rows**, each the row of one of its calls. -/
theorem Tracks.run_grows {behind : Nat} (tracks : Tracks lib handle behind store)
    {requests : List (Request dec)} (run : Run (Step lib dec handle) store requests after)
    (keeps : ∀ request ∈ requests, request.call.redacts = false) :
    ∃ added, after.db.events = store.db.events ++ added ∧ AddedBy requests added := by
  induction run with
  | nil => exact ⟨[], (List.append_nil _).symm, nofun⟩
  | @snoc requests middle last request prior step ih =>
      obtain ⟨earlier, same, wrote⟩ := ih fun other member =>
        keeps other (List.mem_append_left _ member)
      obtain ⟨⟨_, tracks'⟩, _⟩ := tracks.run prior
      obtain ⟨later, same', wrote'⟩ := tracks'.step_grows
        (keeps request (List.mem_append_right _ (List.mem_singleton_self _))) step
      refine ⟨earlier ++ later, ?_, fun row member => ?_⟩
      · rw [same', same, List.append_assoc]
      · rcases List.mem_append.mp member with older | newer
        · obtain ⟨source, inside, facts⟩ := wrote row older
          exact ⟨source, List.mem_append_left _ inside, facts⟩
        · obtain ⟨source, inside, facts⟩ := wrote' row newer
          exact ⟨source, List.mem_append_right _ inside, facts⟩

/-- A row under a fill's key was recorded by one of the calls. -/
theorem AddedBy.recorded {requests : List (Request dec)} {added : List Row}
    (wrote : AddedBy requests added) {row : Row} (member : row ∈ added) {account : String}
    {tid : UInt64} (keyed : row.idemKey = some (fillIdemKey account tid)) :
    ∃ request ∈ requests, ∃ fill, request.call = .recordFill fill ∧ fill.account = account ∧
      fill.tid = tid ∧ RecordedAs fill row := by
  obtain ⟨request, inside, event, idemKey, written, holds⟩ := wrote row member
  have key : idemKey = some (fillIdemKey account tid) := holds.keyed.symm.trans keyed
  rcases written.sourced with ⟨fill, call, kind, keyed'⟩ | ⟨_, notKey⟩
  · obtain ⟨rfl, rfl⟩ := fillIdemKey_injective (Option.some.inj (keyed'.symm.trans key))
    refine ⟨request, inside, fill, call, rfl, rfl, ?_⟩
    rw [call] at written
    cases written with
    | fill carried =>
        exact ⟨⟨holds.kind, holds.keyed⟩, holds.tsMs, holds.agentId, _, carried, holds.carries⟩
    | halt => cases kind
  · have form := notKey _ key
    rw [isFillKey_fillIdemKey] at form
    cases form

/-- A key that is there is found there after rows were added. -/
theorem Db.rowKeyed_of_grown {db grown : Db} {added : List Row}
    (same : grown.events = db.events ++ added) {key : String} {row : Row}
    (found : db.rowKeyed key = some row) : grown.rowKeyed key = some row := by
  rw [Db.rowKeyed, same, List.find?_append]
  exact (congrArg (Option.or · _) found).trans rfl

/-- A key that is found after rows were added and was not there before is one of theirs. -/
theorem Db.rowKeyed_added {db grown : Db} {added : List Row}
    (same : grown.events = db.events ++ added) {key : String} {row : Row}
    (absent : db.rowKeyed key = none) (found : grown.rowKeyed key = some row) :
    row ∈ added ∧ row.idemKey = some key := by
  rw [Db.rowKeyed, same, List.find?_append] at found
  have here : added.find? (fun held => held.idemKey = some key) = some row := by
    rwa [show db.events.find? (fun held => held.idemKey = some key) = none from absent,
      Option.none_or] at found
  exact ⟨List.mem_of_find?_eq_some here, by simpa using List.find?_some here⟩

end Runs

end Oppen.Ledger
