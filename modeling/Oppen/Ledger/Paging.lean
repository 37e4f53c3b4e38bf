import Oppen.Foundation.Cursor
import Oppen.Ledger.LifecycleRows

/-! # Paged reading

The pages an agent reads the chain by, and the row it reads by position. A reader that
follows the cursor is kept beside the ledger while other calls go through: what it has
seen are the rows it may see up to its cursor, in order and once each.
-/

namespace Oppen.Ledger

open Foundation Oppen.Json

/-- Rows per page at most. -/
def maxPage : Nat := 1000

/-- One page of events, and where to ask next. -/
structure EventPage where
  events : List Event
  nextCursor : Nat
  resyncRequired : Bool
  headSeq : Nat

/-- The stored names the scoped query leaves out. -/
def withheld : List String :=
  ["pairing_issued", "pairing_revoked", "registry_granted", "registry_retired",
    "policy_initialized", "policy_replaced", "approval_proposed", "approval_claimed",
    "approval_disposed", "submission_signed", "submission_accepted"]

/-- The condition the query puts on a row besides its position. -/
def Row.inScope (scope : Option String) (row : Row) : Bool :=
  match scope with
  | some agentId => row.agentId.all (· = agentId) && !withheld.contains row.kind
  | none => true

section Reading

variable (lib : Libraries)

/-- `page`: the events after a position, as many as the limit allows. -/
def page (scope : Option String) (sinceSeq limit : Nat) (db : Db) : Result EventPage := do
  let (headSeq, _) ← head db
  let retainedFrom := (db.events.map Row.seq).min?
  refuseIf (retainedFrom.any (· < 0) = true) .seqOutOfRange
  if headSeq < sinceSeq ∨
      retainedFrom.any (fun first => min (sinceSeq + 1) (2 ^ 64 - 1) < first.toNat) = true then
    return ⟨[], sinceSeq, true, headSeq⟩
  else
    let limit := min limit maxPage
    refuseIf (2 ^ 63 ≤ sinceSeq) .seqOutOfRange
    let rows := db.events.filter fun row => (sinceSeq : Int) < row.seq && row.inScope scope
    let events ← (rows.take limit).mapM (eventFromRow lib)
    -- a short page has considered everything up to the head
    let nextCursor :=
      if events.length = limit then (events.getLast?.map Event.seq).getD sinceSeq else headSeq
    return ⟨events, nextCursor, false, headSeq⟩

/-- `event`: the event at a position. -/
def event (seq : Nat) (db : Db) : Result (Option Event) := do
  refuseIf (2 ^ 63 ≤ seq) .seqOutOfRange
  match db.rowAt seq with
  | some row => return some (← eventFromRow lib row)
  | none => return none

/-- The kinds `AgentView::event` leaves out. -/
def EventKind.isOperatorOnly : EventKind → Bool
  | .pairingIssued | .pairingRevoked | .registryGranted | .registryRetired
  | .policyInitialized | .policyReplaced | .approvalProposed | .approvalClaimed
  | .approvalDisposed | .submissionSigned | .submissionAccepted => true
  | _ => false

/-- The slice of the ledger one agent may hold. -/
structure AgentView where
  agentId : String
  deriving DecidableEq

/-- `AgentView::get_events`. -/
def AgentView.getEvents (view : AgentView) (sinceSeq limit : Nat) (db : Db) : Result EventPage :=
  page lib (some view.agentId) sinceSeq limit db

/-- `AgentView::event`. -/
def AgentView.event (view : AgentView) (seq : Nat) (db : Db) : Result (Option Event) := do
  let found ← Ledger.event lib seq db
  return found.filter fun event =>
    !event.kind.isOperatorOnly && event.agentId.all (· = view.agentId)

/-- A reader that follows the cursor, and the events it was given. -/
structure Reader where
  cursor : Nat
  seen : List Event

def Reader.start : Reader := ⟨0, []⟩

/-- One page more. -/
def Reader.turn (view : AgentView) (db : Db) (reader : Reader) (limit : Nat) : Result Reader := do
  let page ← view.getEvents lib reader.cursor limit db
  return ⟨page.nextCursor, reader.seen ++ page.events⟩

/-- Pages of these limits, one after the other. -/
def Reader.follow (view : AgentView) (db : Db) (limits : List Nat) (reader : Reader) :
    Result Reader :=
  limits.foldlM (Reader.turn lib view db) reader

end Reading

/-! ## What a reader may see -/

/-- Where a row stands in the chain. -/
def Row.position (row : Row) : Nat := row.seq.toNat

/-- The rows the agent may see, in order. -/
def AgentView.visible (view : AgentView) (db : Db) : List Row :=
  db.events.filter fun row => row.inScope (some view.agentId)

/-- The event was read from the row, perhaps before its payload was redacted. -/
def ReadFrom (lib : Libraries) (row : Row) (event : Event) : Prop :=
  ∃ before, Kept before row ∧ eventFromRow lib before = .ok event

/-- What the reader has seen are exactly the visible rows up to its cursor. -/
structure Follows (lib : Libraries) (view : AgentView) (db : Db) (reader : Reader) : Prop where
  within : reader.cursor ≤ db.events.length
  read : List.Forall₂ (ReadFrom lib) (passed Row.position reader.cursor (view.visible db))
    reader.seen

/-- Every row the agent may see has a payload that reads back. A row whose payload was redacted
reads back as one without a payload. -/
def Readable (lib : Libraries) (view : AgentView) (db : Db) : Prop :=
  ∀ row ∈ view.visible db, ∃ event, eventFromRow lib row = .ok event

/-- Paging is lossless for the reader: it has seen exactly what it may see up to its
cursor, however it goes on it comes to see everything visible, and the events read by
position are those of the visible rows. -/
structure Lossless (lib : Libraries) (view : AgentView) (db : Db) (reader : Reader) : Prop where
  follows : Follows lib view db reader
  complete : ∀ limits : List Nat, (∀ limit ∈ limits, 1 ≤ limit) →
    db.events.length ≤ reader.cursor + limits.length →
      ∃ last, reader.follow lib view db limits = .ok last ∧
        List.Forall₂ (ReadFrom lib) (view.visible db) last.seen
  single : ∀ seq : Nat, (∃ event, view.event lib seq db = .ok (some event)) ↔
    ∃ row ∈ view.visible db, row.position = seq

/-- A turn of the system: a call on the ledger, or a page for the reader. -/
inductive Turn (dec : Decimals) where
  | request (request : Request dec)
  | read (limit : Nat)

/-- One turn; a page that fails leaves the reader where it was. -/
inductive PagingStep (lib : Libraries) (dec : Decimals) (handle : Handle) (view : AgentView) :
    Store × Reader → Turn dec → Store × Reader → Prop
  | request {store after : Store} {request : Request dec} (reader : Reader)
      (step : Step lib dec handle store request after) :
      PagingStep lib dec handle view (store, reader) (.request request) (after, reader)
  | read {store : Store} {reader next : Reader} {limit : Nat} (positive : 1 ≤ limit)
      (turned : reader.turn lib view store.db limit = .ok next) :
      PagingStep lib dec handle view (store, reader) (.read limit) (store, next)
  | failed {store : Store} {reader : Reader} {limit : Nat} {error : LedgerError}
      (positive : 1 ≤ limit) (refused : reader.turn lib view store.db limit = .error error) :
      PagingStep lib dec handle view (store, reader) (.read limit) (store, reader)

section Scope

/-- The two lists of withheld kinds are one. -/
theorem withheld_contains (kind : EventKind) :
    withheld.contains kind.asStr = kind.isOperatorOnly := by
  cases kind <;> rfl

/-- The filter on an event that was read is the query's condition on its row. -/
theorem inScope_of_read {lib : Libraries} {view : AgentView} {row : Row} {event : Event}
    (read : eventFromRow lib row = .ok event) :
    row.inScope (some view.agentId) =
      (!event.kind.isOperatorOnly && event.agentId.all (· = view.agentId)) := by
  obtain ⟨_, _, kind, agentId, _, _⟩ := eventFromRow_ok read
  rw [Row.inScope, ← kind, ← agentId, withheld_contains, Bool.and_comm]

/-- A redaction keeps a row in its scope. -/
theorem Kept.inScope {row held : Row} (kept : Kept row held) (scope : Option String) :
    held.inScope scope = row.inScope scope := by
  unfold Row.inScope
  rw [kept.kind, kept.agentId]

/-- A redaction keeps the position of a row. -/
theorem Kept.position {row held : Row} (kept : Kept row held) : held.position = row.position :=
  congrArg Int.toNat kept.seq

/-- An event that was read from a row is read from it after a redaction. -/
theorem ReadFrom.kept {lib : Libraries} {row held : Row} {event : Event} (kept : Kept row held)
    (read : ReadFrom lib row event) : ReadFrom lib held event := by
  obtain ⟨before, keeps, parsed⟩ := read
  exact ⟨before, keeps.trans kept, parsed⟩

/-- Whatever was read from a visible row is the agent's own or nobody's, and no
operator's. -/
theorem ReadFrom.scoped {lib : Libraries} {view : AgentView} {row : Row} {event : Event}
    (read : ReadFrom lib row event) (visible : row.inScope (some view.agentId) = true) :
    event.kind.isOperatorOnly = false ∧ ∀ owner ∈ event.agentId, owner = view.agentId := by
  obtain ⟨before, kept, parsed⟩ := read
  rw [kept.inScope, inScope_of_read parsed, Bool.and_eq_true, Bool.not_eq_true'] at visible
  refine ⟨visible.1, fun owner named => ?_⟩
  have owned := visible.2
  rw [named] at owned
  exact of_decide_eq_true owned

end Scope

/-! ## What a page is -/

section Page

variable {lib : Libraries} {genesis : String} {db : Db} {view : AgentView}

/-- The positions of a sound table increase. -/
theorem SoundRows.increasing {rows : List Row} (sound : SoundRows lib genesis rows) :
    rows.Pairwise fun first second => first.position < second.position := by
  refine List.pairwise_iff_getElem.mpr fun index index' bound bound' before => ?_
  have place := sound.positions index rows[index] (List.getElem?_eq_getElem bound)
  have place' := sound.positions index' rows[index'] (List.getElem?_eq_getElem bound')
  simp only [Row.position, place, place']
  omega

/-- A sound row's position is its number, within the table. -/
theorem SoundRows.position_le {rows : List Row} (sound : SoundRows lib genesis rows) {row : Row}
    (member : row ∈ rows) : (row.position : Int) = row.seq ∧ row.position ≤ rows.length := by
  obtain ⟨index, found, place⟩ := sound.index member
  obtain ⟨bound, _⟩ := List.getElem?_eq_some_iff.mp found
  unfold Row.position
  omega

/-- The rows that a reader sees ascend in their positions. -/
theorem SoundRows.visible (sound : SoundRows lib genesis db.events) :
    (view.visible db).Pairwise fun first second => first.position < second.position :=
  sound.increasing.filter _

/-- The rows a page is cut from are the visible ones ahead of the cursor. -/
theorem ahead_visible (sound : SoundRows lib genesis db.events) (cursor : Nat) :
    (db.events.filter fun row => (cursor : Int) < row.seq && row.inScope (some view.agentId)) =
      ahead Row.position cursor (view.visible db) := by
  rw [ahead, AgentView.visible, List.filter_filter]
  refine List.filter_congr fun row member => ?_
  have place := (sound.position_le member).1
  congr 1
  exact decide_eq_decide.mpr (by omega)

/-- A sound table retains its first row. -/
theorem retainedFrom_sound (sound : SoundRows lib genesis db.events) {first : Int}
    (least : (db.events.map Row.seq).min? = some first) : first = 1 := by
  obtain ⟨member, below⟩ := List.min?_eq_some_iff.mp least
  obtain ⟨row, inside, rfl⟩ := List.mem_map.mp member
  obtain ⟨index, found, place⟩ := sound.index inside
  have nonempty : 0 < db.events.length := List.length_pos_of_mem inside
  have start := sound.positions 0 db.events[0] (List.getElem?_eq_getElem nonempty)
  have := below _ (List.mem_map_of_mem (List.getElem_mem nonempty))
  omega

/-- What a page is for a cursor that is not past the head. -/
theorem page_eq (consistent : Consistent lib genesis db) (small : db.events.length < 2 ^ 63)
    {cursor : Nat} (within : cursor ≤ db.events.length) (scope : Option String) (limit : Nat) :
    page lib scope cursor limit db =
      ((db.events.filter fun row => (cursor : Int) < row.seq && row.inScope scope).take
        (min limit maxPage)).mapM (eventFromRow lib) >>= fun events =>
          .ok ⟨events, if events.length = min limit maxPage then
            (events.getLast?.map Event.seq).getD cursor else db.events.length, false,
              db.events.length⟩ := by
  have retained : ¬ (db.events.map Row.seq).min?.any (· < 0) = true ∧
      ¬ (db.events.map Row.seq).min?.any
        (fun first => min (cursor + 1) (2 ^ 64 - 1) < first.toNat) = true := by
    cases least : (db.events.map Row.seq).min? with
    | none => exact ⟨nofun, nofun⟩
    | some first =>
        rw [retainedFrom_sound consistent.rows least]
        simp only [Option.any_some, decide_eq_true_eq]
        omega
  have range : ¬ 2 ^ 63 ≤ cursor := by omega
  have here : ¬ db.events.length < cursor := Nat.not_lt.mpr within
  simp only [page, consistent.headed.head_eq, bind, Except.bind, refuseIf, retained.1, retained.2,
    here, range, if_false]
  rfl

/-- What `get_events` computes for a cursor that is not past the head. -/
theorem getEvents_eq (consistent : Consistent lib genesis db) (small : db.events.length < 2 ^ 63)
    {cursor : Nat} (within : cursor ≤ db.events.length) (limit : Nat) :
    view.getEvents lib cursor limit db =
      ((ahead Row.position cursor (view.visible db)).take (min limit maxPage)).mapM
        (eventFromRow lib) >>= fun events =>
          .ok ⟨events, if events.length = min limit maxPage then
            (events.getLast?.map Event.seq).getD cursor else db.events.length, false,
              db.events.length⟩ := by
  rw [AgentView.getEvents, page_eq consistent small within, ahead_visible consistent.rows]

/-- Events that were read have the positions of their rows. -/
theorem map_seq_of_read {rows : List Row} {events : List Event}
    (read : List.Forall₂ (fun row event => eventFromRow lib row = .ok event) rows events) :
    events.map Event.seq = rows.map Row.position := by
  induction read with
  | nil => rfl
  | cons first _ ih =>
      rw [List.map_cons, List.map_cons, ih, (eventFromRow_ok first).2.1]
      rfl

/-- A page that comes back moves the cursor past exactly the visible rows it read. -/
theorem turn_ok (consistent : Consistent lib genesis db) (small : db.events.length < 2 ^ 63)
    {reader next : Reader} (within : reader.cursor ≤ db.events.length) {limit : Nat}
    (positive : 1 ≤ limit) (turned : reader.turn lib view db limit = .ok next) :
    ∃ events, next.seen = reader.seen ++ events ∧ reader.cursor ≤ next.cursor ∧
      next.cursor ≤ db.events.length ∧
      (reader.cursor < db.events.length → reader.cursor < next.cursor) ∧
      ∃ page, List.Forall₂ (fun row event => eventFromRow lib row = .ok event) page events ∧
        passed Row.position next.cursor (view.visible db) =
          passed Row.position reader.cursor (view.visible db) ++ page := by
  obtain ⟨page, got, turned⟩ := bind_eq_ok turned
  cases turned
  rw [getEvents_eq consistent small within] at got
  obtain ⟨events, read, got⟩ := bind_eq_ok got
  cases got
  have present : 1 ≤ min limit maxPage := le_min positive (by decide)
  generalize min limit maxPage = count at *
  have sorted : (view.visible db).Pairwise fun first second => first.position < second.position :=
    consistent.rows.visible
  have rows := mapM_ok_iff.mp read
  have aheadOf (row : Row) (member : row ∈ ahead Row.position reader.cursor (view.visible db)) :
      reader.cursor < row.position ∧ row.position ≤ db.events.length := by
    obtain ⟨inside, after⟩ := List.mem_filter.mp member
    exact ⟨of_decide_eq_true after,
      (consistent.rows.position_le (List.mem_filter.mp inside).1).2⟩
  refine ⟨events, rfl, ?_⟩
  by_cases full : events.length = count
  · -- a full page stops at its last row
    have length := rows.length_eq
    have nonempty : (ahead Row.position reader.cursor (view.visible db)).take count ≠ [] := by
      intro empty
      rw [empty] at length
      change 0 = _ at length
      omega
    obtain ⟨last, final⟩ : ∃ last, ((ahead Row.position reader.cursor
        (view.visible db)).take count).getLast? = some last :=
      ⟨_, List.getLast?_eq_some_getLast nonempty⟩
    have cursor : (events.getLast?.map Event.seq).getD reader.cursor = last.position := by
      rw [← List.getLast?_map, map_seq_of_read rows, List.getLast?_map, final]
      rfl
    have bounds := aheadOf last (List.mem_of_mem_take (List.mem_of_getLast? final))
    obtain ⟨reached, left⟩ := page_last (sorted.filter _) final
    simp only [full, if_true, cursor]
    exact ⟨by omega, bounds.2, fun _ => bounds.1, _, rows,
      passed_page sorted (by omega) reached left⟩
  · -- a short page took every row ahead of the cursor
    have length := rows.length_eq
    rw [List.length_take] at length
    have whole : (ahead Row.position reader.cursor (view.visible db)).length ≤ count := by omega
    simp only [full, if_false]
    refine ⟨within, le_rfl, id, _, rows, passed_page sorted within ?_ ?_⟩
    · intro row member
      exact (aheadOf row (List.mem_of_mem_take member)).2
    · intro row member
      rw [List.drop_of_length_le whole] at member
      cases member

/-- Where every visible row reads back, a page comes back. -/
theorem turn_of_readable (consistent : Consistent lib genesis db)
    (small : db.events.length < 2 ^ 63) (readable : Readable lib view db) {reader : Reader}
    (within : reader.cursor ≤ db.events.length) (limit : Nat) :
    ∃ next, reader.turn lib view db limit = .ok next := by
  obtain ⟨events, read⟩ : ∃ events, ((ahead Row.position reader.cursor
      (view.visible db)).take (min limit maxPage)).mapM (eventFromRow lib) = .ok events := by
    have each : ∀ row ∈ (ahead Row.position reader.cursor (view.visible db)).take
        (min limit maxPage), ∃ event, eventFromRow lib row = .ok event := fun row member =>
      readable row (List.mem_filter.mp (List.mem_of_mem_take member)).1
    generalize (ahead Row.position reader.cursor (view.visible db)).take (min limit maxPage) =
      rows at each
    induction rows with
    | nil => exact ⟨[], rfl⟩
    | cons row rest ih =>
        obtain ⟨event, read⟩ := each row List.mem_cons_self
        obtain ⟨events, others⟩ := ih fun row member => each row (List.mem_cons_of_mem _ member)
        exact ⟨event :: events, mapM_ok_iff.mpr (.cons read (mapM_ok_iff.mp others))⟩
  unfold Reader.turn
  rw [getEvents_eq consistent small within, read]
  exact ⟨_, rfl⟩

end Page

/-! ## Following the cursor -/

section Following

variable {lib : Libraries} {dec : Decimals} {handle : Handle} {genesis : String} {db : Db}
  {view : AgentView} {reader : Reader}

/-- A cursor at the end has passed every row. -/
theorem passed_all (sound : SoundRows lib genesis db.events) {cursor : Nat}
    (past : db.events.length ≤ cursor) :
    passed Row.position cursor (view.visible db) = view.visible db := by
  refine List.filter_eq_self.mpr fun row member => decide_eq_true ?_
  exact (sound.position_le (List.mem_filter.mp member).1).2.trans past

/-- A page keeps the account. -/
theorem Follows.turn (follows : Follows lib view db reader)
    (consistent : Consistent lib genesis db) (small : db.events.length < 2 ^ 63) {next : Reader}
    {limit : Nat} (positive : 1 ≤ limit) (turned : reader.turn lib view db limit = .ok next) :
    Follows lib view db next := by
  obtain ⟨events, seen, _, within, _, page, rows, moved⟩ :=
    turn_ok consistent small follows.within positive turned
  refine ⟨within, ?_⟩
  rw [moved, seen]
  refine List.rel_append follows.read (rows.imp fun row event read => ?_)
  exact ⟨row, .refl row, read⟩

/-- A change of the ledger keeps the account: what is added is past every cursor. -/
theorem Follows.evolves {after : Db} (follows : Follows lib view db reader)
    (evolves : Evolves db after) (sound : SoundRows lib genesis after.events) :
    Follows lib view after reader := by
  obtain ⟨kept, added, same, keeps⟩ := evolves
  have length := keeps.length_eq
  have older : List.Forall₂ Kept (passed Row.position reader.cursor (view.visible db))
      (passed Row.position reader.cursor
        (kept.filter fun row => row.inScope (some view.agentId))) := by
    refine List.rel_filter (fun row held kept => ?_)
      (List.rel_filter (fun row held kept => ?_) keeps)
    · change decide (row.position ≤ _) = true ↔ decide (held.position ≤ _) = true
      rw [kept.position]
    · change row.inScope _ = true ↔ held.inScope _ = true
      rw [kept.inScope]
  have newer : passed Row.position reader.cursor
      (added.filter fun row => row.inScope (some view.agentId)) = [] := by
    refine List.filter_eq_nil_iff.mpr fun row member below => ?_
    obtain ⟨index, found⟩ := List.getElem?_of_mem (List.mem_filter.mp member).1
    have place := sound.positions (kept.length + index) row (by
      rw [same, List.getElem?_append_right (Nat.le_add_right _ _), Nat.add_sub_cancel_left, found])
    have within := of_decide_eq_true below
    have bound := follows.within
    unfold Row.position at within
    omega
  refine ⟨?_, ?_⟩
  · rw [same, List.length_append]
    have within := follows.within
    omega
  · have whole : passed Row.position reader.cursor (view.visible after) =
        passed Row.position reader.cursor
          (kept.filter fun row => row.inScope (some view.agentId)) := by
      rw [AgentView.visible, same, List.filter_append, passed, List.filter_append]
      change _ ++ passed _ _ _ = _
      rw [newer, List.append_nil]
      rfl
    rw [whole]
    have back : List.Forall₂ (fun held row => Kept row held) _ _ := List.Forall₂.flip older
    exact forall₂_compose (fun _ _ _ kept read => read.kept kept) back follows.read

/-- Following the cursor through a still table reads on to everything visible. -/
theorem follow_of_readable (consistent : Consistent lib genesis db)
    (small : db.events.length < 2 ^ 63) (readable : Readable lib view db) (limits : List Nat)
    (positive : ∀ limit ∈ limits, 1 ≤ limit) (follows : Follows lib view db reader)
    (enough : db.events.length ≤ reader.cursor + limits.length) :
    ∃ last, reader.follow lib view db limits = .ok last ∧
      List.Forall₂ (ReadFrom lib) (view.visible db) last.seen := by
  induction limits generalizing reader with
  | nil =>
      refine ⟨reader, rfl, ?_⟩
      rw [← passed_all consistent.rows enough]
      exact follows.read
  | cons limit rest ih =>
      obtain ⟨next, turned⟩ := turn_of_readable consistent small readable follows.within limit
      have one := positive limit List.mem_cons_self
      obtain ⟨_, _, _, _, forward, _⟩ := turn_ok consistent small follows.within one turned
      have within := follows.within
      rw [List.length_cons] at enough
      have closer : db.events.length ≤ next.cursor + rest.length := by
        by_cases behind : reader.cursor < db.events.length
        · have := forward behind
          omega
        · obtain ⟨_, _, stays, _⟩ := turn_ok consistent small follows.within one turned
          omega
      obtain ⟨last, followed, seen⟩ := ih (fun limit member => positive limit
        (List.mem_cons_of_mem _ member)) (follows.turn consistent small one turned) closer
      refine ⟨last, ?_, seen⟩
      unfold Reader.follow
      rw [List.foldlM_cons, turned]
      exact followed

/-- The row at a position reads as an event the view shows exactly when it is visible and
reads back. -/
theorem event_iff (consistent : Consistent lib genesis db) (small : db.events.length < 2 ^ 63)
    (seq : Nat) : (∃ event, view.event lib seq db = .ok (some event)) ↔
      ∃ row ∈ view.visible db, row.position = seq ∧ ∃ event, eventFromRow lib row = .ok event := by
  constructor
  · rintro ⟨event, found⟩
    obtain ⟨held, got, found⟩ := bind_eq_ok found
    obtain ⟨_, _, got⟩ := bind_eq_ok got
    cases here : db.rowAt seq with
    | none =>
        rw [here] at got
        cases got
        cases found
    | some row =>
        rw [here] at got
        obtain ⟨event', read, got⟩ := bind_eq_ok got
        cases got
        obtain ⟨same, shown⟩ := Option.filter_eq_some_iff.mp (Except.ok.inj found)
        obtain rfl := Option.some.inj same
        obtain ⟨inside, place⟩ := mem_of_rowAt here
        refine ⟨row, List.mem_filter.mpr ⟨inside, ?_⟩, ?_, event', read⟩
        · rw [inScope_of_read read]
          exact shown
        · rw [Row.position, place, Int.toNat_natCast]
  · rintro ⟨row, visible, rfl, event, read⟩
    obtain ⟨inside, shown⟩ := List.mem_filter.mp visible
    obtain ⟨place, within⟩ := consistent.rows.position_le inside
    have range : ¬ 2 ^ 63 ≤ row.position := by omega
    have here : db.rowAt row.position = some row := by
      obtain ⟨index, found, position⟩ := consistent.rows.index inside
      rw [place, position, consistent.rows.rowAt, found]
    rw [inScope_of_read read] at shown
    refine ⟨event, ?_⟩
    simp only [AgentView.event, Ledger.event, refuseIf, range, if_false, here, read, bind,
      Except.bind, pure, Except.pure, Option.filter_some, shown, if_true]

/-- For a reader that kept account, paging is lossless exactly when every row it may see
reads back. -/
theorem Follows.lossless_iff (follows : Follows lib view db reader)
    (consistent : Consistent lib genesis db) (small : db.events.length < 2 ^ 63) :
    Lossless lib view db reader ↔ Readable lib view db := by
  constructor
  · intro lossless row visible
    obtain ⟨held, member, same, event, read⟩ :=
      (event_iff consistent small row.position).mp ((lossless.single _).mpr ⟨row, visible, rfl⟩)
    have place := (consistent.rows.position_le (List.mem_filter.mp visible).1).1
    have place' := (consistent.rows.position_le (List.mem_filter.mp member).1).1
    obtain rfl := consistent.rows.eq_of_seq (List.mem_filter.mp member).1
      (List.mem_filter.mp visible).1 (by omega)
    exact ⟨event, read⟩
  · intro readable
    refine ⟨follows, fun limits positive enough =>
      follow_of_readable consistent small readable limits positive follows enough, fun seq => ?_⟩
    rw [event_iff consistent small]
    constructor
    · rintro ⟨row, visible, place, _⟩
      exact ⟨row, visible, place⟩
    · rintro ⟨row, visible, place⟩
      exact ⟨row, visible, place, readable row visible⟩

/-! ## Runs -/

/-- A change that was committed leaves fewer rows than a position can number. -/
theorem Change.small {event : NewEvent} {idemKey : Option String} {appended : Appended}
    {changed : Db} (change : Change lib genesis db event idemKey appended changed) :
    changed.events.length < 2 ^ 63 := by
  obtain ⟨base, grown, gaps, prepared, grows, rfl⟩ := change.made
  obtain ⟨canonical, _, small, _, rfl⟩ := grows.row
  change (base.events ++ [_]).length < 2 ^ 63
  rwa [List.length_append, List.length_singleton]

/-- A step leaves a table whose positions can be counted so. -/
theorem Tracks.small {behind : Nat} {store after : Store} (tracks : Tracks lib handle behind store)
    (small : store.db.events.length < 2 ^ 63) {request : Request dec}
    (step : Step lib dec handle store request after) : after.db.events.length < 2 ^ 63 := by
  obtain ⟨reply, moved⟩ := tracks.moved step
  cases moved with
  | unchanged => exact small
  | published _ change => exact change.small
  | unpublished _ change => exact change.small

/-- A tracked store of a size its positions can count, with a reader that kept account. -/
structure Served (lib : Libraries) (handle : Handle) (view : AgentView) (behind : Nat)
    (state : Store × Reader) : Prop where
  tracks : Tracks lib handle behind state.1
  small : state.1.db.events.length < 2 ^ 63
  follows : Follows lib view state.1.db state.2

/-- A reader who has read nothing was served nothing. -/
theorem Served.start : Served lib handle view 0 (opened lib handle, .start) where
  tracks := opened_tracks
  small := Nat.two_pow_pos 63
  follows := ⟨Nat.zero_le _, .nil⟩

/-- Every request and every page keeps the ledger tracked, and the reader's account of what it was
answered. -/
theorem Served.step {behind : Nat} {before after : Store × Reader} {turn : Turn dec}
    (served : Served lib handle view behind before)
    (step : PagingStep lib dec handle view before turn after) :
    ∃ behind', Served lib handle view behind' after := by
  obtain ⟨tracks, small, follows⟩ := served
  cases step with
  | @request store after request reader step =>
      obtain ⟨behind', tracks', _⟩ := tracks.step step
      exact ⟨behind', tracks', tracks.small small step,
        follows.evolves (tracks.evolves step) tracks'.consistent.rows⟩
  | read positive turned =>
      exact ⟨behind, tracks, small, follows.turn tracks.consistent small positive turned⟩
  | failed => exact ⟨behind, tracks, small, follows⟩

/-- After every run the reader's account holds: what its cursor has passed was answered to it. -/
theorem Served.run {turns : List (Turn dec)} {last : Store × Reader}
    (run : Run (PagingStep lib dec handle view) (opened lib handle, .start) turns last) :
    ∃ behind, Served lib handle view behind last := by
  refine run.invariant (fun state => ∃ behind, Served lib handle view behind state) ?_
    ⟨0, .start⟩
  rintro before turn after ⟨_, served⟩ step
  exact served.step step

/-- However pages and calls interleave, a reader has seen what it may see up to its cursor:
in order, once each, and nothing of another agent or of an operator-only kind. -/
theorem paging_follows {turns : List (Turn dec)} {store : Store}
    (run : Run (PagingStep lib dec handle view) (opened lib handle, .start) turns (store, reader)) :
    Follows lib view store.db reader ∧ ∀ event ∈ reader.seen,
      event.kind.isOperatorOnly = false ∧ ∀ owner ∈ event.agentId, owner = view.agentId := by
  obtain ⟨_, served⟩ := Served.run run
  refine ⟨served.follows, fun event member => ?_⟩
  obtain ⟨row, inside, read⟩ := forall₂_left_of_right served.follows.read member
  exact read.scoped (List.mem_filter.mp (List.mem_filter.mp inside).1).2

/-- A redacted row still reads. -/
theorem eventFromRow_kept {row held : Row} (kept : Kept row held)
    (reads : ∃ event, eventFromRow lib row = .ok event) :
    ∃ event, eventFromRow lib held = .ok event := by
  rcases kept with rfl | ⟨tsMs, reason, rfl⟩
  · exact reads
  · obtain ⟨event, read⟩ := reads
    obtain ⟨_, within, read⟩ := bind_eq_ok read
    obtain ⟨_, _, read⟩ := bind_eq_ok read
    obtain ⟨kind, named, _⟩ := bind_eq_ok read
    simp only [eventFromRow, within, readPayload, named, bind, Except.bind]
    exact ⟨_, rfl⟩

/-- A table stays readable while what is written nests less than the parser allows. -/
theorem Readable.change (readable : Readable lib view db) {event : NewEvent}
    {idemKey : Option String} {appended : Appended} {changed : Db}
    (change : Change lib genesis db event idemKey appended changed)
    (shallow : (sortedValue event.payload).nesting < recursionLimit) :
    Readable lib view changed := by
  obtain ⟨base, canonical, prepared, written, same⟩ := change.events
  intro row visible
  obtain ⟨member, shown⟩ := List.mem_filter.mp visible
  rw [same] at member
  rcases List.mem_append.mp member with older | last
  · obtain ⟨held, inside, kept⟩ : ∃ held ∈ db.events, Kept held row := by
      cases prepared with
      | plain => exact ⟨row, older, .refl row⟩
      | tombstone =>
          obtain ⟨held, inside, rfl⟩ := List.mem_map.mp older
          exact ⟨held, inside, Kept.tombstoned _ _ _ held⟩
    rw [kept.inScope] at shown
    exact eventFromRow_kept kept (readable held (List.mem_filter.mpr ⟨inside, shown⟩))
  · rw [List.mem_singleton.mp last]
    exact ⟨_, eventFromRow_chainedRow written shallow _ _ idemKey⟩

/-- **When paging is lossless.** However pages and calls interleave, a reader that follows the
cursor loses nothing exactly while every row it may see has a payload that reads back. One row that
does not read back fails every page that reaches it, and the cursor cannot pass it. -/
theorem paging_lossless_iff {turns : List (Turn dec)} {store : Store}
    (run : Run (PagingStep lib dec handle view) (opened lib handle, .start) turns (store, reader)) :
    Lossless lib view store.db reader ↔ Readable lib view store.db := by
  obtain ⟨_, tracks, small, follows⟩ := Served.run run
  exact follows.lossless_iff tracks.consistent small

end Following

namespace DeepPayload

/-- The compact reader and the checksum in place of the real libraries. -/
def lib : Libraries := .reference checksum

def handle : Handle := ⟨.testnet, true⟩

def view : AgentView := ⟨"scout"⟩

/-- A number inside this many arrays. -/
def nested : Nat → Value
  | 0 => .ofInt 1
  | depth + 1 => .array (.cons (nested depth) .nil)

/-- An alert no agent owns. -/
def alert (depth : Nat) : Request Decimals.reference :=
  ⟨.append ⟨.alert, 5, none, nested depth, none⟩, true⟩

/-- The new ledger after the alert. -/
def alerted (depth : Nat) : Store :=
  (perform lib Decimals.reference handle (alert depth) (opened lib handle)).2

/-- The sample's alert is accepted by the ledger. -/
theorem alerted_run (depth : Nat) :
    Run (PagingStep lib Decimals.reference handle view) (opened lib handle, .start)
      [.request (alert depth)] (alerted depth, .start) :=
  .single (.request .start rfl)

/-- Writing admits one level more than reading: the agent may see the alert, and reading it
by position fails. -/
theorem alert_unreadable :
    ((view.visible (alerted 128).db).map Row.position,
      (view.event lib 1 (alerted 128).db).toOption) =
      ([1], none) := by
  decide +kernel

/-- Paging is not lossless once the alert is written. -/
theorem not_lossless :
    ∃ turns store reader,
      Run (PagingStep lib Decimals.reference handle view) (opened lib handle, .start) turns
        (store, reader) ∧ ¬ Lossless lib view store.db reader := by
  refine ⟨_, _, _, alerted_run 128, fun lossless => ?_⟩
  obtain ⟨visible, unread⟩ := Prod.mk.inj alert_unreadable
  have listed : 1 ∈ (view.visible (alerted 128).db).map Row.position := by
    rw [visible]
    exact List.mem_singleton_self 1
  obtain ⟨row, member, place⟩ := List.mem_map.mp listed
  obtain ⟨event, shown⟩ := (lossless.single 1).mpr ⟨row, member, place⟩
  rw [shown] at unread
  cases unread

/-- An alert that nests two deep is read back. -/
theorem alert_readable : Readable lib view (alerted 2).db := by
  have reads : (view.visible (alerted 2).db).all
      (fun row => (eventFromRow lib row).toOption.isSome) = true := by
    decide +kernel
  intro row member
  have read := List.all_eq_true.mp reads row member
  cases parsed : eventFromRow lib row with
  | ok event => exact ⟨event, rfl⟩
  | error error =>
      rw [parsed] at read
      cases read

/-- Nothing is lost once an alert is written that nests less. -/
theorem alert_lossless : Lossless lib view (alerted 2).db .start :=
  (paging_lossless_iff (alerted_run 2)).mpr alert_readable

end DeepPayload

end Oppen.Ledger
