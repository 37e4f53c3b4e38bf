import Oppen.Json.Alike
import Oppen.Json.Depth
import Oppen.Ledger.Gaps
import Oppen.Ledger.Paging

/-! # Reading back what was accepted

The writer admits one more level of nesting than the parser reads. A row whose payload nests less
reads back, by position and in pages, for as long as it is not redacted; one that nests as deep as
the parser's limit is accepted and never read again.
-/

namespace Oppen.Ledger

open Foundation Oppen.Json

/-- The parser refuses containers nested to its recursion limit. -/
def Libraries.RefusesDeep (lib : Libraries) : Prop :=
  ∀ value : Value, value.Integral → recursionLimit ≤ value.nesting →
    lib.fromSlice (utf8 (String.ofList value.chars)) = none

/-- A payload was accepted as the row at a position. -/
inductive AcceptedBy (lib : Libraries) (handle : Handle) (store : Store) :
    Nat → Value → Store → Prop
  | append {publish : Bool} {event : NewEvent} {appended : Appended} {after : Store}
      (written : append lib handle publish event store = (.ok appended, after)) :
      AcceptedBy lib handle store appended.seq event.payload after
  | intent {publish : Bool} {intent : NewIntent} {receipt : IntentReceipt} {after : Store}
      (written : recordIntent lib handle publish intent store = (.ok receipt, after)) :
      AcceptedBy lib handle store receipt.seq intent.payload after
  | outcome {publish : Bool} {receipt : IntentReceipt} {kind : EventKind} {tsMs : Int64}
      {outcome : Value} {appended : Appended} {after : Store}
      (written : recordOutcome lib handle publish receipt kind tsMs outcome store =
        (.ok appended, after)) :
      AcceptedBy lib handle store appended.seq (outcomePayload receipt outcome) after

/-- An outcome is stored one object deeper than it was given, so it may nest one less. -/
theorem nesting_outcomePayload (receipt : IntentReceipt) (outcome : Value) :
    (sortedValue (outcomePayload receipt outcome)).nesting = (sortedValue outcome).nesting + 1 := by
  change max (sortedValue outcome).nesting 0 + 1 = _
  rw [Nat.max_zero]

/-- The event carries the payload. -/
def Event.Carries (event : Event) (payload : Value) : Prop :=
  ∃ held, event.payload = some held ∧ held.Alike payload

/-- The row at a position is read, by position and as a page of its own, with an equal payload; it
makes no page unreadable, and every page that shows it shows that payload. -/
structure ReadsBack (lib : Libraries) (db : Db) (seq : Nat) (payload : Value) : Prop where
  event : ∃ event, Ledger.event lib seq db = .ok (some event) ∧ event.Carries payload
  page : ∃ read event, Ledger.page lib none (seq - 1) 1 db = .ok read ∧ read.events = [event] ∧
    event.seq = seq ∧ event.Carries payload
  harmless : ∀ scope sinceSeq limit,
    Ledger.page lib scope sinceSeq limit db ≠ .error (.payloadNotJson seq)
  shown : ∀ scope sinceSeq limit read, Ledger.page lib scope sinceSeq limit db = .ok read →
    ∀ event ∈ read.events, event.seq = seq → event.Carries payload

/-! ## The accepted row -/

section Rows

variable {lib : Libraries} {genesis : String} {handle : Handle} {store after : Store} {db : Db}
  {seq : Nat} {payload : Value} {row : Row}

/-- A row that holds the canonical text of a payload under a kind that is known. -/
structure Row.Stores (row : Row) (seq : Nat) (payload : Value) : Prop where
  position : row.seq = seq
  kind : ∃ kind, row.kind = EventKind.asStr kind
  text : ∃ canonical, canonicalJson payload = .ok canonical ∧ row.payload = .text canonical

/-- An append stores its payload in a row of the table. -/
theorem Grows.stores {event : NewEvent} {idemKey : Option String} {appended : Appended}
    {grown : Db} (grows : Grows lib genesis db event idemKey appended grown) :
    ∃ row ∈ grown.events, row.Stores appended.seq event.payload := by
  obtain ⟨canonical, written, _, rfl, rfl⟩ := grows.row
  exact ⟨_, List.mem_append_right _ List.mem_cons_self, rfl, ⟨_, rfl⟩, canonical, written, rfl⟩

/-- A transaction that goes through leaves its tables and returns its value. -/
theorem transact_ok {α ε : Type} {publish : Bool} {lift : LedgerError → ε}
    {body : Except ε (Committed α)} {value : α}
    (run : transact handle publish lift store body = (.ok value, after)) :
    ∃ done, body = .ok done ∧ after.db = done.db ∧ value = done.value := by
  rcases transact_outcome run with ⟨_, error, _, refused⟩ | ⟨done, ran, same, returned⟩
  · cases refused
  · exact ⟨done, ran, same, returned value rfl⟩

/-- What was accepted is stored. -/
theorem AcceptedBy.stores (consistent : Consistent lib (handle.genesis lib) store.db)
    (accepted : AcceptedBy lib handle store seq payload after) :
    ∃ row ∈ after.db.events, row.Stores seq payload := by
  cases accepted with
  | append written =>
      rw [Ledger.append] at written
      split at written
      · cases written
      · obtain ⟨done, run, same, rfl⟩ := transact_ok written
        obtain ⟨⟨appended, db⟩, grown, run⟩ := bind_eq_ok run
        cases run
        rw [same]
        exact (appendInTx_ok consistent.headed grown).stores
  | intent written =>
      obtain ⟨done, run, same, rfl⟩ := transact_ok written
      obtain ⟨⟨appended, db⟩, grown, run⟩ := bind_eq_ok run
      cases run
      rw [same]
      exact (appendInTx_ok consistent.headed grown).stores
  | outcome written =>
      obtain ⟨done, run, same, rfl⟩ := transact_ok written
      obtain ⟨_, _, run⟩ := bind_eq_ok run
      obtain ⟨_, _, run⟩ := bind_eq_ok run
      obtain ⟨_, _, run⟩ := bind_eq_ok run
      split at run
      · cases run
      · obtain ⟨_, _, run⟩ := bind_eq_ok run
        obtain ⟨⟨appended, db⟩, grown, run⟩ := bind_eq_ok run
        cases run
        rw [same]
        exact (appendInTx_ok consistent.headed grown).stores

/-- It is stored for as long as it is not redacted. -/
theorem Row.Stores.kept (stores : row.Stores seq payload) {held : Row} (keeps : Kept row held)
    (present : held.payload ≠ .null) : held.Stores seq payload := by
  rwa [keeps.eq_of_present present]

/-- What reading a stored row comes to. -/
theorem Row.Stores.read (stores : row.Stores seq payload)
    (shallow : (sortedValue payload).nesting < recursionLimit) :
    ∃ event, eventFromRow lib row = .ok event ∧ event.seq = seq ∧ event.Carries payload := by
  obtain ⟨position, ⟨kind, named⟩, canonical, written, text⟩ := stores
  have parsed := lib.fromSlice_canonical _ _ written shallow
  have within : ¬ row.seq < 0 := by omega
  simp only [eventFromRow, refuseIf, within, if_false, text, readPayload, parsed, named,
    EventKind.fromStr_asStr, bind, Except.bind]
  refine ⟨_, rfl, ?_, _, rfl, alike_sortedValue payload⟩
  change row.seq.toNat = seq
  rw [position, Int.toNat_natCast]

/-- A row that stores a payload nested too deep cannot be read back. -/
theorem Row.Stores.unread (refuses : lib.RefusesDeep) (stores : row.Stores seq payload)
    (deep : recursionLimit ≤ (sortedValue payload).nesting) :
    eventFromRow lib row = .error (.payloadNotJson seq) := by
  obtain ⟨position, ⟨kind, named⟩, canonical, written, text⟩ := stores
  obtain ⟨same, integral, _⟩ := canonicalJson_ok written
  have refused := refuses _ integral deep
  rw [← same] at refused
  have within : ¬ (seq : Int) < 0 := not_lt.mpr (Int.natCast_nonneg seq)
  simp only [eventFromRow, refuseIf, position, within, if_false, text, readPayload, refused, bind,
    Except.bind, Int.toNat_natCast]

/-- A row that is not JSON says so with its own position. -/
theorem eventFromRow_notJson (refused : eventFromRow lib row = .error (.payloadNotJson seq)) :
    row.seq.toNat = seq ∧ 0 ≤ row.seq := by
  rcases bind_eq_error refused with negative | ⟨_, within, refused⟩
  · cases (refuseIf_error negative).2
  rcases bind_eq_error refused with unread | ⟨_, _, refused⟩
  · refine ⟨?_, not_lt.mp (refuseIf_ok within)⟩
    unfold readPayload at unread
    split at unread
    · cases unread
    · split at unread
      · cases unread
      · cases unread
        rfl
    · cases unread
  · rcases bind_eq_error refused with unknown | ⟨_, _, refused⟩
    · unfold EventKind.fromStr at unknown
      split at unknown <;> cases unknown
    · cases refused

/-! ## Reading it -/

/-- A page that fails for a row that is not JSON has that row. -/
theorem page_notJson {scope : Option String} {sinceSeq limit : Nat}
    (refused : page lib scope sinceSeq limit db = .error (.payloadNotJson seq)) :
    ∃ row ∈ db.events, eventFromRow lib row = .error (.payloadNotJson seq) := by
  rcases bind_eq_error refused with headless | ⟨⟨headSeq, hash⟩, _, refused⟩
  · unfold head at headless
    split at headless
    · cases headless
    · split at headless <;> cases headless
  rcases bind_eq_error refused with negative | ⟨_, _, refused⟩
  · cases (refuseIf_error negative).2
  split at refused
  · cases refused
  · rcases bind_eq_error refused with far | ⟨_, _, refused⟩
    · cases (refuseIf_error far).2
    · rcases bind_eq_error refused with unread | ⟨_, _, refused⟩
      · obtain ⟨row, member, unread⟩ := mapM_error unread
        exact ⟨row, (List.mem_filter.mp (List.mem_of_mem_take member)).1, unread⟩
      · cases refused

/-- The events of a page are read from rows of the table. -/
theorem page_ok {scope : Option String} {sinceSeq limit : Nat} {read : EventPage}
    (paged : page lib scope sinceSeq limit db = .ok read) {event : Event}
    (member : event ∈ read.events) : ∃ row ∈ db.events, eventFromRow lib row = .ok event := by
  obtain ⟨⟨headSeq, hash⟩, _, paged⟩ := bind_eq_ok paged
  obtain ⟨_, _, paged⟩ := bind_eq_ok paged
  split at paged
  · cases paged
    exact absurd member List.not_mem_nil
  · obtain ⟨_, _, paged⟩ := bind_eq_ok paged
    obtain ⟨events, reads, paged⟩ := bind_eq_ok paged
    cases paged
    obtain ⟨row, inside, parsed⟩ :=
      forall₂_left_of_right (mapM_ok_iff.mp reads) member
    exact ⟨row, (List.mem_filter.mp (List.mem_of_mem_take inside)).1, parsed⟩

/-- The page of one row that starts before a position has the row at it. -/
theorem page_single (consistent : Consistent lib genesis db) (small : db.events.length < 2 ^ 63)
    (member : row ∈ db.events) (position : row.seq = seq) {event : Event}
    (parsed : eventFromRow lib row = .ok event) :
    ∃ read, page lib none (seq - 1) 1 db = .ok read ∧ read.events = [event] := by
  obtain ⟨index, found, place⟩ := consistent.rows.index member
  obtain ⟨bound, here⟩ := List.getElem?_eq_some_iff.mp found
  obtain rfl : seq = index + 1 := by omega
  have rows : ((db.events.filter fun held =>
      ((index : Nat) : Int) < held.seq && held.inScope none).take 1) = [row] := by
    have before : (db.events.take index).filter (fun held =>
        ((index : Nat) : Int) < held.seq && held.inScope none) = [] := by
      refine List.filter_eq_nil_iff.mpr fun held inside => ?_
      obtain ⟨earlier, within, rfl⟩ := List.mem_take_iff_getElem.mp inside
      have place' := consistent.rows.positions earlier _ (List.getElem?_eq_getElem (by omega))
      rw [place']
      simp only [Row.inScope, Bool.and_true, decide_eq_true_eq]
      omega
    have passes : (((index : Nat) : Int) < row.seq && row.inScope none) = true := by
      simp only [Row.inScope, Bool.and_true, decide_eq_true_eq]
      omega
    conv_lhs => rw [← List.take_append_drop index db.events, List.drop_eq_getElem_cons bound, here]
    rw [List.filter_append, before, List.nil_append, List.filter_cons, if_pos passes]
    rfl
  rw [Nat.add_sub_cancel, page_eq consistent small (by omega), Nat.min_eq_left (by decide), rows,
    mapM_ok_iff.mpr (.cons parsed .nil)]
  exact ⟨_, rfl, rfl⟩

/-- **A stored row reads back exactly when its payload nests less than the parser's limit.** -/
theorem Row.Stores.readsBack_iff (refuses : lib.RefusesDeep)
    (consistent : Consistent lib genesis db) (small : db.events.length < 2 ^ 63)
    (member : row ∈ db.events) (stores : row.Stores seq payload) :
    ReadsBack lib db seq payload ↔ (sortedValue payload).nesting < recursionLimit := by
  have unique : ∀ held ∈ db.events, 0 ≤ held.seq → held.seq.toNat = seq → held = row := by
    intro held inside nonneg place
    have position := stores.position
    exact consistent.rows.eq_of_seq inside member (by omega)
  have found : event lib seq db = (eventFromRow lib row).map some := by
    obtain ⟨index, here, place⟩ := consistent.rows.index member
    obtain ⟨bound, _⟩ := List.getElem?_eq_some_iff.mp here
    obtain rfl : seq = index + 1 := by
      have position := stores.position
      omega
    have range : ¬ 2 ^ 63 ≤ index + 1 := by omega
    have held : db.rowAt ((index + 1 : ℕ) : Int) = some row := by
      rw [Nat.cast_add, Nat.cast_one, consistent.rows.rowAt, here]
    simp only [event, refuseIf, range, if_false, held]
    cases eventFromRow lib row <;> rfl
  constructor
  · intro readsBack
    by_contra deep
    obtain ⟨event, shown, _⟩ := readsBack.event
    rw [found, stores.unread refuses (not_lt.mp deep)] at shown
    cases shown
  · intro shallow
    obtain ⟨event, parsed, place, carries⟩ := stores.read shallow
    obtain ⟨read, paged, alone⟩ := page_single consistent small member stores.position parsed
    refine ⟨⟨event, ?_, carries⟩, ⟨read, event, paged, alone, place, carries⟩, ?_, ?_⟩
    · rw [found, parsed]
      rfl
    · intro scope sinceSeq limit refused
      obtain ⟨held, inside, refused⟩ := page_notJson refused
      obtain ⟨place, nonneg⟩ := eventFromRow_notJson refused
      rw [unique held inside nonneg place, parsed] at refused
      cases refused
    · intro scope sinceSeq limit read paged shown inPage place
      obtain ⟨held, inside, parsed'⟩ := page_ok paged inPage
      obtain ⟨nonneg, position, _⟩ := eventFromRow_ok parsed'
      rw [unique held inside nonneg (position.symm.trans place), parsed] at parsed'
      rwa [← Except.ok.inj parsed']

end Rows

/-! ## Runs -/

section Runs

variable {lib : Libraries} {dec : Decimals} {handle : Handle}

/-- What accepts a payload is a call on the ledger. -/
theorem AcceptedBy.step {store after : Store} {seq : Nat} {payload : Value}
    (accepted : AcceptedBy lib handle store seq payload after) :
    ∃ request : Request dec, Step lib dec handle store request after := by
  cases accepted with
  | @append publish event _ _ written =>
      exact ⟨⟨.append event, publish⟩, congrArg Prod.snd written⟩
  | @intent publish intent _ _ written =>
      exact ⟨⟨.recordIntent intent, publish⟩, congrArg Prod.snd written⟩
  | @outcome publish receipt kind tsMs outcome _ _ written =>
      exact ⟨⟨.recordOutcome receipt kind tsMs outcome, publish⟩, congrArg Prod.snd written⟩

/-- After every run there are fewer rows than a position can number. -/
theorem run_small {requests : List (Request dec)} {last : Store}
    (run : Run (Step lib dec handle) (opened lib handle) requests last) :
    last.db.events.length < 2 ^ 63 := by
  have kept := run.invariant
    (fun store => (∃ behind, Tracks lib handle behind store) ∧ store.db.events.length < 2 ^ 63)
    ?_ ⟨⟨0, opened_tracks⟩, Nat.two_pow_pos 63⟩
  · exact kept.2
  · rintro before request after ⟨⟨_, tracks⟩, small⟩ step
    obtain ⟨behind, tracks', _⟩ := tracks.step step
    exact ⟨⟨behind, tracks'⟩, tracks.small small step⟩

/-- **When an accepted payload reads back.** Two payloads have one canonical text exactly when they
are equal up to the order of their members. However the calls go on, a payload that was accepted is
read back for as long as it is not redacted, exactly when it nests less than the parser's limit. -/
theorem accepted_readsBack_iff (refuses : lib.RefusesDeep) :
    (∀ first second text, canonicalJson first = .ok text →
      (canonicalJson second = .ok text ↔ second.Alike first)) ∧
    ∀ {earlier : List (Request dec)} {store : Store} {seq : Nat} {payload : Value} {after : Store}
      {requests : List (Request dec)} {later : Store},
      Run (Step lib dec handle) (opened lib handle) earlier store →
      AcceptedBy lib handle store seq payload after →
      Run (Step lib dec handle) after requests later →
      (∀ row ∈ later.db.events, row.seq = seq → row.payload ≠ .null) →
        (ReadsBack lib later.db seq payload ↔
          (sortedValue payload).nesting < recursionLimit) := by
  constructor
  · intro first second text written
    rw [alike_iff]
    constructor
    · exact fun written' => canonicalJson_injective written' written
    · intro same
      rw [← written, canonicalJson, canonicalJson, same]
  · intro earlier store seq payload after requests later reached accepted run present
    obtain ⟨_, tracks⟩ := run_tracks reached
    obtain ⟨request, step⟩ : ∃ request, Step lib dec handle store request after := accepted.step
    have whole := (reached.snoc step).append run
    obtain ⟨_, tracks'⟩ := run_tracks (reached.snoc step)
    obtain ⟨⟨_, last⟩, evolves⟩ := tracks'.run run
    obtain ⟨row, written, stores⟩ := accepted.stores tracks.consistent
    obtain ⟨held, member, keeps⟩ := evolves.row written
    have place : held.seq = seq := keeps.seq.trans stores.position
    exact (stores.kept keeps (present held member place)).readsBack_iff refuses last.consistent
      (run_small whole) member

end Runs

namespace DeepPayload

/-- The reader of the reference refuses what is nested too deep. -/
theorem reference_refusesDeep (keccak256 : List UInt8 → List UInt8) :
    (Libraries.reference keccak256).RefusesDeep := by
  intro value integral deep
  rw [reference_fromSlice, String.toList_ofList, read_deep integral deep]

/-- The alert of the sample is accepted, whatever its depth up to the limit. -/
theorem accepted_alert {depth : Nat}
    (done : (append lib handle true ⟨.alert, 5, none, nested depth, none⟩
      (opened lib handle)).1.toOption.map Appended.seq = some 1) :
    AcceptedBy lib handle (opened lib handle) 1 (nested depth) (alerted depth) := by
  obtain ⟨appended, same, place⟩ := Option.map_eq_some_iff.mp done
  have accepted : AcceptedBy lib handle (opened lib handle) appended.seq (nested depth)
      (alerted depth) := .append (Prod.ext (eq_ok_of_some same) rfl)
  rwa [place] at accepted

/-- A number inside two arrays reads back. -/
theorem alert_readsBack : ReadsBack lib (alerted 2).db 1 (nested 2) := by
  have present : (alerted 2).db.events.all (fun row => row.payload ≠ .null) = true := by
    decide +kernel
  have nested := (@accepted_readsBack_iff lib Decimals.reference handle
    (reference_refusesDeep checksum)).2 .nil (accepted_alert (by decide +kernel)) .nil
    fun row member _ => of_decide_eq_true (List.all_eq_true.mp present row member)
  exact nested.mpr (by decide)

/-- One inside as many arrays as the parser's limit is accepted, and is not read back. -/
theorem alert_not_readsBack :
    AcceptedBy lib handle (opened lib handle) 1 (nested recursionLimit) (alerted recursionLimit) ∧
      ¬ ReadsBack lib (alerted recursionLimit).db 1 (nested recursionLimit) := by
  refine ⟨accepted_alert (by decide +kernel), fun readsBack => ?_⟩
  obtain ⟨found, shown, _⟩ := readsBack.event
  have unread : (event lib 1 (alerted recursionLimit).db).toOption.isNone = true := by
    decide +kernel
  rw [shown] at unread
  cases unread

end DeepPayload

end Oppen.Ledger
