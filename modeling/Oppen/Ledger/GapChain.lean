import Oppen.Foundation.Pairing
import Oppen.Ledger.OpenGaps

/-! # Gaps and the chain

The gap table and the chain are two records of one history. Every gap has the row that opened it
and every closed gap the row that closed it, one row each and no other, and a gap goes only from
open to closed to reconciled.
-/

namespace Oppen.Ledger

open Foundation Oppen.Json

/-! ## The two records -/

/-- What the row that opens a gap says. -/
def openPayload (scope : String) (note : Option String) : Value :=
  .ofFields [("scope", .string scope), ("note", .ofOption note)]

/-- What the row that closes a gap says. -/
def closePayload (scope : String) (gapId : Int) (openedTsMs tsMs : Int64) : Value :=
  .ofFields [("scope", .string scope), ("gap_id", .ofInt gapId),
    ("down_ms", .ofInt (saturatingSub tsMs openedTsMs))]

/-- The chain commits the row to a payload, also once the payload was redacted. -/
def Row.CommitsTo (lib : Libraries) (payload : Value) (row : Row) : Prop :=
  ∃ canonical, canonicalJson payload = .ok canonical ∧
    row.payloadHash = Ledger.payloadHash lib (utf8 canonical)

/-- The row that opened a gap. -/
structure Opens (lib : Libraries) (gap : GapRow) (row : Row) : Prop where
  seq : row.seq = gap.openSeq
  tsMs : row.tsMs = gap.openedTsMs
  commits : row.CommitsTo lib (openPayload gap.scope gap.note)

/-- The row that closed a gap. -/
structure Closes (lib : Libraries) (gap : GapRow) (row : Row) : Prop where
  seq : gap.closeSeq = some row.seq
  tsMs : gap.closedTsMs = some row.tsMs
  commits : row.CommitsTo lib (closePayload gap.scope gap.gapId gap.openedTsMs row.tsMs)

/-- The rows of one kind, in the order of the chain. -/
def ofKind (kind : EventKind) (rows : List Row) : List Row :=
  rows.filter fun row => row.kind = kind.asStr

def GapRow.isClosed (gap : GapRow) : Bool := gap.closedTsMs.isSome

/-- The states a gap goes through: its close is in the chain when it is closed, after its open,
and it is reconciled once it is closed at the earliest. -/
structure GapRow.Sound (gap : GapRow) : Prop where
  within : gap.closeSeq.isSome = gap.closedTsMs.isSome
  later : ∀ closeSeq ∈ gap.closeSeq, gap.openSeq < closeSeq
  reconciled : gap.reconciledTsMs ≠ none → gap.closedTsMs ≠ none

/-- The gap table and the chain agree: the opening rows are those of the gaps, one for each in
the order of the table, and the closing rows are those of the closed gaps, one for each. -/
structure GapsChained (lib : Libraries) (db : Db) : Prop where
  opened : List.Forall₂ (Opens lib) db.feedGaps (ofKind .wsDisconnected db.events)
  closed : ∃ order, order.Perm (db.feedGaps.filter GapRow.isClosed) ∧
    List.Forall₂ (Closes lib) order (ofKind .wsReconnected db.events)
  sound : ∀ gap ∈ db.feedGaps, gap.Sound

section Rows

variable {lib : Libraries} {row held : Row}

/-- A redaction keeps the hash of the payload. -/
theorem Kept.payloadHash_eq (kept : Kept row held) : held.payloadHash = row.payloadHash := by
  rcases kept with rfl | ⟨_, _, rfl⟩ <;> rfl

/-- A row commits to its payload after a redaction too, through the hash it kept. -/
theorem Row.CommitsTo.kept {payload : Value} (commits : row.CommitsTo lib payload)
    (kept : Kept row held) : held.CommitsTo lib payload := by
  obtain ⟨canonical, written, hashed⟩ := commits
  exact ⟨canonical, written, kept.payloadHash_eq.trans hashed⟩

/-- The row that opens a gap does so after a redaction. -/
theorem Opens.kept {gap : GapRow} (opens : Opens lib gap row) (kept : Kept row held) :
    Opens lib gap held :=
  ⟨kept.seq.trans opens.seq, kept.tsMs.trans opens.tsMs, opens.commits.kept kept⟩

/-- The row that closes a gap does so after a redaction. -/
theorem Closes.kept {gap : GapRow} (closes : Closes lib gap row) (kept : Kept row held) :
    Closes lib gap held := by
  refine ⟨?_, ?_, ?_⟩
  · rw [kept.seq]
    exact closes.seq
  · rw [kept.tsMs]
    exact closes.tsMs
  · rw [kept.tsMs]
    exact closes.commits.kept kept

/-- Rows that were kept are kept kind by kind. -/
theorem ofKind_kept {rows later : List Row} (keeps : List.Forall₂ Kept rows later)
    (kind : EventKind) : List.Forall₂ Kept (ofKind kind rows) (ofKind kind later) := by
  refine List.rel_filter (fun row held kept => ?_) keeps
  simp only [kept.kind]

/-- A row of another kind is not among the rows of a kind. -/
theorem ofKind_concat_other {rows : List Row} {kind : EventKind} (other : row.kind ≠ kind.asStr) :
    ofKind kind (rows ++ [row]) = ofKind kind rows := by
  simp [ofKind, other]

/-- A row of a kind is the last one of its kind once it is appended. -/
theorem ofKind_concat_same {rows : List Row} {kind : EventKind} (same : row.kind = kind.asStr) :
    ofKind kind (rows ++ [row]) = ofKind kind rows ++ [row] := by
  simp [ofKind, same]

end Rows

section Calls

variable {lib : Libraries} {dec : Decimals} {handle : Handle} {store after : Store}

/-! ## What an opening and a closing do -/

/-- The row of an event at the end of the chain. -/
theorem Grows.committed {genesis : String} {db grown : Db} {event : NewEvent}
    {idemKey : Option String} {appended : Appended}
    (grows : Grows lib genesis db event idemKey appended grown) :
    ∃ row, grown.events = db.events ++ [row] ∧ row.kind = event.kind.asStr ∧
      row.seq = (appended.seq : Int) ∧ row.tsMs = event.tsMs ∧ row.CommitsTo lib event.payload := by
  obtain ⟨canonical, written, _, rfl, rfl⟩ := grows.row
  exact ⟨_, rfl, rfl, rfl, rfl, canonical, written, rfl⟩

/-- Opening a gap leaves the file, or adds the gap and the row that opens it. -/
theorem openGap_chained (consistent : Consistent lib (handle.genesis lib) store.db)
    {publish : Bool} {scope : String} {tsMs : Int64} {note : Option String} {result : Result Gap}
    (run : openGap lib handle publish scope tsMs note store = (result, after)) :
    after.db = store.db ∨
    (∀ gap ∈ store.db.feedGaps, gap.scope = scope → gap.closedTsMs ≠ none) ∧
      ∃ gap row, after.db.feedGaps = store.db.feedGaps ++ [gap] ∧
        after.db.events = store.db.events ++ [row] ∧ gap.closedTsMs = none ∧ gap.Sound ∧
        row.kind = EventKind.wsDisconnected.asStr ∧ Opens lib gap row := by
  rcases openGap_cases run with
    ⟨rfl, _⟩ | ⟨_, _, _, _, same, _⟩ | ⟨down, appended, _, append, same, _⟩
  · exact .inl rfl
  · exact .inl same
  · have grows := appendInTx_ok consistent.headed append
    obtain ⟨row, events, kind, seq, stamped, commits⟩ := grows.committed
    refine .inr ⟨down, openedRow store.db.feedGaps scope tsMs note appended.seq, row, ?_, ?_, rfl,
      ?_, kind, ?_⟩
    · rw [same]
    · rw [same]
      exact events
    · exact ⟨rfl, nofun, fun marked => absurd rfl marked⟩
    · exact ⟨seq, stamped, commits⟩

/-- Closing a gap leaves the file, or closes the gap and adds the row that closes it. -/
theorem closeGap_chained (consistent : Consistent lib (handle.genesis lib) store.db)
    {publish : Bool} {gapId : Int} {tsMs : Int64} {result : Result Appended}
    (run : closeGap lib handle publish gapId tsMs store = (result, after)) :
    after.db = store.db ∨
    ∃ gap ∈ store.db.feedGaps, gap.gapId = gapId ∧ gap.closedTsMs = none ∧
      ∃ row closeSeq, after.db.feedGaps =
          store.db.feedGaps.map (closedRow gapId tsMs closeSeq) ∧
        after.db.events = store.db.events ++ [row] ∧ closeSeq = store.db.events.length + 1 ∧
        row.kind = EventKind.wsReconnected.asStr ∧
        Closes lib { gap with closedTsMs := some tsMs, closeSeq := some (closeSeq : Int) } row := by
  rcases closeGap_cases run with ⟨rfl, _⟩ | ⟨gap, member, named, isOpen, appended, _, append, same⟩
  · exact .inl rfl
  · have grows := appendInTx_ok consistent.headed append
    obtain ⟨row, events, kind, seq, stamped, commits⟩ := grows.committed
    refine .inr ⟨gap, member, named, isOpen, row, appended.seq, ?_, ?_, grows.head.2.1, kind, ?_⟩
    · rw [same]
    · rw [same]
      exact events
    · refine ⟨congrArg some seq.symm, congrArg some stamped.symm, ?_⟩
      rw [stamped]
      change row.CommitsTo lib (closePayload gap.scope gap.gapId gap.openedTsMs tsMs)
      rw [named]
      exact commits

/-! ## What the other calls leave -/

/-- The kinds of the rows gaps are opened and closed with. -/
def gapKind : EventKind → Bool
  | .wsDisconnected | .wsReconnected => true
  | _ => false

/-- A call that writes no row of these kinds by hand. -/
def Call.sparesGaps {dec : Decimals} : Call dec → Bool
  | .append event => !gapKind event.kind
  | .recordOutcome _ kind _ _ => !gapKind kind
  | _ => true

def LedgerAct.sparesGaps {dec : Decimals} : LedgerAct dec → Bool
  | .call request => request.call.sparesGaps
  | .mark .. => true

/-- Preparing an event keeps every row. -/
theorem Prepared.keeps {db base : Db} {event : NewEvent} (prepared : Prepared db event base) :
    List.Forall₂ Kept db.events base.events := by
  cases prepared with
  | plain => exact List.forall₂_same.mpr fun row _ => .refl row
  | @tombstone seq reason tsMs row =>
      rw [events_tombstone, List.forall₂_map_right_iff]
      exact List.forall₂_same.mpr fun row _ => .tombstoned seq tsMs reason row

/-- A change keeps the rows of every other kind. -/
theorem Change.ofKind {genesis : String} {db changed : Db} {event : NewEvent}
    {idemKey : Option String} {appended : Appended}
    (change : Change lib genesis db event idemKey appended changed) {kind : EventKind}
    (other : event.kind ≠ kind) :
    List.Forall₂ Kept (ofKind kind db.events) (ofKind kind changed.events) := by
  obtain ⟨base, canonical, prepared, _, same⟩ := change.events
  rw [same, ofKind_concat_other fun named => other (EventKind.asStr_injective named)]
  exact ofKind_kept prepared.keeps kind

theorem ofKind_refl (kind : EventKind) (rows : List Row) :
    List.Forall₂ Kept (ofKind kind rows) (ofKind kind rows) :=
  List.forall₂_same.mpr fun row _ => .refl row

/-- A transaction that appends no row of a kind keeps those there are. -/
theorem Moves.ofKind {publish : Bool} {α ε : Type} {lift : LedgerError → ε}
    {allowed : NewEvent → Option String → Prop} {result : Except ε α}
    (moves : Moves lib handle publish lift allowed store result after) {kind : EventKind}
    (other : ∀ event idemKey, allowed event idemKey → event.kind ≠ kind) :
    List.Forall₂ Kept (ofKind kind store.db.events) (ofKind kind after.db.events) := by
  cases moves with
  | refused error => exact ofKind_refl kind _
  | idle value => exact ofKind_refl kind _
  | published value permitted change stored => exact change.ofKind (other _ _ permitted)
  | unpublished permitted change anchored failed => exact change.ofKind (other _ _ permitted)

/-- A transaction that appends an unkeyed row and nothing else. -/
theorem moves_unkeyed (consistent : Consistent lib (handle.genesis lib) store.db) {publish : Bool}
    {α : Type} {body : Result (Committed α)} {kind : EventKind} (plain : kind ≠ .payloadRedacted)
    (spec : ∀ done, body = .ok done → ∃ event appended, event.kind = kind ∧
      done.noted = some appended ∧ appendInTx lib store.db event = .ok (appended, done.db)) :
    Moves lib handle publish id (fun written _ => written.kind = kind) store
      (transact handle publish id store body).1 (transact handle publish id store body).2 := by
  refine moves_transact id fun done run => ?_
  obtain ⟨event, appended, rfl, noted, append⟩ := spec done run
  exact .inr ⟨event, none, appended, noted, rfl,
    change_of_appendInTx (.plain plain) consistent.headed append done.db.feedGaps⟩

/-- **What the other calls leave**: the rows gaps were opened and closed with. -/
theorem Tracks.step_ofKind {behind : Nat} (tracks : Tracks lib handle behind store)
    {request : Request dec} (spares : request.call.sparesGaps = true)
    (opens : request.call.opens = none) (closes : ∀ gapId tsMs, request.call ≠ .closeGap gapId tsMs)
    (step : Step lib dec handle store request after) {kind : EventKind}
    (gap : gapKind kind = true) :
    List.Forall₂ Kept (ofKind kind store.db.events) (ofKind kind after.db.events) := by
  have consistent := tracks.consistent
  have written
      (named : ∀ event idemKey, Writes dec request.call event idemKey → event.kind ≠ kind) :
      List.Forall₂ Kept (ofKind kind store.db.events) (ofKind kind after.db.events) := by
    obtain ⟨reply, moved⟩ := tracks.moved step
    cases moved with
    | unchanged => exact ofKind_refl kind _
    | published written change => exact change.ofKind (named _ _ written)
    | unpublished written change => exact change.ofKind (named _ _ written)
  have apart {other : EventKind} (spared : gapKind other = false) : other ≠ kind := by
    rintro rfl
    rw [gap] at spared
    cases spared
  obtain ⟨call, publish⟩ := request
  have step : (perform lib dec handle ⟨call, publish⟩ store).2 = after := step
  subst step
  cases call with
  | append event =>
      change List.Forall₂ Kept _
        (ofKind kind (Ledger.append lib handle publish event store).2.db.events)
      unfold Ledger.append
      cases door : refuseOneDoorKind event.kind with
      | error error => exact ofKind_refl kind _
      | ok done =>
          have spared : gapKind event.kind = false := by simpa [Call.sparesGaps] using spares
          refine Moves.ofKind (moves_unkeyed consistent (notRedaction_of_door door)
            fun done run => ?_) fun _ _ named => named ▸ apart spared
          obtain ⟨⟨appended, grown⟩, append, run⟩ := bind_eq_ok run
          cases run
          exact ⟨event, appended, rfl, rfl, append⟩
  | recordIntent intent =>
      have intends : EventKind.orderIntent ≠ .payloadRedacted := nofun
      refine Moves.ofKind (moves_unkeyed consistent intends fun done run => ?_)
        fun _ _ named => named ▸ apart rfl
      obtain ⟨⟨appended, grown⟩, append, run⟩ := bind_eq_ok run
      cases run
      exact ⟨_, appended, rfl, rfl, append⟩
  | recordOutcome receipt named tsMs outcome =>
      have spared : gapKind named = false := by simpa [Call.sparesGaps] using spares
      by_cases plain : named = .payloadRedacted
      · subst plain
        exact ofKind_refl kind _
      · refine Moves.ofKind (moves_unkeyed consistent plain fun done run => ?_)
          fun _ _ same => same ▸ apart spared
        obtain ⟨_, _, run⟩ := bind_eq_ok run
        obtain ⟨_, _, run⟩ := bind_eq_ok run
        obtain ⟨_, _, run⟩ := bind_eq_ok run
        split at run
        · cases run
        · obtain ⟨_, _, run⟩ := bind_eq_ok run
          obtain ⟨⟨appended, grown⟩, append, run⟩ := bind_eq_ok run
          cases run
          exact ⟨_, appended, rfl, rfl, append⟩
  | recordFill fill =>
      apply written
      intro event idemKey writes
      cases writes <;> exact apart rfl
  | redact seq reason tsMs =>
      apply written
      intro event idemKey writes
      cases writes
      exact apart rfl
  | openGap => cases opens
  | closeGap gapId tsMs => exact absurd rfl (closes gapId tsMs)
  | begin registry account clearance expectedRevision atMs =>
      apply written
      intro event idemKey writes
      cases writes
      exact apart rfl
  | resolve receipt resolution atMs =>
      apply written
      intro event idemKey writes
      cases writes
      exact apart rfl
  | journal event idemKey =>
      apply written
      intro event idemKey writes
      cases writes with
      | journal other =>
          apply apart
          cases named : event.kind <;> rw [named] at other <;> first | rfl | cases other
  | reopen =>
      apply written
      intro event idemKey writes
      cases writes

/-! ## What a step keeps -/

/-- The table and the chain agree at the start, where both are empty. -/
theorem GapsChained.began : GapsChained lib (Ledger.opened lib handle).db where
  opened := .nil
  closed := ⟨[], .refl [], .nil⟩
  sound := nofun

/-- The two records agree while the gaps stay and their rows are kept. -/
theorem GapsChained.rows {db grown : Db} (chained : GapsChained lib db)
    (gaps : grown.feedGaps = db.feedGaps)
    (kept : ∀ kind, gapKind kind = true →
      List.Forall₂ Kept (ofKind kind db.events) (ofKind kind grown.events)) :
    GapsChained lib grown where
  opened := by
    rw [gaps]
    exact forall₂_compose (fun _ _ _ opens kept => opens.kept kept) chained.opened (kept _ rfl)
  closed := by
    obtain ⟨order, perm, closes⟩ := chained.closed
    rw [gaps]
    exact ⟨order, perm,
      forall₂_compose (fun _ _ _ closes kept => closes.kept kept) closes (kept _ rfl)⟩
  sound := by
    rw [gaps]
    exact chained.sound

/-- A gap and the row that opens it go into both records. -/
theorem GapsChained.add {db grown : Db} (chained : GapsChained lib db) {gap : GapRow} {row : Row}
    (gaps : grown.feedGaps = db.feedGaps ++ [gap]) (events : grown.events = db.events ++ [row])
    (isOpen : gap.closedTsMs = none) (sound : gap.Sound)
    (kind : row.kind = EventKind.wsDisconnected.asStr) (opens : Opens lib gap row) :
    GapsChained lib grown where
  opened := by
    rw [gaps, events, ofKind_concat_same kind]
    exact List.rel_append chained.opened (.cons opens .nil)
  closed := by
    have other : row.kind ≠ EventKind.wsReconnected.asStr := by
      rw [kind]
      decide
    have unclosed : [gap].filter GapRow.isClosed = [] := by
      simp [GapRow.isClosed, isOpen]
    rw [gaps, events, ofKind_concat_other other, List.filter_append, unclosed, List.append_nil]
    exact chained.closed
  sound held member := by
    rw [gaps] at member
    rcases List.mem_append.mp member with older | last
    · exact chained.sound held older
    · rw [List.mem_singleton.mp last]
      exact sound

/-- A gap that changes where its opening row does not say keeps that row. -/
theorem opens_map {gaps : List GapRow} {rows : List Row} {change : GapRow → GapRow}
    (opens : List.Forall₂ (Opens lib) gaps rows)
    (keeps : ∀ gap, (change gap).openSeq = gap.openSeq ∧ (change gap).openedTsMs = gap.openedTsMs ∧
      (change gap).scope = gap.scope ∧ (change gap).note = gap.note) :
    List.Forall₂ (Opens lib) (gaps.map change) rows := by
  rw [List.forall₂_map_left_iff]
  refine opens.imp fun gap row opened => ?_
  obtain ⟨seq, tsMs, scope, note⟩ := keeps gap
  refine ⟨opened.seq.trans seq.symm, opened.tsMs.trans tsMs.symm, ?_⟩
  rw [scope, note]
  exact opened.commits

/-- A gap and the row that closes it go into both records. -/
theorem GapsChained.close {db grown : Db} (chained : GapsChained lib db)
    (single : SingleGaps db.feedGaps) (positions : SoundRows lib (handle.genesis lib) db.events)
    {gap : GapRow} {row : Row} {tsMs : Int64} {closeSeq : Nat} (member : gap ∈ db.feedGaps)
    (isOpen : gap.closedTsMs = none)
    (gaps : grown.feedGaps = db.feedGaps.map (closedRow gap.gapId tsMs closeSeq))
    (events : grown.events = db.events ++ [row]) (last : closeSeq = db.events.length + 1)
    (kind : row.kind = EventKind.wsReconnected.asStr)
    (closes : Closes lib { gap with closedTsMs := some tsMs, closeSeq := some (closeSeq : Int) }
      row) : GapsChained lib grown where
  opened := by
    have other : row.kind ≠ EventKind.wsDisconnected.asStr := by
      rw [kind]
      decide
    rw [gaps, events, ofKind_concat_other other]
    apply opens_map chained.opened
    intro held
    unfold closedRow
    split <;> exact ⟨rfl, rfl, rfl, rfl⟩
  closed := by
    obtain ⟨order, perm, closed⟩ := chained.closed
    have others : ∀ other : GapRow, other.gapId ≠ gap.gapId →
        closedRow gap.gapId tsMs closeSeq other = other := fun _ apart => if_neg apart
    obtain ⟨before, after, same, changed⟩ := exists_split_of_key single.ids member others
    have here : closedRow gap.gapId tsMs closeSeq gap =
        { gap with closedTsMs := some tsMs, closeSeq := some (closeSeq : Int) } := if_pos rfl
    have unclosed : gap.isClosed = false := by simp [GapRow.isClosed, isOpen]
    have nowClosed : (closedRow gap.gapId tsMs closeSeq gap).isClosed = true := by rw [here]; rfl
    refine ⟨order ++ [closedRow gap.gapId tsMs closeSeq gap], ?_, ?_⟩
    · rw [gaps, changed]
      rw [same] at perm
      rw [List.filter_append, List.filter_cons, unclosed, if_neg Bool.false_ne_true] at perm
      rw [List.filter_append, List.filter_cons, if_pos nowClosed]
      exact (List.perm_append_singleton _ _).trans
        ((perm.cons _).trans List.perm_middle.symm)
    · rw [events, ofKind_concat_same kind, here]
      exact List.rel_append closed (.cons closes .nil)
  sound held inside := by
    rw [gaps] at inside
    obtain ⟨older, there, rfl⟩ := List.mem_map.mp inside
    have sound := chained.sound older there
    unfold closedRow
    split
    · refine ⟨rfl, ?_, fun _ => nofun⟩
      rintro _ ⟨⟩
      -- the row that opened the gap has a position of the chain, and the new row is past them all
      obtain ⟨opener, opened, opens⟩ := forall₂_left_of_right chained.opened.flip there
      obtain ⟨index, found, position⟩ := positions.index (List.mem_filter.mp opened).1
      obtain ⟨bound, _⟩ := List.getElem?_eq_some_iff.mp found
      have seq := opens.seq
      change older.openSeq < (closeSeq : Int)
      omega
    · exact sound

/-- Marking a gap neither opens nor closes it. -/
theorem isClosed_markedRow (gapId : Int) (tsMs : Int64) (row : GapRow) :
    (markedRow gapId tsMs row).isClosed = row.isClosed := by
  unfold markedRow
  split <;> rfl

/-- A mark leaves both records. -/
theorem GapsChained.mark {db marked : Db} (chained : GapsChained lib db)
    (single : SingleGaps db.feedGaps) {gap : GapRow} {tsMs : Int64} (member : gap ∈ db.feedGaps)
    (closed : gap.closedTsMs ≠ none)
    (gaps : marked.feedGaps = db.feedGaps.map (markedRow gap.gapId tsMs))
    (events : marked.events = db.events) : GapsChained lib marked where
  opened := by
    rw [gaps, events]
    apply opens_map chained.opened
    intro held
    unfold markedRow
    split <;> exact ⟨rfl, rfl, rfl, rfl⟩
  closed := by
    obtain ⟨order, perm, closes⟩ := chained.closed
    have same : GapRow.isClosed ∘ markedRow gap.gapId tsMs = GapRow.isClosed := by
      funext row
      exact isClosed_markedRow gap.gapId tsMs row
    refine ⟨order.map (markedRow gap.gapId tsMs), ?_, ?_⟩
    · rw [gaps, List.filter_map, same]
      exact perm.map _
    · rw [events, List.forall₂_map_left_iff]
      refine closes.imp fun held row closes => ?_
      unfold markedRow
      split <;> exact ⟨closes.seq, closes.tsMs, closes.commits⟩
  sound held inside := by
    rw [gaps] at inside
    obtain ⟨older, there, rfl⟩ := List.mem_map.mp inside
    have sound := chained.sound older there
    unfold markedRow
    split
    · rename_i named
      have same : older = gap := List.inj_on_of_nodup_map single.ids there member named
      refine ⟨sound.within, sound.later, fun _ => ?_⟩
      rw [same]
      exact closed
    · exact sound

/-- **What a step keeps**: the two records of the gaps agree. -/
theorem GapsChained.step {behind : Nat} (tracks : Tracks lib handle behind store)
    (single : SingleGaps store.db.feedGaps) (chained : GapsChained lib store.db)
    {act : LedgerAct dec} (spares : act.sparesGaps = true)
    (step : LedgerStep lib dec handle store act after) : GapsChained lib after.db := by
  have consistent := tracks.consistent
  cases act with
  | mark gapId tsMs =>
      have step : (markGapReconciled gapId tsMs store).2 = after := step
      subst step
      rcases markGapReconciled_cases gapId tsMs store with
        ⟨_, same⟩ | ⟨gap, member, rfl, closed, same⟩
      · rwa [same]
      · rw [same]
        exact chained.mark single member closed rfl rfl
  | call request =>
      have moved : Step lib dec handle store request after := step
      have step : (perform lib dec handle request store).2 = after := step
      have others (opens : request.call.opens = none)
          (closes : ∀ gapId tsMs, request.call ≠ .closeGap gapId tsMs) :
          GapsChained lib after.db :=
        chained.rows (step ▸ perform_gaps consistent request opens closes) fun _ gap =>
          tracks.step_ofKind spares opens closes moved gap
      obtain ⟨call, publish⟩ := request
      cases call with
      | openGap scope tsMs note =>
          have ran : openGap lib handle publish scope tsMs note store =
              ((openGap lib handle publish scope tsMs note store).1, after) :=
            Prod.ext rfl step
          rcases openGap_chained consistent ran with
            same | ⟨_, gap, row, gaps, events, isOpen, sound, kind, opens⟩
          · rwa [same]
          · exact chained.add gaps events isOpen sound kind opens
      | closeGap gapId tsMs =>
          have ran : closeGap lib handle publish gapId tsMs store =
              ((closeGap lib handle publish gapId tsMs store).1, after) :=
            Prod.ext rfl step
          rcases closeGap_chained consistent ran with
            same | ⟨gap, member, rfl, isOpen, row, closeSeq, gaps, events, last, kind, closes⟩
          · rwa [same]
          · exact chained.close single consistent.rows member isOpen gaps events last kind closes
      | _ => exact others rfl nofun

/-- A later state of a gap: once closed it stays closed as it was. -/
structure GapRow.Later (gap held : GapRow) : Prop extends GapRow.Kept gap held where
  openedTsMs : held.openedTsMs = gap.openedTsMs
  note : held.note = gap.note
  closed : gap.closedTsMs ≠ none →
    held.closedTsMs = gap.closedTsMs ∧ held.closeSeq = gap.closeSeq

theorem GapRow.Later.refl (gap : GapRow) : GapRow.Later gap gap :=
  ⟨.refl gap, rfl, rfl, fun _ => ⟨rfl, rfl⟩⟩

/-- What became of a gap's row over two runs became of it over both. -/
theorem GapRow.Later.trans {first second third : GapRow} (earlier : GapRow.Later first second)
    (later : GapRow.Later second third) : GapRow.Later first third where
  toKept := earlier.toKept.trans later.toKept
  openedTsMs := later.openedTsMs.trans earlier.openedTsMs
  note := later.note.trans earlier.note
  closed closed := by
    obtain ⟨tsMs, seq⟩ := earlier.closed closed
    obtain ⟨tsMs', seq'⟩ := later.closed (by rw [tsMs]; exact closed)
    exact ⟨tsMs'.trans tsMs, seq'.trans seq⟩

/-- A step leaves every gap in a later state. -/
theorem SingleGaps.step_later (consistent : Consistent lib (handle.genesis lib) store.db)
    (single : SingleGaps store.db.feedGaps) {act : LedgerAct dec}
    (step : LedgerStep lib dec handle store act after) {gap : GapRow}
    (member : gap ∈ store.db.feedGaps) : ∃ held ∈ after.db.feedGaps, gap.Later held := by
  cases act with
  | mark gapId tsMs =>
      have step : (markGapReconciled gapId tsMs store).2 = after := step
      subst step
      rcases markGapReconciled_cases gapId tsMs store with ⟨_, same⟩ | ⟨_, _, _, _, same⟩
      · rw [same]
        exact ⟨gap, member, .refl gap⟩
      · rw [same]
        refine ⟨_, List.mem_map_of_mem member, ?_⟩
        unfold markedRow
        split
        · exact ⟨⟨rfl, rfl, rfl, fun _ => nofun⟩, rfl, rfl, fun _ => ⟨rfl, rfl⟩⟩
        · exact .refl gap
  | call request =>
      have step : (perform lib dec handle request store).2 = after := step
      obtain ⟨call, publish⟩ := request
      cases call with
      | openGap scope tsMs note =>
          have ran : openGap lib handle publish scope tsMs note store =
              ((openGap lib handle publish scope tsMs note store).1, after) :=
            Prod.ext rfl step
          rcases openGap_chained consistent ran with same | ⟨_, _, _, gaps, _⟩
          · exact ⟨gap, same ▸ member, .refl gap⟩
          · exact ⟨gap, gaps ▸ List.mem_append_left _ member, .refl gap⟩
      | closeGap gapId tsMs =>
          have ran : closeGap lib handle publish gapId tsMs store =
              ((closeGap lib handle publish gapId tsMs store).1, after) :=
            Prod.ext rfl step
          rcases closeGap_chained consistent ran with
            same | ⟨target, inside, named, isOpen, _, closeSeq, gaps, _⟩
          · exact ⟨gap, same ▸ member, .refl gap⟩
          · refine ⟨_, gaps ▸ List.mem_map_of_mem member, ?_⟩
            unfold closedRow
            split
            · rename_i here
              have same : gap = target :=
                List.inj_on_of_nodup_map single.ids member inside (here.trans named.symm)
              refine ⟨⟨rfl, rfl, rfl, id⟩, rfl, rfl, fun closed => absurd ?_ closed⟩
              rw [same]
              exact isOpen
            · exact .refl gap
      | _ =>
          have kept : after.db.feedGaps = store.db.feedGaps :=
            step ▸ perform_gaps consistent _ rfl nofun
          exact ⟨gap, kept ▸ member, .refl gap⟩

/-! ## What the calls refuse -/

/-- A gap as an opening of its scope returns it. -/
def GapRow.asOpen (gap : GapRow) : Gap :=
  ⟨gap.gapId, gap.scope, gap.openedTsMs, none, none, gap.openSeq.toNat, none, gap.note⟩

/-- The calls that change nothing: an opening of an open scope returns the open gap, and a close
or a mark of a gap that is not in the state for it is refused. -/
structure GapsGuarded (lib : Libraries) (handle : Handle) (store : Store) : Prop where
  reopened : ∀ gap ∈ store.db.feedGaps, gap.closedTsMs = none → ∀ publish tsMs note,
    openGap lib handle publish gap.scope tsMs note store = (.ok gap.asOpen, store)
  unknown : ∀ gapId, (∀ gap ∈ store.db.feedGaps, gap.gapId ≠ gapId) → ∀ publish tsMs,
    closeGap lib handle publish gapId tsMs store = (.error (.noSuchGap gapId), store) ∧
      markGapReconciled gapId tsMs store = (.error (.noSuchGap gapId), store)
  closed : ∀ gap ∈ store.db.feedGaps, gap.closedTsMs ≠ none → ∀ publish tsMs,
    closeGap lib handle publish gap.gapId tsMs store =
      (.error (.gapAlreadyClosed gap.gapId), store)
  stillOpen : ∀ gap ∈ store.db.feedGaps, gap.closedTsMs = none → ∀ tsMs,
    markGapReconciled gap.gapId tsMs store = (.error (.gapStillOpen gap.gapId), store)

/-- Where the gaps follow the chain, a call on a gap in the wrong state changes nothing: it is
refused, or answered with the gap that is open. -/
theorem GapsChained.guarded (positions : SoundRows lib (handle.genesis lib) store.db.events)
    (single : SingleGaps store.db.feedGaps) (chained : GapsChained lib store.db) :
    GapsGuarded lib handle store where
  reopened gap member isOpen publish tsMs note := by
    have found : store.db.feedGaps.find? (fun held =>
        held.scope = gap.scope ∧ held.closedTsMs = none) = some gap := by
      apply find?_of_only member
      · simp [isOpen]
      · intro other inside held
        simp only [decide_eq_true_eq] at held
        exact single.opens other inside gap member held.1 held.2 isOpen
    obtain ⟨opener, opened, opens⟩ := forall₂_left_of_right chained.opened.flip member
    obtain ⟨index, -, position⟩ := positions.index (List.mem_filter.mp opened).1
    have seq := opens.seq
    have positive : ¬ gap.openSeq < 0 := by omega
    rw [openGap, found]
    dsimp only
    rw [refuseIf, if_neg positive]
    rfl
  unknown gapId absent publish tsMs := by
    have noneThere : store.db.feedGaps.find? (fun gap => gap.gapId = gapId) = none := by
      apply List.find?_eq_none.mpr
      intro gap member
      simpa using absent gap member
    constructor
    · rw [closeGap, noneThere]
      rfl
    · rw [markGapReconciled, noneThere]
  closed gap member closed publish tsMs := by
    have found : store.db.feedGaps.find? (fun held => held.gapId = gap.gapId) = some gap :=
      find?_of_key single.ids member (decide_eq_true rfl) fun _ named => of_decide_eq_true named
    rw [closeGap, found]
    dsimp only
    rw [refuseIf, if_pos (Option.isSome_iff_ne_none.mpr closed)]
    rfl
  stillOpen gap member isOpen tsMs := by
    have found : store.db.feedGaps.find? (fun held => held.gapId = gap.gapId) = some gap :=
      find?_of_key single.ids member (decide_eq_true rfl) fun _ named => of_decide_eq_true named
    rw [markGapReconciled, found]
    exact if_pos isOpen

/-! ## Runs -/

/-- **What every run keeps**: the two records of the gaps agree. -/
theorem GapsChained.run {acts : List (LedgerAct dec)}
    (run : Run (LedgerStep lib dec handle) (Ledger.opened lib handle) acts store)
    (spares : ∀ act ∈ acts, act.sparesGaps = true) : GapsChained lib store.db := by
  induction run with
  | nil => exact .began
  | @snoc acts middle last act prior step ih =>
      obtain ⟨upheld, single⟩ := SingleGaps.run prior
      obtain ⟨behind, tracks⟩ := upheld.tracks
      have chained := ih fun other member => spares other (List.mem_append_left _ member)
      exact chained.step tracks single
        (spares act (List.mem_append_right _ (List.mem_singleton_self _))) step

/-- A run leaves every gap in a later state. -/
theorem SingleGaps.run_later (upheld : Upheld lib handle store)
    (single : SingleGaps store.db.feedGaps) {acts : List (LedgerAct dec)}
    (run : Run (LedgerStep lib dec handle) store acts after) {gap : GapRow}
    (member : gap ∈ store.db.feedGaps) : ∃ held ∈ after.db.feedGaps, gap.Later held := by
  suffices all : Upheld lib handle after ∧ SingleGaps after.db.feedGaps ∧
      ∃ held ∈ after.db.feedGaps, gap.Later held by exact all.2.2
  induction run with
  | nil => exact ⟨upheld, single, gap, member, .refl gap⟩
  | snoc prior step ih =>
      obtain ⟨upheld, single, held, inside, later⟩ := ih
      obtain ⟨last, there, later'⟩ := single.step_later upheld.consistent step inside
      exact ⟨(upheld.step step).1, single.step upheld.consistent step, last, there,
        later.trans later'⟩

/-- **The gap table and the chain stay in step.** Whatever calls open, close and mark gaps, no
scope has two open gaps, every gap has one row that opened it and every closed gap one row that
closed it, later than its open, and the chain has no other such rows; an opening of an open scope
changes nothing, a close or a mark of a gap that is not in the state for it is refused, and a gap
that is closed stays closed as it was. -/
theorem gaps_follow_chain {acts : List (LedgerAct dec)}
    (run : Run (LedgerStep lib dec handle) (opened lib handle) acts store)
    (spares : ∀ act ∈ acts, act.sparesGaps = true) :
    SingleGaps store.db.feedGaps ∧ GapsChained lib store.db ∧ GapsGuarded lib handle store ∧
      ∀ acts' after, Run (LedgerStep lib dec handle) store acts' after →
        ∀ gap ∈ store.db.feedGaps, ∃ held ∈ after.db.feedGaps, gap.Later held := by
  obtain ⟨upheld, single⟩ := SingleGaps.run run
  have chained : GapsChained lib store.db := .run run spares
  exact ⟨single, chained, chained.guarded upheld.consistent.rows single,
    fun _ _ run' _ member => single.run_later upheld run' member⟩

end Calls

namespace OneGap

/-- The compact reader and a checksum in place of the real libraries. -/
def lib : Libraries := .reference checksum

def handle : Handle := ⟨.testnet, false⟩

def down (tsMs : Int64) : Request Decimals.reference := ⟨.openGap "fills" tsMs none, true⟩

def up : Request Decimals.reference := ⟨.closeGap 1 5, true⟩

def once : Store := (perform lib Decimals.reference handle (down 3) (opened lib handle)).2

def twice : Store := (perform lib Decimals.reference handle (down 4) once).2

/-- The file once a feed that went down twice came back. -/
def restored : Store := (perform lib Decimals.reference handle up twice).2

/-- The sample loses its feed twice and has it restored. -/
theorem restored_run : Run (LedgerStep lib Decimals.reference handle) (opened lib handle)
    ([.call (down 3)] ++ [.call (down 4)] ++ [.call up]) restored := by
  have first : LedgerStep lib Decimals.reference handle (opened lib handle) (.call (down 3)) once :=
    rfl
  have second : LedgerStep lib Decimals.reference handle once (.call (down 4)) twice := rfl
  have third : LedgerStep lib Decimals.reference handle twice (.call up) restored := rfl
  exact .snoc (.snoc (.single first) second) third

/-- The gap is one, with two rows. -/
theorem restored_chained :
    restored.db.feedGaps = [⟨1, "fills", 3, some 5, none, 1, some 2, none⟩] ∧
      GapsChained lib restored.db := by
  refine ⟨by decide +kernel, (gaps_follow_chain restored_run ?_).2.1⟩
  intro act member
  simp only [List.mem_append, List.mem_singleton] at member
  rcases member with (rfl | rfl) | rfl <;> rfl

end OneGap

end Oppen.Ledger
