import Oppen.Ledger.FillKeys
import Oppen.Ledger.FillRows
import Oppen.Ledger.Gaps

/-! # The ledger with its gap marks

The calls on a ledger together with the mark that takes a gap off the work list. What one
step of either does to the gap rows and to the chain is said once; runs keep the identity
of every gap row and every recorded fill.
-/

namespace Oppen.Ledger

open Foundation Oppen.Json

/-- What happens to a ledger: a call, or the mark of a gap. -/
inductive LedgerAct (dec : Decimals) where
  | call (request : Request dec)
  | mark (gapId : Int) (tsMs : Int64)

/-- The scope of a call that opens a gap. -/
def Call.opens {dec : Decimals} : Call dec → Option String
  | .openGap scope .. => some scope
  | _ => none

/-- The scope an act may open a gap of. -/
def LedgerAct.opens {dec : Decimals} : LedgerAct dec → Option String
  | .call request => request.call.opens
  | .mark .. => none

/-- One step. The mark of a gap writes the table only, and no row of the chain. -/
def LedgerStep (lib : Libraries) (dec : Decimals) (handle : Handle) (before : Store)
    (act : LedgerAct dec) (after : Store) : Prop :=
  match act with
  | .call request => Step lib dec handle before request after
  | .mark gapId tsMs => (markGapReconciled gapId tsMs before).2 = after

/-- A run of calls is a run of the ledger. -/
theorem ledgerRun_of_run {lib : Libraries} {dec : Decimals} {handle : Handle}
    {store after : Store} {requests : List (Request dec)}
    (run : Run (Step lib dec handle) store requests after) :
    Run (LedgerStep lib dec handle) store (requests.map .call) after := by
  induction run with
  | nil => exact .nil
  | snoc _ step ih =>
      rw [List.map_append]
      exact .snoc ih step

/-! ## Gap rows -/

/-- A later state of a gap row: once reconciled it stays so. -/
structure GapRow.Kept (row held : GapRow) : Prop where
  gapId : held.gapId = row.gapId
  scope : held.scope = row.scope
  openSeq : held.openSeq = row.openSeq
  reconciled : row.reconciledTsMs ≠ none → held.reconciledTsMs ≠ none

/-- A later state of a gap row that nobody marked. -/
structure GapRow.Unmarked (row held : GapRow) : Prop extends GapRow.Kept row held where
  unmarked : held.reconciledTsMs = row.reconciledTsMs

/-- A later state of a gap row when one gap was marked. -/
structure GapRow.MarkedAs (target : Int) (row held : GapRow) : Prop extends
    GapRow.Kept row held where
  marked : held.reconciledTsMs = row.reconciledTsMs ∨ row.gapId = target

theorem GapRow.Unmarked.refl (row : GapRow) : GapRow.Unmarked row row := ⟨⟨rfl, rfl, rfl, id⟩, rfl⟩

theorem GapRow.Kept.refl (row : GapRow) : GapRow.Kept row row := ⟨rfl, rfl, rfl, id⟩

/-- What two calls each keep of a gap's row, they keep together. -/
theorem GapRow.Kept.trans {first second third : GapRow} (earlier : GapRow.Kept first second)
    (later : GapRow.Kept second third) : GapRow.Kept first third where
  gapId := later.gapId.trans earlier.gapId
  scope := later.scope.trans earlier.scope
  openSeq := later.openSeq.trans earlier.openSeq
  reconciled := later.reconciled ∘ earlier.reconciled

/-- A row just opened: under a new id, after every row of the chain, and not reconciled. -/
structure GapRow.IsOpened (db : Db) (scope : String) (row : GapRow) : Prop where
  gapId : row.gapId = nextGapId db.feedGaps
  scope : row.scope = scope
  openSeq : row.openSeq = ((db.events.length + 1 : Nat) : Int)
  unreconciled : row.reconciledTsMs = none

/-- The gap rows were kept as the relation says, and at most one was added, of this scope. -/
def GapsGrow (relates : GapRow → GapRow → Prop) (opens : Option String)
    (before after : Db) : Prop :=
  ∃ kept, List.Forall₂ relates before.feedGaps kept ∧ (after.feedGaps = kept ∨
    ∃ scope ∈ opens, ∃ row, row.IsOpened before scope ∧ after.feedGaps = kept ++ [row])

/-- A call that leaves the table of gaps as it is lets it grow by nothing. -/
theorem GapsGrow.unchanged {opens : Option String} {before after : Db}
    (same : after.feedGaps = before.feedGaps) : GapsGrow GapRow.Unmarked opens before after :=
  ⟨before.feedGaps, List.forall₂_same.mpr fun row _ => .refl row, .inl same⟩

/-- A call that changes each row of the table keeps it, where the change keeps each row. -/
theorem GapsGrow.mapped {relates : GapRow → GapRow → Prop} {opens : Option String}
    {before after : Db} (change : GapRow → GapRow)
    (same : after.feedGaps = before.feedGaps.map change) (keeps : ∀ row, relates row (change row)) :
    GapsGrow relates opens before after := by
  refine ⟨_, ?_, .inl same⟩
  rw [List.forall₂_map_right_iff]
  exact List.forall₂_same.mpr fun row _ => keeps row

/-- A table that grows in one sense grows in a wider one. -/
theorem GapsGrow.mono {relates wider : GapRow → GapRow → Prop} {opens : Option String}
    {before after : Db} (grow : GapsGrow relates opens before after)
    (within : ∀ row held, relates row held → wider row held) :
    GapsGrow wider opens before after := by
  obtain ⟨kept, keeps, grown⟩ := grow
  exact ⟨kept, keeps.imp within, grown⟩

/-- Where a gap row of a grown table comes from. -/
theorem GapsGrow.row {relates : GapRow → GapRow → Prop} {opens : Option String} {before after : Db}
    (grow : GapsGrow relates opens before after) {row : GapRow} (member : row ∈ after.feedGaps) :
    (∃ older ∈ before.feedGaps, relates older row) ∨
      ∃ scope ∈ opens, row.IsOpened before scope := by
  obtain ⟨kept, keeps, same | ⟨scope, opened, new, isOpened, same⟩⟩ := grow
  · exact .inl (forall₂_left_of_right keeps (same ▸ member))
  · rw [same] at member
    rcases List.mem_append.mp member with older | last
    · exact .inl (forall₂_left_of_right keeps older)
    · exact .inr ⟨scope, opened, List.mem_singleton.mp last ▸ isOpened⟩

/-- A gap row is still there later. -/
theorem GapsGrow.kept {relates : GapRow → GapRow → Prop} {opens : Option String} {before after : Db}
    (grow : GapsGrow relates opens before after) {row : GapRow} (member : row ∈ before.feedGaps) :
    ∃ held ∈ after.feedGaps, relates row held := by
  obtain ⟨kept, keeps, grown⟩ := grow
  obtain ⟨held, inside, relates⟩ := forall₂_left_of_right keeps.flip member
  rcases grown with same | ⟨_, _, _, _, same⟩
  · exact ⟨held, same ▸ inside, relates⟩
  · exact ⟨held, same ▸ List.mem_append_left _ inside, relates⟩

/-- The next id is above every id of the table. -/
theorem lt_nextGapId {gaps : List GapRow} {row : GapRow} (member : row ∈ gaps) :
    row.gapId < nextGapId gaps := by
  have bound : ∀ (gaps : List GapRow) (greatest : Int),
      greatest ≤ gaps.foldl (fun greatest gap => max greatest gap.gapId) greatest ∧
        ∀ row ∈ gaps, row.gapId ≤
          gaps.foldl (fun greatest gap => max greatest gap.gapId) greatest := by
    intro gaps
    induction gaps with
    | nil => exact fun _ => ⟨le_rfl, fun _ member => absurd member List.not_mem_nil⟩
    | cons gap rest ih =>
        intro greatest
        obtain ⟨above, within⟩ := ih (max greatest gap.gapId)
        refine ⟨(le_max_left _ _).trans above, fun row member => ?_⟩
        rcases List.mem_cons.mp member with rfl | later
        · exact (le_max_right _ _).trans above
        · exact within row later
  exact Int.lt_add_one_of_le ((bound gaps 0).2 row member)

/-- Rows that are kept have the ids they had. -/
theorem map_gapId_kept {rows kept : List GapRow} (keeps : List.Forall₂ GapRow.Kept rows kept) :
    kept.map GapRow.gapId = rows.map GapRow.gapId := by
  induction keeps with
  | nil => rfl
  | cons held _ ih => rw [List.map_cons, List.map_cons, held.gapId, ih]

/-- Gap ids stay distinct. -/
theorem GapsGrow.ids {opens : Option String} {before after : Db}
    (grow : GapsGrow GapRow.Kept opens before after)
    (distinct : (before.feedGaps.map GapRow.gapId).Nodup) :
    (after.feedGaps.map GapRow.gapId).Nodup := by
  obtain ⟨kept, keeps, grown⟩ := grow
  have same := map_gapId_kept keeps
  rcases grown with rows | ⟨_, _, row, opened, rows⟩
  · rwa [rows, same]
  · rw [rows, List.map_append, same]
    refine List.nodup_append.mpr ⟨distinct, List.nodup_singleton _, ?_⟩
    intro id inside other last equal
    obtain rfl := List.mem_singleton.mp last
    obtain ⟨older, member, rfl⟩ := List.mem_map.mp inside
    exact absurd (equal.trans opened.gapId) (lt_nextGapId member).ne

section Calls

variable {lib : Libraries} {dec : Decimals} {handle : Handle} {store after : Store}

/-- An append leaves the table of gaps as it is. -/
theorem Grows.gaps {genesis : String} {db grown : Db} {event : NewEvent} {idemKey : Option String}
    {appended : Appended} (grows : Grows lib genesis db event idemKey appended grown) :
    grown.feedGaps = db.feedGaps := by
  obtain ⟨canonical, _, _, _, rfl⟩ := grows.row
  rfl

/-- A transaction that leaves the gap rows leaves them. -/
theorem transact_gaps {publish : Bool} {α ε : Type} {lift : LedgerError → ε}
    {body : Except ε (Committed α)}
    (spec : ∀ done, body = .ok done → done.db.feedGaps = store.db.feedGaps) :
    (transact handle publish lift store body).2.db.feedGaps = store.db.feedGaps := by
  cases run : transact handle publish lift store body with
  | mk result after =>
      rcases transact_outcome run with ⟨rfl, _⟩ | ⟨done, ran, same, _⟩
      · rfl
      · exact (congrArg Db.feedGaps same).trans (spec done ran)

/-- Opening a network's file leaves its gap rows. -/
theorem openAnchored_gaps (publish : Bool) :
    (openAnchored lib handle publish store).2.db.feedGaps = store.db.feedGaps := by
  have bound {db : Db} (run : bindNetwork lib handle store.db = .ok db) :
      db.feedGaps = store.db.feedGaps := by
    unfold bindNetwork at run
    split at run
    · split at run
      · cases run
      · cases run
        rfl
    · cases run
      rfl
  unfold openAnchored
  split
  · rfl
  · rename_i db run
    dsimp only
    split
    · split
      · exact bound run
      · unfold noteHead
        split <;> [split; skip] <;> exact bound run
    · exact bound run

/-- A call that neither opens nor closes a gap leaves the gap rows. -/
theorem perform_gaps (consistent : Consistent lib (handle.genesis lib) store.db)
    (request : Request dec) (opens : request.call.opens = none)
    (closes : ∀ gapId tsMs, request.call ≠ .closeGap gapId tsMs) :
    (perform lib dec handle request store).2.db.feedGaps = store.db.feedGaps := by
  obtain ⟨call, publish⟩ := request
  cases call with
  | append event =>
      change (Ledger.append lib handle publish event store).2.db.feedGaps = _
      unfold Ledger.append
      split
      · rfl
      · refine transact_gaps fun done run => ?_
        obtain ⟨_, append, run⟩ := bind_eq_ok run
        cases run
        exact appendInTx_gaps append
  | recordIntent intent =>
      refine transact_gaps fun done run => ?_
      obtain ⟨_, append, run⟩ := bind_eq_ok run
      cases run
      exact appendInTx_gaps append
  | recordOutcome receipt kind tsMs outcome =>
      refine transact_gaps fun done run => ?_
      obtain ⟨_, _, run⟩ := bind_eq_ok run
      obtain ⟨_, _, run⟩ := bind_eq_ok run
      obtain ⟨_, _, run⟩ := bind_eq_ok run
      split at run
      · cases run
      · obtain ⟨_, _, run⟩ := bind_eq_ok run
        obtain ⟨_, append, run⟩ := bind_eq_ok run
        cases run
        exact appendInTx_gaps append
  | recordFill fill =>
      refine transact_gaps fun done run => ?_
      cases insertFill_ok consistent run with
      | duplicate => rfl
      | recorded grows => exact grows.gaps
      | latched _ _ grows => exact grows.gaps
  | redact seq reason tsMs =>
      refine transact_gaps fun done run => ?_
      obtain ⟨_, _, run⟩ := bind_eq_ok run
      split at run
      · cases run
      · obtain ⟨_, _, run⟩ := bind_eq_ok run
        obtain ⟨_, _, run⟩ := bind_eq_ok run
        obtain ⟨⟨_, _⟩, append, run⟩ := bind_eq_ok run
        cases run
        exact (appendInTx_gaps append).trans rfl
  | openGap => cases opens
  | closeGap gapId tsMs => exact absurd rfl (closes gapId tsMs)
  | begin registry account clearance expectedRevision atMs =>
      refine transact_gaps fun done run => ?_
      obtain ⟨_, _, _, _, _, _, db, _, _, _, _, _, _, grows, _, rfl⟩ :=
        (beginBody_ok consistent run).reserved
      exact grows.gaps
  | resolve receipt resolution atMs =>
      refine transact_gaps fun done run => ?_
      obtain ⟨_, _, _, resolves⟩ := resolveBody_ok consistent run
      cases resolves with
      | repeated => rfl
      | resolved _ grows => exact grows.gaps
  | journal event idemKey =>
      refine transact_gaps fun done run => ?_
      obtain ⟨_, _, run⟩ := bind_eq_ok run
      obtain ⟨⟨_, _⟩, append, run⟩ := bind_eq_ok run
      cases run
      rcases appendKeyedInTx_ok consistent.headed append with ⟨row, _, grows, _⟩ | ⟨_, rfl, _⟩
      · exact grows.gaps
      · rfl
  | reopen => exact openAnchored_gaps publish

/-- Closing a gap does not mark it reconciled. -/
theorem closedRow_unmarked (gapId : Int) (tsMs : Int64) (closeSeq : Nat) (row : GapRow) :
    GapRow.Unmarked row (closedRow gapId tsMs closeSeq row) := by
  unfold closedRow
  split
  · exact ⟨⟨rfl, rfl, rfl, id⟩, rfl⟩
  · exact .refl row

/-- A gap is opened at the end of the chain. -/
theorem openGap_grow (consistent : Consistent lib (handle.genesis lib) store.db) (publish : Bool)
    (scope : String) (tsMs : Int64) (note : Option String) :
    GapsGrow GapRow.Unmarked (some scope) store.db
      (openGap lib handle publish scope tsMs note store).2.db := by
  cases run : openGap lib handle publish scope tsMs note store with
  | mk result after =>
  change GapsGrow _ _ _ after.db
  rcases openGap_cases run with ⟨rfl, _⟩ | ⟨_, _, _, _, same, _⟩ | ⟨_, appended, _, append, same, _⟩
  · exact .unchanged rfl
  · exact .unchanged (by rw [same])
  · have position := (appendInTx_ok consistent.headed append).head.2.1
    rw [same]
    refine ⟨store.db.feedGaps, List.forall₂_same.mpr fun row _ => .refl row,
      .inr ⟨scope, rfl, openedRow store.db.feedGaps scope tsMs note appended.seq, ?_, rfl⟩⟩
    exact ⟨rfl, rfl, congrArg Nat.cast position, rfl⟩

/-- A mark marks the rows of its gap. -/
theorem markGapReconciled_grow (gapId : Int) (tsMs : Int64) :
    GapsGrow (GapRow.MarkedAs gapId) none store.db (markGapReconciled gapId tsMs store).2.db := by
  have unchanged : GapsGrow (GapRow.MarkedAs gapId) none store.db store.db :=
    (GapsGrow.unchanged rfl).mono fun _ _ unmarked => ⟨unmarked.toKept, .inl unmarked.unmarked⟩
  rcases markGapReconciled_cases gapId tsMs store with ⟨_, same⟩ | ⟨_, _, _, _, same⟩
  · rw [same]
    exact unchanged
  · rw [same]
    refine .mapped _ rfl fun row => ?_
    unfold markedRow
    split
    · rename_i same
      exact ⟨⟨rfl, rfl, rfl, fun _ => nofun⟩, .inr same⟩
    · exact ⟨.refl row, .inl rfl⟩

/-- A mark that goes through marks every row of the gap. -/
theorem markGapReconciled_ok {gapId : Int} {tsMs : Int64}
    (run : markGapReconciled gapId tsMs store = (.ok (), after)) :
    (∀ row ∈ after.db.feedGaps, row.gapId = gapId → row.reconciledTsMs ≠ none) ∧
      after.db.events = store.db.events := by
  rcases markGapReconciled_cases gapId tsMs store with ⟨_, same⟩ | ⟨_, _, _, _, same⟩
  · cases same.symm.trans run
  · cases same.symm.trans run
    refine ⟨fun row member named => ?_, rfl⟩
    obtain ⟨held, _, rfl⟩ := List.mem_map.mp member
    unfold markedRow at named ⊢
    split
    · exact nofun
    · rename_i other
      rw [if_neg other] at named
      exact absurd named other

/-- A mark that is refused changes nothing. -/
theorem markGapReconciled_error {gapId : Int} {tsMs : Int64} {error : LedgerError}
    (run : markGapReconciled gapId tsMs store = (.error error, after)) : after = store := by
  rcases markGapReconciled_cases gapId tsMs store with ⟨_, same⟩ | ⟨_, _, _, _, same⟩
  · cases same.symm.trans run
    rfl
  · cases same.symm.trans run

/-- **What a call does to the gap rows**: it marks none. -/
theorem gaps_of_step (consistent : Consistent lib (handle.genesis lib) store.db)
    {request : Request dec} (step : Step lib dec handle store request after) :
    GapsGrow GapRow.Unmarked request.call.opens store.db after.db := by
  have step : (perform lib dec handle request store).2 = after := step
  obtain ⟨call, publish⟩ := request
  cases call with
  | openGap scope tsMs note => exact step ▸ openGap_grow consistent publish scope tsMs note
  | closeGap gapId tsMs =>
      have ran : closeGap lib handle publish gapId tsMs store =
          ((closeGap lib handle publish gapId tsMs store).1, after) :=
        Prod.ext rfl step
      rcases closeGap_gaps ran with ⟨same, _⟩ | ⟨closeSeq, same⟩
      · exact .unchanged (by rw [same])
      · exact .mapped _ same (closedRow_unmarked gapId tsMs closeSeq)
  | _ => exact .unchanged (step ▸ perform_gaps consistent _ rfl nofun)

/-- What every call does to the table of gaps: it opens one at most and keeps the others. -/
theorem LedgerStep.gaps (consistent : Consistent lib (handle.genesis lib) store.db)
    {act : LedgerAct dec} (step : LedgerStep lib dec handle store act after) :
    GapsGrow GapRow.Kept act.opens store.db after.db := by
  cases act with
  | mark gapId tsMs =>
      exact step ▸ (markGapReconciled_grow gapId tsMs).mono fun _ _ marked => marked.toKept
  | call request => exact (gaps_of_step consistent step).mono fun _ _ unmarked => unmarked.toKept

/-! ## The chain -/

/-- Marking a gap keeps the anchor in step, since no row is written for it. -/
theorem Tracks.mark {behind : Nat} (tracks : Tracks lib handle behind store) (gapId : Int)
    (tsMs : Int64) : Tracks lib handle behind (markGapReconciled gapId tsMs store).2 := by
  rcases markGapReconciled_cases gapId tsMs store with ⟨_, same⟩ | ⟨_, _, _, _, same⟩
  · rw [same]
    exact tracks
  · rw [same]
    exact ⟨tracks.network, ⟨tracks.consistent.rows, tracks.consistent.explained,
      by rintro _ ⟨⟩, tracks.consistent.head⟩, tracks.keys, tracks.anchored⟩

/-- Marking a gap writes no row. -/
theorem events_markGapReconciled (gapId : Int) (tsMs : Int64) :
    (markGapReconciled gapId tsMs store).2.db.events = store.db.events := by
  rcases markGapReconciled_cases gapId tsMs store with ⟨_, same⟩ | ⟨_, _, _, _, same⟩ <;> rw [same]

/-- What a ledger keeps: the file is consistent, and only fill rows carry a fill's key. -/
structure Upheld (lib : Libraries) (handle : Handle) (store : Store) : Prop where
  tracks : ∃ behind, Tracks lib handle behind store
  keyed : ∀ row ∈ store.db.events, ∀ key ∈ row.idemKey, isFillKey key = true →
    row.kind = EventKind.fill.asStr

/-- A ledger that was just opened is upheld. -/
theorem Upheld.opened : Upheld lib handle (opened lib handle) :=
  ⟨⟨0, opened_tracks⟩, fun _ member => absurd member List.not_mem_nil⟩

/-- An upheld ledger is consistent. -/
theorem Upheld.consistent (upheld : Upheld lib handle store) :
    Consistent lib (handle.genesis lib) store.db :=
  upheld.tracks.elim fun _ tracks => tracks.consistent

/-- A changed table has no new fill's key on another row. -/
theorem Change.keyed {genesis : String} {db changed : Db} {call : Call dec} {event : NewEvent}
    {idemKey : Option String} {appended : Appended}
    (change : Change lib genesis db event idemKey appended changed)
    (written : Writes dec call event idemKey)
    (keyed : ∀ row ∈ db.events, ∀ key ∈ row.idemKey, isFillKey key = true →
      row.kind = EventKind.fill.asStr) :
    ∀ row ∈ changed.events, ∀ key ∈ row.idemKey, isFillKey key = true →
      row.kind = EventKind.fill.asStr := by
  intro row member key named form
  rcases change.row_cases member with ⟨held, inside, kept⟩ | ⟨kind, same⟩
  · exact kept.kind.trans (keyed held inside key (kept.idemKey ▸ named) form)
  · rcases written.sourced with ⟨_, _, fill, _⟩ | ⟨_, notKey⟩
    · rw [kind, fill]
    · rw [notKey key (same ▸ named)] at form
      cases form

/-- **A step keeps what a ledger keeps**, and the chain only evolves. -/
theorem Upheld.step (upheld : Upheld lib handle store) {act : LedgerAct dec}
    (step : LedgerStep lib dec handle store act after) :
    Upheld lib handle after ∧ Evolves store.db after.db := by
  obtain ⟨behind, tracks⟩ := upheld.tracks
  cases act with
  | mark gapId tsMs =>
      have step : (markGapReconciled gapId tsMs store).2 = after := step
      have events := @events_markGapReconciled store gapId tsMs
      subst step
      refine ⟨⟨⟨behind, tracks.mark gapId tsMs⟩, by rw [events]; exact upheld.keyed⟩, ?_⟩
      exact ⟨store.db.events, [], events.trans (List.append_nil _).symm,
        List.forall₂_same.mpr fun row _ => .refl row⟩
  | call request =>
      have step : Step lib dec handle store request after := step
      obtain ⟨behind', tracks', _⟩ := tracks.step step
      refine ⟨⟨⟨behind', tracks'⟩, ?_⟩, tracks.evolves step⟩
      obtain ⟨_, moved⟩ := tracks.moved step
      cases moved with
      | unchanged => exact upheld.keyed
      | published written change => exact change.keyed written upheld.keyed
      | unpublished written change => exact change.keyed written upheld.keyed

/-- Every run keeps the ledger upheld and lets it evolve only. -/
theorem Upheld.run (upheld : Upheld lib handle store) {acts : List (LedgerAct dec)}
    (run : Run (LedgerStep lib dec handle) store acts after) :
    Upheld lib handle after ∧ Evolves store.db after.db := by
  refine run.invariant (fun after => Upheld lib handle after ∧ Evolves store.db after.db) ?_
    ⟨upheld, .refl _⟩
  rintro before act after ⟨upheld, evolves⟩ step
  obtain ⟨upheld', evolves'⟩ := upheld.step step
  exact ⟨upheld', evolves.trans evolves'⟩

/-- A run that opens no gap has no new gap row. -/
theorem Upheld.rows_kept (upheld : Upheld lib handle store) {acts : List (LedgerAct dec)}
    (run : Run (LedgerStep lib dec handle) store acts after)
    (opens : ∀ act ∈ acts, act.opens = none) :
    ∀ row ∈ after.db.feedGaps, ∃ older ∈ store.db.feedGaps, GapRow.Kept older row := by
  induction run with
  | nil => exact fun row member => ⟨row, member, .refl row⟩
  | @snoc acts middle last act prior step ih =>
      intro row member
      have newestLast := opens act (List.mem_append_right _ (List.mem_singleton_self _))
      rcases (step.gaps (upheld.run prior).1.consistent).row member with
        ⟨held, inside, kept⟩ | ⟨_, opened, _⟩
      · obtain ⟨older, here, kept'⟩ := ih
          (fun other inside => opens other (List.mem_append_left _ inside)) held inside
        exact ⟨older, here, kept'.trans kept⟩
      · rw [newestLast] at opened
        cases opened

/-- Recording fills leaves the gap rows. -/
theorem Upheld.gaps_of_fills (upheld : Upheld lib handle store) {requests : List (Request dec)}
    (run : Run (Step lib dec handle) store requests after)
    (fills : ∀ request ∈ requests, ∃ fill, request.call = .recordFill fill) :
    after.db.feedGaps = store.db.feedGaps := by
  induction run with
  | nil => rfl
  | @snoc requests middle last request prior step ih =>
      obtain ⟨fill, call⟩ := fills request (List.mem_append_right _ (List.mem_singleton_self _))
      have consistent := (upheld.run (ledgerRun_of_run prior)).1.consistent
      have kept := perform_gaps consistent request (by rw [call]; rfl) (by rw [call]; exact nofun)
      rw [show (perform lib dec handle request middle).2 = last from step] at kept
      exact kept.trans (ih fun other inside => fills other (List.mem_append_left _ inside))

/-! ## Recorded fills -/

/-- The fill is in the chain. -/
def Recorded (db : Db) (account : String) (tid : UInt64) : Prop :=
  ∃ row ∈ db.events, IsFillOf account tid row

/-- A fill that is recorded stays so. -/
theorem Recorded.evolves {before : Db} {account : String} {tid : UInt64}
    (recorded : Recorded before account tid) {after : Db} (evolves : Evolves before after) :
    Recorded after account tid := by
  obtain ⟨row, member, kind, keyed⟩ := recorded
  obtain ⟨held, inside, kept⟩ := evolves.row member
  exact ⟨held, inside, kept.kind.trans kind, kept.idemKey.trans keyed⟩

/-- **A fill offered without an error is in the chain.** -/
theorem Upheld.recordFill (upheld : Upheld lib handle store) {publish : Bool} {fill : NewFill}
    {appended : Option Appended}
    (run : recordFill lib dec handle publish fill store = (.ok appended, after)) :
    Recorded after.db fill.account fill.tid := by
  have step : LedgerStep lib dec handle store (.call ⟨.recordFill fill, publish⟩) after :=
    congrArg Prod.snd run
  have keyed := (upheld.step step).1.keyed
  suffices held : ∃ row ∈ after.db.events, row.idemKey = some (fillIdemKey fill.account fill.tid) by
    obtain ⟨row, member, same⟩ := held
    exact ⟨row, member, keyed row member _ same (isFillKey_fillIdemKey _ _), same⟩
  rcases transact_outcome run with ⟨_, _, _, failed⟩ | ⟨done, body, same, _⟩
  · cases failed
  · rw [same]
    cases insertFill_ok upheld.consistent body with
    | duplicate member keyed => exact ⟨_, member, keyed⟩
    | recorded grows =>
        obtain ⟨canonical, _, _, _, rfl⟩ := grows.row
        exact ⟨_, List.mem_append_right _ (List.mem_singleton_self _), rfl⟩
    | latched member keyed grows =>
        obtain ⟨canonical, _, _, _, rfl⟩ := grows.row
        exact ⟨_, List.mem_append_left _ member, keyed⟩

end Calls

end Oppen.Ledger
