import Oppen.Ledger.GapCalls

/-! # Open gaps

A feed is down once at a time: no scope has two open gaps. So a window that is opened, or found
open, and closed at once leaves no open gap of its scope and every other row as it was.
-/

namespace Oppen.Ledger

open Foundation

/-- Gap ids tell the rows apart, and no scope has two open gaps. The close of a scope therefore
closes the one gap it has open. -/
structure SingleGaps (rows : List GapRow) : Prop where
  ids : (rows.map GapRow.gapId).Nodup
  opens : ∀ row ∈ rows, ∀ other ∈ rows, row.scope = other.scope → row.closedTsMs = none →
    other.closedTsMs = none → row = other

/-- A row where a window of the scope was closed. -/
structure ClosedAs (scopes : List String) (tsMs : Int64) (row held : GapRow) : Prop where
  scope : held.scope = row.scope
  opened : held.openedTsMs = row.openedTsMs
  reconciled : held.reconciledTsMs = row.reconciledTsMs
  closed : held.closedTsMs = row.closedTsMs.or (if row.scope ∈ scopes then some tsMs else none)

/-- The rows where windows of these scopes were closed at once, some of them new. -/
structure WindowsClosed (scopes : List String) (tsMs : Int64) (before after : List GapRow) :
    Prop where
  kept : ∀ row ∈ before, ∃ held ∈ after, ClosedAs scopes tsMs row held
  only : ∀ held ∈ after, (∃ row ∈ before, ClosedAs scopes tsMs row held) ∨
    (held.scope ∈ scopes ∧ held.openedTsMs = tsMs ∧ held.closedTsMs = some tsMs)

/-- Closing the gaps of no scope closes nothing. -/
theorem WindowsClosed.none (tsMs : Int64) (rows : List GapRow) :
    WindowsClosed [] tsMs rows rows := by
  have same : ∀ row, ClosedAs [] tsMs row row := fun row => ⟨rfl, rfl, rfl, by simp⟩
  exact ⟨fun row member => ⟨row, member, same row⟩, fun row member => .inl ⟨row, member, same row⟩⟩

/-- A gap that was closed for one scope and then for others was closed for all of them. -/
theorem ClosedAs.trans {scope : String} {scopes : List String} {tsMs : Int64}
    {first second third : GapRow} (earlier : ClosedAs [scope] tsMs first second)
    (later : ClosedAs scopes tsMs second third) : ClosedAs (scope :: scopes) tsMs first third where
  scope := later.scope.trans earlier.scope
  opened := later.opened.trans earlier.opened
  reconciled := later.reconciled.trans earlier.reconciled
  closed := by
    rw [later.closed, earlier.closed, earlier.scope]
    by_cases here : first.scope = scope
    · simp [here]
    · simp [here]

/-- Closing the gaps of one scope and then those of others closes those of all. -/
theorem WindowsClosed.cons {scope : String} {scopes : List String} {tsMs : Int64}
    {before middle after : List GapRow} (earlier : WindowsClosed [scope] tsMs before middle)
    (later : WindowsClosed scopes tsMs middle after) :
    WindowsClosed (scope :: scopes) tsMs before after where
  kept row member := by
    obtain ⟨held, inside, closed⟩ := earlier.kept row member
    obtain ⟨last, there, closed'⟩ := later.kept held inside
    exact ⟨last, there, closed.trans closed'⟩
  only last member := by
    rcases later.only last member with ⟨held, inside, closed⟩ | ⟨named, opened, closed⟩
    · rcases earlier.only held inside with ⟨row, here, closed'⟩ | ⟨named, opened, closed'⟩
      · exact .inl ⟨row, here, closed'.trans closed⟩
      · refine .inr ⟨?_, closed.opened.trans opened, ?_⟩
        · rw [closed.scope, List.mem_singleton.mp named]
          exact List.mem_cons_self
        · rw [closed.closed, closed']
          rfl
    · exact .inr ⟨List.mem_cons_of_mem _ named, opened, closed⟩

/-! ## What the operations keep -/

/-- A table keeps one open gap for each scope when a change keeps the ids and the scopes and opens
none. -/
theorem SingleGaps.map {rows : List GapRow} (single : SingleGaps rows) (change : GapRow → GapRow)
    (ids : ∀ row, (change row).gapId = row.gapId) (scopes : ∀ row, (change row).scope = row.scope)
    (closed : ∀ row, (change row).closedTsMs = none → row.closedTsMs = none) :
    SingleGaps (rows.map change) where
  ids := by
    rw [List.map_map]
    exact (List.map_congr_left fun row _ => ids row) ▸ single.ids
  opens row member other member' same isOpen open' := by
    obtain ⟨first, inside, rfl⟩ := List.mem_map.mp member
    obtain ⟨second, inside', rfl⟩ := List.mem_map.mp member'
    rw [single.opens first inside second inside'
      ((scopes first).symm.trans (same.trans (scopes second)))
      (closed first isOpen) (closed second open')]

/-- A table keeps one open gap for each scope when a gap is added for a scope that has none open. -/
theorem SingleGaps.add {rows : List GapRow} (single : SingleGaps rows) {row : GapRow}
    (fresh : ∀ held ∈ rows, held.gapId ≠ row.gapId)
    (down : ∀ held ∈ rows, held.scope = row.scope → held.closedTsMs ≠ none) :
    SingleGaps (rows ++ [row]) where
  ids := by
    rw [List.map_append]
    refine List.nodup_append.mpr ⟨single.ids, List.nodup_singleton _, ?_⟩
    intro id inside other last
    obtain ⟨held, member, rfl⟩ := List.mem_map.mp inside
    rw [List.mem_singleton.mp last]
    exact fresh held member
  opens first member second member' same isOpen open' := by
    rcases List.mem_append.mp member with old | new
    · rcases List.mem_append.mp member' with old' | new'
      · exact single.opens first old second old' same isOpen open'
      · obtain rfl := List.mem_singleton.mp new'
        exact absurd isOpen (down first old same)
    · obtain rfl := List.mem_singleton.mp new
      rcases List.mem_append.mp member' with old' | new'
      · exact absurd open' (down second old' same.symm)
      · exact (List.mem_singleton.mp new').symm

/-- A table keeps one open gap for each scope when one is closed. -/
theorem SingleGaps.closed {rows : List GapRow} (single : SingleGaps rows) (gapId : Int)
    (tsMs : Int64) (closeSeq : Nat) : SingleGaps (rows.map (closedRow gapId tsMs closeSeq)) := by
  refine single.map _ (fun row => ?_) (fun row => ?_) fun row isOpen => ?_
  · exact (closedRow_unmarked gapId tsMs closeSeq row).gapId
  · exact (closedRow_unmarked gapId tsMs closeSeq row).scope
  · unfold closedRow at isOpen
    split at isOpen
    · cases isOpen
    · exact isOpen

section Calls

variable {lib : Libraries} {dec : Decimals} {handle : Handle} {store after : Store}

/-- A gap is added only where the scope is not down; otherwise the gap is the open one. -/
theorem openGap_rows {publish : Bool} {scope : String} {tsMs : Int64} {note : Option String}
    {result : Result Gap}
    (run : openGap lib handle publish scope tsMs note store = (result, after)) :
    (after.db.feedGaps = store.db.feedGaps ∧ ∀ gap, result = .ok gap →
      ∃ row ∈ store.db.feedGaps, row.scope = scope ∧ row.closedTsMs = none ∧
        row.gapId = gap.gapId) ∨
    ((∀ row ∈ store.db.feedGaps, row.scope = scope → row.closedTsMs ≠ none) ∧
      (∃ openSeq, after.db.feedGaps =
        store.db.feedGaps ++ [openedRow store.db.feedGaps scope tsMs note openSeq]) ∧
      ∀ gap, result = .ok gap → gap.gapId = nextGapId store.db.feedGaps) := by
  rcases openGap_cases run with
    ⟨rfl, error, rfl⟩ | ⟨row, member, named, isOpen, same, found⟩ |
      ⟨down, appended, _, _, same, next⟩
  · exact .inl ⟨rfl, nofun⟩
  · exact .inl ⟨by rw [same], fun gap ok => ⟨row, member, named, isOpen, (found gap ok).symm⟩⟩
  · exact .inr ⟨down, ⟨appended.seq, by rw [same]⟩, next⟩

/-- **What a step keeps**: no scope goes down twice. -/
theorem SingleGaps.step (consistent : Consistent lib (handle.genesis lib) store.db)
    (single : SingleGaps store.db.feedGaps) {act : LedgerAct dec}
    (step : LedgerStep lib dec handle store act after) : SingleGaps after.db.feedGaps := by
  cases act with
  | mark gapId tsMs =>
      have step : (markGapReconciled gapId tsMs store).2 = after := step
      subst step
      rcases markGapReconciled_cases gapId tsMs store with ⟨_, same⟩ | ⟨_, _, _, _, same⟩
      · rwa [same]
      · rw [same]
        refine single.map _ (fun row => ?_) (fun row => ?_) fun row isOpen => ?_
        · unfold markedRow
          split <;> rfl
        · unfold markedRow
          split <;> rfl
        · unfold markedRow at isOpen
          split at isOpen <;> exact isOpen
  | call request =>
      have step : (perform lib dec handle request store).2 = after := step
      obtain ⟨call, publish⟩ := request
      cases call with
      | openGap scope tsMs note =>
          have ran : openGap lib handle publish scope tsMs note store =
              ((openGap lib handle publish scope tsMs note store).1, after) :=
            Prod.ext rfl step
          rcases openGap_rows ran with ⟨same, _⟩ | ⟨down, ⟨openSeq, same⟩, _⟩
          · rwa [same]
          · rw [same]
            exact single.add (fun held member => (lt_nextGapId member).ne) down
      | closeGap gapId tsMs =>
          have ran : closeGap lib handle publish gapId tsMs store =
              ((closeGap lib handle publish gapId tsMs store).1, after) :=
            Prod.ext rfl step
          rcases closeGap_gaps ran with ⟨same, _⟩ | ⟨closeSeq, same⟩
          · rwa [same]
          · rw [same]
            exact single.closed gapId tsMs closeSeq
      | _ =>
          have kept : after.db.feedGaps = store.db.feedGaps :=
            step ▸ perform_gaps consistent _ rfl nofun
          rwa [kept]

/-- No run of calls and marks brings a scope down twice. -/
theorem SingleGaps.run {acts : List (LedgerAct dec)}
    (run : Run (LedgerStep lib dec handle) (opened lib handle) acts store) :
    Upheld lib handle store ∧ SingleGaps store.db.feedGaps := by
  refine run.invariant (fun store => Upheld lib handle store ∧ SingleGaps store.db.feedGaps) ?_
    ⟨.opened, ⟨.nil, nofun⟩⟩
  rintro before act after ⟨upheld, single⟩ step
  exact ⟨(upheld.step step).1, single.step upheld.consistent step⟩

/-- A window that was opened, or found open, and closed at once. -/
theorem SingleGaps.window (single : SingleGaps store.db.feedGaps) {publish : Bool × Bool}
    {scope : String} {tsMs : Int64} {note : Option String} {gap : Gap} {middle : Store}
    {appended : Appended}
    (opening : openGap lib handle publish.1 scope tsMs note store = (.ok gap, middle))
    (closing : closeGap lib handle publish.2 gap.gapId tsMs middle = (.ok appended, after)) :
    SingleGaps after.db.feedGaps ∧
      WindowsClosed [scope] tsMs store.db.feedGaps after.db.feedGaps := by
  obtain ⟨closeSeq, closed⟩ : ∃ closeSeq,
      after.db.feedGaps = middle.db.feedGaps.map (closedRow gap.gapId tsMs closeSeq) := by
    rcases closeGap_gaps closing with ⟨_, _, failed⟩ | closed
    · cases failed
    · exact closed
  rw [closed]
  rcases openGap_rows opening with ⟨same, found⟩ | ⟨down, ⟨openSeq, same⟩, next⟩
  · obtain ⟨isOpen, member, named, still, id⟩ := found gap rfl
    rw [same]
    refine ⟨single.closed _ _ _, ?_⟩
    have closes : ∀ row ∈ store.db.feedGaps,
        ClosedAs [scope] tsMs row (closedRow gap.gapId tsMs closeSeq row) := by
      intro row inside
      unfold closedRow
      split
      · rename_i this
        obtain rfl : row = isOpen :=
          List.inj_on_of_nodup_map single.ids inside member (this.trans id.symm)
        exact ⟨rfl, rfl, rfl, by simp [still, named]⟩
      · rename_i other
        refine ⟨rfl, rfl, rfl, ?_⟩
        by_cases here : row.scope = scope
        · cases ended : row.closedTsMs with
          | some => rfl
          | none =>
              have this := single.opens row inside isOpen member (here.trans named.symm) ended still
              exact absurd (this ▸ id) other
        · simp [here]
    refine ⟨fun row inside =>
      ⟨_, List.mem_map_of_mem inside, closes row inside⟩, fun held there => ?_⟩
    obtain ⟨row, inside, rfl⟩ := List.mem_map.mp there
    exact .inl ⟨row, inside, closes row inside⟩
  · have grown : SingleGaps middle.db.feedGaps := by
      rw [same]
      exact single.add (fun held member => (lt_nextGapId member).ne) down
    refine ⟨grown.closed _ _ _, ?_⟩
    have closes : ∀ row ∈ store.db.feedGaps,
        ClosedAs [scope] tsMs row (closedRow gap.gapId tsMs closeSeq row) := by
      intro row inside
      have other : row.gapId ≠ gap.gapId := by
        rw [next gap rfl]
        exact (lt_nextGapId inside).ne
      rw [closedRow, if_neg other]
      refine ⟨rfl, rfl, rfl, ?_⟩
      by_cases here : row.scope = scope
      · cases ended : row.closedTsMs with
        | some => rfl
        | none => exact absurd ended (down row inside here)
      · simp [here]
    rw [same, List.map_append, List.map_singleton]
    refine ⟨fun row inside => ⟨_, List.mem_append_left _ (List.mem_map_of_mem inside),
      closes row inside⟩, fun held there => ?_⟩
    rcases List.mem_append.mp there with old | new
    · obtain ⟨row, inside, rfl⟩ := List.mem_map.mp old
      exact .inl ⟨row, inside, closes row inside⟩
    · have named : (openedRow store.db.feedGaps scope tsMs note openSeq).gapId = gap.gapId :=
        (next gap rfl).symm
      rw [List.mem_singleton.mp new, closedRow, if_pos named]
      exact .inr ⟨List.mem_singleton_self _, rfl, rfl⟩

end Calls

end Oppen.Ledger
