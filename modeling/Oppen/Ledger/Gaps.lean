import Oppen.Ledger.Operations

/-! # The gap work list

The gaps whose window has not been proven backfilled, and the mark that takes one off
the list. Both leave the chain alone.
-/

namespace Oppen.Ledger

/-- A gap row as its readers see it. -/
def gapFromRow (row : GapRow) : Result Gap := do
  refuseIf (row.openSeq < 0) .seqOutOfRange
  refuseIf (∃ closeSeq ∈ row.closeSeq, closeSeq < 0) .seqOutOfRange
  return {
    gapId := row.gapId, scope := row.scope, openedTsMs := row.openedTsMs
    closedTsMs := row.closedTsMs, reconciledTsMs := row.reconciledTsMs
    openSeq := row.openSeq.toNat, closeSeq := row.closeSeq.map Int.toNat, note := row.note }

/-- `unreconciled_gaps`: the work list, oldest first. -/
def unreconciledGaps (db : Db) : Result (List Gap) :=
  (db.feedGaps.filter fun row => row.reconciledTsMs = none).mapM gapFromRow

/-- `mark_gap_reconciled`. -/
def markGapReconciled (gapId : Int) (tsMs : Int64) (store : Store) : Result Unit × Store :=
  match store.db.feedGaps.find? fun row => row.gapId = gapId with
  | none => (.error (.noSuchGap gapId), store)
  | some row =>
      if row.closedTsMs = none then (.error (.gapStillOpen gapId), store)
      else (.ok (), { store with
        db := { store.db with
          feedGaps := store.db.feedGaps.map fun held =>
            if held.gapId = gapId then { held with reconciledTsMs := some tsMs } else held } })

/-! ## What the operations do to the gap rows -/

section Specification

variable {lib : Libraries} {handle : Handle} {publish : Bool} {store after : Store}

/-- A transaction leaves the store as it was and returns its error, or commits its tables. -/
theorem transact_outcome {α ε : Type} {lift : LedgerError → ε} {body : Except ε (Committed α)}
    {result : Except ε α} (run : transact handle publish lift store body = (result, after)) :
    (after = store ∧ ∃ error, body = .error error ∧ result = .error error) ∨
      ∃ done, body = .ok done ∧ after.db = done.db ∧ ∀ value, result = .ok value →
        value = done.value := by
  unfold transact at run
  cases body with
  | error error =>
      cases run
      exact .inl ⟨rfl, error, rfl, rfl⟩
  | ok done =>
      refine .inr ⟨done, rfl, ?_⟩
      dsimp only at run
      split at run
      · cases run
        exact ⟨rfl, by rintro _ ⟨⟩; rfl⟩
      · rename_i appended _
        have kept : (noteHead handle publish { store with db := done.db } appended).2.db =
            done.db := by
          unfold noteHead
          split <;> [split; skip] <;> rfl
        split at run
        · rename_i published noted
          cases run
          rw [noted] at kept
          exact ⟨kept, by rintro _ ⟨⟩; rfl⟩
        · rename_i error failed noted
          cases run
          rw [noted] at kept
          exact ⟨kept, nofun⟩

/-- An append leaves the table of gaps as it is. -/
theorem appendInTx_gaps {db grown : Db} {event : NewEvent} {appended : Appended}
    (run : appendInTx lib db event = .ok (appended, grown)) : grown.feedGaps = db.feedGaps := by
  obtain ⟨row, _, run⟩ := bind_eq_ok run
  obtain ⟨_, _, run⟩ := bind_eq_ok run
  cases run
  rfl

/-- The row of a gap that was just opened. -/
def openedRow (gaps : List GapRow) (scope : String) (tsMs : Int64) (note : Option String)
    (openSeq : Nat) : GapRow :=
  ⟨nextGapId gaps, scope, tsMs, none, none, openSeq, none, note⟩

/-- The row of a gap once it is closed. -/
def closedRow (gapId : Int) (tsMs : Int64) (closeSeq : Nat) (row : GapRow) : GapRow :=
  if row.gapId = gapId then { row with closedTsMs := some tsMs, closeSeq := some closeSeq } else row

/-- The event a gap is opened with. -/
def openedEvent (scope : String) (tsMs : Int64) (note : Option String) : NewEvent where
  kind := .wsDisconnected
  tsMs := tsMs
  agentId := none
  payload := .ofFields [("scope", .string scope), ("note", .ofOption note)]
  snapshot := none

/-- The event a gap is closed with. -/
def closedEvent (gap : GapRow) (gapId : Int) (tsMs : Int64) : NewEvent where
  kind := .wsReconnected
  tsMs := tsMs
  agentId := none
  payload := .ofFields [("scope", .string gap.scope), ("gap_id", .ofInt gapId),
    ("down_ms", .ofInt (saturatingSub tsMs gap.openedTsMs))]
  snapshot := none

/-- **What opening a gap does**: it fails, finds the scope down already, or appends a row and
adds the gap. -/
theorem openGap_cases {scope : String} {tsMs : Int64} {note : Option String} {result : Result Gap}
    (run : openGap lib handle publish scope tsMs note store = (result, after)) :
    (after = store ∧ ∃ error, result = .error error) ∨
    (∃ row ∈ store.db.feedGaps, row.scope = scope ∧ row.closedTsMs = none ∧
      after.db = store.db ∧ ∀ gap, result = .ok gap → gap.gapId = row.gapId) ∨
    (∀ row ∈ store.db.feedGaps, row.scope = scope → row.closedTsMs ≠ none) ∧
      ∃ appended db, appendInTx lib store.db (openedEvent scope tsMs note) = .ok (appended, db) ∧
        after.db = { db with feedGaps := store.db.feedGaps ++
          [openedRow store.db.feedGaps scope tsMs note appended.seq] } ∧
        ∀ gap, result = .ok gap → gap.gapId = nextGapId store.db.feedGaps := by
  rcases transact_outcome run with ⟨rfl, error, _, failed⟩ | ⟨done, body, same, value⟩
  · exact .inl ⟨rfl, error, failed⟩
  · split at body
    · rename_i row found
      obtain ⟨_, _, body⟩ := bind_eq_ok body
      cases body
      have matched := List.find?_some found
      simp only [decide_eq_true_eq] at matched
      refine .inr (.inl ⟨row, List.mem_of_find?_eq_some found, matched.1, matched.2, same, ?_⟩)
      intro gap ok
      rw [value gap ok]
    · rename_i noneThere
      obtain ⟨⟨appended, db⟩, append, body⟩ := bind_eq_ok body
      cases body
      have gaps := appendInTx_gaps append
      refine .inr (.inr ⟨fun row member named isOpen => ?_, appended, db, append, ?_, ?_⟩)
      · exact List.find?_eq_none.mp noneThere row member (by simp [named, isOpen])
      · rw [same, ← gaps]
        rfl
      · intro gap ok
        rw [value gap ok, ← gaps]

/-- **What closing a gap does**: it fails, or appends a row and closes a gap that is open. -/
theorem closeGap_cases {gapId : Int} {tsMs : Int64} {result : Result Appended}
    (run : closeGap lib handle publish gapId tsMs store = (result, after)) :
    (after = store ∧ ∃ error, result = .error error) ∨
    ∃ gap ∈ store.db.feedGaps, gap.gapId = gapId ∧ gap.closedTsMs = none ∧
      ∃ appended db,
        appendInTx lib store.db (closedEvent gap gapId tsMs) = .ok (appended, db) ∧
        after.db = { db with
          feedGaps := store.db.feedGaps.map (closedRow gapId tsMs appended.seq) } := by
  rcases transact_outcome run with ⟨rfl, error, _, failed⟩ | ⟨done, body, same, _⟩
  · exact .inl ⟨rfl, error, failed⟩
  · split at body
    · cases body
    · rename_i gap found
      obtain ⟨_, isOpen, body⟩ := bind_eq_ok body
      obtain ⟨⟨appended, db⟩, append, body⟩ := bind_eq_ok body
      cases body
      have named := List.find?_some found
      simp only [decide_eq_true_eq] at named
      have unclosed : gap.closedTsMs = none := by
        simpa using refuseIf_ok isOpen
      refine .inr ⟨gap, List.mem_of_find?_eq_some found, named, unclosed, appended, db, append, ?_⟩
      rw [same, ← appendInTx_gaps append]
      rfl

/-- The row of a gap once it is marked. -/
def markedRow (gapId : Int) (tsMs : Int64) (row : GapRow) : GapRow :=
  if row.gapId = gapId then { row with reconciledTsMs := some tsMs } else row

/-- **What a mark does**: it is refused, or marks a gap that is closed. -/
theorem markGapReconciled_cases (gapId : Int) (tsMs : Int64) (store : Store) :
    (∃ error, markGapReconciled gapId tsMs store = (.error error, store)) ∨
      ∃ gap ∈ store.db.feedGaps, gap.gapId = gapId ∧ gap.closedTsMs ≠ none ∧
        markGapReconciled gapId tsMs store = (.ok (), { store with
          db := { store.db with feedGaps := store.db.feedGaps.map (markedRow gapId tsMs) } }) := by
  unfold markGapReconciled
  split
  · exact .inl ⟨_, rfl⟩
  · rename_i gap found
    split
    · exact .inl ⟨_, rfl⟩
    · rename_i closed
      have named := List.find?_some found
      simp only [decide_eq_true_eq] at named
      exact .inr ⟨gap, List.mem_of_find?_eq_some found, named, closed, rfl⟩

/-- Opening a gap adds one row, or none: it failed, or the scope is down already. -/
theorem openGap_gaps {scope : String} {tsMs : Int64} {note : Option String} {result : Result Gap}
    (run : openGap lib handle publish scope tsMs note store = (result, after)) :
    (after.db = store.db ∧ ((∃ error, result = .error error) ∨
      ∃ row ∈ store.db.feedGaps, row.scope = scope ∧ row.closedTsMs = none)) ∨
    ∃ openSeq, after.db.feedGaps =
      store.db.feedGaps ++ [openedRow store.db.feedGaps scope tsMs note openSeq] := by
  rcases openGap_cases run with
    ⟨rfl, failed⟩ | ⟨row, member, named, isOpen, same, _⟩ | ⟨_, appended, db, _, same, _⟩
  · exact .inl ⟨rfl, .inl failed⟩
  · exact .inl ⟨same, .inr ⟨row, member, named, isOpen⟩⟩
  · exact .inr ⟨appended.seq, by rw [same]⟩

/-- Closing a gap closes its rows, or fails and changes nothing. -/
theorem closeGap_gaps {gapId : Int} {tsMs : Int64} {result : Result Appended}
    (run : closeGap lib handle publish gapId tsMs store = (result, after)) :
    (after.db = store.db ∧ ∃ error, result = .error error) ∨
    ∃ closeSeq, after.db.feedGaps = store.db.feedGaps.map (closedRow gapId tsMs closeSeq) := by
  rcases closeGap_cases run with ⟨rfl, failed⟩ | ⟨_, _, _, _, appended, _, _, same⟩
  · exact .inl ⟨rfl, failed⟩
  · exact .inr ⟨appended.seq, by rw [same]⟩

end Specification

end Oppen.Ledger
